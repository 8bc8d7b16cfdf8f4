import TransientFuel.Command.Request
import TransientFuel.Decimal.Literal

/-!
# Arguments of the command

Arguments are read from left to right: options of the command, the name of the task, options of the
task. An option that takes a value finds it behind an equals sign or in the next argument. Nothing
may be given twice. Reading ends with the first fault, or where the version is asked for.
-/

namespace TransientFuel.Arguments

/-- What is wrong with the arguments. -/
inductive Fault where
  /-- An argument has no meaning where it stands. -/
  | unexpected (argument : String)
  /-- An option is given twice. -/
  | repeated (name : String)
  /-- An option lacks its value. -/
  | noValue (name : String)
  /-- An option that takes no value has one. -/
  | surplusValue (name : String)
  /-- A value does not fit its option. -/
  | badValue (name value : String)
  /-- No task is named. -/
  | noTask
  /-- A replay lacks its trace. -/
  | noTrace
deriving DecidableEq, Repr

/-- The wording of a fault. -/
def Fault.message : Fault → String
  | .unexpected argument => s!"unexpected argument '{argument}'"
  | .repeated name => s!"option '--{name}' is given more than once"
  | .noValue name => s!"option '--{name}' needs a value"
  | .surplusValue name => s!"option '--{name}' takes no value"
  | .badValue name value => s!"option '--{name}' cannot be '{value}'"
  | .noTask => "a task is needed: info or replay"
  | .noTrace => "a replay needs '--trace'"

/-- Why reading ended early. -/
inductive Halt where
  /-- The version is asked for. -/
  | version
  /-- Something is wrong. -/
  | fault (fault : Fault)
deriving DecidableEq, Repr

/-- An option that sets part of a state. -/
inductive Setter (State : Type) where
  /-- The option is a switch. -/
  | flag (set : State → State)
  /-- The option takes a value, which may not begin with a hyphen if it stands by itself. -/
  | value (set : String → State → Option State)
  /-- The option takes a value, which may be negative. -/
  | signed (set : String → State → Option State)

/-- The options that can be set, by name. -/
abbrev Options (State : Type) := List (String × Setter State)

/-- What an argument looks like. -/
inductive Shape where
  /-- A word, or a hyphen by itself. -/
  | word
  /-- The end of all options. -/
  | stop
  /-- Letters behind one hyphen. -/
  | short (first : Char)
  /-- A name behind two hyphens, perhaps with a value. -/
  | long (name : String) (value : Option String)
deriving DecidableEq, Repr

/-- The name and the value of an option, at the first equals sign. -/
def splitValue (text : List Char) : String × Option String :=
  match text.dropWhile (· != '=') with
  | [] => (String.ofList text, none)
  | _ :: value => (String.ofList (text.takeWhile (· != '=')), some (String.ofList value))

/-- The shape of an argument. -/
def shape (argument : String) : Shape :=
  match argument.toList with
  | ['-', '-'] => .stop
  | '-' :: '-' :: rest => .long (splitValue rest).1 (splitValue rest).2
  | '-' :: first :: _ => .short first
  | _ => .word

/-- Whether an argument can be the value of the option before it. -/
def standsAlone (argument : String) : Bool :=
  shape argument = .word

/-- Sets an option to a value. -/
def assign {State : Type} (name : String) (set : String → State → Option State) (value : String)
    (state : State) : Except Halt State :=
  match set value state with
  | some next => .ok next
  | none => .error (.fault (.badValue name value))

/--
Reads options up to the first word, which is left with all behind it. The version can be asked for
only if it is `versioned`. Options already seen may not come again.
-/
def readOptions {State : Type} (options : Options State) (versioned : Bool) :
    List String → State → List String → Except Halt (State × List String)
  | _, state, [] => .ok (state, [])
  | seen, state, argument :: rest =>
    match shape argument with
    | .word => .ok (state, argument :: rest)
    | .stop =>
      match rest with
      | [] => .ok (state, [])
      | next :: _ => .error (.fault (.unexpected next))
    | .short first =>
      if versioned && first == 'V' then .error .version
      else .error (.fault (.unexpected argument))
    | .long name attached =>
      if versioned && argument == "--version" then .error .version
      else
        match options.lookup name with
        | none => .error (.fault (.unexpected argument))
        | some setter =>
          if seen.contains name then .error (.fault (.repeated name))
          else
            match setter, attached, rest with
            | .flag set, none, rest =>
              readOptions options versioned (name :: seen) (set state) rest
            | .flag _, some _, _ => .error (.fault (.surplusValue name))
            | .value set, some value, rest | .signed set, some value, rest => do
              readOptions options versioned (name :: seen) (← assign name set value state) rest
            | .value _, none, [] | .signed _, none, [] => .error (.fault (.noValue name))
            | .value set, none, value :: rest => do
              if standsAlone value then
                readOptions options versioned (name :: seen) (← assign name set value state) rest
              else .error (.fault (.noValue name))
            | .signed set, none, value :: rest => do
              readOptions options versioned (name :: seen) (← assign name set value state) rest

/-- The least whole number that an option can have. -/
def leastInteger : Int := -0x8000000000000000

/-- The greatest whole number that an option can have. -/
def greatestInteger : Int := 0x7fffffffffffffff

/-- The whole number that a text stands for: digits, perhaps behind a sign. -/
def integer? (text : String) : Option Int :=
  let (negative, digits) := Decimal.splitSign text.toList
  if digits.isEmpty || !digits.all Char.isDigit then none
  else
    let size : Int := Decimal.ofDigits digits
    let value := if negative then -size else size
    if leastInteger ≤ value ∧ value ≤ greatestInteger then some value else none

/-- A path; an empty one is none. -/
def path? (text : String) : Option String :=
  if text.isEmpty then none else some text

/-- The number that a text stands for. -/
def number? (text : String) : Option Float32 :=
  (Decimal.read text).toOption

/-- What is known of a request before its task is named. -/
structure Preamble where
  /-- The path of the settings. -/
  config : Option String := none
  /-- The path of a throttle table. -/
  table : Option String := none
  /-- The path of a taper. -/
  taper : Option String := none
  /-- Whether output is JSON. -/
  json : Bool := false
  /-- Which log records are kept. -/
  level : Option String := none

/-- The options before the task. -/
def commandOptions : Options Preamble :=
  [("config", .value fun text state =>
      (path? text).map fun path => { state with config := some path }),
    ("table", .value fun text state =>
      (path? text).map fun path => { state with table := some path }),
    ("taper", .value fun text state =>
      (path? text).map fun path => { state with taper := some path }),
    ("json", .flag fun state => { state with json := true }),
    ("log-level", .value fun text state => some { state with level := some text })]

/-- What is known of a replay before its trace is. -/
structure ReplayDraft where
  /-- The path of the trace. -/
  trace : Option String := none
  /-- What the throttle channel is given. -/
  throttle : ThrottleOverrides := {}
  /-- What the load channel is given. -/
  load : LoadOverrides := {}
  /-- Whether the time that ticks take is shown. -/
  stats : Bool := false

/-- An option with a number for the throttle channel. -/
def throttleNumber (set : Float32 → ThrottleOverrides → ThrottleOverrides) : Setter ReplayDraft :=
  .value fun text draft =>
    (number? text).map fun number => { draft with throttle := set number draft.throttle }

/-- An option with a number for the load channel. -/
def loadNumber (set : Float32 → LoadOverrides → LoadOverrides) : Setter ReplayDraft :=
  .value fun text draft =>
    (number? text).map fun number => { draft with load := set number draft.load }

/-- The options of a replay. -/
def replayOptions : Options ReplayDraft :=
  [("trace", .value fun text draft =>
      (path? text).map fun path => { draft with trace := some path }),
    ("tps-accel-len", .signed fun text draft =>
      (integer? text).map fun length =>
        { draft with throttle := { draft.throttle with windowLength := some length } }),
    ("load-accel-len", .signed fun text draft =>
      (integer? text).map fun length =>
        { draft with load := { draft.load with windowLength := some length } }),
    ("tps-accel-thr", throttleNumber fun number overrides =>
      { overrides with riseThreshold := some number }),
    ("tps-decel-thr", throttleNumber fun number overrides =>
      { overrides with dropThreshold := some number }),
    ("tps-decel-mult", throttleNumber fun number overrides =>
      { overrides with dropMultiplier := some number }),
    ("load-accel-thr", loadNumber fun number overrides =>
      { overrides with riseThreshold := some number }),
    ("load-accel-mult", loadNumber fun number overrides =>
      { overrides with riseMultiplier := some number }),
    ("load-decel-thr", loadNumber fun number overrides =>
      { overrides with dropThreshold := some number }),
    ("load-decel-mult", loadNumber fun number overrides =>
      { overrides with dropMultiplier := some number }),
    ("stats", .flag fun draft => { draft with stats := true })]

/-- Reads the options of a task, behind which nothing may stand. -/
def readTask {State : Type} (options : Options State) (start : State) (arguments : List String) :
    Except Halt State := do
  match ← readOptions options false [] start arguments with
  | (state, []) => .ok state
  | (_, argument :: _) => .error (.fault (.unexpected argument))

/-- Reads the arguments of a replay. -/
def readReplay (arguments : List String) : Except Halt ReplayOptions := do
  let draft ← readTask replayOptions {} arguments
  match draft.trace with
  | some trace =>
    .ok { trace, throttle := draft.throttle, load := draft.load, stats := draft.stats }
  | none => .error (.fault .noTrace)

/-- Reads the name of a task and its arguments. -/
def task : List String → Except Halt Task
  | [] => .error (.fault .noTask)
  | "info" :: rest => (readTask [] () rest).map fun _ => .info
  | "replay" :: rest => (readReplay rest).map .replay
  | other :: _ => .error (.fault (.unexpected other))

/-- Reads all arguments. -/
def parse (arguments : List String) : Except Halt Request := do
  let (preamble, rest) ← readOptions commandOptions true [] {} arguments
  let task ← task rest
  return {
    config := preamble.config
    table := preamble.table
    taper := preamble.taper
    json := preamble.json
    level := preamble.level
    task }

end TransientFuel.Arguments
