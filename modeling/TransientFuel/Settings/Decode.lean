import TransientFuel.Settings
import TransientFuel.Toml.Document

/-!
# Settings files

Settings are read from a TOML document. Unknown keys are passed over and missing ones take their
defaults, except in the throttle table, of which all three parts have to be there. A group of
settings may also be given as an array of its fields in order.
-/

namespace TransientFuel

open Toml (Value Fault)

namespace Toml

/-- A group of settings. -/
inductive Group where
  /-- Fields by name. -/
  | named (entries : List (String × Value))
  /-- Fields by position. -/
  | listed (items : List Value)

namespace Group

/-- The group that a value stands for; a moment stands for one without known fields. -/
def ofValue (name : String) : Value → Except Fault Group
  | .table entries => .ok (.named entries)
  | .array items => .ok (.listed items)
  | .moment _ => .ok (.named [])
  | _ => .error (.mismatch name "a table")

/-- The value of a field, by its position and its name. -/
def get? (group : Group) (position : Nat) (name : String) : Option Value :=
  match group with
  | .named entries => entries.lookup name
  | .listed items => items[position]?

/-- Reads a field, or takes its default. -/
def field {α : Type} (group : Group) (position : Nat) (name : String)
    (read : String → Value → Except Fault α) (otherwise : α) : Except Fault α :=
  match group.get? position name with
  | some value => read name value
  | none => .ok otherwise

/-- Reads a field that has to be there. -/
def required {α : Type} (group : Group) (position : Nat) (name : String)
    (read : String → Value → Except Fault α) : Except Fault α :=
  match group.get? position name with
  | some value => read name value
  | none => .error (.missing name)

end Group

/-- A single-precision number, by way of double precision unless it is whole. -/
def readSingle (name : String) : Value → Except Fault Float32
  | .float number => .ok number.toSingle
  | .integer number => .ok (Binary.Value.ofInt number).toSingle
  | _ => .error (.mismatch name "a number")

/-- A whole number within bounds. -/
def readInt (low high : Int) (name : String) : Value → Except Fault Int
  | .integer number =>
    if low ≤ number ∧ number ≤ high then .ok number
    else .error (.mismatch name "a number within range")
  | _ => .error (.mismatch name "a whole number")

/-- A count of at most the given size. -/
def readCount (high : Int) (name : String) (value : Value) : Except Fault Nat :=
  (readInt 0 high name value).map Int.toNat

/-- A text. -/
def readText (name : String) : Value → Except Fault (Option String)
  | .text content => .ok (some content)
  | _ => .error (.mismatch name "a string")

/-- A list. -/
def readList {α : Type} (read : String → Value → Except Fault α) (name : String) :
    Value → Except Fault (List α)
  | .array items => items.mapM (read name)
  | _ => .error (.mismatch name "an array")

/-- Whether a value is an empty table or an empty array. -/
def isVoid : Value → Bool
  | .table [] => true
  | .array [] => true
  | _ => false

/-- The name of a choice: a text, or the only key of a table whose value is empty. -/
def readChoice (name : String) : Value → Except Fault String
  | .text choice => .ok choice
  | .table [(choice, value)] =>
    if isVoid value then .ok choice else .error (.mismatch name "an empty table")
  | _ => .error (.mismatch name "a choice")

end Toml

open Toml

/-- The channel to observe. -/
def Watch.read (name : String) (value : Value) : Except Fault Watch := do
  match ← readChoice name value with
  | "off" => return .off
  | "tps_accel" => return .throttle
  | "load_accel" => return .load
  | _ => .error (.mismatch name "off, tps_accel or load_accel")

/-- The smoothing of the throttle channel. -/
def Smoothing.read (otherwise : Smoothing) (name : String) (value : Value) :
    Except Fault Smoothing := do
  let group ← Group.ofValue name value
  return {
    period := ← group.field 0 "period" (readInt (-0x80000000) 0x7fffffff) otherwise.period
    divisor := ← group.field 1 "divisor" readSingle otherwise.divisor }

/-- The throttle table. -/
def GridData.read (name : String) (value : Value) : Except Fault GridData := do
  let group ← Group.ofValue name value
  return {
    before := ← group.required 0 "from_bins" (readList readSingle)
    after := ← group.required 1 "to_bins" (readList readSingle)
    values := ← group.required 2 "values" (readList (readList readSingle)) }

namespace Settings

/-- The largest count of 32 bits. -/
def countLimit : Int := 0xffffffff

/-- The largest length that a document can name. -/
def lengthLimit : Int := 0x7fffffffffffffff

/-- The settings with those of the engine's section. -/
def readEngine (settings : Settings) (name : String) (value : Value) : Except Fault Settings := do
  let group ← Group.ofValue name value
  let load := settings.load
  return { settings with load := { load with
    cylinders := ← group.field 0 "cylinders" (readCount countLimit) load.cylinders } }

/-- The settings with those of the throttle channel's section. -/
def readThrottle (settings : Settings) (name : String) (value : Value) :
    Except Fault Settings := do
  let group ← Group.ofValue name value
  let base := settings.throttle
  let throttle : ThrottleSettings := {
    riseThreshold := ← group.field 0 "accel_threshold" readSingle base.riseThreshold
    dropThreshold := ← group.field 1 "decel_threshold" readSingle base.dropThreshold
    dropMultiplier := ← group.field 2 "decel_multiplier" readSingle base.dropMultiplier
    windowLength := ← group.field 3 "history_len" (readCount lengthLimit) base.windowLength
    smoothing := ← group.field 4 "fraction" (Smoothing.read base.smoothing) base.smoothing }
  let readTable (name : String) (value : Value) := (GridData.read name value).map some
  return { settings with throttle, table := ← group.field 5 "table" readTable settings.table }

/-- The settings with those of the load channel's section. -/
def readLoad (settings : Settings) (name : String) (value : Value) : Except Fault Settings := do
  let group ← Group.ofValue name value
  let base := settings.load
  let load : LoadSettings := {
    riseThreshold := ← group.field 0 "accel_threshold" readSingle base.riseThreshold
    dropThreshold := ← group.field 1 "decel_threshold" readSingle base.dropThreshold
    riseMultiplier := ← group.field 2 "accel_multiplier" readSingle base.riseMultiplier
    dropMultiplier := ← group.field 3 "decel_multiplier" readSingle base.dropMultiplier
    windowLength := ← group.field 4 "history_len" (readCount lengthLimit) base.windowLength
    cylinders := base.cylinders }
  let taper : CurveData := {
    bins := ← group.field 5 "taper_bins" (readList readSingle) settings.taper.bins
    multipliers := ←
      group.field 6 "taper_mult" (readList readSingle) settings.taper.multipliers }
  return { settings with load, taper }

/-- The settings with those of the observation's section. -/
def readDebug (settings : Settings) (name : String) (value : Value) : Except Fault Settings := do
  let group ← Group.ofValue name value
  return { settings with watch := ← group.field 0 "mode" Watch.read settings.watch }

/-- The settings with those of the log's section. -/
def readLogging (settings : Settings) (name : String) (value : Value) :
    Except Fault Settings := do
  let group ← Group.ofValue name value
  let logging : Logging := {
    file := ← group.field 0 "file" readText settings.logging.file
    level := ← group.field 1 "level" readText settings.logging.level
    rotation := ← group.field 2 "rotation" readText settings.logging.rotation }
  return { settings with logging }

/-- The settings of a document. -/
def ofDocument (document : Value) : Except Fault Settings := do
  let group ← Group.ofValue "settings" document
  let settings : Settings := {}
  let settings ← group.field 0 "engine" settings.readEngine settings
  let settings ← group.field 1 "throttle" settings.readThrottle settings
  let settings ← group.field 2 "load" settings.readLoad settings
  let settings ← group.field 3 "debug" settings.readDebug settings
  group.field 4 "logging" settings.readLogging settings

/-- The settings in a text. -/
def parse (text : String) : Except Toml.Error Settings := do
  let document ← Toml.parse text
  match ofDocument document with
  | .ok settings => return settings
  | .error fault => .error ⟨none, fault⟩

end Settings
end TransientFuel
