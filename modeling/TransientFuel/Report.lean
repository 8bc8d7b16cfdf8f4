import TransientFuel.Axis
import TransientFuel.Window

/-!
# Reports of failures

A report is a root cause with the contexts in which it arose, the outermost first. A context is a
stage of the command or a line of text.
-/

namespace TransientFuel

/-- Which input of the command a failure belongs to. -/
inductive Stage where
  /-- The configuration: settings and tables. -/
  | config
  /-- The recorded trace. -/
  | trace
deriving DecidableEq, Repr

/-- The wording of a stage. -/
def Stage.message : Stage → String
  | .config => "invalid configuration"
  | .trace => "invalid trace"

/-- What went wrong in the first place. -/
inductive Cause where
  /-- A window length was refused. -/
  | length (refusal : LengthRefused)
  /-- A table could not be built. -/
  | table (reason : String)
  /-- A configuration could not be used. -/
  | config (reason : String)
  /-- Anything else, in words. -/
  | plain (text : String)
deriving DecidableEq, Repr

/-- The wording of a cause. -/
def Cause.message : Cause → String
  | .length refusal => refusal.message
  | .table reason => "invalid table: " ++ reason
  | .config reason => "invalid config: " ++ reason
  | .plain text => text

/-- The circumstances in which a failure arose. -/
inductive Context where
  /-- A stage of the command. -/
  | stage (reached : Stage)
  /-- A line of text. -/
  | text (line : String)
deriving DecidableEq, Repr

/-- The wording of a context. -/
def Context.message : Context → String
  | .stage reached => reached.message
  | .text line => line

/-- A failure with its contexts. -/
structure Report where
  /-- The contexts, outermost first. -/
  contexts : List Context
  /-- The root cause. -/
  cause : Cause
deriving DecidableEq, Repr

namespace Report

/-- A failure without context. -/
def ofCause (cause : Cause) : Report :=
  ⟨[], cause⟩

/-- A failure in words. -/
def ofText (text : String) : Report :=
  ofCause (.plain text)

/-- The failure in a further, outer context. -/
def within (report : Report) (context : Context) : Report :=
  { report with contexts := context :: report.contexts }

/-- The wordings from the outermost context to the root cause. -/
def chain (report : Report) : List String :=
  report.contexts.map Context.message ++ [report.cause.message]

/-- The whole chain on one line. -/
def message (report : Report) : String :=
  ": ".intercalate report.chain

/-- The chain below its outermost entry on one line. -/
def causes (report : Report) : String :=
  ": ".intercalate report.chain.tail

/-- The outermost stage among the contexts. -/
def stage? (report : Report) : Option Stage :=
  report.contexts.findSome? fun
    | .stage reached => some reached
    | .text _ => none

end Report

/-- A computation whose failures are put into a context. -/
def inContext {α : Type} (context : Context) : Except Report α → Except Report α
  | .ok value => .ok value
  | .error report => .error (report.within context)

/-- The report of a refused window length. -/
def LengthRefused.report (refusal : LengthRefused) : Report :=
  .ofCause (.length refusal)

/-- The report of a table fault. -/
def TableFault.report (fault : TableFault) : Report :=
  .ofCause (.table fault.message)

end TransientFuel
