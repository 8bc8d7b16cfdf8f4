import TransientFuel.JsonValue
import TransientFuel.Report

/-!
# Advice on failures

A failure is explained to the user by what happened, what may have caused it and how to mend it. The
root cause decides, then the outermost stage. The exit code depends on the stage alone.
-/

namespace TransientFuel

/-- An explanation of a failure. -/
inductive Advice where
  /-- A window length is out of range. -/
  | length (refusal : LengthRefused)
  /-- A table cannot be built. -/
  | table (cause : Cause) (causes : String)
  /-- A table file has the wrong header. -/
  | headers (causes : String)
  /-- The configuration is at fault. -/
  | config (causes : String)
  /-- The trace is at fault. -/
  | trace (causes : String)
  /-- Anything else. -/
  | general (outermost causes : String)
deriving DecidableEq, Repr

/-- The wording of an explanation. -/
def Advice.message : Advice → String
  | .length refusal =>
    "What happened: " ++ refusal.message ++
      s!".\nHow to fix: Choose a history length between 1 and {Window.maxLength}."
  | .table cause causes =>
    "What happened: " ++ cause.message ++ s!" ({causes}).\n" ++
      "Likely causes: Table bins out of order or value grid size mismatch.\n" ++
      "How to fix: Fix the table definition and rerun."
  | .headers causes =>
    s!"What happened: Invalid headers in table CSV ({causes}).\n" ++
      "How to fix: Throttle tables use 'from,to,extra_ms', tapers use 'distance,mult'."
  | .config causes =>
    s!"What happened: Invalid configuration ({causes}).\n" ++
      "Likely causes: Missing or out-of-range values in the TOML or table files.\n" ++
      "How to fix: Edit the config file, then rerun. `enrich info` shows the effective values."
  | .trace causes =>
    s!"What happened: The trace could not be read ({causes}).\n" ++
      "Likely causes: Wrong path, headers other than 'tps,load,cycle_end', or a malformed row.\n" ++
      "How to fix: Check the CSV file and rerun."
  | .general outermost causes =>
    "Something went wrong." ++ (if causes.isEmpty then "" else " Cause: " ++ causes) ++
      s!"\nHow to fix: Re-run with --log-level=debug for details. Original: {outermost}"

/-- Whether a list occurs within another without gaps. -/
def occursIn {α : Type} [BEq α] (needle : List α) : List α → Bool
  | [] => needle.isEmpty
  | first :: rest => needle.isPrefixOf (first :: rest) || occursIn needle rest

namespace Report

/-- Whether the causes tell of a wrong header, in letters of either case. -/
def tellsOfHeaders (report : Report) : Bool :=
  occursIn "csv must have headers".toList (report.causes.toList.map Char.toLower)

/-- The outermost entry of the chain. -/
def outermost (report : Report) : String :=
  report.chain.headD ""

/-- The explanation of a failure whose cause is in words. -/
def stageAdvice (report : Report) : Advice :=
  match report.stage? with
  | some .config =>
    if report.tellsOfHeaders then .headers report.causes else .config report.causes
  | some .trace => .trace report.causes
  | none => .general report.outermost report.causes

/-- The explanation of a failure. -/
def advice (report : Report) : Advice :=
  match report.cause with
  | .length refusal => .length refusal
  | .table reason => .table (.table reason) report.causes
  | .config reason => .table (.config reason) report.causes
  | .plain _ => report.stageAdvice

/-- The exit code for a failure. -/
def exitCode (report : Report) : Nat :=
  match report.stage? with
  | some .config => 2
  | some .trace => 3
  | none => 1

/-- The kind of failure in one word. -/
def reason (report : Report) : String :=
  match report.stage? with
  | some .config => "Config"
  | some .trace => "Trace"
  | none => "Error"

/-- The failure as a JSON value. -/
def json (report : Report) : JsonValue :=
  .object [("message", .text report.advice.message), ("reason", .text report.reason)]

end Report
end TransientFuel
