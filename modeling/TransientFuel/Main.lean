import TransientFuel.Command.Arguments
import TransientFuel.Command.Latency
import TransientFuel.Command.Run

/-!
# The command

Reads the files that a request names, measures ticks where times are asked for, and writes what the
run gives.
-/

namespace TransientFuel

/-- Why a file could not be opened or read. -/
def failureReason : IO.Error → String
  | .noFileOrDirectory _ code details | .permissionDenied _ code details
  | .inappropriateType _ code details | .invalidArgument _ code details
  | .resourceExhausted _ code details | .illegalOperation code details
  | .hardwareFault code details | .unsupportedOperation code details
  | .otherError code details => s!"{details} (os error {code})"
  | other => toString other

/-- The content of a file. -/
def readContent (path : String) : IO FileContent := do
  match ← (IO.FS.Handle.mk path .read).toBaseIO with
  | .error fault => return .unopened (failureReason fault)
  | .ok handle =>
    match ← handle.readBinToEnd.toBaseIO with
    | .error fault => return .unreadable (failureReason fault)
    | .ok content => return .bytes content.toList

/-- The paths of the tables and the trace that a request names. -/
def Request.dataPaths (request : Request) : List String :=
  let trace := match request.task with
    | .replay options => [options.trace]
    | .info => []
  request.table.toList ++ request.taper.toList ++ trace

/-- The files at some paths. -/
def readFiles (paths : List String) : IO (String → FileContent) := do
  let contents ← paths.mapM fun path => return (path, ← readContent path)
  return fun path => (contents.lookup path).getD (.ofFault .missing)

/-- Sets up a log. -/
def LogFile.setUp (log : LogFile) : IO Unit := do
  IO.FS.createDirAll log.directory
  if !log.rotated then
    let _ ← IO.FS.Handle.mk (log.directory ++ "/" ++ log.name) .append

/-- The files that a request names; a log is set up after the settings have been read. -/
def gather (request : Request) : IO Surroundings := do
  let files ← readFiles request.config.toList
  let early : Surroundings := { files, filesWithLog := fun _ => files }
  match request.begin early with
  | .ok (_, some log) => log.setUp
  | _ => pure ()
  let later ← readFiles (request.config.toList ++ request.dataPaths)
  return { files := fun path => if request.config = some path then files path else later path
           filesWithLog := fun _ => later }

/-- The times that the ticks of a trace take. -/
def measure (engine : Engine) (trace : Trace) : IO (List Nat) := do
  let mut current := engine
  let mut times := #[]
  for sample in trace do
    let before ← IO.monoNanosNow
    let tick ← IO.lazyPure fun _ => current.tick sample
    let after ← IO.monoNanosNow
    current := tick.engine
    times := times.push (after - before)
  return times.toList

/-- What a request gives, with the times that its ticks take if they are asked for. -/
def perform (request : Request) : IO Outcome := do
  match request.prepare (← gather request) with
  | .error report => return report.outcome request.json
  | .ok job =>
    let times ← match job with
      | .replay engine trace _ true => measure engine trace
      | _ => pure []
    return job.outcome request.json (Latency.line times)

/-- How the command is called. -/
def usage : String :=
  "usage: enrich [--config FILE] [--table FILE] [--taper FILE] [--json] [--log-level LEVEL] " ++
    "info | replay --trace FILE [OPTIONS]"

/-- Runs the command and gives its exit code. -/
def execute (arguments : List String) : IO UInt32 := do
  let outcome ← match Arguments.parse arguments with
    | .ok request => perform request
    | .error .version => pure ⟨0, joinLines [versionLine], ""⟩
    | .error (.fault fault) => pure ⟨2, "", joinLines ["error: " ++ fault.message, usage]⟩
  (← IO.getStdout).putStr outcome.output
  (← IO.getStderr).putStr outcome.errors
  return outcome.exitCode.toUInt32

end TransientFuel

/-- The command. -/
def main (arguments : List String) : IO UInt32 :=
  TransientFuel.execute arguments
