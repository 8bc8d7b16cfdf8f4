import TransientFuel.Command.Listing
import TransientFuel.Command.LogFile
import TransientFuel.Command.LogFilter
import TransientFuel.Command.Override
import TransientFuel.DataFile
import TransientFuel.Report.Advice
import TransientFuel.Settings.Decode

/-!
# Runs of the command

A request is prepared first: settings, tables and trace are loaded and the engine is built. Only
then is anything written, so a request that fails leaves the output empty. The exit code tells which
input was at fault.
-/

namespace TransientFuel

/-- What a run depends on besides its request. -/
structure Surroundings where
  /-- The files before a log is set up. -/
  files : String → FileContent
  /-- The files after a log has been set up. -/
  filesWithLog : LogFile → String → FileContent
  /-- Whether the log filter is fixed, so that levels in request and settings are not looked at. -/
  filterFixed : Bool := false

namespace Surroundings

/-- The files of a tree. -/
def ofTree (tree : FileTree) (filterFixed : Bool) : Surroundings where
  files := tree.read
  filesWithLog := fun log => (tree.setUp log).read
  filterFixed := filterFixed

/-- The files once the log asked for has been set up. -/
def filesAfter (surroundings : Surroundings) : Option LogFile → String → FileContent
  | none => surroundings.files
  | some log => surroundings.filesWithLog log

end Surroundings

/-- What a run gives. -/
structure Outcome where
  /-- The exit code. -/
  exitCode : Nat
  /-- What is written to the output. -/
  output : String
  /-- What is written beside the output. -/
  errors : String
deriving DecidableEq, Repr

/-- Lines with their ends. -/
def joinLines (lines : List String) : String :=
  String.join (lines.map (· ++ "\n"))

/-- A computation whose faults become reports. -/
def reporting {ε α : Type} (report : ε → Report) (result : Except ε α) : Except Report α :=
  result.mapError report

/-- The text of a file of settings. -/
def readSettingsText (path : String) (file : FileContent) : Except Report String :=
  inContext (.text ("read config " ++ path)) <|
    match file with
    | .bytes content =>
      reporting (fun _ => .ofText "stream did not contain valid UTF-8") (Text.decode content)
    | .unopened reason | .unreadable reason => .error (.ofText reason)

namespace Settings

/-- The settings in a file. -/
def ofFile (path : String) (file : FileContent) : Except Report Settings := do
  let text ← readSettingsText path file
  inContext (.text ("parse " ++ path)) <|
    reporting (fun error => .ofText error.message) (Settings.parse text)

/-- The settings in a file, or the defaults if there is none, after they have been checked. -/
def ofFiles (files : String → FileContent) (path : Option String) : Except Report Settings := do
  let settings ← match path with
    | some path => Settings.ofFile path (files path)
    | none => .ok {}
  reporting (fun fault => .ofText fault.message) settings.check
  return settings

end Settings

/-- Which log records are kept if nothing is said. -/
def defaultLevel : String := "warn"

/-- Checks which log records are to be kept, unless that is fixed. -/
def checkFilter (filterFixed : Bool) (level : Option String) (logging : Logging) :
    Except Report Unit :=
  let filter := (level.or logging.level).getD defaultLevel
  if filterFixed then .ok ()
  else
    inContext (.text s!"invalid log level '{filter}'") <|
      reporting LogFilter.Fault.report (LogFilter.read filter)

/-- The log file asked for, if there is one. -/
def Logging.logFile (logging : Logging) : Except Report (Option LogFile) :=
  match logging.file with
  | none => .ok none
  | some path =>
    match LogFile.ofPath? path (LogFile.isRotated logging.rotation) with
    | some log => .ok (some log)
    | none => .error (.ofText "logging.file has no file name")

/-- Settings, and the tables that take the place of theirs. -/
structure Configuration where
  /-- The settings. -/
  settings : Settings
  /-- The throttle table given beside the settings. -/
  table : Option GridData
  /-- The taper given beside the settings. -/
  taper : Option CurveData

/-- Loads a table, if its path is given. -/
def loadTable {α : Type} (files : String → FileContent)
    (load : String → FileContent → Except DataFault α) : Option String → Except Report (Option α)
  | some path => reporting DataFault.report ((load path (files path)).map some)
  | none => .ok none

namespace Request

/-- Loads the settings of a request and finds out where its log is to be kept. -/
def begin (request : Request) (surroundings : Surroundings) :
    Except Report (Settings × Option LogFile) :=
  inContext (.stage .config) do
    let settings ← Settings.ofFiles surroundings.files request.config
    checkFilter surroundings.filterFixed request.level settings.logging
    return (settings, ← settings.logging.logFile)

/-- Loads the tables of a request. -/
def configuration (request : Request) (files : String → FileContent) (settings : Settings) :
    Except Report Configuration :=
  inContext (.stage .config) do
    let table ← loadTable files GridData.ofFile request.table
    let taper ← loadTable files CurveData.ofFile request.taper
    return { settings, table, taper }

end Request

/-- Builds the engine of a configuration. -/
def Configuration.engine (configuration : Configuration) : Except Report Engine :=
  inContext (.stage .config) <|
    configuration.settings.build configuration.table configuration.taper

/-- Loads a trace. -/
def loadTrace (files : String → FileContent) (path : String) : Except Report Trace :=
  inContext (.stage .trace) <| inContext (.text ("read trace " ++ path)) <|
    reporting DataFault.report (Trace.ofFile path (files path))

/-- A request that has been prepared. -/
inductive Job where
  /-- Shows settings. -/
  | info (shown : Info)
  /-- Replays a trace with an engine. -/
  | replay (engine : Engine) (trace : Trace) (refused : List LengthKept) (stats : Bool)

namespace Request

/-- Prepares a request. -/
def prepare (request : Request) (surroundings : Surroundings) : Except Report Job := do
  let (settings, log) ← request.begin surroundings
  let files := surroundings.filesAfter log
  let configuration ← request.configuration files settings
  match request.task with
  | .info =>
    let engine ← configuration.engine
    return .info (.ofEngine configuration.settings configuration.table engine)
  | .replay options =>
    let trace ← loadTrace files options.trace
    let engine ← configuration.engine
    let (overridden, refused) := engine.override options
    return .replay (overridden.watch configuration.settings.watch) trace refused options.stats

end Request

/-- What is told about the time that ticks took, given the line that tells it. -/
def statsLines (ticks : Nat) (latency : String) : List String :=
  ["", "--- Enrich Stats ---", s!"Ticks: {ticks}", latency, "--------------------", ""]

namespace Job

/-- The lines of the output. -/
def outputLines (json : Bool) : Job → List String
  | .info shown => if json then [shown.json.render] else shown.words
  | .replay engine trace _ _ =>
    let lines := engine.replay trace
    if json then lines.map (·.json.render) else lines.filterMap Line.words?

/-- The lines beside the output. -/
def errorLines (latency : String) : Job → List String
  | .info _ => []
  | .replay _ trace refused stats =>
    refused.map LengthKept.message ++ if stats then statsLines trace.length latency else []

/-- What doing a job gives. -/
def outcome (job : Job) (json : Bool) (latency : String) : Outcome where
  exitCode := 0
  output := joinLines (job.outputLines json)
  errors := joinLines (job.errorLines latency)

end Job

/-- What a failure gives. -/
def Report.outcome (report : Report) (json : Bool) : Outcome where
  exitCode := report.exitCode
  output := ""
  errors := joinLines [if json then report.json.render else report.advice.message]

/-- What a request gives, with the line about the time that ticks took. -/
def Request.run (request : Request) (surroundings : Surroundings) (latency : String) : Outcome :=
  match request.prepare surroundings with
  | .ok job => job.outcome request.json latency
  | .error report => report.outcome request.json

/-- The name and the version of the command. -/
def versionLine : String := "enrich 0.1.0"

end TransientFuel
