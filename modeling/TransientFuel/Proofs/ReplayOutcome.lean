import TransientFuel.Command.Run
import TransientFuel.Proofs.CheckedSettings

/-!
# Outcomes of a replay

A replay needs settings, tables and a trace. Whatever else is wrong, the first of these that cannot
be loaded decides the exit code, and nothing is written. If all of them can be loaded the engine can
be built, since what has been loaded has been checked, and the whole listing is written:
`Request.run_replay_outcome`.
-/

namespace TransientFuel

/-- The files once the log of some settings has been set up. -/
def Surroundings.filesUnder (surroundings : Surroundings) (settings : Settings) :
    String → FileContent :=
  match settings.logging.logFile with
  | .ok log => surroundings.filesAfter log
  | .error _ => surroundings.files

/-- That the file at a path, if one is given, can be loaded. -/
def Loaded {α : Type} (files : String → FileContent)
    (load : String → FileContent → Except DataFault α) : Option String → Option α → Prop
  | none, loaded => loaded = none
  | some path, loaded => ∃ data, load path (files path) = .ok data ∧ loaded = some data

/-- That the trace to be replayed can be loaded once the log of some settings has been set up. -/
def ReplayOptions.HasTrace (options : ReplayOptions) (surroundings : Surroundings)
    (settings : Settings) (trace : Trace) : Prop :=
  Trace.ofFile options.trace (surroundings.filesUnder settings options.trace) = .ok trace

namespace Request

/-- That settings are those of a request, and pass their check. -/
def HasSettings (request : Request) (files : String → FileContent) (settings : Settings) : Prop :=
  (match request.config with
    | none => settings = {}
    | some path => Settings.ofFile path (files path) = .ok settings) ∧
    settings.check = .ok ()

/-- That the log that is asked for can be set up. -/
structure CanLog (request : Request) (surroundings : Surroundings) (settings : Settings) :
    Prop where
  level : checkFilter surroundings.filterFixed request.level settings.logging = .ok ()
  file : ∃ log, settings.logging.logFile = .ok log

/-- That the settings and the tables of a request can be loaded. -/
structure Configures (request : Request) (surroundings : Surroundings)
    (configuration : Configuration) : Prop where
  settings : request.HasSettings surroundings.files configuration.settings
  table : Loaded (surroundings.filesUnder configuration.settings) GridData.ofFile request.table
    configuration.table
  taper : Loaded (surroundings.filesUnder configuration.settings) CurveData.ofFile request.taper
    configuration.taper

end Request

section Reports

variable {α Fault : Type}

theorem reporting_eq_ok_iff {report : Fault → Report} {result : Except Fault α} {value : α} :
    reporting report result = .ok value ↔ result = .ok value :=
  mapError_eq_ok_iff

/-- The outermost stage is the one in which a failure arose. -/
theorem stage_of_inContext {stage : Stage} {result : Except Report α} {report : Report}
    (failed : inContext (.stage stage) result = .error report) : report.stage? = some stage := by
  cases result with
  | error inner =>
      rw [← Except.error.inj failed]
      rfl
  | ok value => contradiction

end Reports

section Loading

theorem Settings.ofFiles_eq_ok_iff {files : String → FileContent} {request : Request}
    {settings : Settings} :
    ofFiles files request.config = .ok settings ↔ request.HasSettings files settings := by
  rw [Request.HasSettings]
  cases request.config with
  | none =>
      simp only [ofFiles, bind_eq_ok, reporting_eq_ok_iff, pure, Except.pure, Except.ok.injEq]
      constructor
      · rintro ⟨_, rfl, _, valid, rfl⟩
        exact ⟨rfl, valid⟩
      · rintro ⟨rfl, valid⟩
        exact ⟨_, rfl, (), valid, rfl⟩
  | some path =>
      simp only [ofFiles, bind_eq_ok, reporting_eq_ok_iff, pure, Except.pure, Except.ok.injEq]
      constructor
      · rintro ⟨_, loaded, _, valid, rfl⟩
        exact ⟨loaded, valid⟩
      · rintro ⟨loaded, valid⟩
        exact ⟨settings, loaded, (), valid, rfl⟩

theorem loadTable_eq_ok_iff {α : Type} {files : String → FileContent}
    {load : String → FileContent → Except DataFault α} {path : Option String}
    {loaded : Option α} :
    loadTable files load path = .ok loaded ↔ Loaded files load path loaded := by
  cases path with
  | none => simp [loadTable, Loaded, eq_comm]
  | some path =>
      simp only [loadTable, reporting_eq_ok_iff, map_eq_ok_iff, Loaded, @eq_comm _ loaded]

theorem loadTrace_eq_ok_iff {files : String → FileContent} {path : String} {trace : Trace} :
    loadTrace files path = .ok trace ↔ Trace.ofFile path (files path) = .ok trace := by
  simp only [loadTrace, inContext_eq_ok_iff, reporting_eq_ok_iff]

theorem GridData.check_of_ofFile {path : String} {file : FileContent} {data : GridData}
    (loaded : ofFile path file = .ok data) : data.check = .ok () := by
  simp only [ofFile, ofSheet, bind_eq_ok, mapError_eq_ok_iff, pure, Except.pure,
    Except.ok.injEq] at loaded
  obtain ⟨_, _, _, _, _, _, _, passes, rfl⟩ := loaded
  exact passes

theorem CurveData.check_of_ofFile {path : String} {file : FileContent} {data : CurveData}
    (loaded : ofFile path file = .ok data) : data.check = .ok () := by
  simp only [ofFile, ofSheet, bind_eq_ok, mapError_eq_ok_iff, pure, Except.pure,
    Except.ok.injEq] at loaded
  obtain ⟨_, _, _, _, _, passes, rfl⟩ := loaded
  exact passes

theorem Loaded.forall_mem {α : Type} {files : String → FileContent}
    {load : String → FileContent → Except DataFault α} {path : Option String}
    {loaded : Option α} (given : Loaded files load path loaded) {Good : α → Prop}
    (good : ∀ path file data, load path file = .ok data → Good data) :
    ∀ data ∈ loaded, Good data := by
  cases path with
  | none =>
      have empty : loaded = none := given
      simp [empty]
  | some path =>
      obtain ⟨data, success, rfl⟩ := given
      simpa using good _ _ _ success

end Loading

namespace Request

variable {request : Request} {surroundings : Surroundings} {settings : Settings}
  {configuration : Configuration}

theorem begin_eq_ok_iff {log : Option LogFile} :
    request.begin surroundings = .ok (settings, log) ↔
      request.HasSettings surroundings.files settings ∧
        checkFilter surroundings.filterFixed request.level settings.logging = .ok () ∧
        settings.logging.logFile = .ok log := by
  simp only [begin, inContext_eq_ok_iff, bind_eq_ok, Settings.ofFiles_eq_ok_iff, pure, Except.pure,
    Except.ok.injEq, Prod.mk.injEq]
  constructor
  · rintro ⟨_, loaded, _, level, _, file, rfl, rfl⟩
    exact ⟨loaded, level, file⟩
  · rintro ⟨loaded, level, file⟩
    exact ⟨settings, loaded, (), level, log, file, rfl, rfl⟩

theorem configuration_eq_ok_iff {files : String → FileContent} :
    request.configuration files settings = .ok configuration ↔
      configuration.settings = settings ∧
        Loaded files GridData.ofFile request.table configuration.table ∧
        Loaded files CurveData.ofFile request.taper configuration.taper := by
  simp only [Request.configuration, inContext_eq_ok_iff, bind_eq_ok, loadTable_eq_ok_iff, pure,
    Except.pure, Except.ok.injEq]
  constructor
  · rintro ⟨_, table, _, taper, rfl⟩
    exact ⟨rfl, table, taper⟩
  · rintro ⟨rfl, table, taper⟩
    exact ⟨_, table, _, taper, rfl⟩

/-- All that has been loaded has been checked, so building the engine succeeds. -/
theorem Configures.exists_engine (configures : request.Configures surroundings configuration) :
    ∃ engine, configuration.engine = .ok engine := by
  obtain ⟨engine, built⟩ := Settings.exists_build configures.settings.2
    (configures.table.forall_mem fun _ _ _ => GridData.check_of_ofFile)
    (configures.taper.forall_mem fun _ _ _ => CurveData.check_of_ofFile)
  exact ⟨engine, inContext_eq_ok_iff.mpr built⟩

section Preparing

variable (logged : ∀ settings, request.HasSettings surroundings.files settings →
  request.CanLog surroundings settings)

include logged

/-- The settings and the tables are loaded if and only if that is possible. -/
theorem configures_iff :
    request.Configures surroundings configuration ↔
      ∃ log, request.begin surroundings = .ok (configuration.settings, log) ∧
        request.configuration (surroundings.filesAfter log) configuration.settings =
          .ok configuration := by
  simp only [begin_eq_ok_iff, configuration_eq_ok_iff, true_and]
  constructor
  · intro configures
    obtain ⟨level, log, file⟩ := logged _ configures.settings
    have table := configures.table
    have taper := configures.taper
    simp only [Surroundings.filesUnder, file] at table taper
    exact ⟨log, ⟨configures.settings, level, file⟩, table, taper⟩
  · rintro ⟨log, ⟨loaded, _, file⟩, table, taper⟩
    refine ⟨loaded, ?_, ?_⟩
    · simpa only [Surroundings.filesUnder, file] using table
    · simpa only [Surroundings.filesUnder, file] using taper

theorem prepare_unconfigured
    (unconfigured : ¬∃ configuration, request.Configures surroundings configuration) :
    ∃ report, request.prepare surroundings = .error report ∧ report.stage? = some .config := by
  rw [prepare]
  cases begun : request.begin surroundings with
  | error report => exact ⟨report, rfl, stage_of_inContext begun⟩
  | ok started =>
      rcases started with ⟨settings, log⟩
      cases loaded : request.configuration (surroundings.filesAfter log) settings with
      | error report =>
          simp only [bind, Except.bind, loaded]
          exact ⟨report, rfl, stage_of_inContext loaded⟩
      | ok configuration =>
          obtain ⟨rfl, _⟩ := configuration_eq_ok_iff.mp loaded
          exact absurd ⟨configuration, (configures_iff logged).mpr ⟨log, begun, loaded⟩⟩
            unconfigured

/-- After the settings and the tables only the trace can be at fault. -/
theorem prepare_configured {options : ReplayOptions} (replays : request.task = .replay options)
    (configures : request.Configures surroundings configuration) {engine : Engine}
    (built : configuration.engine = .ok engine) :
    request.prepare surroundings =
      (loadTrace (surroundings.filesUnder configuration.settings) options.trace).map fun trace =>
        .replay ((engine.override options).1.watch configuration.settings.watch) trace
          (engine.override options).2 options.stats := by
  obtain ⟨log, begun, loaded⟩ := (configures_iff logged).mp configures
  have file := (begin_eq_ok_iff.mp begun).2.2
  simp only [prepare, begun, bind, Except.bind, loaded, replays, built, Surroundings.filesUnder,
    file]
  cases loadTrace (surroundings.filesAfter log) options.trace <;> rfl

end Preparing

end Request

theorem joinLines_eq_empty_iff {lines : List String} : joinLines lines = "" ↔ lines = [] := by
  cases lines with
  | nil => exact iff_of_true rfl rfl
  | cons line rest =>
      simp [joinLines, String.join_cons, String.append_eq_empty_iff]

/-- The exit codes of three cases differ, so the code of an outcome tells which case it is. -/
theorem Outcome.tells_case (outcome : Outcome) {Unconfigured Untraced Traced : Prop}
    (exhaustive : Unconfigured ∨ Untraced ∨ Traced)
    (unconfigured : Unconfigured → outcome.exitCode = 2 ∧ outcome.output = "")
    (untraced : Untraced → outcome.exitCode = 3 ∧ outcome.output = "")
    (traced : Traced → outcome.exitCode = 0 ∧ outcome.output ≠ "") :
    (outcome.exitCode = 2 ↔ Unconfigured) ∧ (outcome.exitCode = 3 ↔ Untraced) ∧
      (outcome.exitCode = 0 ↔ Traced) ∧ outcome.exitCode ≠ 1 ∧
      (outcome.output = "" ↔ outcome.exitCode ≠ 0) := by
  grind

/-- The summary stands at the end of every listing. -/
theorem Job.output_replay_ne_empty (engine : Engine) (trace : Trace) (refused : List LengthKept)
    (stats json : Bool) (latency : String) :
    ((Job.replay engine trace refused stats).outcome json latency).output ≠ "" := by
  simp only [Job.outcome, Job.outputLines, Engine.replay, ne_eq, joinLines_eq_empty_iff]
  split
  · simp
  · simp [Line.words?]

namespace Request

variable {request : Request} {options : ReplayOptions} {surroundings : Surroundings}
  {configuration : Configuration}

theorem configured_cases (request : Request) (options : ReplayOptions)
    (surroundings : Surroundings) :
    (¬∃ configuration, request.Configures surroundings configuration) ∨
      (∃ configuration, request.Configures surroundings configuration ∧
        ¬∃ trace, options.HasTrace surroundings configuration.settings trace) ∨
      ∃ configuration, request.Configures surroundings configuration ∧
        ∃ trace, options.HasTrace surroundings configuration.settings trace := by
  by_cases configured : ∃ configuration, request.Configures surroundings configuration
  · obtain ⟨configuration, configures⟩ := configured
    by_cases traced : ∃ trace, options.HasTrace surroundings configuration.settings trace
    · exact .inr (.inr ⟨configuration, configures, traced⟩)
    · exact .inr (.inl ⟨configuration, configures, traced⟩)
  · exact .inl configured

section Outcomes

variable (logged : ∀ settings, request.HasSettings surroundings.files settings →
  request.CanLog surroundings settings)
  (replays : request.task = .replay options) (latency : String)

include logged

theorem run_unconfigured
    (unconfigured : ¬∃ configuration, request.Configures surroundings configuration) :
    (request.run surroundings latency).exitCode = 2 ∧
      (request.run surroundings latency).output = "" := by
  obtain ⟨report, failed, stage⟩ := prepare_unconfigured logged unconfigured
  simp only [run, failed, Report.outcome, Report.exitCode, stage, and_self]

include replays

theorem run_untraced (configures : request.Configures surroundings configuration)
    (untraced : ¬∃ trace, options.HasTrace surroundings configuration.settings trace) :
    (request.run surroundings latency).exitCode = 3 ∧
      (request.run surroundings latency).output = "" := by
  obtain ⟨engine, built⟩ := configures.exists_engine
  have prepared := prepare_configured logged replays configures built
  cases loaded : loadTrace (surroundings.filesUnder configuration.settings) options.trace with
  | ok trace => exact absurd ⟨trace, loadTrace_eq_ok_iff.mp loaded⟩ untraced
  | error report =>
      rw [loaded, Except.map] at prepared
      simp only [run, prepared, Report.outcome, Report.exitCode, stage_of_inContext loaded,
        and_self]

theorem run_traced (configures : request.Configures surroundings configuration)
    {engine : Engine} (built : configuration.engine = .ok engine) {trace : Trace}
    (traced : options.HasTrace surroundings configuration.settings trace) :
    request.run surroundings latency =
      (Job.replay ((engine.override options).1.watch configuration.settings.watch) trace
        (engine.override options).2 options.stats).outcome request.json latency := by
  have prepared := prepare_configured logged replays configures built
  rw [loadTrace_eq_ok_iff.mpr traced, Except.map] at prepared
  simp only [run, prepared]

/--
Let a replay be asked for whose log can be set up. Its exit code is 2 if and only if the settings or
one of the tables cannot be loaded or do not pass their checks. Otherwise it is 3 if and only if the
trace cannot be loaded, and 0 if it can, whatever is overridden. The exit code is never 1, the
output is empty unless the exit code is 0, the engine can always be built, and what is written is
then the listing of the whole replay.
-/
theorem run_replay_outcome :
    let outcome := request.run surroundings latency
    (outcome.exitCode = 2 ↔ ¬∃ configuration, request.Configures surroundings configuration) ∧
      (outcome.exitCode = 3 ↔ ∃ configuration, request.Configures surroundings configuration ∧
        ¬∃ trace, options.HasTrace surroundings configuration.settings trace) ∧
      (outcome.exitCode = 0 ↔ ∃ configuration, request.Configures surroundings configuration ∧
        ∃ trace, options.HasTrace surroundings configuration.settings trace) ∧
      outcome.exitCode ≠ 1 ∧
      (outcome.output = "" ↔ outcome.exitCode ≠ 0) ∧
      ∀ configuration, request.Configures surroundings configuration →
        ∃ engine, configuration.engine = .ok engine ∧
          ∀ trace, options.HasTrace surroundings configuration.settings trace →
            outcome =
              (Job.replay ((engine.override options).1.watch configuration.settings.watch) trace
                (engine.override options).2 options.stats).outcome request.json latency := by
  intro outcome
  have unconfigured := run_unconfigured logged latency
  have untraced : (∃ configuration, request.Configures surroundings configuration ∧
      ¬∃ trace, options.HasTrace surroundings configuration.settings trace) →
      outcome.exitCode = 3 ∧ outcome.output = "" := by
    rintro ⟨configuration, configures, missing⟩
    exact run_untraced logged replays latency configures missing
  have traced : (∃ configuration, request.Configures surroundings configuration ∧
      ∃ trace, options.HasTrace surroundings configuration.settings trace) →
      outcome.exitCode = 0 ∧ outcome.output ≠ "" := by
    rintro ⟨configuration, configures, trace, found⟩
    obtain ⟨engine, built⟩ := configures.exists_engine
    have whole : outcome = _ := run_traced logged replays latency configures built found
    rw [whole]
    exact ⟨rfl, Job.output_replay_ne_empty _ _ _ _ _ _⟩
  obtain ⟨two, three, zero, notOne, written⟩ :=
    outcome.tells_case (request.configured_cases options surroundings) unconfigured untraced traced
  refine ⟨two, three, zero, notOne, written, ?_⟩
  intro configuration configures
  obtain ⟨engine, built⟩ := configures.exists_engine
  refine ⟨engine, built, ?_⟩
  intro trace found
  exact run_traced logged replays latency configures built found

end Outcomes

/-- A window length of zero is refused and reported, and the trace is replayed all the same. -/
theorem run_replay_outcome_refused_length :
    let request : Request :=
      { task := .replay { trace := "trace.csv", throttle := { windowLength := some 0 } } }
    let surroundings : Surroundings :=
      { files := fun _ => .bytes "tps,load,cycle_end\n20,1,1\n85,2,0\n".toUTF8.toList
        filesWithLog := fun _ _ => .unopened "", filterFixed := true }
    (request.run surroundings "").errors =
        "--tps-accel-len: history length must be in [1, 32], got 0; keeping 4\n" ∧
      (request.run surroundings "").exitCode = 0 ∧ (request.run surroundings "").output ≠ "" := by
  intro request surroundings
  have logged : ∀ settings, request.HasSettings surroundings.files settings →
      request.CanLog surroundings settings := by
    rintro settings ⟨rfl, _⟩
    exact ⟨rfl, none, rfl⟩
  obtain ⟨_, _, zero, _, written, _⟩ := run_replay_outcome logged rfl ""
  have success : (request.run surroundings "").exitCode = 0 := by
    refine zero.mpr ⟨⟨{}, none, none⟩, ⟨⟨rfl, by decide +kernel⟩, rfl, rfl⟩, ?_⟩
    refine ⟨[⟨20.0, 1.0, true⟩, ⟨85.0, 2.0, false⟩], ?_⟩
    rw [ReplayOptions.HasTrace]
    decide +kernel
  refine ⟨by decide +kernel, success, ?_⟩
  intro empty
  exact written.mp empty success

end Request

end TransientFuel
