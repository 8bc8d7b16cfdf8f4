import TransientFuel.Proofs.JsonLines
import TransientFuel.Proofs.Observation
import TransientFuel.Proofs.Overrides
import TransientFuel.Proofs.ReplayOutcome

/-!
# The listing of a replay

A replay that is listed as JSON gives a line for each row of the trace, in order, and a summary at
the end. Before the line of a row there may be one snapshot, and only one, since at most one channel
is observed. The throttle channel publishes as soon as its window has two readings, which takes two
rows. The load channel publishes at the ends of cycles, when its window has two readings, which
takes two such rows. A window of length one never has two readings. All of this is
`run_json_listing`, which says what the text of each line is.
-/

namespace TransientFuel

/-- That a cycle ends with a row of a trace. -/
def Trace.EndsCycle (samples : Trace) (index : ℕ) : Prop :=
  ∃ sample, samples[index]? = some sample ∧ sample.cycleEnd = true

namespace Watch

/-- That a snapshot comes before a row, given the lengths of both windows. -/
def Announces (watch : Watch) (throttleLength loadLength : ℕ) (samples : Trace) (index : ℕ) :
    Prop :=
  match watch with
  | .off => False
  | .throttle => 1 ≤ index ∧ 2 ≤ throttleLength
  | .load =>
    samples.EndsCycle index ∧ (∃ earlier < index, samples.EndsCycle earlier) ∧ 2 ≤ loadLength

end Watch

/-- The line of a row: the number of the row, its sample and the corrections of its tick. -/
def IsRow (index : ℕ) (sample : Sample) (line : String) : Prop :=
  ∃ (correction : Correction) (load loadAmount total throttle throttleAmount : String),
    List.Forall₂ NumberText
      [sample.load, correction.load, correction.total, sample.throttle, correction.throttle]
      [load, loadAmount, total, throttle, throttleAmount] ∧
    line = objectText
      [("cycle_end", if sample.cycleEnd then "true" else "false"), ("load", load),
        ("load_ms", loadAmount), ("row", toString index), ("total_ms", total), ("tps", throttle),
        ("tps_ms", throttleAmount)]

/-- The line of a snapshot: it has the mark of the channel observed and what that publishes. -/
def IsSnapshot (watch : Watch) (line : String) : Prop :=
  match watch with
  | .off => False
  | .throttle =>
    ∃ (shot : ThrottleSnapshot)
      (accumulated extra periodPeak injectedPeak tableValue before after : String),
      List.Forall₂ NumberText
        [shot.accumulated, shot.extra, shot.periodPeak, shot.injectedPeak, shot.tableValue,
          shot.before, shot.after]
        [accumulated, extra, periodPeak, injectedPeak, tableValue, before, after] ∧
      line = objectText
        [("accumulated_ms", accumulated), ("cycle_countdown", toString shot.countdown),
          ("debug", "\"tps_accel\""), ("extra_ms", extra), ("max_extra_per_period_ms", periodPeak),
          ("max_injected_per_period_ms", injectedPeak), ("table_value", tableValue),
          ("tps_from", before), ("tps_to", after)]
  | .load =>
    ∃ (shot : LoadSnapshot) (result taper : String),
      List.Forall₂ NumberText [shot.result, shot.taper] [result, taper] ∧
      line = objectText
        [("debug", "\"load_accel\""), ("distance", toString shot.age), ("result_ms", result),
          ("taper", taper)]

/-- The line of a summary: the numbers of rows and of cycles, and the ranges of the corrections. -/
def IsSummary (rows cycles : ℕ) (line : String) : Prop :=
  ∃ (throttle load : Range) (leastLoad leastThrottle greatestLoad greatestThrottle : String),
    List.Forall₂ NumberText [load.least, throttle.least, load.greatest, throttle.greatest]
      [leastLoad, leastThrottle, greatestLoad, greatestThrottle] ∧
    line = objectText
      [("summary", objectText
        [("cycles", toString cycles), ("min_load_ms", leastLoad), ("min_tps_ms", leastThrottle),
          ("peak_load_ms", greatestLoad), ("peak_tps_ms", greatestThrottle),
          ("rows", toString rows)])]

/-- A line for each row, perhaps with a snapshot before it, and the line of the summary. -/
structure JsonListing where
  rows : List (Option String × String)
  summary : String

namespace JsonListing

/-- The lines in order. -/
def lines (listing : JsonListing) : List String :=
  listing.rows.flatMap (fun row => row.1.toList ++ [row.2]) ++ [listing.summary]

/-- That a listing is one of a trace, with snapshots of the channel observed before some rows. -/
structure Lists (listing : JsonListing) (samples : Trace) (announced : ℕ → Prop) (watch : Watch) :
    Prop where
  length : listing.rows.length = samples.length
  row : ∀ (index : ℕ) (snapshot : Option String) (line : String),
    listing.rows[index]? = some (snapshot, line) →
      ∃ sample, samples[index]? = some sample ∧ IsRow index sample line
  snapshot : ∀ (index : ℕ) (snapshot : Option String) (line : String),
    listing.rows[index]? = some (snapshot, line) →
      (snapshot.isSome = true ↔ announced index) ∧ ∀ shown ∈ snapshot, IsSnapshot watch shown
  summary : IsSummary samples.length (samples.countP Sample.cycleEnd) listing.summary

end JsonListing

section Texts

theorem forall₂_numberText (values : List Float32) :
    List.Forall₂ NumberText values (values.map fun value => JsonValue.render (.number value)) := by
  rw [List.forall₂_map_right_iff, List.forall₂_same]
  exact fun value _ => JsonValue.numberText_render value

theorem isRow_render (index : ℕ) (sample : Sample) (correction : Correction) :
    IsRow index sample (Line.row index sample correction).json.render := by
  have plain : ∀ name ∈ ["cycle_end", "load", "load_ms", "row", "total_ms", "tps", "tps_ms"],
      Text.jsonString name = "\"" ++ name ++ "\"" := by decide
  exact ⟨correction, _, _, _, _, _, forall₂_numberText [_, _, _, _, _],
    JsonValue.render_object plain⟩

theorem isSnapshot_render_throttle (shot : ThrottleSnapshot) :
    IsSnapshot .throttle (Snapshot.throttle shot).json.render := by
  have plain : ∀ name ∈ ["accumulated_ms", "cycle_countdown", "debug", "extra_ms",
      "max_extra_per_period_ms", "max_injected_per_period_ms", "table_value", "tps_from", "tps_to"],
      Text.jsonString name = "\"" ++ name ++ "\"" := by decide
  have mark : Text.jsonString "tps_accel" = "\"tps_accel\"" := by decide
  refine ⟨shot, _, _, _, _, _, _, _, forall₂_numberText [_, _, _, _, _, _, _], ?_⟩
  rw [← mark]
  exact JsonValue.render_object plain

theorem isSnapshot_render_load (shot : LoadSnapshot) :
    IsSnapshot .load (Snapshot.load shot).json.render := by
  have plain : ∀ name ∈ ["debug", "distance", "result_ms", "taper"],
      Text.jsonString name = "\"" ++ name ++ "\"" := by decide
  have mark : Text.jsonString "load_accel" = "\"load_accel\"" := by decide
  refine ⟨shot, _, _, forall₂_numberText [_, _], ?_⟩
  rw [← mark]
  exact JsonValue.render_object plain

theorem isSummary_render (totals : Summary) (cycles : ℕ) :
    IsSummary totals.rows cycles (Line.summary totals cycles).json.render := by
  have plain : ∀ name ∈ ["cycles", "min_load_ms", "min_tps_ms", "peak_load_ms", "peak_tps_ms",
      "rows"], Text.jsonString name = "\"" ++ name ++ "\"" := by decide
  have summary : ∀ name ∈ ["summary"], Text.jsonString name = "\"" ++ name ++ "\"" := by decide
  refine ⟨totals.throttleRange, totals.loadRange, _, _, _, _, forall₂_numberText [_, _, _, _], ?_⟩
  refine Eq.trans (JsonValue.render_object summary) ?_
  exact congrArg (fun text => objectText [("summary", text)]) (JsonValue.render_object plain)

end Texts

namespace Engine

/-- That no reading has come in yet and no cycle has ended. -/
structure Unused (engine : Engine) : Prop where
  throttle : engine.throttle.window.toList = []
  load : engine.load.window.toList = []
  cycles : engine.cycles = 0

/-- That no channel is observed but the one to be watched. -/
structure Watched (engine : Engine) (watch : Watch) : Prop where
  throttle : engine.throttle.observed = true ↔ watch = .throttle
  load : engine.load.observed = true ↔ watch = .load

variable {engine : Engine}

section Ticks

variable (engine) (sample : Sample)

/-- The snapshot of the load channel, if a cycle ends with the tick. -/
def loadSnapshot : Option Snapshot :=
  sample.loadInput.bind fun reading => (engine.load.sample reading).compute.snapshot

theorem snapshots_tick :
    (engine.tick sample).snapshots =
      (engine.throttle.tick sample.throttle).snapshot.toList ++
        (engine.loadSnapshot sample).toList := by
  rw [tick, loadSnapshot, Sample.loadInput]
  cases sample.cycleEnd <;> simp [Throttle.tick]

end Ticks

theorem throttle_after_eq (engine : Engine) (trace : List Sample) :
    (engine.after trace).throttle.observed = engine.throttle.observed ∧
      (engine.after trace).throttle.window.capacity = engine.throttle.window.capacity := by
  rw [throttle_after, Throttle.foldl_turn_eq]
  exact ⟨rfl, Window.capacity_foldl_push _ _⟩

theorem load_after_eq (engine : Engine) (trace : List Sample) :
    (engine.after trace).load.observed = engine.load.observed ∧
      (engine.after trace).load.window.capacity = engine.load.window.capacity := by
  rw [load_after, Load.foldl_turn_eq]
  exact ⟨rfl, Window.capacity_foldl_push _ _⟩

/-- A window that holds the newest of some readings has two after one more if one came before. -/
theorem two_le_length_push_iff {window : Window} {readings : List Float32} (reading : Float32)
    (holds : window.toList = readings.take window.capacity) :
    2 ≤ (window.push reading).toList.length ↔ 1 ≤ readings.length ∧ 2 ≤ window.capacity := by
  simp only [Window.toList_push, holds, List.length_take, List.length_cons]
  omega

theorem isSome_snapshot_sample_iff {Channel Settings : Type} [WindowChannel Channel Settings]
    (channel : Channel) {readings : List Float32} (reading : Float32)
    (holds : (WindowChannel.window channel).toList =
      readings.take (WindowChannel.window channel).capacity) :
    (WindowChannel.compute (WindowChannel.sample channel reading)).snapshot.isSome = true ↔
      WindowChannel.observed channel = true ∧ 1 ≤ readings.length ∧
        2 ≤ (WindowChannel.window channel).capacity := by
  rw [WindowChannel.isSome_snapshot_iff, WindowChannel.sample, WindowChannel.observed_replace,
    WindowChannel.window_replace, two_le_length_push_iff reading holds]

theorem Unused.isSome_throttle_snapshot (unused : engine.Unused) (earlier : Trace)
    (reading : Float32) :
    ((engine.after earlier).throttle.tick reading).snapshot.isSome = true ↔
      engine.throttle.observed = true ∧ 1 ≤ earlier.length ∧
        2 ≤ engine.throttle.window.capacity := by
  rcases engine.throttle_after_eq earlier with ⟨observedEq, capacityEq⟩
  have holds := engine.toList_throttle_after_of_empty unused.throttle earlier
  rw [← capacityEq] at holds
  have published : ((engine.after earlier).throttle.tick reading).snapshot.isSome = true ↔ _ :=
    isSome_snapshot_sample_iff (engine.after earlier).throttle reading holds
  rw [published]
  simp only [WindowChannel.observed, WindowChannel.window, observedEq, capacityEq,
    throttleReadings, List.length_reverse, List.length_map]

theorem length_loadReadings (trace : Trace) :
    (loadReadings trace).length = trace.countP Sample.cycleEnd := by
  induction trace with
  | nil => rfl
  | cons sample rest inductionHypothesis =>
      simp only [loadReadings, List.length_reverse] at inductionHypothesis ⊢
      cases ends : sample.cycleEnd <;>
        simp [Sample.loadInput, ends, inductionHypothesis]

theorem Unused.isSome_loadSnapshot (unused : engine.Unused) (earlier : Trace) (sample : Sample) :
    ((engine.after earlier).loadSnapshot sample).isSome = true ↔
      engine.load.observed = true ∧ sample.cycleEnd = true ∧
        1 ≤ earlier.countP Sample.cycleEnd ∧ 2 ≤ engine.load.window.capacity := by
  rcases engine.load_after_eq earlier with ⟨observedEq, capacityEq⟩
  have holds := engine.toList_load_after_of_empty unused.load earlier
  rw [← capacityEq] at holds
  rw [loadSnapshot, Sample.loadInput]
  cases ends : sample.cycleEnd with
  | false => simp
  | true =>
      have published : ((engine.after earlier).load.sample sample.load).compute.snapshot.isSome =
          true ↔ _ := isSome_snapshot_sample_iff (engine.after earlier).load sample.load holds
      simp only [if_true, Option.bind_some, published, WindowChannel.observed,
        WindowChannel.window, observedEq, capacityEq, length_loadReadings, true_and]

theorem one_le_countP_take_iff (samples : Trace) (index : ℕ) :
    1 ≤ (samples.take index).countP Sample.cycleEnd ↔
      ∃ earlier < index, samples.EndsCycle earlier := by
  rw [Nat.one_le_iff_ne_zero, ← Nat.pos_iff_ne_zero, List.countP_pos_iff]
  constructor
  · rintro ⟨sample, member, ends⟩
    rcases List.mem_iff_getElem?.mp member with ⟨earlier, found⟩
    rw [List.getElem?_take, Option.ite_none_right_eq_some] at found
    exact ⟨earlier, found.1, sample, found.2, ends⟩
  · rintro ⟨earlier, before, sample, found, ends⟩
    refine ⟨sample, List.mem_iff_getElem?.mpr ⟨earlier, ?_⟩, ends⟩
    rw [List.getElem?_take_of_lt before, found]

section Announcements

/-- What is published at a tick, by the throttle channel or else by the load channel. -/
def announcement (engine : Engine) (sample : Sample) : Option Snapshot :=
  (engine.throttle.tick sample.throttle).snapshot.or (engine.loadSnapshot sample)

variable {watch : Watch}

theorem Watched.after (watched : engine.Watched watch) (trace : Trace) :
    (engine.after trace).Watched watch := by
  constructor
  · rw [(engine.throttle_after_eq trace).1]
    exact watched.throttle
  · rw [(engine.load_after_eq trace).1]
    exact watched.load

theorem Watched.throttle_snapshot (watched : engine.Watched watch) {reading : Float32}
    {snapshot : Snapshot} (published : (engine.throttle.tick reading).snapshot = some snapshot) :
    watch = .throttle ∧ IsSnapshot watch snapshot.json.render := by
  rcases (engine.throttle.sample reading).publishes with ⟨published_iff, what⟩
  have observed := (published_iff.mp (by rw [← Throttle.tick, published, Option.isSome_some])).1
  obtain rfl := watched.throttle.mp observed
  rcases what snapshot published with ⟨rise, _, rfl⟩
  exact ⟨rfl, isSnapshot_render_throttle _⟩

theorem Watched.load_snapshot (watched : engine.Watched watch) {sample : Sample}
    {snapshot : Snapshot} (published : engine.loadSnapshot sample = some snapshot) :
    watch = .load ∧ IsSnapshot watch snapshot.json.render := by
  rcases Option.bind_eq_some_iff.mp published with ⟨reading, _, computed⟩
  rcases (engine.load.sample reading).publishes with ⟨published_iff, what⟩
  have observed := (published_iff.mp (by rw [computed, Option.isSome_some])).1
  obtain rfl := watched.load.mp observed
  rcases what snapshot computed with ⟨rise, shot, _, rfl, _⟩
  exact ⟨rfl, isSnapshot_render_load shot⟩

/-- At most one channel publishes, so there is at most one snapshot. -/
theorem Watched.snapshots_tick (watched : engine.Watched watch) (sample : Sample) :
    (engine.tick sample).snapshots = (engine.announcement sample).toList := by
  rw [Engine.snapshots_tick, announcement]
  cases throttleShot : (engine.throttle.tick sample.throttle).snapshot with
  | none => simp
  | some snapshot =>
      cases loadShot : engine.loadSnapshot sample with
      | none => simp
      | some other =>
          -- Both channels would have to be the one watched.
          have first := (watched.throttle_snapshot throttleShot).1
          have second := (watched.load_snapshot loadShot).1
          rw [first] at second
          contradiction

theorem Watched.isSnapshot (watched : engine.Watched watch) {sample : Sample}
    {snapshot : Snapshot} (published : engine.announcement sample = some snapshot) :
    IsSnapshot watch snapshot.json.render := by
  rcases Option.or_eq_some_iff.mp published with throttleShot | ⟨_, loadShot⟩
  · exact (watched.throttle_snapshot throttleShot).2
  · exact (watched.load_snapshot loadShot).2

theorem Unused.isSome_announcement (unused : engine.Unused) (watched : engine.Watched watch)
    {samples : Trace} {index : ℕ} {sample : Sample} (found : samples[index]? = some sample) :
    ((engine.after (samples.take index)).announcement sample).isSome = true ↔
      watch.Announces engine.throttle.window.capacity engine.load.window.capacity samples
        index := by
  rcases List.getElem?_eq_some_iff.mp found with ⟨inside, _⟩
  have ends : sample.cycleEnd = true ↔ samples.EndsCycle index := by
    simp [Trace.EndsCycle, found]
  rw [announcement, Option.isSome_or, Bool.or_eq_true, unused.isSome_throttle_snapshot,
    unused.isSome_loadSnapshot, watched.throttle, watched.load, List.length_take_of_le inside.le,
    one_le_countP_take_iff, ends]
  cases watch <;> simp [Watch.Announces]

end Announcements

section Lines

variable (engine)

/-- The lines of a trace, row by row. -/
theorem rowLines_eq (number : ℕ) (samples : Trace) :
    engine.rowLines number samples =
      (samples.mapIdx fun index sample =>
        let tick := (engine.after (samples.take index)).tick sample
        tick.snapshots.map .snapshot ++
          [.row (number + index) sample tick.correction]).flatten := by
  induction samples generalizing engine number with
  | nil => rfl
  | cons sample rest inductionHypothesis =>
      rw [rowLines, inductionHypothesis, List.mapIdx_cons, List.flatten_cons]
      simp [after, Nat.add_assoc, Nat.add_comm 1]

theorem length_run (samples : Trace) : (engine.run samples).length = samples.length := by
  induction samples generalizing engine with
  | nil => rfl
  | cons sample rest inductionHypothesis => simp [run, inductionHypothesis]

/-- The lines of a replay as JSON. -/
def jsonListing (samples : Trace) : JsonListing where
  rows := samples.mapIdx fun index sample =>
    let before := engine.after (samples.take index)
    ((before.announcement sample).map (·.json.render),
      (Line.row index sample (before.tick sample).correction).json.render)
  summary :=
    (Line.summary (.ofCorrections ((engine.run samples).map Tick.correction))
      (engine.after samples).cycles).json.render

variable {engine}

theorem rows_jsonListing {samples : Trace} {index : ℕ} {snapshot : Option String} {line : String}
    (listed : (engine.jsonListing samples).rows[index]? = some (snapshot, line)) :
    ∃ sample, samples[index]? = some sample ∧
      ((engine.after (samples.take index)).announcement sample).map (·.json.render) = snapshot ∧
      (Line.row index sample
        ((engine.after (samples.take index)).tick sample).correction).json.render = line := by
  simpa [jsonListing] using listed

theorem Watched.lines_jsonListing {watch : Watch} (watched : engine.Watched watch)
    (samples : Trace) :
    (engine.jsonListing samples).lines = (engine.replay samples).map (·.json.render) := by
  simp only [JsonListing.lines, jsonListing, replay, rowLines_eq, List.map_append, List.map_flatten,
    List.flatMap_def, List.mapIdx_eq_zipIdx_map, List.map_map]
  congr 2
  apply List.map_congr_left
  rintro ⟨sample, index⟩ _
  simp only [Function.comp_apply, (watched.after (samples.take index)).snapshots_tick]
  cases (engine.after (samples.take index)).announcement sample <;> simp [Line.json]

end Lines

end Engine

/-- An engine that begins without readings is listed as it should be. -/
theorem Engine.Unused.lists {engine : Engine} (unused : engine.Unused) {watch : Watch}
    (watched : engine.Watched watch) (samples : Trace) :
    (engine.jsonListing samples).Lists samples
      (watch.Announces engine.throttle.window.capacity engine.load.window.capacity samples)
      watch := by
  constructor
  · simp [jsonListing]
  · intro index snapshot line listed
    rcases rows_jsonListing listed with ⟨sample, found, _, rfl⟩
    exact ⟨sample, found, isRow_render _ _ _⟩
  · intro index snapshot line listed
    rcases rows_jsonListing listed with ⟨sample, found, rfl, _⟩
    constructor
    · rw [Option.isSome_map]
      exact unused.isSome_announcement watched found
    · intro shown member
      rcases Option.map_eq_some_iff.mp member with ⟨shot, published, rfl⟩
      exact (watched.after _).isSnapshot published
  · have rows := Summary.rows_foldl_add {} ((engine.run samples).map Tick.correction)
    have cycles := engine.cycles_after samples
    rw [List.length_map, length_run, Nat.zero_add] at rows
    rw [unused.cycles, Nat.zero_add] at cycles
    rw [← rows, ← cycles]
    exact isSummary_render _ _

section Replays

variable {settings : Settings} {table : Option GridData} {taper : Option CurveData}
  {engine : Engine}

/-- The engine of a replay begins without readings, with the windows that were asked for. -/
theorem Settings.watched_of_build (built : settings.build table taper = .ok engine)
    (options : ReplayOptions) :
    let replayed := (engine.override options).1.watch settings.watch
    replayed.Unused ∧ replayed.Watched settings.watch ∧
      replayed.throttle.window.capacity =
        lengthInForce options.throttle.windowLength settings.throttle.windowLength ∧
      replayed.load.window.capacity =
        lengthInForce options.load.windowLength settings.load.windowLength := by
  rcases build_eq_ok_iff.mp built with ⟨_, _, _, _, throttle, throttleMade, load, loadMade, rfl⟩
  obtain ⟨throttleNew, throttleSettings, _⟩ := Throttle.create_eq_ok_iff.mp throttleMade
  obtain ⟨loadNew, loadSettings, _⟩ := Load.create_eq_ok_iff.mp loadMade
  have throttleCapacity : throttle.window.capacity = throttle.settings.windowLength :=
    throttleNew.capacity_eq
  have loadCapacity : load.window.capacity = load.settings.windowLength := loadNew.capacity_eq
  have unobserved : throttle.observed = false ∧ load.observed = false :=
    ⟨throttleNew.unobserved, loadNew.unobserved⟩
  have throttleOverridden := throttle.window.overridden_asked options.throttle.windowLength
  have loadOverridden := load.window.overridden_asked options.load.windowLength
  rw [((Engine.create throttle load).override_of_new throttleNew loadNew options).2,
    ← throttleSettings, ← loadSettings, ← throttleCapacity, ← loadCapacity,
    ← throttleOverridden.capacity, ← loadOverridden.capacity]
  -- Watching sets what is observed and leaves both windows as the overrides made them.
  cases settings.watch <;>
    exact ⟨⟨throttleOverridden.toList_eq_nil throttleNew.toList_eq,
        loadOverridden.toList_eq_nil loadNew.toList_eq, rfl⟩,
      ⟨by simp [Engine.watch, Throttle.observe, Engine.create, unobserved.1],
        by simp [Engine.watch, Load.observe, Engine.create, unobserved.2]⟩, rfl, rfl⟩

end Replays

theorem toList_joinLines (lines : List String) :
    (joinLines lines).toList = lines.flatMap fun line => line.toList ++ ['\n'] := by
  simp [joinLines, List.flatMap_map]

theorem Report.exitCode_ne_zero (report : Report) : report.exitCode ≠ 0 := by
  rw [exitCode]
  split <;> simp

namespace Request

variable {request : Request} {options : ReplayOptions} {surroundings : Surroundings}
  {latency : String}

/-- The settings are those of one file, so if the log could be set up it can be. -/
theorem canLog_of_success (succeeds : (request.run surroundings latency).exitCode = 0) :
    ∀ settings, request.HasSettings surroundings.files settings →
      request.CanLog surroundings settings := by
  intro settings loaded
  cases prepared : request.prepare surroundings with
  | error report =>
      simp only [run, prepared, Report.outcome] at succeeds
      exact absurd succeeds report.exitCode_ne_zero
  | ok job =>
      rcases bind_eq_ok.mp prepared with ⟨⟨begun, log⟩, started, _⟩
      rcases begin_eq_ok_iff.mp started with ⟨begunLoaded, level, file⟩
      have same : settings = begun := by
        have first := Settings.ofFiles_eq_ok_iff.mpr loaded
        rw [Settings.ofFiles_eq_ok_iff.mpr begunLoaded] at first
        exact (Except.ok.inj first).symm
      rw [same]
      exact ⟨level, log, file⟩

/-- A replay that succeeds has loaded all that it needs. -/
theorem loaded_of_success (replays : request.task = .replay options)
    (succeeds : (request.run surroundings latency).exitCode = 0) :
    ∃ configuration samples, request.Configures surroundings configuration ∧
      options.HasTrace surroundings configuration.settings samples := by
  have logged := canLog_of_success succeeds
  rcases request.configured_cases options surroundings with
    unconfigured | ⟨configuration, configures, untraced⟩ | ⟨configuration, configures, found⟩
  · rw [(run_unconfigured logged latency unconfigured).1] at succeeds
    contradiction
  · rw [(run_untraced logged replays latency configures untraced).1] at succeeds
    contradiction
  · rcases found with ⟨samples, traced⟩
    exact ⟨configuration, samples, configures, traced⟩

/--
Let a replay succeed that is to be listed as JSON. Its output consists of the texts of lines, each
with a line end behind it: one for each row of the trace, in order and with the number of the row,
and a summary at the end with the numbers of rows and of cycles. No text has a line end in it.
Before the line of a row there is a snapshot of the channel observed or there is none. If no channel
is observed there is none before any row. If it is the throttle channel, there is one before every
row but the first. If it is the load channel, there is one before every row that ends a cycle but
the first such row. In both cases the window in force has to hold two readings: this is the length
that the replay asks for, if that can be had, or else the one in the settings.
-/
theorem run_json_listing (json : request.json = true) (replays : request.task = .replay options)
    (latency : String) (succeeds : (request.run surroundings latency).exitCode = 0) :
    ∃ configuration samples, request.Configures surroundings configuration ∧
      options.HasTrace surroundings configuration.settings samples ∧
      ∃ listing : JsonListing,
        (request.run surroundings latency).output.toList =
            listing.lines.flatMap (fun line => line.toList ++ ['\n']) ∧
          (∀ line ∈ listing.lines, OneLine line) ∧
          listing.Lists samples
            (configuration.settings.watch.Announces
              (lengthInForce options.throttle.windowLength
                configuration.settings.throttle.windowLength)
              (lengthInForce options.load.windowLength configuration.settings.load.windowLength)
              samples)
            configuration.settings.watch := by
  have logged := canLog_of_success succeeds
  rcases loaded_of_success replays succeeds with ⟨configuration, samples, configures, traced⟩
  rcases configures.exists_engine with ⟨engine, built⟩
  rcases Settings.watched_of_build (inContext_eq_ok_iff.mp built) options with
    ⟨unused, watched, throttleLength, loadLength⟩
  refine ⟨configuration, samples, configures, traced,
    ((engine.override options).1.watch configuration.settings.watch).jsonListing samples,
    ?_, ?_, ?_⟩
  · rw [run_traced logged replays latency configures built traced, watched.lines_jsonListing,
      ← toList_joinLines]
    simp only [Job.outcome, Job.outputLines, json, if_true]
  · rw [watched.lines_jsonListing, List.forall_mem_map]
    exact fun line _ => line.json.oneLine_render
  · rw [← throttleLength, ← loadLength]
    exact unused.lists watched samples

/-- With the load channel observed, only the second row that ends a cycle has a snapshot. -/
theorem run_json_listing_second_cycle :
    let request : Request :=
      { config := some "enrich.toml", json := true
        task := .replay { trace := "trace.csv", load := { windowLength := some 2 } } }
    let surroundings : Surroundings :=
      { files := fun path =>
          .bytes (if path = "trace.csv" then
            "tps,load,cycle_end\n20,1,1\n85,2,0\n40,3,1\n".toUTF8.toList
          else "[debug]\nmode = \"load_accel\"\n".toUTF8.toList)
        filesWithLog := fun _ _ => .unopened "", filterFixed := true }
    (request.run surroundings "").exitCode = 0 ∧
      ∃ first second snapshot third summary : String,
        (request.run surroundings "").output.toList =
            [first, second, snapshot, third, summary].flatMap (fun line => line.toList ++ ['\n']) ∧
          IsRow 0 ⟨20.0, 1.0, true⟩ first ∧ IsRow 1 ⟨85.0, 2.0, false⟩ second ∧
          IsSnapshot .load snapshot ∧ IsRow 2 ⟨40.0, 3.0, true⟩ third ∧
          IsSummary 3 2 summary := by
  intro request surroundings
  have success : (request.run surroundings "").exitCode = 0 := by decide +kernel
  rcases run_json_listing rfl rfl "" success with
    ⟨configuration, samples, configures, traced, ⟨rows, summary⟩, printed, _, lists⟩
  have settings : configuration.settings = { watch := .load } := by
    have loaded : Settings.ofFile "enrich.toml" (surroundings.files "enrich.toml") =
        .ok { watch := .load } := by decide +kernel
    exact Except.ok.inj (configures.settings.1.symm.trans loaded)
  have read : samples = [⟨20.0, 1.0, true⟩, ⟨85.0, 2.0, false⟩, ⟨40.0, 3.0, true⟩] := by
    have loaded : Trace.ofFile "trace.csv" (surroundings.files "trace.csv") =
        .ok [⟨20.0, 1.0, true⟩, ⟨85.0, 2.0, false⟩, ⟨40.0, 3.0, true⟩] := by decide +kernel
    rw [ReplayOptions.HasTrace, settings] at traced
    exact Except.ok.inj (traced.symm.trans loaded)
  rw [settings, read] at lists
  rcases List.length_eq_three.mp lists.length with
    ⟨⟨firstShot, first⟩, ⟨secondShot, second⟩, ⟨thirdShot, third⟩, rfl⟩
  have firstNone : firstShot = none := by
    rw [← Option.not_isSome_iff_eq_none, (lists.snapshot 0 _ _ rfl).1]
    simp [Watch.Announces]
  have secondNone : secondShot = none := by
    rw [← Option.not_isSome_iff_eq_none, (lists.snapshot 1 _ _ rfl).1]
    simp [Watch.Announces, Trace.EndsCycle]
  have thirdSome : thirdShot.isSome = true := by
    apply (lists.snapshot 2 _ _ rfl).1.mpr
    exact ⟨⟨_, rfl, rfl⟩, ⟨0, by simp, _, rfl, rfl⟩, le_refl 2⟩
  rcases Option.isSome_iff_exists.mp thirdSome with ⟨snapshot, rfl⟩
  obtain ⟨_, ⟨⟩, firstRow⟩ := lists.row 0 _ _ rfl
  obtain ⟨_, ⟨⟩, secondRow⟩ := lists.row 1 _ _ rfl
  obtain ⟨_, ⟨⟩, thirdRow⟩ := lists.row 2 _ _ rfl
  refine ⟨success, first, second, snapshot, third, summary, ?_, firstRow, secondRow,
    (lists.snapshot 2 _ _ rfl).2 snapshot rfl, thirdRow, lists.summary⟩
  rw [printed, firstNone, secondNone]
  rfl

end Request

end TransientFuel
