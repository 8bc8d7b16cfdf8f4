import TransientFuel.Proofs.EngineRuns

/-!
# The channels do not interfere

Two runs of an engine give the same throttle corrections and the same pump if their traces agree in
what the throttle channel gets to know, and the same load corrections and cycles if they agree in
what the load channel gets to know. Without smoothing the pump stays empty, although the ends of
cycles still touch it, and a throttle correction depends on the readings in the window only. All of
this is `run_channels_separate`.
-/

namespace TransientFuel

namespace Pump

/-- That nothing is owed and no charge has been noted. -/
structure Empty (pump : Pump) : Prop where
  accumulated : pump.accumulated = 0.0
  cyclePeak : pump.cyclePeak = 0.0
  periodPeak : pump.periodPeak = 0.0
  injectedPeak : pump.injectedPeak = 0.0

variable {pump : Pump}

theorem empty_idle : Empty idle :=
  ⟨rfl, rfl, rfl, rfl⟩

/-- The end of a cycle sets the countdown, but it finds no charge to put on or to take off. -/
theorem Empty.endCycle (empty : pump.Empty) (smoothing : Smoothing) :
    (pump.endCycle smoothing).Empty := by
  have peak : pump.peakAfterCycle = 0.0 := by
    rw [peakAfterCycle, empty.cyclePeak, empty.periodPeak]
    decide
  have owed : pump.owedAfterCycle = 0.0 := by
    rw [owedAfterCycle, peak, empty.accumulated, empty.periodPeak]
    decide
  rw [Pump.endCycle]
  split
  · refine ⟨?_, rfl, rfl, rfl⟩
    simp only [startPeriod, owed, empty.injectedPeak]
    decide
  · exact ⟨owed, rfl, peak, empty.injectedPeak⟩

end Pump

namespace Throttle

variable {channel : Throttle}

section Disabled

variable (disabled : channel.settings.smoothing.isEnabled = false)

include disabled

theorem empty_tick (empty : channel.pump.Empty) (reading : Float32) :
    (channel.tick reading).channel.pump.Empty := by
  have off : (channel.sample reading).settings.smoothing.isEnabled = false := disabled
  rw [tick, compute]
  split
  · exact empty
  · simp only [charged, off]
    exact Pump.empty_idle

theorem empty_foldl_turn (empty : channel.pump.Empty) (inputs : List (Float32 × Bool)) :
    (inputs.foldl turn channel).pump.Empty := by
  induction inputs generalizing channel with
  | nil => exact empty
  | cons input rest inductionHypothesis =>
      apply inductionHypothesis
      · rw [turn_eq]
        exact disabled
      · have ticked := empty_tick disabled empty input.1
        rw [turn]
        split
        · exact ticked.endCycle _
        · exact ticked

/-- A charge is injected at once. -/
theorem correction_of_disabled :
    channel.compute.correction = channel.window.steepest?.elim 0.0 channel.charge := by
  rw [compute]
  split
  · rename_i missing
    rw [missing, Option.elim_none]
  · rename_i rise found
    simp [found, injected, disabled]

/-- Whatever has gone before, the same readings get the same correction. -/
theorem correction_congr {other : Throttle} (settings : other.settings = channel.settings)
    (table : other.table = channel.table)
    (readings : other.window.toList = channel.window.toList) :
    other.compute.correction = channel.compute.correction := by
  have chargeEq : other.charge = channel.charge := by
    funext rise
    rw [charge, charge, settings, table]
  rw [correction_of_disabled disabled, correction_of_disabled (settings ▸ disabled), chargeEq,
    Window.steepest?_congr readings]

end Disabled

end Throttle

namespace Engine

theorem settings_throttle_after (engine : Engine) (trace : List Sample) :
    (engine.after trace).throttle.settings = engine.throttle.settings ∧
      (engine.after trace).throttle.table = engine.throttle.table := by
  rw [throttle_after, Throttle.foldl_turn_eq]
  exact ⟨rfl, rfl⟩

theorem Fresh.empty_after {engine : Engine} (fresh : engine.Fresh)
    (disabled : engine.throttle.settings.smoothing.isEnabled = false) (trace : List Sample) :
    (engine.after trace).throttle.pump.Empty := by
  rw [throttle_after]
  apply Throttle.empty_foldl_turn disabled
  rw [fresh.throttle_eq.2]
  exact Pump.empty_idle

/-- The readings that a row's throttle correction is computed from. -/
theorem Fresh.toList_sample {engine : Engine} (fresh : engine.Fresh) (earlier : List Sample)
    (sample : Sample) :
    ((engine.after earlier).throttle.sample sample.throttle).window.toList =
      (throttleReadings (earlier ++ [sample])).take engine.throttle.window.capacity := by
  rw [← fresh.toList_throttle_after, after_concat, throttle_tick, Throttle.turn_eq]
  rfl

/--
Take an engine that has just been built or reset. Traces that agree in the throttle positions and in
the ends of cycles give the same throttle corrections and the same pump at every row, whatever the
loads are. Traces that agree in the ends of cycles and in the loads there give the same load
corrections and cycles, whatever else they hold. Without smoothing the pump is empty at all times,
and rows with the same newest readings, as many as the window holds, get the same throttle
correction, in whichever traces and at whichever places they are. The window is as long as the
settings say that the engine was built from.
-/
theorem run_channels_separate {engine : Engine} (fresh : engine.Fresh) :
    (∀ left right : List Sample,
      left.map Sample.throttleInput = right.map Sample.throttleInput →
      (engine.run left).map (fun row => (row.correction.throttle, row.engine.throttle.pump)) =
        (engine.run right).map fun row =>
          (row.correction.throttle, row.engine.throttle.pump)) ∧
    (∀ left right : List Sample,
      left.map Sample.loadInput = right.map Sample.loadInput →
      (engine.run left).map (fun row => (row.correction.load, row.engine.cycles)) =
        (engine.run right).map fun row => (row.correction.load, row.engine.cycles)) ∧
    (engine.throttle.settings.smoothing.period ≤ 1 →
      ¬1.0 < engine.throttle.settings.smoothing.divisor →
      (∀ (trace : List Sample) (reading : Float32),
        (engine.after trace).throttle.pump.Empty ∧
          ((engine.after trace).throttle.tick reading).channel.pump.Empty) ∧
      ∀ (left right : List Sample) (leftIndex rightIndex : ℕ) (leftRow rightRow : Tick),
        (engine.run left)[leftIndex]? = some leftRow →
        (engine.run right)[rightIndex]? = some rightRow →
        (throttleReadings (left.take (leftIndex + 1))).take engine.throttle.window.capacity =
          (throttleReadings (right.take (rightIndex + 1))).take
            engine.throttle.window.capacity →
        leftRow.correction.throttle = rightRow.correction.throttle) ∧
    ∀ settings table taper, Settings.build settings table taper = .ok engine →
      engine.throttle.window.capacity = settings.throttle.windowLength := by
  refine ⟨?_, ?_, ?_, ?_⟩
  · intro left right agree
    rw [map_run_throttle, map_run_throttle, agree]
  · intro left right agree
    rw [map_run_load, map_run_load, agree]
  · intro short small
    have disabled : engine.throttle.settings.smoothing.isEnabled = false := by
      simp [Smoothing.isEnabled, small, not_lt.mpr short]
    have stays (trace : List Sample) :
        (engine.after trace).throttle.settings.smoothing.isEnabled = false := by
      rw [(engine.settings_throttle_after trace).1]
      exact disabled
    constructor
    · intro trace reading
      have empty := fresh.empty_after disabled trace
      exact ⟨empty, Throttle.empty_tick (stays trace) empty reading⟩
    · intro left right leftIndex rightIndex leftRow rightRow leftFound rightFound agree
      rw [getElem?_run, Option.map_eq_some_iff] at leftFound rightFound
      rcases leftFound with ⟨leftSample, leftAt, rfl⟩
      rcases rightFound with ⟨rightSample, rightAt, rfl⟩
      rw [correction_throttle_tick, correction_throttle_tick]
      rw [List.take_add_one, leftAt, List.take_add_one, rightAt, Option.toList_some,
        Option.toList_some, ← fresh.toList_sample, ← fresh.toList_sample] at agree
      rcases engine.settings_throttle_after (left.take leftIndex) with ⟨leftSettings, leftTable⟩
      rcases engine.settings_throttle_after (right.take rightIndex) with
        ⟨rightSettings, rightTable⟩
      have sampled : ((engine.after (right.take rightIndex)).throttle.sample
          rightSample.throttle).settings.smoothing.isEnabled = false := stays _
      exact Throttle.correction_congr sampled (leftSettings.trans rightSettings.symm)
        (leftTable.trans rightTable.symm) agree
  · intro settings table taper built
    exact (Settings.channels_of_build built).2.1

/-- Two traces with other loads, two with other throttle positions, and a reading that came late. -/
theorem rows_agree_in_other_traces : ∃ engine,
    Settings.build
        { throttle := { windowLength := 2, smoothing := {} }
          table := some ⟨[0.0], [0.0], [[8.0]]⟩ } none none = .ok engine ∧
      (engine.run [⟨20.0, 1.0, true⟩, ⟨85.0, 2.0, false⟩]).map
          (fun row => (row.correction.throttle, row.engine.throttle.pump)) =
        (engine.run [⟨20.0, 7.0, true⟩, ⟨85.0, 9.0, false⟩]).map
          (fun row => (row.correction.throttle, row.engine.throttle.pump)) ∧
      (engine.run [⟨20.0, 1.0, true⟩, ⟨85.0, 2.0, false⟩]).map
          (fun row => (row.correction.load, row.engine.cycles)) =
        (engine.run [⟨60.0, 1.0, true⟩, ⟨0.0, 5.0, false⟩]).map
          (fun row => (row.correction.load, row.engine.cycles)) ∧
      (engine.after [⟨20.0, 1.0, true⟩, ⟨85.0, 2.0, true⟩]).throttle.pump.Empty ∧
      ∃ early late, (engine.run [⟨20.0, 1.0, true⟩, ⟨85.0, 2.0, false⟩])[1]? = some early ∧
        (engine.run [⟨50.0, 0.0, true⟩, ⟨20.0, 0.0, true⟩, ⟨85.0, 0.0, true⟩])[2]? = some late ∧
        early.correction.throttle = late.correction.throttle := by
  obtain ⟨engine, built⟩ : ∃ engine, Settings.build
      { throttle := { windowLength := 2, smoothing := {} }
        table := some ⟨[0.0], [0.0], [[8.0]]⟩ } none none = .ok engine := ⟨_, rfl⟩
  rcases Settings.channels_of_build built with ⟨settingsEq, capacityEq, _⟩
  rcases run_channels_separate (.built built) with ⟨throttleAlone, loadAlone, unsmoothed, _⟩
  rcases unsmoothed (by rw [settingsEq]) (by rw [settingsEq]; decide) with ⟨empty, sameReadings⟩
  have early := engine.getElem?_run [⟨20.0, 1.0, true⟩, ⟨85.0, 2.0, false⟩] 1
  have late := engine.getElem?_run [⟨50.0, 0.0, true⟩, ⟨20.0, 0.0, true⟩, ⟨85.0, 0.0, true⟩] 2
  refine ⟨engine, built, ?_, ?_, (empty _ 0.0).1, _, _, early, late, ?_⟩
  · apply throttleAlone
    simp [Sample.throttleInput]
  · apply loadAlone
    simp [Sample.loadInput]
  · apply sameReadings _ _ 1 2 _ _ early late
    simp [capacityEq, throttleReadings]

end Engine
end TransientFuel
