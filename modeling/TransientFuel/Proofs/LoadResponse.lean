import TransientFuel.Proofs.EngineRuns

/-!
# The load correction as a function of the trace

The load channel goes through a ring of slots, a walk over pairs of readings, the age of a slot and
a correction that is held between cycles. What comes out of all this is a function of the loads at
the newest ends of cycles: `LoadSettings.response`, taken at the offset of the largest difference
of neighbouring loads, and at the least such offset if there are several. That the engine computes
this function at every row of every trace is `load_correction_eq_response`.
-/

namespace TransientFuel

/-- The difference of the reading at an offset, counted from the newest, and the one before it. -/
def difference (readings : List Float32) (offset : ℕ) : Float32 :=
  readings.getD offset 0.0 - readings.getD (offset + 1) 0.0

/-- The least offset at which the difference is largest. -/
structure LeastSteepest (readings : List Float32) (offset : ℕ) : Prop where
  inside : offset + 1 < readings.length
  largest : ∀ other, other + 1 < readings.length →
    difference readings other ≤ difference readings offset
  least : ∀ other, other < offset → difference readings other < difference readings offset

/-- What readings call for if their largest difference is at the given offset. -/
def LoadSettings.response (settings : LoadSettings) (taper : Float32 → Float32)
    (readings : List Float32) (offset : ℕ) : Float32 :=
  let change := difference readings offset * Float32.ofNat (max settings.cylinders 1)
  if settings.riseThreshold < change then
    taper (Float32.ofNat (offset + 1)) * change * settings.riseMultiplier
  else if change < -settings.dropThreshold then
    change * settings.dropMultiplier
  else
    0.0

section Differences

variable {readings : List Float32} {offset : ℕ}

theorem LeastSteepest.unique {other : ℕ} (steepest : LeastSteepest readings offset)
    (otherSteepest : LeastSteepest readings other) : offset = other := by
  -- Of two such offsets the larger one would have to be steeper, and cannot be.
  have notLess {low high : ℕ} (lowSteepest : LeastSteepest readings low)
      (highSteepest : LeastSteepest readings high) : ¬low < high := by
    intro less
    have steeper := Single.lt_iff.mp (highSteepest.least low less)
    have notSteeper := Single.le_iff.mp (lowSteepest.largest high highSteepest.inside)
    exact absurd steeper.2.2 (not_lt.mpr notSteeper.2.2)
  have := notLess steepest otherSteepest
  have := notLess otherSteepest steepest
  omega

theorem Rise.In.difference_eq {rise : Rise} (found : rise.In readings) :
    difference readings rise.offset = rise.delta := by
  rw [difference, Rise.delta, List.getD_eq_getElem?_getD, List.getD_eq_getElem?_getD, found.1,
    found.2, Option.getD_some, Option.getD_some]

theorem exists_rise_in (inside : offset + 1 < readings.length) :
    ∃ rise : Rise, rise.offset = offset ∧ rise.In readings := by
  have early : offset < readings.length := by omega
  refine ⟨⟨offset, readings[offset + 1], readings[offset]⟩, rfl, ?_, ?_⟩
  · simp [early]
  · simp [inside]

/-- Finite readings have differences that can be compared, so the walk finds the least offset. -/
theorem Rise.SteepestIn.leastSteepest {rise : Rise} (steepest : rise.SteepestIn readings)
    (finite : ∀ reading ∈ readings, reading.isFinite = true) :
    LeastSteepest readings rise.offset := by
  have known {other : Rise} (found : other.In readings) : other.delta.isNaN = false := by
    have afterFinite := finite _ (List.mem_of_getElem? found.1)
    have beforeFinite := finite _ (List.mem_of_getElem? found.2)
    exact (Single.standsFor_sub afterFinite beforeFinite).1
  constructor
  · exact steepest.found.offset_lt
  · intro other inside
    obtain ⟨otherRise, rfl, otherFound⟩ := exists_rise_in inside
    rw [otherFound.difference_eq, steepest.found.difference_eq]
    apply Single.le_of_not_lt (known steepest.found) (known otherFound)
    exact steepest.unbeaten otherRise otherFound
  · intro other less
    have inside := steepest.found.offset_lt
    obtain ⟨otherRise, rfl, otherFound⟩ :=
      exists_rise_in (show other + 1 < readings.length by omega)
    rw [otherFound.difference_eq, steepest.found.difference_eq]
    rcases steepest.recent otherRise otherFound less with less | missing
    · exact less
    · rw [known otherFound] at missing
      contradiction

end Differences

namespace Load

variable {channel : Load}

theorem correction_of_few (few : channel.window.toList.length < 2) :
    channel.compute.correction = 0.0 := by
  rw [Window.length_toList] at few
  rw [compute, Window.steepest?_eq_none_iff.mpr few]

/-- The age that the slots give is the offset in the list, so the slots can be left out. -/
theorem correction_of_steepest? {rise : Rise} (steepest : channel.window.steepest? = some rise) :
    channel.compute.correction =
      channel.settings.response channel.taper channel.window.toList rise.offset := by
  have found := (Window.steepestIn_of_steepest? steepest).found
  have inside := found.offset_lt
  rw [Window.length_toList] at inside
  have age : channel.window.age? rise.offset = some (rise.offset + 1) := by
    rw [Window.age?_eq, if_pos (by omega)]
  have change : difference channel.window.toList rise.offset *
      Float32.ofNat (max channel.settings.cylinders 1) = channel.scaled rise := by
    rw [found.difference_eq, scaled]
  rw [compute, steepest, LoadSettings.response, change]
  simp only [assess, age, Option.getD_some]
  split_ifs <;> rfl

/-- The correction does not depend on where the head of the ring is. -/
theorem correction_congr {other : Load} (settings : other.settings = channel.settings)
    (taper : other.taper = channel.taper)
    (readings : other.window.toList = channel.window.toList) :
    other.compute.correction = channel.compute.correction := by
  have steepestEq := Window.steepest?_congr readings
  cases steepest : channel.window.steepest? with
  | none => rw [compute, compute, steepestEq, steepest]
  | some rise =>
      rw [correction_of_steepest? steepest, correction_of_steepest? (steepestEq.trans steepest),
        settings, taper, readings]

end Load

namespace Engine

variable {engine : Engine}

theorem settings_load_after (engine : Engine) (trace : List Sample) :
    (engine.after trace).load.settings = engine.load.settings ∧
      (engine.after trace).load.taper = engine.load.taper := by
  rw [load_after, Load.foldl_turn_eq]
  exact ⟨rfl, rfl⟩

/-- The correction in force is the one that the load channel would give now. -/
theorem Fresh.held_after (fresh : engine.Fresh) (trace : List Sample) :
    (engine.after trace).held = (engine.after trace).load.compute.correction := by
  apply engine.after_induction fun _ current => current.held = current.load.compute.correction
  · rw [fresh.load_eq.2.1, Load.correction_of_few]
    rw [fresh.load_eq.1]
    exact Nat.two_pos
  · intro earlier sample past
    rw [held_tick, correction_load_tick, load_tick]
    cases sample.loadInput with
    | none => exact past
    | some reading => rfl

/-- A row is a tick, and its load correction is the one in force after the tick. -/
theorem exists_row (engine : Engine) {samples : List Sample} {index : ℕ}
    (inside : index < samples.length) :
    ∃ row, (engine.run samples)[index]? = some row ∧
      row.engine = engine.after (samples.take (index + 1)) ∧
      row.correction.load = (engine.after (samples.take (index + 1))).held := by
  have ended : engine.after (samples.take (index + 1)) =
      ((engine.after (samples.take index)).tick samples[index]).engine := by
    rw [List.take_succ_eq_append_getElem inside, after_concat]
  refine ⟨_, ?_, ended.symm, ?_⟩
  · rw [getElem?_run, List.getElem?_eq_getElem inside, Option.map_some]
  · rw [ended, held_tick]

theorem finite_loadReadings {samples : List Sample}
    (finite : ∀ sample ∈ samples, sample.load.isFinite = true) :
    ∀ reading ∈ loadReadings samples, reading.isFinite = true := by
  intro reading found
  rw [loadReadings, List.mem_reverse, List.mem_filterMap] at found
  rcases found with ⟨sample, inTrace, isReading⟩
  rw [Sample.loadInput] at isReading
  split at isReading
  · rw [← Option.some.inj isReading]
    exact finite sample inTrace
  · contradiction

/--
Take an engine that has just been built or reset, a trace of finite loads, and a row of it. The
loads that count are those at the ends of cycles up to the row, newest first, as many as the window
holds. With fewer than two of them the row's load correction is zero. Otherwise there is exactly one
least offset of the largest difference, and the correction is the response to it. Any load channel
with these settings that holds these loads gives the same correction, wherever the head of its ring
is. A row that ends no cycle keeps the correction of the row before, and the cycles counted are
those that have ended.
-/
theorem load_correction_eq_response (fresh : engine.Fresh) {samples : List Sample}
    (finite : ∀ sample ∈ samples, sample.load.isFinite = true) {index : ℕ}
    (inside : index < samples.length) :
    let readings := (loadReadings (samples.take (index + 1))).take engine.load.window.capacity
    ∃ row, (engine.run samples)[index]? = some row ∧
      (readings.length < 2 → row.correction.load = 0.0) ∧
      (2 ≤ readings.length → ∃! offset, LeastSteepest readings offset) ∧
      (∀ offset, LeastSteepest readings offset →
        row.correction.load =
          engine.load.settings.response engine.load.taper readings offset) ∧
      (∀ channel : Load, channel.settings = engine.load.settings →
        channel.taper = engine.load.taper → channel.window.toList = readings →
        channel.compute.correction = row.correction.load) ∧
      (samples[index].cycleEnd = false → ∀ before earlier, index = before + 1 →
        (engine.run samples)[before]? = some earlier →
        row.correction.load = earlier.correction.load) ∧
      row.engine.cycles = (samples.take (index + 1)).countP Sample.cycleEnd := by
  intro readings
  have readingsEq := fresh.toList_load_after (samples.take (index + 1))
  rcases engine.settings_load_after (samples.take (index + 1)) with ⟨settingsEq, taperEq⟩
  have readingsFinite : ∀ reading ∈ readings, reading.isFinite = true := by
    intro reading found
    apply finite_loadReadings _ reading (List.mem_of_mem_take found)
    intro sample inTrace
    exact finite sample (List.mem_of_mem_take inTrace)
  rcases engine.exists_row inside with ⟨row, rowFound, rowEngine, rowLoad⟩
  rw [fresh.held_after] at rowLoad
  refine ⟨row, rowFound, ?_, ?_, ?_, ?_, ?_, ?_⟩
  · intro few
    rw [rowLoad, Load.correction_of_few (by rw [readingsEq]; exact few)]
  · intro enough
    obtain ⟨rise, steepest⟩ : ∃ rise,
        (engine.after (samples.take (index + 1))).load.window.steepest? = some rise := by
      rw [← Option.ne_none_iff_exists', ne_eq, Window.steepest?_eq_none_iff, not_lt,
        ← Window.length_toList, readingsEq]
      exact enough
    have steepestIn := Window.steepestIn_of_steepest? steepest
    rw [readingsEq] at steepestIn
    have least := steepestIn.leastSteepest readingsFinite
    exact ⟨rise.offset, least, fun other otherLeast => otherLeast.unique least⟩
  · intro offset least
    cases steepest : (engine.after (samples.take (index + 1))).load.window.steepest? with
    | none =>
        rw [Window.steepest?_eq_none_iff, ← Window.length_toList, readingsEq] at steepest
        have enough := least.inside
        change readings.length < 2 at steepest
        omega
    | some rise =>
        have steepestIn := Window.steepestIn_of_steepest? steepest
        rw [readingsEq] at steepestIn
        rw [rowLoad, Load.correction_of_steepest? steepest, settingsEq, taperEq, readingsEq,
          (steepestIn.leastSteepest readingsFinite).unique least]
  · intro channel channelSettings channelTaper channelReadings
    rw [rowLoad]
    exact Load.correction_congr (channelSettings.trans settingsEq.symm)
      (channelTaper.trans taperEq.symm) (channelReadings.trans readingsEq.symm)
  · rintro goesOn before earlier rfl earlierFound
    rcases engine.exists_row (show before < samples.length by omega) with
      ⟨previous, previousFound, _, previousLoad⟩
    obtain rfl : previous = earlier :=
      Option.some.inj (previousFound.symm.trans earlierFound)
    rw [previousLoad, rowLoad, ← fresh.held_after,
      List.take_succ_eq_append_getElem inside, after_concat, held_tick, correction_load_tick,
      Sample.loadInput, goesOn]
    rfl
  · rw [rowEngine, cycles_after, fresh.load_eq.2.2, Nat.zero_add]

/-- Three cycles turn a ring of two slots, and a row that ends no cycle follows. -/
theorem load_correction_after_turn : ∃ engine,
    Settings.build { load := { riseMultiplier := 0.5, windowLength := 2 } } none none =
        .ok engine ∧
      ∃ row, (engine.run [⟨0.0, 1.0, true⟩, ⟨0.0, 2.0, true⟩, ⟨0.0, 5.0, true⟩,
          ⟨0.0, 9.0, false⟩])[3]? = some row ∧
        row.correction.load =
          engine.load.settings.response engine.load.taper [5.0, 2.0] 0 ∧
        row.engine.cycles = 3 := by
  obtain ⟨engine, built⟩ : ∃ engine,
      Settings.build { load := { riseMultiplier := 0.5, windowLength := 2 } } none none =
        .ok engine := ⟨_, rfl⟩
  have capacityEq := (Settings.channels_of_build built).2.2.2
  have least : LeastSteepest [5.0, 2.0] 0 := by
    constructor
    · decide
    · intro other inside
      obtain rfl : other = 0 := by
        simp at inside
        omega
      decide
    · intro other less
      omega
  rcases load_correction_eq_response (.built built)
    (show ∀ sample ∈ [⟨0.0, 1.0, true⟩, ⟨0.0, 2.0, true⟩, ⟨0.0, 5.0, true⟩, ⟨0.0, 9.0, false⟩],
      Float32.isFinite (Sample.load sample) = true by decide) (show 3 < 4 by decide) with
    ⟨row, found, _, _, response, _, _, cycles⟩
  rw [capacityEq] at response
  exact ⟨engine, built, row, found, response 0 least, cycles⟩

end Engine
end TransientFuel
