import TransientFuel.DataFile
import TransientFuel.Proofs.ChannelSeparation
import TransientFuel.Proofs.CheckedSettings
import TransientFuel.Proofs.Interpolation

/-!
# Overflow of the pump

What the pump owes can be lost in one way only: at the end of a cycle the sum of what is owed and
the new peak leaves the range of finite numbers. From then on the pump never owes a finite amount
again, since an infinite amount minus an infinite share is missing and a missing amount is not below
the residue. Settings can pass their check and still lead there. If the values of the table stay
below a very large bound and drops take fuel away, the sum saturates before it overflows, however
long the run is: `Engine.accumulated_lost_iff_overflows`.
-/

namespace TransientFuel

open Single (toRat)

namespace Pump

variable {pump : Pump} {smoothing : Smoothing}

theorem isFinite_of_owedAfterCycle (finite : pump.owedAfterCycle.isFinite = true) :
    pump.accumulated.isFinite = true :=
  (Single.isFinite_of_sub (Single.isFinite_of_add finite).1).1

namespace Sound

/-- A finite sum leaves a finite amount, because no more than the sum is left. -/
theorem startPeriod_le (sound : pump.Sound) (finite : pump.owedAfterCycle.isFinite = true) :
    (pump.startPeriod smoothing).accumulated.isFinite = true ∧
      toRat (pump.startPeriod smoothing).accumulated ≤ max 0 (toRat pump.owedAfterCycle) := by
  simp only [Pump.startPeriod]
  split
  · exact ⟨by decide, by simp⟩
  · rename_i notLess
    rcases Single.sub_le_of_nonneg finite sound.injectedPeak_nonneg with ⟨rest, stands, le⟩
    have atLeast := Single.le_of_not_lt stands.1 (by decide) notLess
    rw [Single.le_iff, stands.2] at atLeast
    have residuePos := residue_pos
    have small := (abs_lt.mp ((Single.isFinite_iff _).mp finite).2).2
    constructor
    · rw [Single.isFinite_iff, stands.2, abs_of_nonneg (by linarith)]
      exact ⟨stands.1, le.trans_lt small⟩
    · rw [stands.2]
      exact le_max_of_le_right le

/-- Once the sum is infinite, taking off what was injected cannot make it finite again. -/
theorem startPeriod_infinite (sound : pump.Sound)
    (infinite : pump.owedAfterCycle.isFinite = false) :
    (pump.startPeriod smoothing).accumulated.isFinite = false := by
  simp only [Pump.startPeriod]
  split
  · rename_i less
    rw [Single.lt_iff] at less
    rcases sound.peakAfterCycle_le with missing | le
    · rw [Single.isNaN_sub_left missing] at less
      simp at less
    · have peakNonneg := Single.nonneg_iff.mp sound.peakAfterCycle_nonneg
      rw [Single.le_iff] at le
      have nonneg : 0.0 ≤ pump.owedAfterCycle :=
        Single.nonneg_iff.mpr ⟨le.2.1, peakNonneg.2.trans le.2.2⟩
      rcases Single.sub_of_infinite nonneg infinite sound.injectedPeak_nonneg with
        missing | largest
      · rw [missing] at less
        simp at less
      · have small : toRat residue < 2 ^ (128 : ℤ) := by decide +kernel
        rw [largest] at less
        linarith [less.2.2]
  · rw [Bool.eq_false_iff] at infinite ⊢
    intro finite
    exact infinite (Single.isFinite_of_sub finite).1

/-- The amount that a cycle leaves is finite if the sum at its end is. -/
theorem isFinite_endCycle (sound : pump.Sound) :
    (pump.endCycle smoothing).accumulated.isFinite = pump.owedAfterCycle.isFinite := by
  rw [Pump.endCycle]
  split
  · cases finite : pump.owedAfterCycle.isFinite with
    | false => exact sound.startPeriod_infinite finite
    | true => exact (sound.startPeriod_le finite).1
  · rfl

end Sound

/-- Amounts far below the largest finite number. -/
structure Within (pump : Pump) : Prop where
  finite : pump.accumulated.isFinite = true
  accumulated_le : toRat pump.accumulated ≤ 2 ^ (127 : ℤ)
  cyclePeak_le : toRat pump.cyclePeak ≤ 2 ^ (103 : ℤ)
  periodPeak_le : toRat pump.periodPeak ≤ 2 ^ (103 : ℤ)

theorem within_idle : Within idle := by
  refine ⟨by decide, ?_, ?_, ?_⟩ <;> simp [idle]

namespace Within

theorem note (within : pump.Within) (sound : pump.Sound) {charge : Float32}
    (weak : charge.isNaN = true ∨ toRat charge ≤ 2 ^ (103 : ℤ)) :
    (pump.note smoothing charge).Within where
  finite := within.finite
  accumulated_le := within.accumulated_le
  cyclePeak_le := by
    have known := (Single.nonneg_iff.mp sound.cyclePeak_nonneg).1
    exact Single.toRat_larger_le weak known within.cyclePeak_le
  periodPeak_le := within.periodPeak_le

theorem peakAfterCycle_le (within : pump.Within) (sound : pump.Sound) :
    toRat pump.peakAfterCycle ≤ 2 ^ (103 : ℤ) := by
  have known := (Single.nonneg_iff.mp sound.periodPeak_nonneg).1
  exact Single.toRat_larger_le (Or.inr within.cyclePeak_le) known within.periodPeak_le

/-- A peak is at most half the distance from the bound to the next number, so it is absorbed. -/
theorem owedAfterCycle_le (within : pump.Within) (sound : pump.Sound) :
    pump.owedAfterCycle.isFinite = true ∧ toRat pump.owedAfterCycle ≤ 2 ^ (127 : ℤ) := by
  have absorbed : Binary.rounded (2 ^ (127 : ℤ) + 2 ^ (103 : ℤ)) = 2 ^ (127 : ℤ) := by
    decide +kernel
  have finite_of_le {x : Float32} (nonneg : 0.0 ≤ x) (le : toRat x ≤ 2 ^ (127 : ℤ)) :
      x.isFinite = true :=
    Single.isFinite_of_nonneg nonneg (le.trans_lt (by norm_num))
  have peakLe := within.peakAfterCycle_le sound
  have peakFinite := finite_of_le sound.peakAfterCycle_nonneg (peakLe.trans (by norm_num))
  have formerFinite := finite_of_le sound.periodPeak_nonneg
    (within.periodPeak_le.trans (by norm_num))
  rcases Single.sub_le_of_nonneg within.finite sound.periodPeak_nonneg with ⟨rest, stands, le⟩
  have restLe : toRat (pump.accumulated - pump.periodPeak) ≤ 2 ^ (127 : ℤ) := by
    rw [stands.2]
    exact le.trans within.accumulated_le
  have restNonneg : 0.0 ≤ pump.accumulated - pump.periodPeak := by
    apply Single.sub_nonneg_of_le within.finite formerFinite
    exact (Single.le_iff.mp (sound.owes.resolve_left
      (Bool.eq_false_iff.mp (Single.standsFor_of_isFinite within.finite).1))).2.2
  have sum := Single.standsFor_add (finite_of_le restNonneg restLe) peakFinite
  have sumLe : toRat pump.owedAfterCycle ≤ 2 ^ (127 : ℤ) := by
    calc toRat pump.owedAfterCycle
        = Binary.rounded (toRat (pump.accumulated - pump.periodPeak) +
            toRat pump.peakAfterCycle) := sum.2
      _ ≤ Binary.rounded (2 ^ (127 : ℤ) + 2 ^ (103 : ℤ)) :=
          Binary.rounded_mono (add_le_add restLe peakLe)
      _ = 2 ^ (127 : ℤ) := absorbed
  refine ⟨finite_of_le ?_ sumLe, sumLe⟩
  rw [Single.nonneg_iff, owedAfterCycle, sum.2]
  refine ⟨sum.1, Binary.rounded_nonneg (add_nonneg ?_ ?_)⟩
  · exact (Single.nonneg_iff.mp restNonneg).2
  · exact (Single.nonneg_iff.mp sound.peakAfterCycle_nonneg).2

theorem endCycle (within : pump.Within) (sound : pump.Sound) :
    (pump.endCycle smoothing).Within := by
  rcases within.owedAfterCycle_le sound with ⟨finite, le⟩
  rw [Pump.endCycle]
  split
  · rcases sound.startPeriod_le finite with ⟨leftFinite, leftLe⟩
    refine ⟨leftFinite, leftLe.trans (max_le (by positivity) le), ?_, ?_⟩ <;>
      simp [startPeriod]
  · refine ⟨finite, le, ?_, within.peakAfterCycle_le sound⟩
    simp

end Within

end Pump

namespace Throttle

variable {channel : Throttle}

/-- All that a tick can do to the pump. -/
theorem pump_tick_cases (channel : Throttle) (reading : Float32) :
    (channel.tick reading).channel.pump = channel.pump ∨
      channel.settings.smoothing.isEnabled = false ∧
        (channel.tick reading).channel.pump = Pump.idle ∨
      ∃ rise, (channel.tick reading).channel.pump =
        channel.pump.note channel.settings.smoothing (channel.charge rise) := by
  rw [tick, compute]
  split
  · exact Or.inl rfl
  · rename_i rise steepest
    simp only [charged]
    split
    · exact Or.inr (Or.inr ⟨rise, rfl⟩)
    · rename_i disabled
      exact Or.inr (Or.inl ⟨Bool.eq_false_iff.mpr disabled, rfl⟩)

theorem sound_tick (sound : channel.pump.Sound) (reading : Float32) :
    (channel.tick reading).channel.pump.Sound :=
  sound_apply (sound_apply sound (.sample reading)) .compute

theorem sound_turn (sound : channel.pump.Sound) (input : Float32 × Bool) :
    (channel.turn input).pump.Sound := by
  have ticked := sound_tick sound input.1
  rw [turn]
  split
  · exact ticked.endCycle
  · exact ticked

/-- Between the ends of cycles nothing is added to what is owed. -/
theorem accumulated_tick
    (empty : channel.settings.smoothing.isEnabled = false → channel.pump.Empty)
    (reading : Float32) :
    (channel.tick reading).channel.pump.accumulated = channel.pump.accumulated := by
  rcases channel.pump_tick_cases reading with same | ⟨disabled, emptied⟩ | ⟨rise, noted⟩
  · rw [same]
  · rw [emptied, (empty disabled).accumulated]
    rfl
  · rw [noted]
    rfl

/-- What is owed is lost when a cycle ends with an infinite sum, and it does not come back. -/
theorem isFinite_turn (sound : channel.pump.Sound)
    (empty : channel.settings.smoothing.isEnabled = false → channel.pump.Empty)
    (input : Float32 × Bool) :
    (channel.turn input).pump.accumulated.isFinite = false ↔
      channel.pump.accumulated.isFinite = false ∨
        input.2 = true ∧ (channel.tick input.1).channel.pump.owedAfterCycle.isFinite = false := by
  have same := accumulated_tick empty input.1
  have ticked := sound_tick sound input.1
  rw [turn]
  split
  · rename_i ends
    change (Pump.endCycle _ _).accumulated.isFinite = false ↔ _
    rw [ticked.isFinite_endCycle, ← same]
    constructor
    · intro infinite
      exact Or.inr ⟨ends, infinite⟩
    · rintro (lost | ⟨_, infinite⟩)
      · rw [Bool.eq_false_iff] at lost ⊢
        intro finite
        exact lost (Pump.isFinite_of_owedAfterCycle finite)
      · exact infinite
  · rename_i runs
    simp [same, runs]

/-- That no charge of the channel comes near the largest finite number. -/
structure Moderate (channel : Throttle) : Prop where
  table_le : ∀ before after, Single.AtMost (2 ^ (103 : ℤ)) (channel.table before after)
  threshold_finite : channel.settings.dropThreshold.isFinite = true
  threshold_nonneg : 0 ≤ toRat channel.settings.dropThreshold
  multiplier_nonneg : 0.0 ≤ channel.settings.dropMultiplier

theorem Moderate.charge_le (moderate : channel.Moderate) (rise : Rise) :
    (channel.charge rise).isNaN = true ∨ toRat (channel.charge rise) ≤ 2 ^ (103 : ℤ) := by
  rw [charge]
  split
  · exact (moderate.table_le _ _).imp_right (le_abs_self _).trans
  · split
    · rename_i drops
      have threshold := Single.standsFor_neg moderate.threshold_finite
      rw [Single.lt_iff, threshold.2] at drops
      have nonneg := moderate.threshold_nonneg
      rcases Single.mul_isNaN_or_nonpos drops.1 (by linarith) moderate.multiplier_nonneg with
        missing | nonpos
      · exact Or.inl missing
      · exact Or.inr (nonpos.trans (by positivity))
    · simp

theorem Moderate.turn (moderate : channel.Moderate) (input : Float32 × Bool) :
    (channel.turn input).Moderate := by
  rw [turn_eq]
  exact ⟨moderate.table_le, moderate.threshold_finite, moderate.threshold_nonneg,
    moderate.multiplier_nonneg⟩

theorem within_tick (moderate : channel.Moderate) (sound : channel.pump.Sound)
    (within : channel.pump.Within) (reading : Float32) :
    (channel.tick reading).channel.pump.Within := by
  rcases channel.pump_tick_cases reading with same | ⟨_, emptied⟩ | ⟨rise, noted⟩
  · rw [same]
    exact within
  · rw [emptied]
    exact Pump.within_idle
  · rw [noted]
    exact within.note sound (moderate.charge_le rise)

theorem within_turn (moderate : channel.Moderate) (sound : channel.pump.Sound)
    (within : channel.pump.Within) (input : Float32 × Bool) :
    (channel.turn input).pump.Within := by
  have ticked := within_tick moderate sound within input.1
  rw [Throttle.turn]
  split
  · exact ticked.endCycle (sound_tick sound input.1)
  · exact ticked

end Throttle

namespace Engine

variable {engine : Engine}

/-- That some cycle of a trace ends with a sum that is not finite. -/
def Overflows (engine : Engine) (trace : List Sample) : Prop :=
  ∃ earlier sample, earlier ++ [sample] <+: trace ∧ sample.cycleEnd = true ∧
    ((engine.after earlier).throttle.tick sample.throttle).channel.pump.owedAfterCycle.isFinite =
      false

theorem overflows_concat {earlier : List Sample} {sample : Sample} :
    engine.Overflows (earlier ++ [sample]) ↔
      engine.Overflows earlier ∨ sample.cycleEnd = true ∧
        ((engine.after earlier).throttle.tick
          sample.throttle).channel.pump.owedAfterCycle.isFinite = false := by
  constructor
  · rintro ⟨past, last, isPast, ends, infinite⟩
    rcases List.prefix_concat_iff.mp isPast with same | before
    · simp only [List.append_singleton_inj] at same
      rcases same with ⟨rfl, rfl⟩
      exact Or.inr ⟨ends, infinite⟩
    · exact Or.inl ⟨past, last, before, ends, infinite⟩
  · rintro (⟨past, last, isPast, ends, infinite⟩ | ⟨ends, infinite⟩)
    · exact ⟨past, last, isPast.trans (List.prefix_append _ _), ends, infinite⟩
    · exact ⟨earlier, sample, List.prefix_rfl, ends, infinite⟩

namespace Fresh

variable (fresh : engine.Fresh)

include fresh

theorem sound_after (trace : List Sample) : (engine.after trace).throttle.pump.Sound := by
  apply engine.after_induction fun _ current => current.throttle.pump.Sound
  · rw [fresh.throttle_eq.2]
    exact Pump.sound_idle
  · intro earlier sample past
    rw [throttle_tick]
    exact Throttle.sound_turn past _

/-- What is owed is lost at the end of a cycle, and it stays lost. -/
theorem isFinite_accumulated_iff (trace : List Sample) :
    (engine.after trace).throttle.pump.accumulated.isFinite = false ↔ engine.Overflows trace := by
  apply engine.after_induction fun trace current =>
    current.throttle.pump.accumulated.isFinite = false ↔ engine.Overflows trace
  · rw [fresh.throttle_eq.2]
    constructor
    · intro infinite
      contradiction
    · rintro ⟨past, last, isPast, _⟩
      simp at isPast
  · intro earlier sample past
    have empty (disabled : (engine.after earlier).throttle.settings.smoothing.isEnabled = false) :
        (engine.after earlier).throttle.pump.Empty := by
      rw [(engine.settings_throttle_after earlier).1] at disabled
      exact fresh.empty_after disabled earlier
    rw [throttle_tick, Throttle.isFinite_turn (fresh.sound_after earlier) empty, past,
      overflows_concat]
    rfl

/-- Moderate charges never lead there, however long the trace is. -/
theorem within_after (moderate : engine.throttle.Moderate) (trace : List Sample) :
    (engine.after trace).throttle.pump.Within := by
  have both : (engine.after trace).throttle.Moderate ∧
      (engine.after trace).throttle.pump.Within := by
    apply engine.after_induction fun _ current =>
      current.throttle.Moderate ∧ current.throttle.pump.Within
    · rw [fresh.throttle_eq.2]
      exact ⟨moderate, Pump.within_idle⟩
    · intro earlier sample past
      rw [throttle_tick]
      exact ⟨past.1.turn _, Throttle.within_turn past.1 (fresh.sound_after earlier) past.2 _⟩
  exact both.2

end Fresh

variable {settings : Settings} {table : Option GridData} {taper : Option CurveData}

/-- Checked settings whose table stays below a very large bound make a moderate channel. -/
theorem moderate_of_build (built : settings.build table taper = .ok engine)
    (valid : settings.check = .ok ()) (multiplier : 0.0 ≤ settings.throttle.dropMultiplier)
    (bounded : ∀ data ∈ settings.tableInForce table, ∀ row ∈ data.values, ∀ value ∈ row,
      |toRat value| ≤ 2 ^ 99) : engine.throttle.Moderate := by
  have checked := ThrottleSettings.checked (Settings.check_eq_ok_iff.mp valid).2.1
  rcases Settings.build_eq_ok_iff.mp built with
    ⟨grid, gridMade, _, _, throttle, throttleMade, _, _, rfl⟩
  rcases Throttle.create_eq_ok throttleMade with ⟨settingsEq, tableEq, _⟩
  change throttle.Moderate
  refine ⟨?_, ?_, ?_, ?_⟩
  · rw [tableEq]
    apply Grid.atMost_lookup
    rw [(Grid.ofData_eq_ok_iff.mp gridMade).2.2.2]
    intro value member
    rcases List.mem_flatten.mp member with ⟨row, rowMember, valueMember⟩
    rw [zpow_ofNat]
    cases inForce : settings.tableInForce table with
    | none =>
        rw [inForce] at rowMember
        have rowEq : row = [0.0] := by simpa [GridData.zero] using rowMember
        have valueEq : value = 0.0 := by simpa [rowEq] using valueMember
        simp [valueEq]
    | some data =>
        rw [inForce] at rowMember
        exact bounded data inForce row rowMember value valueMember
  · rw [settingsEq]
    exact checked.drop_finite
  · rw [settingsEq]
    exact checked.drop_nonneg
  · rw [settingsEq]
    exact multiplier

/--
What the pump owes is lost exactly if some cycle has ended with a sum that is not finite, so it is
missing only after such a cycle, and it stays lost to the end of the trace. Settings that pass their
check do not exclude this. They do if drops take fuel away and the values of the throttle table are
not beyond a very large bound.
-/
theorem accumulated_lost_iff_overflows (built : settings.build table taper = .ok engine)
    (trace : List Sample) :
    let owed := (engine.after trace).throttle.pump.accumulated
    (owed.isFinite = false ↔ engine.Overflows trace) ∧
      (owed.isNaN = true → engine.Overflows trace) ∧
      (settings.check = .ok () → 0.0 ≤ settings.throttle.dropMultiplier →
        (∀ data ∈ settings.tableInForce table, ∀ row ∈ data.values, ∀ value ∈ row,
          |toRat value| ≤ 2 ^ 99) →
        owed.isNaN = false ∧ 0.0 ≤ owed ∧ toRat owed ≤ 2 ^ 127) := by
  have fresh : engine.Fresh := .built built
  have lost := fresh.isFinite_accumulated_iff trace
  refine ⟨lost, ?_, ?_⟩
  · intro missing
    rw [← lost, Bool.eq_false_iff]
    intro finite
    rw [(Single.standsFor_of_isFinite finite).1] at missing
    contradiction
  · intro valid multiplier bounded
    have within := fresh.within_after (moderate_of_build built valid multiplier bounded) trace
    have known := (Single.standsFor_of_isFinite within.finite).1
    refine ⟨known, (fresh.sound_after trace).accumulated_nonneg known, ?_⟩
    exact_mod_cast within.accumulated_le

/-- A table with ordinary values, smoothed, during a rise and a drop. -/
theorem accumulated_known_after_rise :
    let settings : Settings :=
      { throttle := { windowLength := 2, smoothing := ⟨2, 2.0⟩ }
        table := some ⟨[0.0, 50.0], [0.0, 50.0], [[0.0, 4.0], [-1.0, 2.5]]⟩ }
    ∃ engine, settings.build none none = .ok engine ∧
      (engine.after [⟨5.0, 20.0, false⟩, ⟨80.0, 60.0, true⟩,
        ⟨10.0, 40.0, true⟩]).throttle.pump.accumulated.isNaN = false := by
  intro settings
  obtain ⟨engine, built⟩ : ∃ engine, settings.build none none = .ok engine := ⟨_, rfl⟩
  refine ⟨engine, built, ?_⟩
  refine ((accumulated_lost_iff_overflows built _).2.2 ?_ ?_ ?_).1
  · decide +kernel
  · decide
  · decide +kernel

/--
A table value close to the largest finite number. The second charge of this trace makes the sum
infinite, and at the end of the period an infinite share is taken off it.
-/
theorem accumulated_missing_after_overflow :
    let settings : Settings :=
      { throttle := { riseThreshold := 10.0, windowLength := 2, smoothing := ⟨2, 2.0⟩ }
        table := some ⟨[0.0], [0.0], [[3e38]]⟩ }
    let trace : List Sample :=
      [⟨0.0, 0.0, false⟩, ⟨50.0, 0.0, true⟩, ⟨100.0, 0.0, true⟩, ⟨150.0, 0.0, true⟩]
    settings.check = .ok () ∧ (∀ sample ∈ trace, sample.isFinite = true) ∧
      ∃ engine, settings.build none none = .ok engine ∧
        (engine.after trace).throttle.pump.accumulated.isNaN = true := by
  intro settings trace
  have lost : (settings.build none none).toOption.any (fun engine =>
      (engine.after trace).throttle.pump.accumulated.isNaN) = true := by decide +kernel
  refine ⟨by decide +kernel, by decide +kernel, ?_⟩
  cases built : settings.build none none with
  | error report =>
      rw [built] at lost
      contradiction
  | ok engine =>
      rw [built] at lost
      exact ⟨engine, rfl, lost⟩

end Engine
end TransientFuel
