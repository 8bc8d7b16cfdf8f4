import TransientFuel.Proofs.PumpInvariant
import TransientFuel.Proofs.SteepestRise

/-!
# How the pump drains

When no charge comes in, a period takes one share off what the pump owes, however often the
correction is computed in it. The fields of the pump then follow a recurrence with one step for each
period, `Pump.drain`, up to the sign of zero. The invariant behind this is `Pump.Draining`, which
says what the fields stand for anywhere in a period; the runs of a channel are dealt with in
`driven_follows_drain`.
-/

namespace TransientFuel

open Single (StandsFor toRat)
open Binary (rounded)

namespace Pump

/-- What is owed after a period without charges. -/
def drain (smoothing : Smoothing) (owed : Float32) : Float32 :=
  let left := owed - owed / smoothing.share
  if left < residue then 0.0 else left

/-- The amounts that a pump can owe at the start of a period. -/
structure Settled (owed : Float32) : Prop where
  finite : owed.isFinite = true
  settled : toRat owed = 0 ∨ toRat residue ≤ toRat owed

section Amounts

variable (smoothing : Smoothing) {owed : Float32}

theorem residue_pos : 0 < toRat residue := by decide +kernel

theorem settled_zero : Settled 0.0 :=
  ⟨by decide, Or.inl Single.toRat_zero⟩

theorem Settled.stands (settled : Settled owed) : StandsFor owed (toRat owed) :=
  Single.standsFor_of_isFinite settled.finite

theorem Settled.nonneg (settled : Settled owed) : 0 ≤ toRat owed := by
  rcases settled.settled with zero | large
  · exact zero.ge
  · exact residue_pos.le.trans large

/-- A share is at most what it is a share of. -/
theorem Settled.share (settled : Settled owed) :
    StandsFor (owed / smoothing.share) (rounded (toRat owed / toRat smoothing.share)) ∧
      0 ≤ toRat (owed / smoothing.share) ∧ toRat (owed / smoothing.share) ≤ toRat owed := by
  rcases smoothing.share_spec with ⟨shareFinite, shareLarge⟩
  have stands := Single.standsFor_div settled.finite shareFinite (by linarith)
  refine ⟨stands, ?_, ?_⟩
  · rw [stands.2]
    exact Binary.rounded_nonneg (div_nonneg settled.nonneg (by linarith))
  · rw [stands.2]
    calc rounded (toRat owed / toRat smoothing.share) ≤ rounded (toRat owed) :=
          Binary.rounded_mono (div_le_self settled.nonneg shareLarge)
      _ = toRat owed := Single.rounded_toRat settled.finite

theorem Settled.isFinite_of_le {x : Float32} {number : ℚ} (settled : Settled owed)
    (stands : StandsFor x number) (nonneg : 0 ≤ number) (le : number ≤ toRat owed) :
    x.isFinite = true := by
  apply Single.isFinite_of_standsFor stands
  rw [abs_of_nonneg nonneg]
  exact le.trans_lt (abs_lt.mp ((Single.isFinite_iff owed).mp settled.finite).2).2

theorem Settled.share_finite (settled : Settled owed) :
    (owed / smoothing.share).isFinite = true := by
  rcases settled.share smoothing with ⟨stands, nonneg, le⟩
  exact settled.isFinite_of_le ⟨stands.1, rfl⟩ nonneg le

/-- What a share leaves is not negative and not more than before. -/
theorem Settled.sub_share (settled : Settled owed) :
    StandsFor (owed - owed / smoothing.share)
        (rounded (toRat owed - toRat (owed / smoothing.share))) ∧
      0 ≤ toRat (owed - owed / smoothing.share) ∧
      toRat (owed - owed / smoothing.share) ≤ toRat owed := by
  rcases settled.share smoothing with ⟨_, shareNonneg, shareLe⟩
  have stands := Single.standsFor_sub settled.finite (settled.share_finite smoothing)
  refine ⟨stands, ?_, ?_⟩
  · rw [stands.2]
    exact Binary.rounded_nonneg (by linarith)
  · rw [stands.2]
    calc rounded (toRat owed - toRat (owed / smoothing.share)) ≤ rounded (toRat owed) :=
          Binary.rounded_mono (by linarith)
      _ = toRat owed := Single.rounded_toRat settled.finite

theorem Settled.drain (settled : Settled owed) :
    Settled (drain smoothing owed) ∧ toRat (drain smoothing owed) ≤ toRat owed := by
  rcases settled.sub_share smoothing with ⟨stands, nonneg, le⟩
  simp only [Pump.drain]
  split
  · exact ⟨settled_zero, Single.toRat_zero.le.trans settled.nonneg⟩
  · rename_i notLess
    have atLeast := Single.le_of_not_lt stands.1 (by decide) notLess
    exact ⟨⟨settled.isFinite_of_le ⟨stands.1, rfl⟩ nonneg le,
      Or.inr (Single.le_iff.mp atLeast).2.2⟩, le⟩

theorem Settled.iterate_drain (settled : Settled owed) (period : ℕ) :
    Settled ((Pump.drain smoothing)^[period] owed) := by
  induction period with
  | zero => exact settled
  | succ period inductionHypothesis =>
      rw [Function.iterate_succ_apply']
      exact (inductionHypothesis.drain smoothing).1

end Amounts

/--
The fields of a pump that gets no charges, anywhere in a period. Of the period's share, the part
`injected` has been noted; the period's peak is zero or, when the period began with a charge, that
charge.
-/
structure Draining (pump : Pump) (smoothing : Smoothing) (owed : Float32) (injected : ℚ)
    (left : ℤ) : Prop where
  settled : Settled owed
  accumulated : StandsFor pump.accumulated (toRat owed)
  cyclePeak : StandsFor pump.cyclePeak 0
  periodPeak : StandsFor pump.periodPeak 0 ∨ StandsFor pump.periodPeak (toRat owed)
  injectedPeak : StandsFor pump.injectedPeak injected
  injected_le : injected ≤ toRat (owed / smoothing.share)
  countdown : pump.countdown = left

/-- The fields of a pump at the end of a cycle, after which some amount is owed. -/
structure Closing (pump : Pump) (smoothing : Smoothing) (owed : Float32) (injected : ℚ)
    (left : ℤ) : Prop where
  settled : Settled owed
  owes : StandsFor pump.owedAfterCycle (toRat owed)
  peak : StandsFor pump.peakAfterCycle 0 ∨ StandsFor pump.peakAfterCycle (toRat owed)
  injectedPeak : StandsFor pump.injectedPeak injected
  injected_le : injected ≤ toRat (owed / smoothing.share)
  countdown : pump.countdown = left

namespace Draining

variable {pump : Pump} {smoothing : Smoothing} {owed charge : Float32} {injected : ℚ} {left : ℤ}

/-- What is injected of a charge that does not count is the share of what is owed. -/
theorem injection (draining : pump.Draining smoothing owed injected left)
    (weak : charge.isNaN = true ∨ charge ≤ 0.0) :
    StandsFor (pump.injection smoothing charge) (toRat (owed / smoothing.share)) := by
  rcases smoothing.share_spec with ⟨shareFinite, shareLarge⟩
  have larger :=
    Single.standsFor_larger_of_nonpos weak draining.accumulated draining.settled.nonneg
  exact larger.div draining.settled.finite shareFinite (by linarith)

theorem dose (draining : pump.Draining smoothing owed injected left)
    (weak : charge.isNaN = true ∨ charge ≤ 0.0) (fits : smoothing.period < 2 ^ 31) :
    StandsFor (pump.dose smoothing charge)
      (toRat (owed / smoothing.share / Float32.ofInt smoothing.cycles)) := by
  rcases smoothing.ofInt_cycles_spec fits with ⟨cyclesFinite, cyclesLarge⟩
  exact (draining.injection weak).div (draining.settled.share_finite smoothing) cyclesFinite
    (by linarith)

/-- However often it is noted, the share of a period counts once. -/
theorem note (draining : pump.Draining smoothing owed injected left)
    (weak : charge.isNaN = true ∨ charge ≤ 0.0) :
    (pump.note smoothing charge).Draining smoothing owed (toRat (owed / smoothing.share)) left where
  settled := draining.settled
  accumulated := draining.accumulated
  cyclePeak := Single.standsFor_larger_of_nonpos weak draining.cyclePeak le_rfl
  periodPeak := draining.periodPeak
  injectedPeak :=
    Single.standsFor_larger_of_ge (draining.injection weak) draining.injectedPeak
      draining.injected_le
  injected_le := le_rfl
  countdown := draining.countdown

/-- With nothing noted in the cycle, the period keeps its peak. -/
theorem peakAfterCycle {peak : ℚ} (draining : pump.Draining smoothing owed injected left)
    (stands : StandsFor pump.periodPeak peak) (nonneg : 0 ≤ peak) :
    StandsFor pump.peakAfterCycle peak :=
  Single.standsFor_larger_of_le draining.cyclePeak stands nonneg

/-- The period's peak is taken off and put on again, both without rounding. -/
theorem owedAfterCycle (draining : pump.Draining smoothing owed injected left) :
    StandsFor pump.owedAfterCycle (toRat owed) := by
  have settled := draining.settled
  have nonneg := settled.nonneg
  have owedFinite := settled.isFinite_of_le draining.accumulated nonneg le_rfl
  obtain ⟨peak, peakStands, peakNonneg, peakLe, exactly⟩ : ∃ peak,
      StandsFor pump.periodPeak peak ∧ 0 ≤ peak ∧ peak ≤ toRat owed ∧
        rounded (toRat owed - peak) = toRat owed - peak := by
    rcases draining.periodPeak with none | full
    · exact ⟨_, none, le_rfl, nonneg, by rw [sub_zero, Single.rounded_toRat settled.finite]⟩
    · exact ⟨_, full, nonneg, le_rfl, by rw [sub_self, Binary.rounded_zero]⟩
  have rest := Single.standsFor_sub owedFinite
    (settled.isFinite_of_le peakStands peakNonneg peakLe)
  rw [draining.accumulated.2, peakStands.2, exactly] at rest
  have newPeak := draining.peakAfterCycle peakStands peakNonneg
  have sum := Single.standsFor_add (settled.isFinite_of_le rest (by linarith) (by linarith))
    (settled.isFinite_of_le newPeak peakNonneg peakLe)
  rw [rest.2, newPeak.2, sub_add_cancel, Single.rounded_toRat settled.finite] at sum
  exact sum

theorem closing (draining : pump.Draining smoothing owed injected left) :
    pump.Closing smoothing owed injected left where
  settled := draining.settled
  owes := draining.owedAfterCycle
  peak := draining.periodPeak.imp (draining.peakAfterCycle · le_rfl)
    (draining.peakAfterCycle · draining.settled.nonneg)
  injectedPeak := draining.injectedPeak
  injected_le := draining.injected_le
  countdown := draining.countdown

end Draining

namespace Closing

variable {pump : Pump} {smoothing : Smoothing} {owed : Float32} {injected : ℚ} {left : ℤ}

theorem endCycle_of_more (closing : pump.Closing smoothing owed injected left) (more : 1 < left) :
    (pump.endCycle smoothing).Draining smoothing owed injected (left - 1) := by
  have running : ¬pump.countdown - 1 ≤ 0 := by
    rw [closing.countdown]
    omega
  rw [endCycle, if_neg running]
  exact {
    settled := closing.settled
    accumulated := closing.owes
    cyclePeak := Single.standsFor_zero
    periodPeak := closing.peak
    injectedPeak := closing.injectedPeak
    injected_le := closing.injected_le
    countdown := by rw [closing.countdown] }

/-- The last cycle of a period takes the share off. -/
theorem endCycle_of_last
    (closing : pump.Closing smoothing owed (toRat (owed / smoothing.share)) left)
    (last : left ≤ 1) :
    (pump.endCycle smoothing).Draining smoothing (drain smoothing owed) 0 smoothing.cycles := by
  have ending : pump.countdown - 1 ≤ 0 := by
    rw [closing.countdown]
    omega
  have drained := (closing.settled.drain smoothing).1
  have rest : StandsFor (pump.owedAfterCycle - pump.injectedPeak)
      (toRat (owed - owed / smoothing.share)) :=
    closing.owes.sub closing.settled.finite closing.injectedPeak
      (closing.settled.share_finite smoothing)
  have restKnown := (closing.settled.sub_share smoothing).1.1
  rw [endCycle, if_pos ending]
  exact {
    settled := drained
    accumulated := by
      have same : pump.owedAfterCycle - pump.injectedPeak < residue ↔
          owed - owed / smoothing.share < residue := by
        rw [Single.lt_iff, Single.lt_iff, rest.1, rest.2, restKnown]
      simp only [startPeriod, drain, same]
      split
      · exact ⟨by decide, rfl⟩
      · exact rest
    cyclePeak := Single.standsFor_zero
    periodPeak := Or.inl Single.standsFor_zero
    injectedPeak := Single.standsFor_zero
    injected_le := (drained.share smoothing).2.1
    countdown := rfl }

end Closing

/-- A pump whose period has just begun. -/
structure Started (pump : Pump) (smoothing : Smoothing) : Prop where
  cyclePeak : pump.cyclePeak == 0.0
  periodPeak : pump.periodPeak == 0.0
  injectedPeak : pump.injectedPeak == 0.0
  countdown : pump.countdown = smoothing.cycles
  finite : pump.accumulated.isFinite = true
  owes : pump.accumulated == 0.0 ∨ residue ≤ pump.accumulated

theorem Started.draining {pump : Pump} {smoothing : Smoothing} (started : pump.Started smoothing) :
    pump.Draining smoothing pump.accumulated 0 smoothing.cycles := by
  have zero {x : Float32} (isZero : x == 0.0) : StandsFor x 0 := by
    rw [Single.beq_iff, Single.toRat_zero] at isZero
    exact ⟨isZero.1, isZero.2.2⟩
  have settled : Settled pump.accumulated :=
    ⟨started.finite, started.owes.imp (fun isZero => (zero isZero).2)
      (fun large => (Single.le_iff.mp large).2.2)⟩
  exact {
    settled
    accumulated := settled.stands
    cyclePeak := zero started.cyclePeak
    periodPeak := Or.inl (zero started.periodPeak)
    injectedPeak := zero started.injectedPeak
    injected_le := (settled.share smoothing).2.1
    countdown := started.countdown }

end Pump

namespace Throttle

/-- A reading followed by the correction for it. -/
def tick (channel : Throttle) (reading : Float32) : Answer Throttle :=
  (channel.sample reading).compute

/-- The channel after some ticks within one engine cycle. -/
def ticked (channel : Throttle) (readings : List Float32) : Throttle :=
  readings.foldl (fun channel reading => (channel.tick reading).channel) channel

/-- The channel after an engine cycle with these ticks. -/
def cycled (channel : Throttle) (readings : List Float32) : Throttle :=
  (channel.ticked readings).endCycle

/-- The channel after engine cycles with these ticks. -/
def driven (channel : Throttle) (cycles : List (List Float32)) : Throttle :=
  cycles.foldl cycled channel

/-- A reading that calls for no fuel, once there are two to compare. -/
def Quiet (channel : Throttle) (reading : Float32) : Prop :=
  let sampled := channel.sample reading
  2 ≤ sampled.window.count ∧ ∀ rise ∈ sampled.window.steepest?,
    (sampled.charge rise).isNaN = true ∨ sampled.charge rise ≤ 0.0

/-- Ticks none of which calls for fuel. -/
def QuietTicks (channel : Throttle) (readings : List Float32) : Prop :=
  ∀ (index : ℕ) (inside : index < readings.length),
    (channel.ticked (readings.take index)).Quiet (readings.get ⟨index, inside⟩)

/-- Engine cycles with at least one tick each, none of which calls for fuel. -/
def QuietCycles (channel : Throttle) (cycles : List (List Float32)) : Prop :=
  ∀ (index : ℕ) (inside : index < cycles.length),
    cycles.get ⟨index, inside⟩ ≠ [] ∧
      (channel.driven (cycles.take index)).QuietTicks (cycles.get ⟨index, inside⟩)

instance (channel : Throttle) (reading : Float32) : Decidable (channel.Quiet reading) :=
  inferInstanceAs (Decidable (_ ∧ ∀ rise ∈ (channel.sample reading).window.steepest?, _ ∨ _))

instance (channel : Throttle) (readings : List Float32) :
    Decidable (channel.QuietTicks readings) :=
  inferInstanceAs (Decidable (∀ index (_ : index < readings.length), Quiet _ _))

instance (channel : Throttle) (cycles : List (List Float32)) :
    Decidable (channel.QuietCycles cycles) :=
  inferInstanceAs (Decidable (∀ index (_ : index < cycles.length), _ ∧ QuietTicks _ _))

section Settings

variable (channel : Throttle)

/-- A tick changes the window and the pump only. -/
theorem tick_channel (reading : Float32) :
    (channel.tick reading).channel =
      { channel.sample reading with pump := (channel.tick reading).channel.pump } := by
  rw [tick, compute]
  split <;> rfl

@[simp]
theorem settings_tick (reading : Float32) :
    (channel.tick reading).channel.settings = channel.settings := by
  rw [tick_channel]
  rfl

@[simp]
theorem settings_ticked (readings : List Float32) :
    (channel.ticked readings).settings = channel.settings := by
  induction readings generalizing channel with
  | nil => rfl
  | cons reading rest inductionHypothesis =>
      exact (inductionHypothesis _).trans (channel.settings_tick reading)

@[simp]
theorem settings_cycled (readings : List Float32) :
    (channel.cycled readings).settings = channel.settings :=
  channel.settings_ticked readings

@[simp]
theorem settings_driven (cycles : List (List Float32)) :
    (channel.driven cycles).settings = channel.settings := by
  induction cycles generalizing channel with
  | nil => rfl
  | cons readings rest inductionHypothesis =>
      exact (inductionHypothesis _).trans (channel.settings_cycled readings)

end Settings

/-- With smoothing, the pump gets what the steepest rise calls for. -/
theorem tick_of_rise {channel : Throttle} {reading : Float32} {rise : Rise}
    (enabled : channel.settings.smoothing.isEnabled = true)
    (steepest : (channel.sample reading).window.steepest? = some rise) :
    (channel.tick reading).channel.pump =
        channel.pump.note channel.settings.smoothing ((channel.sample reading).charge rise) ∧
      (channel.tick reading).correction =
        channel.pump.dose channel.settings.smoothing ((channel.sample reading).charge rise) := by
  rw [tick, compute, steepest]
  simp only [charged, injected]
  exact ⟨if_pos enabled, if_pos enabled⟩

theorem ticked_concat (channel : Throttle) (earlier : List Float32) (reading : Float32) :
    channel.ticked (earlier ++ [reading]) = ((channel.ticked earlier).tick reading).channel := by
  rw [ticked, List.foldl_concat, ticked]

theorem driven_concat (channel : Throttle) (earlier : List (List Float32))
    (readings : List Float32) :
    channel.driven (earlier ++ [readings]) = (channel.driven earlier).cycled readings := by
  rw [driven, List.foldl_concat, driven]

theorem QuietTicks.of_concat {channel : Throttle} {earlier : List Float32} {reading : Float32}
    (quiet : channel.QuietTicks (earlier ++ [reading])) :
    channel.QuietTicks earlier ∧ (channel.ticked earlier).Quiet reading := by
  constructor
  · intro index inside
    have result := quiet index (by simp; omega)
    simpa [List.take_append_of_le_length inside.le, List.getElem_append_left inside] using result
  · simpa using quiet earlier.length (by simp)

theorem QuietCycles.of_concat {channel : Throttle} {earlier : List (List Float32)}
    {readings : List Float32} (quiet : channel.QuietCycles (earlier ++ [readings])) :
    channel.QuietCycles earlier ∧ readings ≠ [] ∧
      (channel.driven earlier).QuietTicks readings := by
  constructor
  · intro index inside
    have result := quiet index (by simp; omega)
    simpa [List.take_append_of_le_length inside.le, List.getElem_append_left inside] using result
  · simpa using quiet earlier.length (by simp)

/-- A channel with smoothing whose pump gets no charges. -/
structure Drains (channel : Throttle) (owed : Float32) (injected : ℚ) (left : ℤ) : Prop where
  enabled : channel.settings.smoothing.isEnabled = true
  pump : channel.pump.Draining channel.settings.smoothing owed injected left

namespace Drains

variable {channel : Throttle} {owed : Float32} {injected : ℚ} {left : ℤ}

/-- A quiet tick hands the pump a charge that does not count. -/
theorem tick_eq {reading : Float32} (drains : channel.Drains owed injected left)
    (quiet : channel.Quiet reading) :
    ∃ charge : Float32, (charge.isNaN = true ∨ charge ≤ 0.0) ∧
      (channel.tick reading).channel.pump =
        channel.pump.note channel.settings.smoothing charge ∧
      (channel.tick reading).correction = channel.pump.dose channel.settings.smoothing charge := by
  rcases quiet with ⟨enough, weak⟩
  obtain ⟨rise, steepest⟩ := Option.isSome_iff_exists.mp (Window.isSome_steepest?_iff.mpr enough)
  exact ⟨_, weak rise steepest, tick_of_rise drains.enabled steepest⟩

theorem tick {reading : Float32} (drains : channel.Drains owed injected left)
    (quiet : channel.Quiet reading) :
    (channel.tick reading).channel.Drains owed
      (toRat (owed / channel.settings.smoothing.share)) left := by
  rcases drains.tick_eq quiet with ⟨charge, weak, pumpEq, _⟩
  refine ⟨by simpa using drains.enabled, ?_⟩
  rw [pumpEq, settings_tick]
  exact drains.pump.note weak

theorem correction {reading : Float32} (drains : channel.Drains owed injected left)
    (quiet : channel.Quiet reading) (fits : channel.settings.smoothing.period < 2 ^ 31) :
    StandsFor (channel.tick reading).correction
      (toRat (owed / channel.settings.smoothing.share /
        Float32.ofInt channel.settings.smoothing.cycles)) := by
  rcases drains.tick_eq quiet with ⟨charge, weak, _, correctionEq⟩
  rw [correctionEq]
  exact drains.pump.dose weak fits

/-- One or more quiet ticks note the period's share, and no tick changes what is owed. -/
theorem ticked {readings : List Float32} (drains : channel.Drains owed injected left)
    (quiet : channel.QuietTicks readings) :
    ∃ noted, (channel.ticked readings).Drains owed noted left ∧
      (readings ≠ [] → noted = toRat (owed / channel.settings.smoothing.share)) := by
  induction readings using List.reverseRecOn with
  | nil => exact ⟨injected, drains, fun nonempty => absurd rfl nonempty⟩
  | append_singleton earlier reading inductionHypothesis =>
      rcases quiet.of_concat with ⟨quietEarlier, quietReading⟩
      rcases inductionHypothesis quietEarlier with ⟨noted, drainsEarlier, _⟩
      rw [ticked_concat]
      exact ⟨_, drainsEarlier.tick quietReading, fun _ => by rw [settings_ticked]⟩

/-- A cycle that is not the last one of its period leaves what is owed. -/
theorem cycled_of_more {readings : List Float32} (drains : channel.Drains owed injected left)
    (nonempty : readings ≠ []) (quiet : channel.QuietTicks readings) (more : 1 < left) :
    (channel.cycled readings).Drains owed
      (toRat (owed / channel.settings.smoothing.share)) (left - 1) := by
  rcases drains.ticked quiet with ⟨noted, drainsTicked, notedEq⟩
  rw [notedEq nonempty] at drainsTicked
  exact ⟨drainsTicked.enabled, drainsTicked.pump.closing.endCycle_of_more more⟩

/-- The last cycle of a period takes the share off. -/
theorem cycled_of_last {readings : List Float32} (drains : channel.Drains owed injected left)
    (nonempty : readings ≠ []) (quiet : channel.QuietTicks readings) (last : left ≤ 1) :
    (channel.cycled readings).Drains (Pump.drain channel.settings.smoothing owed) 0
      channel.settings.smoothing.cycles := by
  rcases drains.ticked quiet with ⟨noted, drainsTicked, notedEq⟩
  rw [notedEq nonempty, ← settings_ticked channel readings] at drainsTicked
  have ended := drainsTicked.pump.closing.endCycle_of_last last
  refine ⟨drainsTicked.enabled, ?_⟩
  rw [← settings_ticked channel readings]
  exact ended

/-- The state of the pump after whole periods and some cycles of the next one. -/
theorem driven {finished : List (List Float32)} {period elapsed : ℕ}
    (drains : channel.Drains owed 0 channel.settings.smoothing.cycles)
    (quiet : channel.QuietCycles finished)
    (length : finished.length = elapsed + channel.settings.smoothing.cycles.toNat * period)
    (inside : elapsed < channel.settings.smoothing.cycles.toNat) :
    ∃ noted, (channel.driven finished).Drains
      ((Pump.drain channel.settings.smoothing)^[period] owed) noted
      (channel.settings.smoothing.cycles - elapsed) := by
  induction finished using List.reverseRecOn generalizing period elapsed with
  | nil =>
      rw [List.length_nil] at length
      obtain rfl : elapsed = 0 := by omega
      have none : channel.settings.smoothing.cycles.toNat * period = 0 := by omega
      obtain rfl : period = 0 := (Nat.mul_eq_zero.mp none).resolve_left (by omega)
      refine ⟨0, ?_⟩
      rw [Nat.cast_zero, sub_zero]
      exact drains
  | append_singleton earlier readings inductionHypothesis =>
      rcases quiet.of_concat with ⟨quietEarlier, nonempty, quietReadings⟩
      rw [List.length_append, List.length_singleton] at length
      rw [driven_concat]
      cases elapsed with
      | zero =>
          -- A new period begins, so the cycle was the last one of the period before.
          obtain ⟨before, rfl⟩ : ∃ before, period = before + 1 :=
            Nat.exists_eq_succ_of_ne_zero (by rintro rfl; simp at length)
          have lengthEarlier : earlier.length =
              (channel.settings.smoothing.cycles.toNat - 1) +
                channel.settings.smoothing.cycles.toNat * before := by
            rw [Nat.mul_succ] at length
            omega
          rcases inductionHypothesis quietEarlier lengthEarlier (by omega) with
            ⟨noted, drainsEarlier⟩
          have ended := drainsEarlier.cycled_of_last nonempty quietReadings (by omega)
          rw [settings_driven] at ended
          refine ⟨0, ?_⟩
          rw [Function.iterate_succ_apply', Nat.cast_zero, sub_zero]
          exact ended
      | succ elapsed =>
          have lengthEarlier : earlier.length =
              elapsed + channel.settings.smoothing.cycles.toNat * period := by
            omega
          rcases inductionHypothesis quietEarlier lengthEarlier (by omega) with
            ⟨noted, drainsEarlier⟩
          have ended := drainsEarlier.cycled_of_more nonempty quietReadings (by omega)
          rw [Nat.cast_succ, ← sub_sub]
          exact ⟨_, ended⟩

end Drains

/--
Take a channel with smoothing whose period has just begun, and any run in which no tick calls for
fuel: some finished cycles of one or more ticks each, and some ticks of a cycle that has begun. Then
what is owed is given by as many steps of the recurrence as there are finished periods, and the next
tick that calls for no fuel gets an even part of the share of that. The amounts of the recurrence do
not grow, and each of them is zero or at least the residue.
-/
theorem driven_follows_drain {channel : Throttle} {finished : List (List Float32)}
    {started : List Float32} (enabled : channel.settings.smoothing.isEnabled = true)
    (fits : channel.settings.smoothing.period < 2 ^ 31)
    (begun : channel.pump.Started channel.settings.smoothing)
    (quiet : channel.QuietCycles finished)
    (quietStarted : (channel.driven finished).QuietTicks started) :
    let smoothing := channel.settings.smoothing
    let owed := fun period => (Pump.drain smoothing)^[period] channel.pump.accumulated
    let period := finished.length / smoothing.cycles.toNat
    let now := (channel.driven finished).ticked started
    now.pump.accumulated == owed period ∧
      (∀ reading, now.Quiet reading → (now.tick reading).correction ==
        owed period / smoothing.share / Float32.ofInt smoothing.cycles) ∧
      ∀ period, owed (period + 1) ≤ owed period ∧
        (owed period == 0.0 ∨ Pump.residue ≤ owed period) := by
  intro smoothing owed period now
  have cyclesPos : 0 < smoothing.cycles.toNat := by
    have := smoothing.one_le_cycles
    omega
  have settled (period : ℕ) : Pump.Settled (owed period) :=
    begun.draining.settled.iterate_drain smoothing period
  have known (period : ℕ) : (owed period).isNaN = false := (settled period).stands.1
  rcases Drains.driven ⟨enabled, begun.draining⟩ quiet (Nat.mod_add_div _ _).symm
    (Nat.mod_lt _ cyclesPos) with ⟨_, drainsFinished⟩
  rcases drainsFinished.ticked quietStarted with ⟨_, drainsNow, _⟩
  refine ⟨Single.beq_of_standsFor drainsNow.pump.accumulated (known period), ?_, ?_⟩
  · intro reading quietReading
    rcases smoothing.ofInt_cycles_spec fits with ⟨cyclesFinite, cyclesLarge⟩
    have correction := drainsNow.correction quietReading (by simpa using fits)
    rw [settings_ticked, settings_driven] at correction
    exact Single.beq_of_standsFor correction
      (Single.standsFor_div ((settled period).share_finite smoothing) cyclesFinite (by linarith)).1
  · intro period
    have step : owed (period + 1) = Pump.drain smoothing (owed period) :=
      Function.iterate_succ_apply' _ _ _
    have smaller := ((settled period).drain smoothing).2
    rw [← step] at smaller
    refine ⟨Single.le_iff.mpr ⟨known _, known _, smaller⟩, ?_⟩
    rcases (settled period).settled with zero | large
    · exact Or.inl (Single.beq_iff.mpr ⟨known period, by decide, by rw [zero, Single.toRat_zero]⟩)
    · exact Or.inr (Single.le_iff.mpr ⟨by decide, known period, large⟩)

/-- The throttle is closed in the first of three cycles, with two cycles to a period. -/
theorem drained_after_period :
    let channel : Throttle :=
      { settings := { smoothing := ⟨2, 2.0⟩ }
        table := fun _ _ => 8.0
        window := (Window.empty.push 50.0).push 50.0
        pump := ⟨8.0, 0.0, 0.0, 0.0, 2⟩
        observed := false }
    channel.QuietCycles [[50.0, 20.0], [20.0], [20.0]] ∧
      ((channel.driven [[50.0, 20.0], [20.0], [20.0]]).ticked [20.0]).pump.accumulated ==
        (Pump.drain ⟨2, 2.0⟩)^[1] 8.0 := by
  have quiet : QuietCycles ⟨{ smoothing := ⟨2, 2.0⟩ }, fun _ _ => 8.0,
      (Window.empty.push 50.0).push 50.0, ⟨8.0, 0.0, 0.0, 0.0, 2⟩, false⟩
      [[50.0, 20.0], [20.0], [20.0]] := by
    decide +kernel
  refine ⟨quiet, (driven_follows_drain (by decide) (by decide) ?_ quiet (by decide +kernel)).1⟩
  exact ⟨by decide, by decide, by decide, rfl, by decide, Or.inr (by decide)⟩

end Throttle
end TransientFuel
