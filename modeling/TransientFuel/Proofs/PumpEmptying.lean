import TransientFuel.Proofs.PumpOverflow
import TransientFuel.Proofs.SteepestRise
import TransientFuel.Proofs.StuckAmounts

/-!
# Whether the pump is emptied

While the throttle is held still, nothing is added to what the pump owes, and each period takes a
share off. The period that is running ends after as many cycles as its countdown says, and from then
on the pump follows the recurrence of `PumpDrain`. So it is emptied unless the sum overflows before
that, or the recurrence comes to a stuck amount: `replay_empties_iff`.
-/

namespace TransientFuel

open Single (StandsFor toRat)

theorem Pump.started_startPeriod {pump : Pump} {smoothing : Smoothing}
    (finite : (pump.startPeriod smoothing).accumulated.isFinite = true) :
    (pump.startPeriod smoothing).Started smoothing := by
  have zero : (0.0 : Float32) == 0.0 := by decide
  refine ⟨zero, zero, zero, rfl, finite, ?_⟩
  have known := (Single.standsFor_of_isFinite finite).1
  simp only [startPeriod] at known ⊢
  split at known
  · left
    rename_i less
    simp only [if_pos less, zero]
  · right
    rename_i notLess
    rw [if_neg notLess]
    exact Single.le_of_not_lt known (by decide) notLess

namespace Throttle

variable {channel : Throttle} {reading : Float32}

theorem sound_replay {settings : ThrottleSettings} {table : Float32 → Float32 → Float32}
    {start : Throttle} (created : create settings table = .ok start)
    (operations : List (Operation ThrottleSettings)) :
    (replay apply start operations).1.pump.Sound := by
  apply replay_induction fun _ (channel : Throttle) => channel.pump.Sound
  · rw [(create_eq_ok created).2.2.1]
    exact Pump.sound_idle
  · intro earlier operation past
    exact sound_apply past operation

/-- That the window, with one more reading, holds that reading over and over. -/
structure Level (channel : Throttle) (reading : Float32) : Prop where
  finite : reading.isFinite = true
  enough : 2 ≤ (channel.sample reading).window.count
  same : ∀ held ∈ (channel.sample reading).window.toList, held == reading

/--
That idle cycles with this reading lead to a point from which on the pump owes nothing and injects
nothing.
-/
def Empties (channel : Throttle) (reading : Float32) : Prop :=
  ∃ count, ∀ later, count ≤ later →
    (channel.stepped (List.replicate later reading)).pump.accumulated == 0.0 ∧
      ((channel.stepped (List.replicate later reading)).tick reading).correction == 0.0

namespace Level

theorem cycled (level : channel.Level reading) : (channel.cycled [reading]).Level reading := by
  have windowEq : ((channel.cycled [reading]).sample reading).window =
      (channel.sample reading).window.push reading := by
    simp only [sample, window_cycled]
  refine ⟨level.finite, ?_, ?_⟩
  · have enough := level.enough
    simp only [windowEq, Window.push]
    split <;> omega
  · intro held member
    rw [windowEq, Window.toList_push] at member
    rcases List.mem_cons.mp (List.mem_of_mem_take member) with rfl | older
    · exact Single.beq_of_standsFor (Single.standsFor_of_isFinite level.finite)
        (Single.standsFor_of_isFinite level.finite).1
    · exact level.same held older

/-- Where all readings are the same, there is no rise. -/
theorem charge_eq (level : channel.Level reading) (checked : channel.settings.Checked)
    {rise : Rise} (steepest : (channel.sample reading).window.steepest? = some rise) :
    (channel.sample reading).charge rise = 0.0 := by
  have found := (Window.steepestIn_of_steepest? steepest).found
  have after := level.same _ (List.mem_of_getElem? found.1)
  have before := level.same _ (List.mem_of_getElem? found.2)
  apply charge_of_level checked
  right
  have delta := Single.standsFor_sub (Single.isFinite_of_beq after level.finite)
    (Single.isFinite_of_beq before level.finite)
  rw [(Single.beq_iff.mp after).2.2, (Single.beq_iff.mp before).2.2, sub_self,
    Binary.rounded_zero] at delta
  exact delta

end Level

/-- A channel with checked settings and smoothing whose throttle is held still. -/
structure Idles (channel : Throttle) (reading : Float32) : Prop where
  checked : channel.settings.Checked
  enabled : channel.settings.smoothing.isEnabled = true
  sound : channel.pump.Sound
  level : channel.Level reading

/-- The idle cycles before the period that is running ends. -/
def cyclesLeft (channel : Throttle) : ℕ :=
  (max channel.pump.countdown 1).toNat

/-- What the pump owes at the end of the period that is running, with idle cycles up to then. -/
def owedNext (channel : Throttle) (reading : Float32) : Float32 :=
  (channel.stepped (List.replicate channel.cyclesLeft reading)).pump.accumulated

theorem stepped_replicate_add (channel : Throttle) (reading : Float32) (earlier later : ℕ) :
    channel.stepped (List.replicate (earlier + later) reading) =
      (channel.stepped (List.replicate earlier reading)).stepped
        (List.replicate later reading) := by
  rw [List.replicate_add, stepped_append]

/-- It does not matter how many idle cycles have passed already. -/
theorem empties_stepped_iff (passed : ℕ) :
    (channel.stepped (List.replicate passed reading)).Empties reading ↔
      channel.Empties reading := by
  simp only [Empties, ← stepped_replicate_add]
  constructor
  · rintro ⟨count, empty⟩
    refine ⟨passed + count, ?_⟩
    intro later enough
    have result := empty (later - passed) (by omega)
    rw [Nat.add_sub_cancel' (by omega)] at result
    exact result
  · rintro ⟨count, empty⟩
    refine ⟨count, ?_⟩
    intro later enough
    exact empty (passed + later) (by omega)

namespace Idles

theorem tick_pump (idles : channel.Idles reading) :
    (channel.tick reading).channel.pump =
      channel.pump.note channel.settings.smoothing 0.0 := by
  rcases Option.isSome_iff_exists.mp (Window.isSome_steepest?_iff.mpr idles.level.enough) with
    ⟨rise, steepest⟩
  rw [(tick_of_rise idles.enabled steepest).1, idles.level.charge_eq idles.checked steepest]

theorem quiet (idles : channel.Idles reading) : channel.Quiet reading := by
  refine ⟨idles.level.enough, ?_⟩
  intro rise steepest
  right
  rw [idles.level.charge_eq idles.checked steepest]
  exact Single.zero_nonneg

theorem pump_cycled (idles : channel.Idles reading) :
    (channel.cycled [reading]).pump =
      (channel.pump.note channel.settings.smoothing 0.0).endCycle channel.settings.smoothing := by
  change ((channel.tick reading).channel.endCycle).pump = _
  rw [endCycle, settings_tick, idles.tick_pump]

theorem cycled (idles : channel.Idles reading) : (channel.cycled [reading]).Idles reading where
  checked := by simpa using idles.checked
  enabled := by simpa using idles.enabled
  sound := by
    rw [idles.pump_cycled]
    exact (idles.sound.note _).endCycle
  level := idles.level.cycled

theorem stepped (idles : channel.Idles reading) (count : ℕ) :
    (channel.stepped (List.replicate count reading)).Idles reading := by
  induction count generalizing channel with
  | zero => exact idles
  | succ count inductionHypothesis => exact inductionHypothesis idles.cycled

theorem quietCycles (idles : channel.Idles reading) (count : ℕ) :
    channel.QuietCycles ((List.replicate count reading).map fun reading => [reading]) := by
  intro index inside
  have quiet := (idles.stepped index).quiet
  simp only [List.length_map, List.length_replicate] at inside
  simp only [List.get_eq_getElem, List.getElem_map, List.getElem_replicate, ← List.map_take,
    List.take_replicate, Nat.min_eq_left inside.le]
  refine ⟨List.cons_ne_nil _ _, ?_⟩
  intro position first
  obtain rfl : position = 0 := by simpa using first
  exact quiet

/-- What holds of the pump and survives an idle cycle holds after all of them. -/
theorem pump_stepped (idles : channel.Idles reading) (Holds : Pump → Prop)
    (atStart : Holds channel.pump)
    (afterCycle : ∀ pump : Pump, pump.Sound → Holds pump → Holds
      ((pump.note channel.settings.smoothing 0.0).endCycle channel.settings.smoothing))
    (count : ℕ) : Holds (channel.stepped (List.replicate count reading)).pump := by
  induction count with
  | zero => exact atStart
  | succ count inductionHypothesis =>
      have current := idles.stepped count
      rw [stepped_replicate_add]
      change Holds (Throttle.cycled _ [reading]).pump
      rw [current.pump_cycled, settings_stepped]
      exact afterCycle _ current.sound inductionHypothesis

theorem infinite_stepped (idles : channel.Idles reading)
    (infinite : channel.pump.accumulated.isFinite = false) (count : ℕ) :
    (channel.stepped (List.replicate count reading)).pump.accumulated.isFinite = false := by
  refine idles.pump_stepped (fun pump => pump.accumulated.isFinite = false) infinite ?_ count
  intro pump sound lost
  rw [(sound.note 0.0).isFinite_endCycle, Bool.eq_false_iff]
  intro finite
  have kept := Pump.isFinite_of_owedAfterCycle finite
  change pump.accumulated.isFinite = true at kept
  rw [lost] at kept
  contradiction

theorem within_stepped (idles : channel.Idles reading) (within : channel.pump.Within) (count : ℕ) :
    (channel.stepped (List.replicate count reading)).pump.Within := by
  refine idles.pump_stepped Pump.Within within ?_ count
  intro pump sound current
  exact (current.note sound (Or.inr (by simp))).endCycle (sound.note _)

/-- The period that is running ends with the last of its cycles. -/
theorem begins_period (idles : channel.Idles reading) {count : ℕ}
    (left : max channel.pump.countdown 1 = count + 1) :
    ∃ pump : Pump, (channel.stepped (List.replicate (count + 1) reading)).pump =
      pump.startPeriod channel.settings.smoothing := by
  induction count generalizing channel with
  | zero =>
      have last : channel.pump.countdown - 1 ≤ 0 := by omega
      refine ⟨channel.pump.note channel.settings.smoothing 0.0, ?_⟩
      change (channel.cycled [reading]).pump = _
      rw [idles.pump_cycled]
      exact if_pos last
  | succ count inductionHypothesis =>
      have more : ¬channel.pump.countdown - 1 ≤ 0 := by omega
      have countdown : (channel.cycled [reading]).pump.countdown = channel.pump.countdown - 1 := by
        rw [idles.pump_cycled, Pump.endCycle]
        exact congrArg Pump.countdown (if_neg more)
      have later := inductionHypothesis idles.cycled (by rw [countdown]; omega)
      rw [settings_cycled] at later
      exact later

section Draining

variable {owed : Float32}

/-- From the start of a period on, what is owed follows the recurrence. -/
theorem follows_drain (idles : channel.Idles reading)
    (drains : channel.Drains owed 0 channel.settings.smoothing.cycles) (count : ℕ) :
    ∃ noted left, (channel.stepped (List.replicate count reading)).Drains
      ((Pump.drain channel.settings.smoothing)^[count / channel.settings.smoothing.cycles.toNat]
        owed) noted left := by
  have positive := channel.settings.smoothing.one_le_cycles
  rcases drains.driven (idles.quietCycles count)
    (by simpa using (Nat.mod_add_div count channel.settings.smoothing.cycles.toNat).symm)
    (Nat.mod_lt _ (by omega)) with ⟨noted, drainsNow⟩
  exact ⟨noted, _, drainsNow⟩

theorem drains_next (idles : channel.Idles reading)
    (finite : (channel.owedNext reading).isFinite = true) :
    (channel.stepped (List.replicate channel.cyclesLeft reading)).Drains
      (channel.owedNext reading) 0 channel.settings.smoothing.cycles := by
  obtain ⟨count, left⟩ : ∃ count : ℕ, max channel.pump.countdown 1 = count + 1 :=
    ⟨(max channel.pump.countdown 1 - 1).toNat, by omega⟩
  have countEq : channel.cyclesLeft = count + 1 := by
    rw [cyclesLeft]
    omega
  rcases idles.begins_period left with ⟨pump, pumpEq⟩
  rw [← countEq] at pumpEq
  rw [owedNext, pumpEq] at finite
  refine ⟨by simpa using idles.enabled, ?_⟩
  rw [owedNext, settings_stepped, pumpEq]
  exact (Pump.started_startPeriod finite).draining

/-- No number of idle cycles gets the pump past a stuck amount. -/
theorem le_accumulated_of_stuck {amount : Float32} (idles : channel.Idles reading)
    (drains : channel.Drains owed 0 channel.settings.smoothing.cycles)
    (stuck : Pump.Stuck channel.settings.smoothing amount) (le : amount ≤ owed) (count : ℕ) :
    amount ≤ (channel.stepped (List.replicate count reading)).pump.accumulated := by
  rw [Single.le_iff] at le
  rcases idles.follows_drain drains count with ⟨_, _, drainsNow⟩
  have kept := stuck.le_iterate_drain drains.pump.settled le.2.2
    (count / channel.settings.smoothing.cycles.toNat)
  rw [← drainsNow.pump.accumulated.2] at kept
  exact Single.le_iff.mpr ⟨le.1, drainsNow.pump.accumulated.1, kept⟩

/-- A channel at the start of a period empties if the recurrence comes to zero. -/
theorem empties_iff_drained (idles : channel.Idles reading)
    (fits : channel.settings.smoothing.period < 2 ^ 31)
    (drains : channel.Drains owed 0 channel.settings.smoothing.cycles) :
    channel.Empties reading ↔
      ∃ periods, toRat ((Pump.drain channel.settings.smoothing)^[periods] owed) = 0 := by
  constructor
  · rintro ⟨count, empty⟩
    rcases idles.follows_drain drains count with ⟨_, _, drainsNow⟩
    have zero := (Single.beq_iff.mp (empty count le_rfl).1).2.2
    rw [drainsNow.pump.accumulated.2, Single.toRat_zero] at zero
    exact ⟨_, zero⟩
  · rintro ⟨periods, emptied⟩
    refine ⟨channel.settings.smoothing.cycles.toNat * periods, ?_⟩
    intro later enough
    have positive := channel.settings.smoothing.one_le_cycles
    rcases idles.follows_drain drains later with ⟨_, _, drainsNow⟩
    have passed : periods ≤ later / channel.settings.smoothing.cycles.toNat := by
      rw [Nat.le_div_iff_mul_le (by omega), mul_comm]
      exact enough
    have zero := drains.pump.settled.iterate_drain_eq_zero emptied passed
    have correction := drainsNow.correction (idles.stepped later).quiet (by simpa using fits)
    have none := Pump.portion_of_zero fits drainsNow.pump.settled zero
    rw [settings_stepped] at correction
    constructor
    · apply Single.beq_of_standsFor _ (by decide)
      rw [Single.toRat_zero, ← zero]
      exact drainsNow.pump.accumulated
    · apply Single.beq_of_standsFor _ (by decide)
      rw [Single.toRat_zero, ← none]
      exact correction

end Draining

section Emptying

variable (idles : channel.Idles reading) (fits : channel.settings.smoothing.period < 2 ^ 31)

include idles fits

/-- The pump is emptied unless the sum overflows or there is a stuck amount at or below it. -/
theorem empties_iff :
    channel.Empties reading ↔ (channel.owedNext reading).isFinite = true ∧
      ∀ amount, Pump.Stuck channel.settings.smoothing amount →
        ¬amount ≤ channel.owedNext reading := by
  have idlesNext := idles.stepped channel.cyclesLeft
  rw [← empties_stepped_iff channel.cyclesLeft]
  cases finite : (channel.owedNext reading).isFinite with
  | false =>
      simp only [Bool.false_eq_true, false_and, iff_false]
      rintro ⟨count, empty⟩
      have lost := idlesNext.infinite_stepped finite count
      rw [Single.isFinite_of_beq (empty count le_rfl).1 (by decide)] at lost
      contradiction
  | true =>
      have drains := idles.drains_next finite
      rw [idlesNext.empties_iff_drained (by simpa using fits) (by simpa using drains),
        settings_stepped, Pump.exists_iterate_drain_eq_zero_iff drains.pump.settled]
      simp

/-- Without overflow, the pump is emptied if the divisor is not too large. -/
theorem empties_of_within (within : channel.pump.Within)
    (fast : toRat channel.settings.smoothing.share ≤ 2 ^ (24 : ℤ)) : channel.Empties reading := by
  have finite := (idles.within_stepped within channel.cyclesLeft).finite
  rw [idles.empties_iff fits]
  refine ⟨finite, ?_⟩
  intro amount stuck
  exact Pump.not_stuck_of_share_le (idles.drains_next finite).pump.settled fast stuck

/-- With a very large divisor, a pump that owes anything is never emptied. -/
theorem empties_iff_of_large (slow : 2 ^ (26 : ℤ) ≤ toRat channel.settings.smoothing.share) :
    channel.Empties reading ↔ channel.owedNext reading == 0.0 := by
  rw [idles.empties_iff fits]
  constructor
  · rintro ⟨finite, free⟩
    have settled := (idles.drains_next finite).pump.settled
    rcases settled.settled with zero | large
    · exact Single.beq_iff.mpr ⟨settled.stands.1, by decide, by rw [zero, Single.toRat_zero]⟩
    · exact absurd (Single.le_refl settled.stands.1)
        (free _ (Pump.stuck_of_le_share settled large slow))
  · intro empty
    refine ⟨Single.isFinite_of_beq empty (by decide), ?_⟩
    intro amount stuck le
    have zero := (Single.beq_iff.mp empty).2.2
    rw [Single.toRat_zero] at zero
    have large := (Single.le_iff.mp (Single.le_trans stuck.large le)).2.2
    linarith [Pump.residue_pos]

end Emptying

end Idles

/--
Take any channel with checked settings and smoothing, whatever was done to it before, and hold the
throttle still. The pump is emptied for good exactly if what it owes at the end of the running
period is finite and neither this nor a smaller amount is stuck. For amounts that are not beyond a
very large bound and divisors up to two to the power of 24 it always is; with a divisor from two to
the power of 26 on it is only if nothing is owed.
-/
theorem replay_empties_iff {settings : ThrottleSettings} {table : Float32 → Float32 → Float32}
    {start : Throttle} {operations : List (Operation ThrottleSettings)}
    (created : create settings table = .ok start)
    (reached : (replay apply start operations).1 = channel)
    (valid : channel.settings.check = .ok ())
    (enabled : channel.settings.smoothing.isEnabled = true)
    (fits : channel.settings.smoothing.period < 2 ^ 31) (level : channel.Level reading) :
    let smoothing := channel.settings.smoothing
    let owed := channel.owedNext reading
    (channel.Empties reading ↔ owed.isFinite = true ∧
        ∀ amount, Pump.Stuck smoothing amount → ¬amount ≤ owed) ∧
      (channel.pump.Within → smoothing.divisor ≤ 16777216.0 → channel.Empties reading) ∧
      (67108864.0 ≤ smoothing.divisor → (channel.Empties reading ↔ owed == 0.0)) := by
  intro smoothing owed
  have checked := ThrottleSettings.checked valid
  have sound : channel.pump.Sound := reached ▸ sound_replay created operations
  have idles : channel.Idles reading := ⟨checked, enabled, sound, level⟩
  refine ⟨idles.empties_iff fits, ?_, ?_⟩
  · intro within fast
    apply idles.empties_of_within fits within
    rw [checked.toRat_share]
    exact (Single.le_iff.mp fast).2.2.trans (by decide +kernel)
  · intro slow
    apply idles.empties_iff_of_large fits
    rw [checked.toRat_share]
    exact le_trans (by decide +kernel) (Single.le_iff.mp slow).2.2

/-- The throttle is held still after a jump, of whose charge a third has been injected. -/
theorem replay_empties_after_jump : ∃ start,
    create { riseThreshold := 10.0, windowLength := 2, smoothing := ⟨2, 3.0⟩ } (fun _ _ => 8.0) =
        .ok start ∧
      let channel := (replay apply start [.sample 20.0, .sample 85.0, .compute, .endCycle]).1
      5.0 ≤ channel.pump.accumulated ∧ channel.Empties 85.0 := by
  have created : create { riseThreshold := 10.0, windowLength := 2, smoothing := ⟨2, 3.0⟩ }
      (fun _ _ => 8.0) = .ok _ := rfl
  refine ⟨_, created, by decide +kernel, ?_⟩
  refine (replay_empties_iff created rfl rfl (by decide +kernel) (by decide +kernel) ?_).2.1 ?_
    (by decide +kernel)
  · exact ⟨by decide, by decide +kernel, by decide +kernel⟩
  · exact ⟨by decide +kernel, by decide +kernel, by decide +kernel, by decide +kernel⟩

/-- A charge as small as the residue, of which each period takes next to nothing off. -/
theorem never_empties_with_large_divisor : ∃ start,
    create { riseThreshold := 10.0, windowLength := 2, smoothing := ⟨1, 67108864.0⟩ }
        (fun _ _ => 0.001) = .ok start ∧
      let channel := (replay apply start [.sample 20.0, .sample 85.0, .compute, .endCycle]).1
      channel.settings.check = .ok () ∧ channel.settings.smoothing.isEnabled = true ∧
        channel.Level 85.0 ∧ channel.pump.accumulated.isFinite = true ∧
        ∀ count, 0.001 ≤ (channel.stepped (List.replicate count 85.0)).pump.accumulated := by
  have created : create { riseThreshold := 10.0, windowLength := 2, smoothing := ⟨1, 67108864.0⟩ }
      (fun _ _ => 0.001) = .ok _ := rfl
  refine ⟨_, created, ?_⟩
  intro channel
  have valid : channel.settings.check = .ok () := by decide +kernel
  have enabled : channel.settings.smoothing.isEnabled = true := by decide +kernel
  have finite : channel.pump.accumulated.isFinite = true := by decide +kernel
  have level : channel.Level 85.0 := ⟨by decide, by decide +kernel, by decide +kernel⟩
  have started : channel.pump.Started channel.settings.smoothing :=
    ⟨by decide +kernel, by decide +kernel, by decide +kernel, by decide +kernel, finite,
      Or.inr (by decide +kernel)⟩
  have stuck : Pump.Stuck channel.settings.smoothing 0.001 := ⟨by decide, by decide +kernel⟩
  have idles : channel.Idles 85.0 :=
    ⟨ThrottleSettings.checked valid, enabled, sound_replay created _, level⟩
  refine ⟨valid, enabled, level, finite, ?_⟩
  intro count
  exact idles.le_accumulated_of_stuck ⟨enabled, started.draining⟩ stuck (by decide +kernel) count

end Throttle
end TransientFuel
