import TransientFuel.Proofs.PumpDecay
import TransientFuel.Settings.Check

/-!
# What becomes of a single charge

The throttle rests, jumps once, and rests again, with one correction for each engine cycle. The end
of a period takes a whole share off what the pump owes, even if the charge came in when some cycles
of the period had already passed. So the part of the first share that these cycles would have
injected is lost, and apart from it the charge is injected in full: `emitted_of_jump`.
-/

namespace TransientFuel

open Single (StandsFor toRat)

section Checks

/-- What the checks of the throttle channel's settings say about smoothing and thresholds. -/
structure ThrottleSettings.Checked (settings : ThrottleSettings) : Prop where
  rise_nonneg : 0 ≤ toRat settings.riseThreshold
  drop_finite : settings.dropThreshold.isFinite = true
  drop_nonneg : 0 ≤ toRat settings.dropThreshold
  period_pos : 1 ≤ settings.smoothing.period
  divisor_finite : settings.smoothing.divisor.isFinite = true
  divisor_large : 1 ≤ toRat settings.smoothing.divisor

theorem require_bind_eq_ok {condition : Bool} {fault : SettingsFault}
    {next : Unit → Except SettingsFault Unit} :
    (require condition fault >>= next) = .ok () ↔ condition = true ∧ next () = .ok () := by
  cases condition with
  | false => simp [require, bind, Except.bind]
  | true => simp [require, bind, Except.bind]

theorem require_eq_ok {condition : Bool} {fault : SettingsFault} :
    require condition fault = .ok () ↔ condition = true := by
  cases condition <;> simp [require]

theorem ThrottleSettings.checked {settings : ThrottleSettings} (valid : settings.check = .ok ()) :
    settings.Checked := by
  simp only [check, checkThreshold, checkMultiplier, checkWindowLength, require_bind_eq_ok,
    require_eq_ok, Bool.and_eq_true, Bool.not_eq_true', decide_eq_true_eq,
    decide_eq_false_iff_not] at valid
  rcases valid with ⟨⟨_, risePlus⟩, ⟨dropFinite, dropPlus⟩, _, _, period, divisorFinite, notLess⟩
  have divisorLarge := Single.le_of_not_lt (Single.standsFor_of_isFinite divisorFinite).1
    (by decide) notLess
  exact {
    rise_nonneg := Single.toRat_nonneg_of_isNegative risePlus
    drop_finite := dropFinite
    drop_nonneg := Single.toRat_nonneg_of_isNegative dropPlus
    period_pos := period
    divisor_finite := divisorFinite
    divisor_large := Single.toRat_one.ge.trans (Single.le_iff.mp divisorLarge).2.2 }

namespace ThrottleSettings.Checked

variable {settings : ThrottleSettings}

theorem cycles_eq (checked : settings.Checked) :
    settings.smoothing.cycles = settings.smoothing.period :=
  max_eq_left checked.period_pos

theorem toRat_share (checked : settings.Checked) :
    toRat settings.smoothing.share = toRat settings.smoothing.divisor := by
  have one : StandsFor 1.0 1 := ⟨by decide, Single.toRat_one⟩
  rw [Smoothing.share, if_pos checked.divisor_finite]
  exact (Single.standsFor_larger_of_ge (Single.standsFor_of_isFinite checked.divisor_finite) one
    checked.divisor_large).2

end ThrottleSettings.Checked

end Checks

namespace Pump.Draining

variable {pump : Pump} {smoothing : Smoothing} {charge : Float32} {injected : ℚ} {left : ℤ}

/-- An empty pump injects the share of a charge. -/
theorem injection_of_charge (draining : pump.Draining smoothing 0.0 injected left)
    (settled : Settled charge) :
    StandsFor (pump.injection smoothing charge) (toRat (charge / smoothing.share)) := by
  rcases smoothing.share_spec with ⟨shareFinite, shareLarge⟩
  have larger := Single.standsFor_larger_of_ge settled.stands draining.accumulated
    (Single.toRat_zero.trans_le settled.nonneg)
  exact larger.div settled.finite shareFinite (by linarith)

/-- After a charge to an empty pump, the end of the cycle leaves the pump owing the charge. -/
theorem note_charge (draining : pump.Draining smoothing 0.0 injected left)
    (settled : Settled charge) :
    (pump.note smoothing charge).Closing smoothing charge
      (toRat (charge / smoothing.share)) left := by
  have nonneg := settled.nonneg
  have zeroFinite {x : Float32} (stands : StandsFor x 0) : x.isFinite = true :=
    settled.isFinite_of_le stands le_rfl nonneg
  have accumulated := draining.accumulated
  rw [Single.toRat_zero] at accumulated
  have periodPeak : StandsFor pump.periodPeak 0 := by
    have peaks := draining.periodPeak
    rw [Single.toRat_zero, or_self] at peaks
    exact peaks
  have cyclePeak : StandsFor (pump.note smoothing charge).cyclePeak (toRat charge) :=
    Single.standsFor_larger_of_ge settled.stands draining.cyclePeak nonneg
  have peak : StandsFor (pump.note smoothing charge).peakAfterCycle (toRat charge) :=
    Single.standsFor_larger_of_ge cyclePeak periodPeak nonneg
  have rest : StandsFor (pump.accumulated - pump.periodPeak) 0 := by
    have difference := Single.standsFor_sub (zeroFinite accumulated) (zeroFinite periodPeak)
    rw [accumulated.2, periodPeak.2, sub_self, Binary.rounded_zero] at difference
    exact difference
  exact {
    settled
    owes := by
      have sum := Single.standsFor_add (zeroFinite rest)
        (settled.isFinite_of_le peak nonneg le_rfl)
      rw [rest.2, peak.2, zero_add, Single.rounded_toRat settled.finite] at sum
      exact sum
    peak := Or.inr peak
    injectedPeak := by
      have noShare := draining.injected_le.trans (settled_zero.share smoothing).2.2
      rw [Single.toRat_zero] at noShare
      exact Single.standsFor_larger_of_ge (draining.injection_of_charge settled)
        draining.injectedPeak (noShare.trans (settled.share smoothing).2.1)
    injected_le := le_rfl
    countdown := draining.countdown }

end Pump.Draining

namespace Throttle

/-- The channel after engine cycles of one tick each. -/
def stepped (channel : Throttle) (readings : List Float32) : Throttle :=
  channel.driven (readings.map fun reading => [reading])

/-- The sum of the corrections in engine cycles of one tick each. -/
def emitted (channel : Throttle) : List Float32 → ℚ
  | [] => 0
  | reading :: rest =>
    toRat (channel.tick reading).correction + (channel.cycled [reading]).emitted rest

theorem stepped_append (channel : Throttle) (earlier later : List Float32) :
    channel.stepped (earlier ++ later) = (channel.stepped earlier).stepped later := by
  rw [stepped, List.map_append, driven, List.foldl_append]
  rfl

theorem emitted_append (channel : Throttle) (earlier later : List Float32) :
    channel.emitted (earlier ++ later) =
      channel.emitted earlier + (channel.stepped earlier).emitted later := by
  induction earlier generalizing channel with
  | nil => exact (zero_add _).symm
  | cons reading rest inductionHypothesis =>
      rw [List.cons_append, emitted, emitted, inductionHypothesis, add_assoc]
      rfl

section Rest

/-- A channel with room for two readings, the newest of which is given. -/
structure Holds (channel : Throttle) (reading : Float32) : Prop where
  capacity : channel.window.capacity = 2
  newest : channel.window.get? 0 = some reading

variable {channel : Throttle} {before after : Float32}

theorem window_cycled (channel : Throttle) (reading : Float32) :
    (channel.cycled [reading]).window = channel.window.push reading := by
  change (channel.tick reading).channel.window = _
  rw [tick_channel]
  rfl

theorem holds_cycled (capacity : channel.window.capacity = 2) (reading : Float32) :
    (channel.cycled [reading]).Holds reading := by
  constructor
  · rw [window_cycled]
    exact capacity
  · rw [window_cycled, Window.get?_push_zero]

/-- With room for two readings only, the steepest rise is the one to the newest reading. -/
theorem Holds.steepest? (holds : channel.Holds before) (after : Float32) :
    (channel.sample after).window.count = 2 ∧
      (channel.sample after).window.steepest? = some ⟨0, before, after⟩ := by
  have second : (channel.window.push after).get? 1 = some before := by
    rw [Window.get?_push_succ, if_pos (by rw [holds.capacity]; norm_num), holds.newest]
  have enough := (Window.isSome_get?_iff _).mp (Option.isSome_of_eq_some second)
  have full : (channel.window.push after).count ≤ channel.window.capacity :=
    (channel.window.push after).count_le
  have count : (channel.window.push after).count = 2 := by
    rw [holds.capacity] at full
    omega
  refine ⟨count, ?_⟩
  change (channel.window.push after).steepest? = _
  rw [Window.steepest?, Window.riseAt?, Window.get?_push_zero, second, count]
  rfl

/-- No difference, or one that is missing, is no rise and no drop. -/
theorem charge_of_level (checked : channel.settings.Checked) {rise : Rise}
    (level : rise.delta.isNaN = true ∨ StandsFor rise.delta 0) : channel.charge rise = 0.0 := by
  have drop := Single.standsFor_neg checked.drop_finite
  have noRise : ¬channel.settings.riseThreshold < rise.delta := by
    intro less
    rw [Single.lt_iff] at less
    rcases level with missing | zero
    · rw [missing] at less
      exact Bool.noConfusion less.2.1
    · have := checked.rise_nonneg
      rw [zero.2] at less
      linarith
  have noDrop : ¬rise.delta < -channel.settings.dropThreshold := by
    intro less
    rw [Single.lt_iff] at less
    rcases level with missing | zero
    · rw [missing] at less
      exact Bool.noConfusion less.1
    · have := checked.drop_nonneg
      rw [zero.2, drop.2] at less
      linarith
  rw [charge]
  exact (if_neg noRise).trans (if_neg noDrop)

/-- A reading that repeats the one before calls for nothing, even if it is infinite. -/
theorem charge_same (checked : channel.settings.Checked) (offset : ℕ) (reading : Float32) :
    channel.charge ⟨offset, reading, reading⟩ = 0.0 :=
  charge_of_level checked (Single.sub_self_cases reading)

/-- A reading that repeats the one before calls for no fuel. -/
theorem Holds.quiet (holds : channel.Holds before) (checked : channel.settings.Checked) :
    channel.Quiet before := by
  rcases holds.steepest? before with ⟨count, steepest⟩
  refine ⟨count.ge, ?_⟩
  intro rise found
  rw [steepest, Option.mem_some_iff] at found
  subst found
  have same := charge_same (show (channel.sample before).settings.Checked from checked) 0 before
  right
  rw [same]
  exact Single.zero_nonneg

end Rest

section NoReadings

variable {channel : Throttle}

theorem drains_idle (enabled : channel.settings.smoothing.isEnabled = true)
    (idle : channel.pump = Pump.idle) :
    channel.Drains 0.0 (toRat (0.0 / channel.settings.smoothing.share)) 0 := by
  have share : StandsFor (0.0 : Float32) (toRat (0.0 / channel.settings.smoothing.share)) := by
    rw [((Pump.settled_zero.share _).1).2, Single.toRat_zero, zero_div, Binary.rounded_zero]
    exact Single.standsFor_zero
  refine ⟨enabled, ?_⟩
  rw [idle]
  exact {
    settled := Pump.settled_zero
    accumulated := ⟨by decide, rfl⟩
    cyclePeak := Single.standsFor_zero
    periodPeak := Or.inl Single.standsFor_zero
    injectedPeak := share
    injected_le := le_rfl
    countdown := rfl }

/-- A channel without readings answers its first one with zero and leaves the pump alone. -/
theorem tick_empty (empty : channel.window.isEmpty = true) (reading : Float32) :
    (channel.tick reading).correction = 0.0 ∧
      (channel.tick reading).channel.pump = channel.pump := by
  have none : channel.window.count = 0 := by simpa [Window.isEmpty] using empty
  have count : (channel.window.push reading).count = 1 := by
    simp only [Window.push, none, if_pos channel.window.capacity_pos]
  have second : (channel.window.push reading).get? 1 = .none := by
    rw [← Option.not_isSome_iff_eq_none, Window.isSome_get?_iff, count]
    exact lt_irrefl 1
  have steepest : (channel.sample reading).window.steepest? = .none := by
    change (channel.window.push reading).steepest? = .none
    rw [Window.steepest?, Window.riseAt?, Window.get?_push_zero, second]
    rfl
  rw [tick, compute, steepest]
  exact ⟨rfl, rfl⟩

end NoReadings

/-- A channel with checked settings of moderate size that holds its newest reading. -/
structure Rests (channel : Throttle) (reading : Float32) : Prop where
  holds : channel.Holds reading
  checked : channel.settings.Checked
  moderate : Pump.Moderate channel.settings.smoothing

@[simp]
theorem settings_stepped (channel : Throttle) (readings : List Float32) :
    (channel.stepped readings).settings = channel.settings :=
  channel.settings_driven _

@[simp]
theorem table_stepped (channel : Throttle) (readings : List Float32) :
    (channel.stepped readings).table = channel.table := by
  induction readings generalizing channel with
  | nil => rfl
  | cons reading rest inductionHypothesis =>
      refine (inductionHypothesis (channel.cycled [reading])).trans ?_
      change (channel.tick reading).channel.table = _
      rw [tick_channel]
      rfl

theorem rests_cycled {channel : Throttle} (capacity : channel.window.capacity = 2)
    (checked : channel.settings.Checked) (moderate : Pump.Moderate channel.settings.smoothing)
    (reading : Float32) : (channel.cycled [reading]).Rests reading := by
  refine ⟨holds_cycled capacity reading, ?_, ?_⟩
  · rw [settings_cycled]
    exact checked
  · rw [settings_cycled]
    exact moderate

namespace Rests

variable {channel : Throttle} {reading owed : Float32} {injected : ℚ} {left : ℤ}

theorem cycled (rests : channel.Rests reading) (next : Float32) :
    (channel.cycled [next]).Rests next :=
  rests_cycled rests.holds.capacity rests.checked rests.moderate next

theorem stepped (rests : channel.Rests reading) (count : ℕ) :
    (channel.stepped (List.replicate count reading)).Rests reading := by
  induction count generalizing channel with
  | zero => exact rests
  | succ count inductionHypothesis => exact inductionHypothesis (rests.cycled reading)

theorem fits (rests : channel.Rests reading) : channel.settings.smoothing.period < 2 ^ 31 := by
  have := (le_max_left _ _).trans rests.moderate.cycles_le
  omega

theorem quietTicks (rests : channel.Rests reading) : channel.QuietTicks [reading] := by
  intro index inside
  obtain rfl : index = 0 := by simpa using inside
  exact rests.holds.quiet rests.checked

theorem emitted_one (rests : channel.Rests reading) (drains : channel.Drains owed injected left) :
    channel.emitted [reading] = Pump.portion channel.settings.smoothing owed := by
  rw [emitted, emitted, add_zero]
  exact (drains.correction (rests.holds.quiet rests.checked) rests.fits).2

/-- Within a period each cycle injects the same portion. -/
theorem coast (rests : channel.Rests reading) (drains : channel.Drains owed injected left)
    {count : ℕ} (inside : (count : ℤ) < left) :
    (∃ noted, (channel.stepped (List.replicate count reading)).Drains owed noted (left - count)) ∧
      channel.emitted (List.replicate count reading) =
        count * Pump.portion channel.settings.smoothing owed := by
  induction count with
  | zero =>
      refine ⟨⟨injected, ?_⟩, ?_⟩
      · rw [Nat.cast_zero, sub_zero]
        exact drains
      · rw [Nat.cast_zero, zero_mul]
        rfl
  | succ count inductionHypothesis =>
      rcases inductionHypothesis (by omega) with ⟨⟨noted, drainsNow⟩, emittedNow⟩
      have restsNow := rests.stepped count
      have ended := drainsNow.cycled_of_more (List.cons_ne_nil _ _) restsNow.quietTicks (by omega)
      rw [List.replicate_succ', stepped_append, emitted_append, emittedNow,
        restsNow.emitted_one drainsNow, settings_stepped, Nat.cast_succ, ← sub_sub]
      exact ⟨⟨_, ended⟩, by push_cast; ring⟩

/-- The rest of a period injects a portion for each cycle that is left. -/
theorem finish (rests : channel.Rests reading) (drains : channel.Drains owed injected left)
    {count : ℕ} (last : left = count + 1) :
    (channel.stepped (List.replicate (count + 1) reading)).Drains
        (Pump.drain channel.settings.smoothing owed) 0 channel.settings.smoothing.cycles ∧
      channel.emitted (List.replicate (count + 1) reading) =
        (count + 1 : ℕ) * Pump.portion channel.settings.smoothing owed := by
  rcases rests.coast drains (show (count : ℤ) < left by omega) with
    ⟨⟨noted, drainsNow⟩, emittedNow⟩
  have restsNow := rests.stepped count
  have ended := drainsNow.cycled_of_last (List.cons_ne_nil _ _) restsNow.quietTicks (by omega)
  rw [settings_stepped] at ended
  rw [List.replicate_succ', stepped_append, emitted_append, emittedNow,
    restsNow.emitted_one drainsNow, settings_stepped]
  exact ⟨ended, by push_cast; ring⟩

/-- Whole periods and some cycles of the next one. -/
theorem coast_periods (rests : channel.Rests reading)
    (drains : channel.Drains owed 0 channel.settings.smoothing.cycles) (periods : ℕ) {elapsed : ℕ}
    (inside : (elapsed : ℤ) < channel.settings.smoothing.cycles) :
    let count := channel.settings.smoothing.cycles.toNat * periods + elapsed
    (∃ noted, (channel.stepped (List.replicate count reading)).Drains
        ((Pump.drain channel.settings.smoothing)^[periods] owed) noted
        (channel.settings.smoothing.cycles - elapsed)) ∧
      channel.emitted (List.replicate count reading) =
        Pump.injectedIn channel.settings.smoothing owed periods +
          elapsed * Pump.portion channel.settings.smoothing
            ((Pump.drain channel.settings.smoothing)^[periods] owed) := by
  intro count
  induction periods generalizing channel owed with
  | zero =>
      simp only [count, Nat.mul_zero, Pump.injectedIn, Finset.range_zero,
        Finset.sum_empty, zero_add, Function.iterate_zero_apply]
      exact rests.coast drains inside
  | succ periods inductionHypothesis =>
      have positive := channel.settings.smoothing.one_le_cycles
      obtain ⟨last, lastEq⟩ : ∃ last, channel.settings.smoothing.cycles.toNat = last + 1 :=
        ⟨channel.settings.smoothing.cycles.toNat - 1, by omega⟩
      rcases rests.finish drains (show _ = (last : ℤ) + 1 by omega) with ⟨drainsNow, emittedNow⟩
      rw [← lastEq] at drainsNow emittedNow
      have restsNow := rests.stepped channel.settings.smoothing.cycles.toNat
      have later := inductionHypothesis restsNow (by rw [settings_stepped]; exact drainsNow)
        (by rw [settings_stepped]; exact inside)
      simp only [settings_stepped] at later
      have countEq : count = channel.settings.smoothing.cycles.toNat +
          (channel.settings.smoothing.cycles.toNat * periods + elapsed) := by
        simp only [count]
        ring
      rw [countEq, List.replicate_add, stepped_append, emitted_append, emittedNow, later.2,
        Pump.injectedIn_succ, Function.iterate_succ_apply, ← add_assoc]
      refine ⟨later.1, ?_⟩
      congr 3
      exact_mod_cast Int.toNat_of_nonneg (by omega)

/-- An empty pump injects nothing, at any point of its periods. -/
theorem coast_empty (rests : channel.Rests reading)
    (drains : channel.Drains 0.0 0 channel.settings.smoothing.cycles) (count : ℕ) :
    (∃ noted, (channel.stepped (List.replicate count reading)).Drains 0.0 noted
        (channel.settings.smoothing.cycles -
          (count % channel.settings.smoothing.cycles.toNat : ℕ))) ∧
      channel.emitted (List.replicate count reading) = 0 := by
  have positive := channel.settings.smoothing.one_le_cycles
  have inside := Nat.mod_lt count (show 0 < channel.settings.smoothing.cycles.toNat by omega)
  have periods := rests.coast_periods drains (count / channel.settings.smoothing.cycles.toNat)
    (show ((count % channel.settings.smoothing.cycles.toNat : ℕ) : ℤ) < _ by omega)
  simp only [Nat.div_add_mod, Function.iterate_fixed Pump.drain_zero,
    Pump.portion_eq_zero rests.moderate Pump.settled_zero Single.toRat_zero, mul_zero, add_zero,
    Pump.injectedIn_eq_zero rests.moderate Pump.settled_zero Single.toRat_zero] at periods
  exact periods

end Rests

section IdleCycles

variable {channel : Throttle} {low : Float32}

/-- The first cycle that ends starts the first period, with or without a reading before it. -/
theorem cycled_idle (enabled : channel.settings.smoothing.isEnabled = true)
    (checked : channel.settings.Checked) (moderate : Pump.Moderate channel.settings.smoothing)
    (capacity : channel.window.capacity = 2) (idle : channel.pump = Pump.idle)
    (ready : channel.window.get? 0 = some low ∨ channel.window.isEmpty = true) :
    (channel.cycled [low]).Rests low ∧
      (channel.cycled [low]).Drains 0.0 0 channel.settings.smoothing.cycles ∧
      channel.emitted [low] = 0 := by
  have drains := drains_idle enabled idle
  refine ⟨rests_cycled capacity checked moderate low, ?_⟩
  rcases ready with newest | empty
  · have rests : channel.Rests low := ⟨⟨capacity, newest⟩, checked, moderate⟩
    have ended := drains.cycled_of_last (List.cons_ne_nil _ _) rests.quietTicks (by norm_num)
    rw [Pump.drain_zero] at ended
    refine ⟨ended, ?_⟩
    rw [rests.emitted_one drains]
    exact Pump.portion_eq_zero moderate Pump.settled_zero Single.toRat_zero
  · rcases tick_empty empty low with ⟨correctionEq, pumpEq⟩
    have ended := drains.pump.closing.endCycle_of_last (by norm_num)
    rw [Pump.drain_zero, ← pumpEq] at ended
    refine ⟨⟨by rw [settings_cycled]; exact enabled, ?_⟩, ?_⟩
    · rw [settings_cycled]
      change ((channel.tick low).channel.endCycle).pump.Draining _ _ _ _
      rw [endCycle, settings_tick]
      exact ended
    · rw [emitted, emitted, correctionEq, Single.toRat_zero, add_zero]

/--
Idle cycles inject nothing. Before the first cycle has ended, the period counts as in its last
cycle.
-/
theorem stepped_idle (enabled : channel.settings.smoothing.isEnabled = true)
    (checked : channel.settings.Checked) (moderate : Pump.Moderate channel.settings.smoothing)
    (capacity : channel.window.capacity = 2) (idle : channel.pump = Pump.idle) {count : ℕ}
    (ready : channel.window.get? 0 = some low ∨ channel.window.isEmpty = true ∧ 0 < count) :
    (channel.stepped (List.replicate count low)).Rests low ∧
      (∃ noted left, (channel.stepped (List.replicate count low)).Drains 0.0 noted left ∧
        max left 1 = channel.settings.smoothing.cycles -
          ((count + channel.settings.smoothing.cycles.toNat - 1) %
            channel.settings.smoothing.cycles.toNat : ℕ)) ∧
      channel.emitted (List.replicate count low) = 0 := by
  have positive := channel.settings.smoothing.one_le_cycles
  cases count with
  | zero =>
      have newest := ready.resolve_right (fun both => absurd both.2 (lt_irrefl 0))
      refine ⟨⟨⟨capacity, newest⟩, checked, moderate⟩, ⟨_, 0, drains_idle enabled idle, ?_⟩, rfl⟩
      rw [Nat.mod_eq_of_lt (by omega)]
      omega
  | succ count =>
      rcases cycled_idle enabled checked moderate capacity idle
        (ready.imp id And.left) with ⟨restsNow, drainsNow, emittedNow⟩
      rw [← settings_cycled channel [low]] at drainsNow
      rcases restsNow.coast_empty drainsNow count with ⟨⟨noted, drainsLater⟩, emittedLater⟩
      rw [settings_cycled] at drainsLater
      have inside := Nat.mod_lt count (show 0 < channel.settings.smoothing.cycles.toNat by omega)
      refine ⟨restsNow.stepped count, ⟨noted, _, drainsLater, ?_⟩, ?_⟩
      · rw [show count + 1 + channel.settings.smoothing.cycles.toNat - 1 =
          count + channel.settings.smoothing.cycles.toNat by omega, Nat.add_mod_right]
        omega
      · rw [List.replicate_succ, ← List.singleton_append, emitted_append, emittedNow, zero_add]
        exact emittedLater

end IdleCycles

namespace Rests

variable {channel : Throttle} {injected : ℚ} {left : ℤ} {low high charge : Float32}

/-- The tick of the jump hands the charge to the pump. -/
theorem tick_jump (rests : channel.Rests low)
    (enabled : channel.settings.smoothing.isEnabled = true)
    (constant : channel.table = fun _ _ => charge)
    (rises : channel.settings.riseThreshold < high - low) :
    (channel.tick high).channel.pump = channel.pump.note channel.settings.smoothing charge ∧
      (channel.tick high).correction = channel.pump.dose channel.settings.smoothing charge := by
  have steepest := (rests.holds.steepest? high).2
  have charged : (channel.sample high).charge ⟨0, low, high⟩ = charge := by
    rw [Throttle.charge]
    refine (if_pos rises).trans ?_
    change channel.table low high = charge
    rw [constant]
  have ticked := tick_of_rise enabled steepest
  rw [charged] at ticked
  exact ticked

/-- The cycle of the jump injects a portion of the charge, and the rest of it is owed. -/
theorem jump (rests : channel.Rests low) (drains : channel.Drains 0.0 injected left)
    (settled : Pump.Settled charge) (constant : channel.table = fun _ _ => charge)
    (rises : channel.settings.riseThreshold < high - low) :
    channel.emitted [high] = Pump.portion channel.settings.smoothing charge ∧
      (1 < left → (channel.cycled [high]).Drains charge
        (toRat (charge / channel.settings.smoothing.share)) (left - 1)) ∧
      (left ≤ 1 → (channel.cycled [high]).Drains (Pump.drain channel.settings.smoothing charge) 0
        channel.settings.smoothing.cycles) := by
  rcases rests.tick_jump drains.enabled constant rises with ⟨pumpEq, correctionEq⟩
  rcases channel.settings.smoothing.ofInt_cycles_spec rests.fits with ⟨cyclesFinite, cyclesLarge⟩
  have closing := drains.pump.note_charge settled
  have pumpAfter : (channel.cycled [high]).pump =
      (channel.pump.note channel.settings.smoothing charge).endCycle
        channel.settings.smoothing := by
    change (channel.tick high).channel.endCycle.pump = _
    rw [endCycle, settings_tick, pumpEq]
  refine ⟨?_, fun more => ⟨?_, ?_⟩, fun last => ⟨?_, ?_⟩⟩
  · rw [emitted, emitted, add_zero, correctionEq]
    exact ((drains.pump.injection_of_charge settled).div
      (settled.share_finite channel.settings.smoothing) cyclesFinite (by linarith)).2
  · rw [settings_cycled]
    exact drains.enabled
  · rw [pumpAfter, settings_cycled]
    exact closing.endCycle_of_more more
  · rw [settings_cycled]
    exact drains.enabled
  · rw [pumpAfter, settings_cycled]
    exact closing.endCycle_of_last last

/-- The period of the jump: the charge is owed until the end, which takes a whole share off. -/
theorem first_period (rests : channel.Rests low) (drains : channel.Drains 0.0 injected left)
    (settled : Pump.Settled charge) (constant : channel.table = fun _ _ => charge)
    (rises : channel.settings.riseThreshold < high - low) {remaining : ℕ}
    (remainingEq : max left 1 = remaining + 1) :
    (∀ count < remaining,
        StandsFor (channel.stepped (List.replicate (count + 1) high)).pump.accumulated
          (toRat charge)) ∧
      (channel.stepped (List.replicate (remaining + 1) high)).Drains
        (Pump.drain channel.settings.smoothing charge) 0 channel.settings.smoothing.cycles ∧
      channel.emitted (List.replicate (remaining + 1) high) =
        (remaining + 1 : ℕ) * Pump.portion channel.settings.smoothing charge := by
  rcases rests.jump drains settled constant rises with ⟨emittedFirst, more, last⟩
  have restsNow := rests.cycled high
  rcases remaining with _ | remaining
  · refine ⟨fun count none => absurd none (Nat.not_lt_zero count), last (by omega), ?_⟩
    rw [Nat.zero_add, List.replicate_one, emittedFirst, Nat.cast_one, one_mul]
  · have drainsNow := more (by omega)
    refine ⟨?_, ?_⟩
    · intro count inside
      rcases restsNow.coast drainsNow (show (count : ℤ) < left - 1 by omega) with
        ⟨⟨noted, drainsLater⟩, _⟩
      exact drainsLater.pump.accumulated
    · have finished := restsNow.finish drainsNow (show left - 1 = (remaining : ℤ) + 1 by omega)
      rw [settings_cycled] at finished
      refine ⟨finished.1, ?_⟩
      rw [List.replicate_succ, ← List.singleton_append, emitted_append, emittedFirst]
      change _ + (channel.cycled [high]).emitted _ = _
      rw [finished.2]
      push_cast
      ring

/-- What a jump comes to: the state and the total at every later end of a cycle. -/
theorem after_first_period (rests : channel.Rests low) (drains : channel.Drains 0.0 injected left)
    (settled : Pump.Settled charge) (constant : channel.table = fun _ _ => charge)
    (rises : channel.settings.riseThreshold < high - low) {remaining : ℕ}
    (remainingEq : max left 1 = remaining + 1) (more : ℕ) :
    let smoothing := channel.settings.smoothing
    let readings := List.replicate (remaining + 1 + more) high
    let owed := (Pump.drain smoothing)^[more / smoothing.cycles.toNat]
      (Pump.drain smoothing charge)
    StandsFor (channel.stepped readings).pump.accumulated (toRat owed) ∧
      channel.emitted readings = (remaining + 1 : ℕ) * Pump.portion smoothing charge +
        (Pump.injectedIn smoothing (Pump.drain smoothing charge)
            (more / smoothing.cycles.toNat) +
          (more % smoothing.cycles.toNat : ℕ) * Pump.portion smoothing owed) := by
  intro smoothing readings owed
  have positive := smoothing.one_le_cycles
  have inside : ((more % smoothing.cycles.toNat : ℕ) : ℤ) < smoothing.cycles := by
    have := Nat.mod_lt more (show 0 < smoothing.cycles.toNat by omega)
    omega
  rcases rests.first_period drains settled constant rises remainingEq with
    ⟨_, drainsNow, emittedNow⟩
  have restsNow : (channel.stepped (List.replicate (remaining + 1) high)).Rests high :=
    (rests.cycled high).stepped remaining
  have later := restsNow.coast_periods (by rw [settings_stepped]; exact drainsNow)
    (more / smoothing.cycles.toNat) (by rw [settings_stepped]; exact inside)
  simp only [settings_stepped, smoothing, Nat.div_add_mod] at later
  rcases later with ⟨⟨noted, drainsLater⟩, emittedLater⟩
  simp only [readings, List.replicate_add _ more, stepped_append, emitted_append, emittedNow,
    emittedLater]
  exact ⟨drainsLater.pump.accumulated, rfl⟩

/-- The whole of a jump, with the charge injected as far as its first period allows. -/
theorem emitted_high (rests : channel.Rests low) (drains : channel.Drains 0.0 injected left)
    (settled : Pump.Settled charge) (large : toRat Pump.residue ≤ toRat charge)
    (small : toRat charge ≤ 1000) (constant : channel.table = fun _ _ => charge)
    (rises : channel.settings.riseThreshold < high - low) {passed : ℕ}
    (phase : max left 1 = channel.settings.smoothing.cycles - passed) :
    (∃ extra, StandsFor
        (channel.stepped (List.replicate (extra + 1) high)).pump.accumulated 0) ∧
      ∀ extra, StandsFor
          (channel.stepped (List.replicate (extra + 1) high)).pump.accumulated 0 →
        |channel.emitted (List.replicate (extra + 1) high) - (toRat charge -
            toRat charge / toRat channel.settings.smoothing.share *
              (passed / channel.settings.smoothing.cycles))| ≤
          2 * toRat Pump.residue + toRat charge / 1000 := by
  have positive := channel.settings.smoothing.one_le_cycles
  obtain ⟨remaining, remainingEq⟩ : ∃ remaining : ℕ, max left 1 = remaining + 1 :=
    ⟨(max left 1).toNat - 1, by omega⟩
  have drained := settled.drain channel.settings.smoothing
  have later := rests.after_first_period drains settled constant rises remainingEq
  constructor
  · rcases Pump.exists_drain_eq_zero rests.moderate drained.1 (drained.2.trans small) with
      ⟨periods, emptied⟩
    refine ⟨remaining + channel.settings.smoothing.cycles.toNat * periods, ?_⟩
    have state := (later (channel.settings.smoothing.cycles.toNat * periods)).1
    rw [Nat.mul_div_cancel_left _ (by omega), emptied] at state
    rw [Nat.add_right_comm]
    exact state
  · intro extra emptied
    rcases Nat.lt_or_ge extra remaining with before | after
    · have owes := (rests.first_period drains settled constant rises remainingEq).1 extra before
      have := Pump.residue_pos
      rw [owes.2.symm, emptied.2] at large
      exact absurd large (by linarith)
    · obtain ⟨more, rfl⟩ := Nat.exists_eq_add_of_le after
      rcases later more with ⟨state, total⟩
      rw [Nat.add_right_comm] at emptied ⊢
      rw [total, Pump.portion_eq_zero rests.moderate (drained.1.iterate_drain _ _)
        (state.2.symm.trans emptied.2), mul_zero, add_zero]
      apply Pump.abs_injected_sub_le rests.moderate settled large small
      · have : (remaining + 1 : ℤ) + passed = channel.settings.smoothing.cycles := by omega
        exact_mod_cast this
      · exact state.2.symm.trans emptied.2

end Rests

/--
A charge from a single jump, after any number of idle cycles and with one correction for each cycle.
The pump is emptied in the end. By then the corrections add up to the charge less the portions of
those cycles of the first period that had passed before the jump, up to twice the residue and a
thousandth of the charge. So the charge is injected in full if the jump falls into the first cycle
of a period, and not if the lost portions are more than twice what is allowed for. A pump that has
never been used counts as in the last cycle of a period.
-/
theorem emitted_of_jump {channel : Throttle} {low high charge : Float32} {idle : ℕ}
    (valid : channel.settings.check = .ok ())
    (enabled : channel.settings.smoothing.isEnabled = true)
    (shortPeriod : channel.settings.smoothing.period ≤ 1000)
    (smallDivisor : channel.settings.smoothing.divisor ≤ 1000.0)
    (constant : channel.table = fun _ _ => charge) (large : 0.01 ≤ charge)
    (small : charge ≤ 1000.0) (capacity : channel.window.capacity = 2)
    (unused : channel.pump = Pump.idle)
    (ready : channel.window.get? 0 = some low ∨ channel.window.isEmpty = true ∧ 0 < idle)
    (rises : channel.settings.riseThreshold < high - low) :
    let readings := fun extra => List.replicate idle low ++ List.replicate (extra + 1) high
    let period := channel.settings.smoothing.period
    let passed := (idle + period.toNat - 1) % period.toNat
    let lost := toRat charge / toRat channel.settings.smoothing.divisor * (passed / period)
    let allowed := 2 * toRat Pump.residue + toRat charge / 1000
    (∃ extra, (channel.stepped (readings extra)).pump.accumulated == 0.0) ∧
      ∀ extra, (channel.stepped (readings extra)).pump.accumulated == 0.0 →
        |channel.emitted (readings extra) - (toRat charge - lost)| ≤ allowed ∧
          (passed = 0 → |channel.emitted (readings extra) - toRat charge| ≤ allowed) ∧
          (2 * allowed < lost → allowed < |channel.emitted (readings extra) - toRat charge|) := by
  intro readings period passed lost allowed
  have checked := ThrottleSettings.checked valid
  have periodEq := checked.cycles_eq
  have shareEq := checked.toRat_share
  have thousand : toRat 1000.0 = 1000 := by decide +kernel
  have hundredth : toRat Pump.residue ≤ toRat 0.01 := by decide +kernel
  rw [Single.le_iff, thousand] at smallDivisor small
  rw [Single.le_iff] at large
  have owesCharge : toRat Pump.residue ≤ toRat charge := hundredth.trans large.2.2
  have settled : Pump.Settled charge := by
    refine ⟨(Single.isFinite_iff charge).mpr ⟨small.1, ?_⟩, Or.inr owesCharge⟩
    rw [abs_of_nonneg (Pump.residue_pos.le.trans owesCharge)]
    exact small.2.2.trans_lt (by norm_num)
  have moderate : Pump.Moderate channel.settings.smoothing :=
    ⟨periodEq.trans_le shortPeriod, shareEq.trans_le smallDivisor.2.2⟩
  rcases stepped_idle enabled checked moderate capacity unused ready with
    ⟨restsIdle, ⟨noted, left, drainsIdle, leftEq⟩, emittedIdle⟩
  have whole := restsIdle.emitted_high drainsIdle settled owesCharge small.2.2
    (by rw [table_stepped]; exact constant) (by rw [settings_stepped]; exact rises)
    (by rw [settings_stepped]; exact leftEq)
  simp only [settings_stepped, shareEq, periodEq] at whole
  have isZero (extra : ℕ) : (channel.stepped (readings extra)).pump.accumulated == 0.0 ↔
      StandsFor ((channel.stepped (List.replicate idle low)).stepped
        (List.replicate (extra + 1) high)).pump.accumulated 0 := by
    rw [stepped_append, Single.beq_iff, Single.toRat_zero]
    exact ⟨fun zero => ⟨zero.1, zero.2.2⟩, fun zero => ⟨zero.1, by decide, zero.2⟩⟩
  refine ⟨whole.1.imp fun extra => (isZero extra).mpr, ?_⟩
  intro extra emptied
  have bound : |channel.emitted (readings extra) - (toRat charge - lost)| ≤ allowed := by
    rw [emitted_append, emittedIdle, zero_add]
    exact whole.2 extra ((isZero extra).mp emptied)
  refine ⟨bound, ?_, ?_⟩
  · intro inTime
    have kept : lost = 0 := by simp only [lost, inTime, Nat.cast_zero, zero_div, mul_zero]
    rw [kept, sub_zero] at bound
    exact bound
  · intro tooMuch
    rw [lt_abs]
    right
    linarith [(abs_le.mp bound).2]

/-- After one idle cycle a period has just begun, so nothing is lost of the charge. -/
theorem emitted_after_idle_cycle : ∃ start,
    create { riseThreshold := 10.0, windowLength := 2, smoothing := ⟨4, 2.0⟩ } (fun _ _ => 8.0) =
        .ok start ∧
      ∃ extra, |start.emitted (List.replicate 1 20.0 ++ List.replicate (extra + 1) 85.0) -
        toRat 8.0| ≤ 2 * toRat Pump.residue + toRat 8.0 / 1000 := by
  obtain ⟨start, created⟩ : ∃ start,
      create { riseThreshold := 10.0, windowLength := 2, smoothing := ⟨4, 2.0⟩ }
        (fun _ _ => 8.0) = .ok start := ⟨_, rfl⟩
  rcases create_eq_ok created with ⟨settingsEq, tableEq, pumpEq, capacityEq, empty⟩
  have valid : start.settings.check = .ok () := by
    rw [settingsEq]
    decide +kernel
  have rises : start.settings.riseThreshold < 85.0 - 20.0 := by
    rw [settingsEq]
    decide
  rcases emitted_of_jump valid (by rw [settingsEq]; decide) (by rw [settingsEq]; decide)
    (by rw [settingsEq]; decide) tableEq (by decide) (by decide) capacityEq pumpEq
    (Or.inr ⟨empty, Nat.one_pos⟩) rises with ⟨⟨extra, emptied⟩, bounds⟩
  exact ⟨start, created, extra, (bounds extra emptied).2.1 (by rw [settingsEq]; decide)⟩

/-- A pump that has never been used takes a whole share off after one of two cycles. -/
theorem charge_halved_at_start : ∃ start,
    create { riseThreshold := 10.0, windowLength := 2, smoothing := ⟨2, 1.0⟩ } (fun _ _ => 8.0) =
        .ok start ∧
      ((start.sample 20.0).stepped [85.0]).pump.accumulated == 0.0 ∧
      (start.sample 20.0).emitted [85.0] = 4 :=
  ⟨_, rfl, by decide +kernel, by decide +kernel⟩

end Throttle
end TransientFuel
