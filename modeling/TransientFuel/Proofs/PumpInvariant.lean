import TransientFuel.Proofs.Channels

/-!
# The pump never owes less than it has noted

Whatever the settings, the table and the readings are, the peaks of the pump stay known and not
negative, and what the pump owes stays at least the peak of its period unless it becomes unknown.
Each of these facts survives rounding because rounding is monotone. It follows that a channel that
smooths its charges never takes fuel away: `replay_pump_sound`.
-/

namespace TransientFuel

namespace Smoothing

variable (smoothing : Smoothing)

theorem one_le_cycles : 1 ≤ smoothing.cycles :=
  le_max_right _ _

/-- The divisor in force is finite and at least one. -/
theorem share_spec : smoothing.share.isFinite = true ∧ 1 ≤ Single.toRat smoothing.share := by
  have oneFinite : (1.0 : Float32).isFinite = true := by decide
  have oneNumber : (1.0 : Float32).isNaN = false := by decide
  rw [share]
  split
  · rename_i finite
    rcases Single.larger_cases (x := smoothing.divisor) oneNumber with
      ⟨larger_eq, _⟩ | ⟨larger_eq, le⟩
    · rw [larger_eq]
      exact ⟨oneFinite, Single.toRat_one.ge⟩
    · rw [larger_eq]
      exact ⟨finite, Single.toRat_one.ge.trans (Single.le_iff.mp le).2.2⟩
  · exact ⟨oneFinite, Single.toRat_one.ge⟩

theorem ofInt_cycles :
    Float32.ofInt smoothing.cycles = Float32.ofNat smoothing.cycles.toNat := by
  have := smoothing.one_le_cycles
  obtain ⟨count, countEq⟩ := Int.eq_ofNat_of_zero_le (show 0 ≤ smoothing.cycles by omega)
  rw [countEq]
  rfl

/-- As a number, the number of cycles is still at least one. -/
theorem ofInt_cycles_large : (Float32.ofInt smoothing.cycles).isNaN = false ∧
    1 ≤ Single.toRat (Float32.ofInt smoothing.cycles) := by
  have := smoothing.one_le_cycles
  have stands := Single.standsFor_ofNat smoothing.cycles.toNat
  rw [ofInt_cycles, stands.2]
  refine ⟨stands.1, ?_⟩
  have one : Binary.Representable ((2 : ℚ) ^ (0 : ℤ)) := Binary.representable_zpow (by norm_num)
  rw [zpow_zero] at one
  apply Binary.le_rounded one (by norm_num)
  exact_mod_cast (show 1 ≤ smoothing.cycles.toNat by omega)

/-- A number of cycles that fits a machine word is finite as a number. -/
theorem ofInt_cycles_spec (fits : smoothing.period < 2 ^ 31) :
    (Float32.ofInt smoothing.cycles).isFinite = true ∧
      1 ≤ Single.toRat (Float32.ofInt smoothing.cycles) := by
  have := smoothing.one_le_cycles
  have small : smoothing.cycles < 2 ^ 31 := max_lt fits (by norm_num)
  refine ⟨?_, smoothing.ofInt_cycles_large.2⟩
  rw [ofInt_cycles]
  exact Single.isFinite_ofNat (by omega)

end Smoothing

namespace Pump

/-- The peaks are not negative, and what is owed is unknown or covers the period's peak. -/
structure Sound (pump : Pump) : Prop where
  cyclePeak_nonneg : 0.0 ≤ pump.cyclePeak
  periodPeak_nonneg : 0.0 ≤ pump.periodPeak
  injectedPeak_nonneg : 0.0 ≤ pump.injectedPeak
  owes : pump.accumulated.isNaN = true ∨ pump.periodPeak ≤ pump.accumulated
  countdown_nonneg : 0 ≤ pump.countdown

variable {pump : Pump} {smoothing : Smoothing}

theorem sound_idle : Sound idle where
  cyclePeak_nonneg := by decide
  periodPeak_nonneg := by decide
  injectedPeak_nonneg := by decide
  owes := Or.inr (by decide)
  countdown_nonneg := le_rfl

namespace Sound

/-- A charge of any kind is noted only if it is larger than the peak so far. -/
theorem note (sound : pump.Sound) (charge : Float32) : (pump.note smoothing charge).Sound where
  cyclePeak_nonneg := Single.larger_nonneg sound.cyclePeak_nonneg
  periodPeak_nonneg := sound.periodPeak_nonneg
  injectedPeak_nonneg := Single.larger_nonneg sound.injectedPeak_nonneg
  owes := sound.owes
  countdown_nonneg := sound.countdown_nonneg

theorem peakAfterCycle_nonneg (sound : pump.Sound) : 0.0 ≤ pump.peakAfterCycle :=
  Single.larger_nonneg sound.periodPeak_nonneg

/-- The former peak is taken off and the new one put on, and neither step passes below it. -/
theorem peakAfterCycle_le (sound : pump.Sound) :
    pump.owedAfterCycle.isNaN = true ∨ pump.peakAfterCycle ≤ pump.owedAfterCycle := by
  have restCases : (pump.accumulated - pump.periodPeak).isNaN = true ∨
      0.0 ≤ pump.accumulated - pump.periodPeak := by
    rcases sound.owes with missing | le
    · exact Or.inl (Single.isNaN_sub_left missing)
    · exact Single.sub_isNaN_or_nonneg sound.periodPeak_nonneg le
  rcases restCases with missing | nonneg
  · exact Or.inl (Single.isNaN_add_left missing)
  · exact Or.inr (Single.le_add_of_nonneg_left nonneg sound.peakAfterCycle_nonneg)

theorem startPeriod (pump : Pump) : (pump.startPeriod smoothing).Sound where
  cyclePeak_nonneg := Single.zero_nonneg
  periodPeak_nonneg := Single.zero_nonneg
  injectedPeak_nonneg := Single.zero_nonneg
  owes := by
    simp only [Pump.startPeriod]
    split
    · exact Or.inr Single.zero_nonneg
    · rename_i notLess
      by_cases missing : (pump.owedAfterCycle - pump.injectedPeak).isNaN = true
      · exact Or.inl missing
      · have atLeast := Single.le_of_not_lt (Bool.eq_false_iff.mpr missing) (by decide) notLess
        have residuePos : 0 ≤ Single.toRat residue := by decide +kernel
        rw [Single.le_iff] at atLeast
        exact Or.inr (Single.nonneg_iff.mpr ⟨atLeast.2.1, residuePos.trans atLeast.2.2⟩)
  countdown_nonneg := by
    have := smoothing.one_le_cycles
    change 0 ≤ smoothing.cycles
    omega

theorem endCycle (sound : pump.Sound) : (pump.endCycle smoothing).Sound := by
  rw [Pump.endCycle]
  split
  · exact startPeriod pump
  · rename_i running
    exact {
      cyclePeak_nonneg := Single.zero_nonneg
      periodPeak_nonneg := sound.peakAfterCycle_nonneg
      injectedPeak_nonneg := sound.injectedPeak_nonneg
      owes := sound.peakAfterCycle_le
      countdown_nonneg := by
        change 0 ≤ pump.countdown - 1
        omega }

theorem accumulated_nonneg (sound : pump.Sound) (known : pump.accumulated.isNaN = false) :
    0.0 ≤ pump.accumulated := by
  have peakNonneg := sound.periodPeak_nonneg
  rcases sound.owes with missing | le
  · rw [known] at missing
    contradiction
  · rw [Single.le_iff] at le
    rw [Single.nonneg_iff] at peakNonneg ⊢
    exact ⟨known, peakNonneg.2.trans le.2.2⟩

/-- As long as it is known what is owed, no charge can make the pump take fuel away. -/
theorem dose_nonneg (sound : pump.Sound) (known : pump.accumulated.isNaN = false)
    (fits : smoothing.period < 2 ^ 31) (charge : Float32) : 0.0 ≤ pump.dose smoothing charge := by
  rcases smoothing.share_spec with ⟨shareFinite, shareLarge⟩
  rcases smoothing.ofInt_cycles_spec fits with ⟨cyclesFinite, cyclesLarge⟩
  have owedNonneg : 0.0 ≤ Single.larger charge pump.accumulated :=
    Single.larger_nonneg (sound.accumulated_nonneg known)
  have injectionNonneg : 0.0 ≤ pump.injection smoothing charge :=
    Single.div_nonneg_of_finite owedNonneg shareFinite (by linarith)
  exact Single.div_nonneg_of_finite injectionNonneg cyclesFinite (by linarith)

end Sound

theorem countdown_endCycle_le (pump : Pump) (smoothing : Smoothing) :
    (pump.endCycle smoothing).countdown ≤ max pump.countdown smoothing.cycles := by
  rw [endCycle]
  split
  · exact le_max_right _ _
  · exact (Int.sub_le_self _ (by norm_num)).trans (le_max_left _ _)

end Pump

namespace Throttle

variable (channel : Throttle)

/-- All that an operation can do to the pump. -/
theorem pump_apply_cases (operation : Operation ThrottleSettings) :
    (channel.apply operation).1.pump = channel.pump ∨
      (channel.apply operation).1.pump = Pump.idle ∨
      (∃ charge, (channel.apply operation).1.pump =
        channel.pump.note channel.settings.smoothing charge) ∨
      (channel.apply operation).1.pump = channel.pump.endCycle channel.settings.smoothing := by
  cases operation with
  | sample reading => exact Or.inl rfl
  | compute =>
      simp only [apply, compute]
      split
      · exact Or.inl rfl
      · simp only [charged]
        split
        · exact Or.inr (Or.inr (Or.inl ⟨_, rfl⟩))
        · exact Or.inr (Or.inl rfl)
  | endCycle => exact Or.inr (Or.inr (Or.inr rfl))
  | reset => exact Or.inr (Or.inl rfl)
  | resize length =>
      left
      simp only [apply, resize]
      cases channel.window.resize length <;> rfl
  | reconfigure settings =>
      left
      simp only [apply, reconfigure, resize]
      split
      · rfl
      · cases channel.window.resize (Window.request settings.windowLength) <;> rfl
  | observe observed => exact Or.inl rfl

theorem sound_apply {channel : Throttle} (sound : channel.pump.Sound)
    (operation : Operation ThrottleSettings) : (channel.apply operation).1.pump.Sound := by
  rcases channel.pump_apply_cases operation with same | emptied | ⟨charge, noted⟩ | ended
  · rw [same]
    exact sound
  · rw [emptied]
    exact Pump.sound_idle
  · rw [noted]
    exact sound.note charge
  · rw [ended]
    exact sound.endCycle

theorem countdown_apply_le (operation : Operation ThrottleSettings) :
    (channel.apply operation).1.pump.countdown ≤
      max channel.pump.countdown channel.settings.smoothing.cycles := by
  have cyclesPos := channel.settings.smoothing.one_le_cycles
  rcases channel.pump_apply_cases operation with same | emptied | ⟨charge, noted⟩ | ended
  · rw [same]
    exact le_max_left _ _
  · rw [emptied]
    exact (show (0 : ℤ) ≤ channel.settings.smoothing.cycles by omega).trans (le_max_right _ _)
  · rw [noted]
    exact le_max_left _ _
  · rw [ended]
    exact channel.pump.countdown_endCycle_le _

theorem correction_nonneg {channel : Throttle} (sound : channel.pump.Sound)
    (known : channel.pump.accumulated.isNaN = false)
    (enabled : channel.settings.smoothing.isEnabled = true)
    (fits : channel.settings.smoothing.period < 2 ^ 31) : 0.0 ≤ channel.compute.correction := by
  rw [compute]
  split
  · exact Single.zero_nonneg
  · simp only [injected, if_pos enabled]
    exact sound.dose_nonneg known fits _

/-- A new channel has no readings and an idle pump. -/
theorem create_eq_ok {settings : ThrottleSettings} {table : Float32 → Float32 → Float32}
    {channel : Throttle} (created : create settings table = .ok channel) :
    channel.settings = settings ∧ channel.table = table ∧ channel.pump = Pump.idle ∧
      channel.window.capacity = settings.windowLength ∧ channel.window.isEmpty = true := by
  obtain ⟨new, rfl, tableEq⟩ := create_eq_ok_iff.mp created
  have none : channel.window.count = 0 := by
    rw [← Window.length_toList]
    exact congrArg List.length new.toList_eq
  exact ⟨rfl, tableEq, (congrArg pump new.idle_eq).symm, new.capacity_eq,
    by simp [Window.isEmpty, none]⟩

/-- The countdown is that of some settings that have been in force. -/
theorem replay_countdown_le {start : Throttle} (idle : start.pump = Pump.idle)
    (operations : List (Operation ThrottleSettings)) :
    ∃ earlier, earlier <+: operations ∧ (replay apply start operations).1.pump.countdown ≤
      (replay apply start earlier).1.settings.smoothing.cycles := by
  refine replay_induction (fun operations (channel : Throttle) => ∃ earlier,
    earlier <+: operations ∧ channel.pump.countdown ≤
      (replay apply start earlier).1.settings.smoothing.cycles) ?_ ?_ operations
  · refine ⟨[], List.nil_prefix, ?_⟩
    rw [idle]
    exact zero_le_one.trans (Smoothing.one_le_cycles _)
  · rintro past operation ⟨earlier, isPast, le⟩
    rcases le_max_iff.mp (countdown_apply_le (replay apply start past).1 operation) with
      older | newer
    · exact ⟨earlier, isPast.trans (List.prefix_append _ _), older.trans le⟩
    · exact ⟨past, List.prefix_append _ _, newer⟩

/--
Whatever is done to a channel, the peaks of its pump are known and not negative, what the pump owes
is unknown or at least the period's peak, and no more cycles are left than in a period of settings
that have been in force. While it is known what is owed, a channel that smooths its charges over a
number of cycles that fits a machine word never takes fuel away.
-/
theorem replay_pump_sound {settings : ThrottleSettings} {table : Float32 → Float32 → Float32}
    {start : Throttle} (created : create settings table = .ok start)
    (operations : List (Operation ThrottleSettings)) :
    let channel := (replay apply start operations).1
    let pump := channel.pump
    (pump.cyclePeak.isNaN = false ∧ 0.0 ≤ pump.cyclePeak) ∧
      (pump.periodPeak.isNaN = false ∧ 0.0 ≤ pump.periodPeak) ∧
      (pump.injectedPeak.isNaN = false ∧ 0.0 ≤ pump.injectedPeak) ∧
      (pump.accumulated.isNaN = true ∨
        0.0 ≤ pump.accumulated ∧ pump.periodPeak ≤ pump.accumulated) ∧
      0 ≤ pump.countdown ∧
      (∃ earlier, earlier <+: operations ∧
        pump.countdown ≤ (replay apply start earlier).1.settings.smoothing.cycles) ∧
      (pump.accumulated.isNaN = false → channel.settings.smoothing.isEnabled = true →
        channel.settings.smoothing.period < 2 ^ 31 →
        channel.compute.correction.isNaN = false ∧ 0.0 ≤ channel.compute.correction) := by
  have idle := (create_eq_ok created).2.2.1
  have sound : (replay apply start operations).1.pump.Sound :=
    replay_induction (fun _ (channel : Throttle) => channel.pump.Sound) (idle ▸ Pump.sound_idle)
      (fun _ operation past => sound_apply past operation) operations
  have known {x : Float32} (nonneg : 0.0 ≤ x) : x.isNaN = false ∧ 0.0 ≤ x :=
    ⟨(Single.nonneg_iff.mp nonneg).1, nonneg⟩
  refine ⟨known sound.cyclePeak_nonneg, known sound.periodPeak_nonneg,
    known sound.injectedPeak_nonneg, ?_, sound.countdown_nonneg,
    replay_countdown_le idle operations, ?_⟩
  · rcases sound.owes with missing | le
    · exact Or.inl missing
    · exact Or.inr ⟨sound.accumulated_nonneg (Single.le_iff.mp le).2.1, le⟩
  · intro owedKnown enabled fits
    exact known (correction_nonneg sound owedKnown enabled fits)

/-- A drop of the throttle in the middle of a smoothed charge. -/
theorem correction_nonneg_after_drop : ∃ start,
    create { dropMultiplier := 0.5, windowLength := 2, smoothing := ⟨3, 2.0⟩ } (fun _ _ => 8.0) =
        .ok start ∧
      0.0 ≤ (replay apply start [.sample 20.0, .sample 85.0, .compute, .endCycle,
        .sample 10.0]).1.compute.correction := by
  have created : create { dropMultiplier := 0.5, windowLength := 2, smoothing := ⟨3, 2.0⟩ }
      (fun _ _ => 8.0) = .ok _ := rfl
  refine ⟨_, created, ?_⟩
  exact ((replay_pump_sound created _).2.2.2.2.2.2 (by decide +kernel) (by decide +kernel)
    (by decide +kernel)).2

end Throttle
end TransientFuel
