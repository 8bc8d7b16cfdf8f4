import TransientFuel.Proofs.PumpDrain

/-!
# What a draining pump injects in total

A period injects the share of what is owed in equal portions. Each step is rounded, so that what is
injected and what is taken off differ a little, and the rest below the residue is dropped. This file
bounds both effects for settings and amounts of moderate size. The bound on the relative error is a
tenth of a thousandth, `tolerance`, which is large enough to be handed from one period to the next:
what it loses with the share of a period covers the rounding of that period.
-/

namespace TransientFuel.Pump

open Single (StandsFor toRat)
open Binary (rounded)

/-- Settings of moderate size. -/
structure Moderate (smoothing : Smoothing) : Prop where
  cycles_le : smoothing.cycles ≤ 1000
  share_le : toRat smoothing.share ≤ 1000

/-- What a cycle injects while an amount is owed. -/
def portion (smoothing : Smoothing) (owed : Float32) : ℚ :=
  toRat (owed / smoothing.share / Float32.ofInt smoothing.cycles)

/-- What some periods inject in total. -/
def injectedIn (smoothing : Smoothing) (owed : Float32) (periods : ℕ) : ℚ :=
  ∑ period ∈ Finset.range periods,
    smoothing.cycles * portion smoothing ((drain smoothing)^[period] owed)

/-- The relative error that covers all roundings. -/
def tolerance : ℚ := 1 / 10000

variable {smoothing : Smoothing} {owed : Float32}

theorem residue_bounds : 1 / 1001 ≤ toRat residue ∧ toRat residue ≤ 1 / 999 := by
  decide +kernel

theorem toRat_ofInt_cycles (moderate : Moderate smoothing) :
    (Float32.ofInt smoothing.cycles).isFinite = true ∧
      toRat (Float32.ofInt smoothing.cycles) = smoothing.cycles := by
  have positive := smoothing.one_le_cycles
  have small := moderate.cycles_le
  rw [smoothing.ofInt_cycles]
  refine ⟨Single.isFinite_ofNat (by omega), ?_⟩
  rw [(Single.standsFor_ofNat _).2, Single.rounded_natCast (by omega)]
  exact_mod_cast Int.toNat_of_nonneg (by omega)

section Errors

variable (moderate : Moderate smoothing) (settled : Settled owed)
  (large : toRat residue ≤ toRat owed) (small : toRat owed ≤ 1000)

include moderate settled large small

theorem abs_share_sub_le :
    |toRat (owed / smoothing.share) - toRat owed / toRat smoothing.share| ≤
      2 ^ (-24 : ℤ) * (toRat owed / toRat smoothing.share) := by
  have shareLarge := smoothing.share_spec.2
  have shareSmall := moderate.share_le
  have nonneg := settled.nonneg
  rw [(settled.share smoothing).1.2]
  apply Binary.abs_rounded_sub_le
  · calc (2 : ℚ) ^ (-126 : ℤ) ≤ 1 / 1001 / 1000 := by norm_num
      _ ≤ toRat owed / toRat smoothing.share := by
          gcongr
          exact residue_bounds.1.trans large
  · calc toRat owed / toRat smoothing.share ≤ toRat owed :=
          div_le_self settled.nonneg shareLarge
      _ ≤ 2 ^ (127 : ℤ) := small.trans (by norm_num)

/-- The share is not much smaller than a thousandth. -/
theorem le_share : toRat owed * (999 / 1000000) ≤ toRat (owed / smoothing.share) := by
  have error := (abs_le.mp (abs_share_sub_le moderate settled large small)).1
  have shareLarge := smoothing.share_spec.2
  have nonneg := settled.nonneg
  have thousandth : toRat owed / 1000 ≤ toRat owed / toRat smoothing.share := by
    have := moderate.share_le
    gcongr
  norm_num at error
  linarith

/-- The portions of a period add up to the share. -/
theorem abs_portions_sub_le :
    |smoothing.cycles * portion smoothing owed - toRat (owed / smoothing.share)| ≤
      2 ^ (-24 : ℤ) * toRat (owed / smoothing.share) := by
  rcases settled.share smoothing with ⟨_, shareNonneg, shareLe⟩
  rcases toRat_ofInt_cycles moderate with ⟨cyclesFinite, cyclesEq⟩
  have cyclesLarge : (1 : ℚ) ≤ smoothing.cycles := by exact_mod_cast smoothing.one_le_cycles
  have cyclesSmall : (smoothing.cycles : ℚ) ≤ 1000 := by exact_mod_cast moderate.cycles_le
  have shareLarge := le_share moderate settled large small
  have residueLarge := residue_bounds.1.trans large
  set share := toRat (owed / smoothing.share) with shareDef
  have rounding : |portion smoothing owed - share / smoothing.cycles| ≤
      2 ^ (-24 : ℤ) * (share / smoothing.cycles) := by
    rw [portion, (Single.standsFor_div (settled.share_finite smoothing) cyclesFinite
      (by rw [cyclesEq]; linarith)).2, cyclesEq, ← shareDef]
    apply Binary.abs_rounded_sub_le
    · calc (2 : ℚ) ^ (-126 : ℤ) ≤ 1 / 1001 * (999 / 1000000) / 1000 := by norm_num
        _ ≤ share / smoothing.cycles := by
            gcongr
            exact le_trans (by gcongr) shareLarge
    · calc share / smoothing.cycles ≤ share := div_le_self shareNonneg cyclesLarge
        _ ≤ 2 ^ (127 : ℤ) := (shareLe.trans small).trans (by norm_num)
  have cyclesPos : (0 : ℚ) < smoothing.cycles := by linarith
  calc |smoothing.cycles * portion smoothing owed - share|
      = smoothing.cycles * |portion smoothing owed - share / smoothing.cycles| := by
        rw [← abs_of_pos cyclesPos, ← abs_mul, abs_of_pos cyclesPos, mul_sub,
          mul_div_cancel₀ _ cyclesPos.ne']
    _ ≤ smoothing.cycles * (2 ^ (-24 : ℤ) * (share / smoothing.cycles)) := by gcongr
    _ = 2 ^ (-24 : ℤ) * share := by field_simp

omit moderate large in
/-- The rest is dropped if it is below the residue and rounded otherwise. -/
theorem drain_cases :
    toRat (drain smoothing owed) = 0 ∧
        toRat owed - toRat (owed / smoothing.share) ≤ toRat residue ∨
      toRat residue ≤ toRat (drain smoothing owed) ∧
        |toRat (drain smoothing owed) - (toRat owed - toRat (owed / smoothing.share))| ≤
          2 ^ (-24 : ℤ) * (toRat owed - toRat (owed / smoothing.share)) := by
  rcases settled.sub_share smoothing with ⟨stands, _, _⟩
  rcases settled.share smoothing with ⟨_, shareNonneg, _⟩
  have residueFinite : residue.isFinite = true := by decide
  have residueLarge := residue_bounds.1
  simp only [drain]
  split
  · rename_i less
    left
    refine ⟨Single.toRat_zero, ?_⟩
    by_contra! more
    have kept := Binary.rounded_mono more.le
    rw [Single.rounded_toRat residueFinite, ← stands.2] at kept
    exact absurd (Single.lt_iff.mp less).2.2 (not_lt.mpr kept)
  · rename_i notLess
    right
    have kept := (Single.le_iff.mp (Single.le_of_not_lt stands.1 (by decide) notLess)).2.2
    refine ⟨kept, ?_⟩
    rw [stands.2] at kept ⊢
    apply Binary.abs_rounded_sub_le
    · by_contra! tiny
      have := Binary.rounded_le (Binary.representable_zpow (by norm_num)) (by norm_num) tiny.le
      norm_num at this
      linarith
    · exact le_trans (by linarith) (show (1000 : ℚ) ≤ 2 ^ (127 : ℤ) by norm_num)

/-- A period takes off at least a two-thousandth. -/
theorem drain_le : toRat (drain smoothing owed) ≤ 1999 / 2000 * toRat owed := by
  have nonneg := settled.nonneg
  have shareLarge := le_share moderate settled large small
  have shareLe := (settled.share smoothing).2.2
  rcases drain_cases settled small with ⟨dropped, _⟩ | ⟨_, error⟩
  · rw [dropped]
    positivity
  · have upper := (abs_le.mp error).2
    norm_num at upper
    linarith

/-- In a period that is not the last, the tolerance pays for the roundings. -/
theorem abs_period_sub_le :
    toRat (drain smoothing owed) = 0 ∧
        |smoothing.cycles * portion smoothing owed - toRat owed| ≤
          toRat residue + tolerance * toRat owed ∨
      toRat residue ≤ toRat (drain smoothing owed) ∧
        |smoothing.cycles * portion smoothing owed + toRat (drain smoothing owed) - toRat owed| +
          tolerance * toRat (drain smoothing owed) ≤ tolerance * toRat owed := by
  have nonneg := settled.nonneg
  have shareLarge := le_share moderate settled large small
  have shareLe := (settled.share smoothing).2.2
  have portions := abs_le.mp (abs_portions_sub_le moderate settled large small)
  norm_num at portions
  rcases drain_cases settled small with ⟨dropped, rest⟩ | ⟨kept, error⟩
  · left
    refine ⟨dropped, ?_⟩
    have residuePos := residue_pos
    rw [abs_le, tolerance]
    constructor <;> linarith
  · right
    refine ⟨kept, ?_⟩
    have errors := abs_le.mp error
    norm_num at errors
    have distance : |smoothing.cycles * portion smoothing owed + toRat (drain smoothing owed) -
        toRat owed| ≤ 1 / 16777216 * toRat owed := by
      rw [abs_le]
      constructor <;> linarith
    rw [tolerance]
    linarith

end Errors

/-- An amount below the residue is zero. -/
theorem Settled.eq_zero_of_lt (settled : Settled owed) (less : toRat owed < toRat residue) :
    toRat owed = 0 :=
  settled.settled.resolve_right (not_le.mpr less)

/-- Nothing is injected where nothing is owed. -/
theorem portion_of_zero (fits : smoothing.period < 2 ^ 31) (settled : Settled owed)
    (zero : toRat owed = 0) : portion smoothing owed = 0 := by
  rcases smoothing.ofInt_cycles_spec fits with ⟨cyclesFinite, cyclesLarge⟩
  have share : toRat (owed / smoothing.share) = 0 := by
    rw [(settled.share smoothing).1.2, zero, zero_div, Binary.rounded_zero]
  rw [portion, (Single.standsFor_div (settled.share_finite smoothing) cyclesFinite
    (by linarith)).2, share, zero_div, Binary.rounded_zero]

theorem portion_eq_zero (moderate : Moderate smoothing) (settled : Settled owed)
    (zero : toRat owed = 0) : portion smoothing owed = 0 := by
  apply portion_of_zero _ settled zero
  have := (le_max_left _ _).trans moderate.cycles_le
  omega

theorem drain_eq_zero (settled : Settled owed) (zero : toRat owed = 0) :
    toRat (drain smoothing owed) = 0 :=
  le_antisymm (zero ▸ (settled.drain smoothing).2) (settled.drain smoothing).1.nonneg

theorem drain_zero : drain smoothing 0.0 = 0.0 := by
  rcases settled_zero.sub_share smoothing with ⟨stands, _, le⟩
  rw [Single.toRat_zero] at le
  have less : (0.0 : Float32) - 0.0 / smoothing.share < residue :=
    Single.lt_iff.mpr ⟨stands.1, by decide, le.trans_lt residue_pos⟩
  simp only [drain, if_pos less]

theorem injectedIn_succ (periods : ℕ) :
    injectedIn smoothing owed (periods + 1) = smoothing.cycles * portion smoothing owed +
      injectedIn smoothing (drain smoothing owed) periods := by
  rw [injectedIn, Finset.sum_range_succ', add_comm]
  rfl

theorem injectedIn_eq_zero (moderate : Moderate smoothing) (settled : Settled owed)
    (zero : toRat owed = 0) (periods : ℕ) : injectedIn smoothing owed periods = 0 := by
  induction periods generalizing owed with
  | zero => rfl
  | succ periods inductionHypothesis =>
      rw [injectedIn_succ, portion_eq_zero moderate settled zero, mul_zero, zero_add]
      exact inductionHypothesis (settled.drain smoothing).1 (drain_eq_zero settled zero)

/-- Once a pump is empty, it has injected what it owed, up to the residue and the tolerance. -/
theorem abs_injectedIn_sub_le (moderate : Moderate smoothing) (settled : Settled owed)
    (small : toRat owed ≤ 1000) {periods : ℕ}
    (emptied : toRat ((drain smoothing)^[periods] owed) = 0) :
    |injectedIn smoothing owed periods - toRat owed| ≤ toRat residue + tolerance * toRat owed := by
  have residuePos := residue_pos
  induction periods generalizing owed with
  | zero =>
      rw [Function.iterate_zero_apply] at emptied
      rw [emptied]
      simpa [injectedIn] using residuePos.le
  | succ periods inductionHypothesis =>
      rcases settled.settled with zero | large
      · rw [injectedIn_eq_zero moderate settled zero, zero]
        simpa using residuePos.le
      · have drained := (settled.drain smoothing).1
        have smaller := (settled.drain smoothing).2
        rw [injectedIn_succ]
        rcases abs_period_sub_le moderate settled large small with ⟨dropped, error⟩ | ⟨_, error⟩
        · rw [injectedIn_eq_zero moderate drained dropped, add_zero]
          exact error
        · have later := inductionHypothesis drained (smaller.trans small) emptied
          rw [abs_le] at later ⊢
          have period := abs_le.mp (le_sub_right_of_add_le error)
          constructor <;> linarith

/-- Every pump is emptied. -/
theorem exists_drain_eq_zero (moderate : Moderate smoothing) (settled : Settled owed)
    (small : toRat owed ≤ 1000) : ∃ periods, toRat ((drain smoothing)^[periods] owed) = 0 := by
  have decays (periods : ℕ) :
      toRat ((drain smoothing)^[periods] owed) ≤ (1999 / 2000) ^ periods * 1000 := by
    induction periods with
    | zero => simpa using small
    | succ periods inductionHypothesis =>
        have settledNow := settled.iterate_drain smoothing periods
        rw [Function.iterate_succ_apply']
        rcases settledNow.settled with zero | large
        · rw [drain_eq_zero settledNow zero]
          positivity
        · have step := drain_le moderate settledNow large
            (inductionHypothesis.trans (mul_le_of_le_one_left (by norm_num)
              (pow_le_one₀ (by norm_num) (by norm_num))))
          calc toRat (drain smoothing ((drain smoothing)^[periods] owed))
              ≤ 1999 / 2000 * toRat ((drain smoothing)^[periods] owed) := step
            _ ≤ 1999 / 2000 * ((1999 / 2000) ^ periods * 1000) := by gcongr
            _ = (1999 / 2000) ^ (periods + 1) * 1000 := by ring
  have residuePos := residue_pos
  obtain ⟨periods, below⟩ := exists_pow_lt_of_lt_one
    (show 0 < toRat residue / 1000 by positivity) (show (1999 / 2000 : ℚ) < 1 by norm_num)
  refine ⟨periods, (settled.iterate_drain smoothing periods).eq_zero_of_lt ?_⟩
  have := decays periods
  linarith

/--
A charge of which only some portions are injected before its first share is taken off. The portions
of the cycles that had passed before are lost; the rest is injected up to the residue, which can be
dropped once for the first period and once later, and a thousandth.
-/
theorem abs_injected_sub_le {charge : Float32} (moderate : Moderate smoothing)
    (settled : Settled charge) (large : toRat residue ≤ toRat charge)
    (small : toRat charge ≤ 1000) {remaining passed periods : ℕ}
    (parts : (remaining : ℚ) + passed = smoothing.cycles)
    (emptied : toRat ((drain smoothing)^[periods] (drain smoothing charge)) = 0) :
    |remaining * portion smoothing charge + injectedIn smoothing (drain smoothing charge) periods -
        (toRat charge - toRat charge / toRat smoothing.share * (passed / smoothing.cycles))| ≤
      2 * toRat residue + toRat charge / 1000 := by
  have nonneg := settled.nonneg
  have residuePos := residue_pos
  have cyclesLarge : (1 : ℚ) ≤ smoothing.cycles := by exact_mod_cast smoothing.one_le_cycles
  rcases settled.drain smoothing with ⟨drained, smaller⟩
  rcases settled.share smoothing with ⟨_, _, shareLe⟩
  have quotientLe : toRat charge / toRat smoothing.share ≤ toRat charge :=
    div_le_self nonneg smoothing.share_spec.2
  -- The errors of the portions, of the first share, of what it leaves, and of the later periods.
  have portions := abs_le.mp (abs_portions_sub_le moderate settled large small)
  have share := abs_le.mp (abs_share_sub_le moderate settled large small)
  have later := abs_le.mp (abs_injectedIn_sub_le moderate drained (smaller.trans small) emptied)
  have left : |toRat (drain smoothing charge) -
      (toRat charge - toRat (charge / smoothing.share))| ≤
        toRat residue + 1 / 16777216 * toRat charge := by
    rcases drain_cases settled small with ⟨dropped, rest⟩ | ⟨_, error⟩
    · rw [dropped, abs_le]
      constructor <;> linarith
    · norm_num at error
      linarith [(settled.share smoothing).2.1]
  norm_num at portions share
  set quotient := toRat charge / toRat smoothing.share with quotientDef
  set fraction := (remaining : ℚ) / smoothing.cycles with fractionDef
  have passedEq : (passed : ℚ) / smoothing.cycles = 1 - fraction := by
    rw [eq_sub_iff_add_eq, fractionDef, ← add_div, add_comm, parts, div_self (by linarith)]
  have portionsEq : remaining * portion smoothing charge =
      fraction * (smoothing.cycles * portion smoothing charge) := by
    rw [fractionDef, ← mul_assoc, div_mul_cancel₀ _ (by linarith)]
  have fractionNonneg : 0 ≤ fraction := by positivity
  have fractionLe : fraction ≤ 1 := by
    have : 0 ≤ (passed : ℚ) / smoothing.cycles := by positivity
    linarith
  have scaled : |fraction * (smoothing.cycles * portion smoothing charge - quotient)| ≤
      2 / 16777216 * toRat charge := by
    rw [abs_mul, abs_of_nonneg fractionNonneg]
    refine (mul_le_of_le_one_left (abs_nonneg _) fractionLe).trans ?_
    rw [abs_le]
    constructor <;> linarith
  have scaledBounds := abs_le.mp scaled
  have leftBounds := abs_le.mp left
  rw [passedEq, portionsEq, abs_le]
  simp only [tolerance] at later
  constructor <;> linarith

end TransientFuel.Pump
