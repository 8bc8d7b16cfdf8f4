import TransientFuel.Proofs.PumpDecay

/-!
# Amounts that do not drain

A period takes a share off what the pump owes. If the share is less than half the distance to the
next smaller number, the difference is rounded back to what it was, and from then on every period
leaves the same amount. This file finds out when that happens. What a pump owes drains completely
unless there is such a stuck amount at or below it, `exists_iterate_drain_eq_zero_iff`: no period
gets past a stuck amount, because taking off such small shares is monotone, and every other amount
loses at least the distance to the next smaller number. Up to a divisor of two to the power of 24
nothing is stuck, and from two to the power of 26 on everything is.
-/

namespace TransientFuel

open Single (toRat)

namespace Binary

/-- Two representable numbers in a common place, which is that of the one with the finer unit. -/
theorem exists_common_place {left right : ℚ} (leftRepresentable : Representable left)
    (rightRepresentable : Representable right) (less : left < right) :
    ∃ (small large place : ℤ), left = small * 2 ^ place ∧ right = large * 2 ^ place ∧
      small ≤ 2 ^ 24 ∧ (large ≤ 2 ^ 24 ∨ 2 ∣ large) := by
  rcases leftRepresentable with ⟨small, leftPlace, smallShort, _, rfl⟩
  rcases rightRepresentable with ⟨large, rightPlace, largeShort, _, rfl⟩
  have refine_place (whole : ℤ) {coarse fine : ℤ} (le : fine ≤ coarse) :
      (whole : ℚ) * 2 ^ coarse = ((whole * 2 ^ (coarse - fine).toNat : ℤ) : ℚ) * 2 ^ fine := by
    push_cast
    rw [← zpow_natCast, Int.toNat_of_nonneg (by omega), mul_assoc, ← zpow_add₀ (by norm_num),
      sub_add_cancel]
  rcases le_or_gt rightPlace leftPlace with coarse | fine
  · refine ⟨small * 2 ^ (leftPlace - rightPlace).toNat, large, rightPlace,
      refine_place small coarse, rfl, ?_, Or.inl ((le_abs_self large).trans largeShort)⟩
    rw [refine_place small coarse] at less
    have below := lt_of_mul_lt_mul_right less (by positivity)
    have : small * 2 ^ (leftPlace - rightPlace).toNat < large := by exact_mod_cast below
    exact (this.le.trans (le_abs_self large)).trans largeShort
  · refine ⟨small, large * 2 ^ (rightPlace - leftPlace).toNat, leftPlace, rfl,
      refine_place large fine.le, (le_abs_self small).trans smallShort, Or.inr ?_⟩
    exact Dvd.dvd.mul_left (dvd_pow_self 2 (by omega)) large

/-- Representable numbers are apart by a unit in the last place. -/
theorem Representable.gap {left right : ℚ} (leftRepresentable : Representable left)
    (rightRepresentable : Representable right) (less : left < right) :
    2 ^ (-24 : ℤ) * right ≤ right - left := by
  rcases exists_common_place leftRepresentable rightRepresentable less with
    ⟨small, large, place, rfl, rfl, short, even⟩
  have powerPos : (0 : ℚ) < 2 ^ place := by positivity
  have below : small < large := by
    exact_mod_cast lt_of_mul_lt_mul_right less powerPos.le
  have apart : large ≤ 2 ^ 24 * (large - small) := by omega
  have apartRat : (large : ℚ) ≤ 2 ^ 24 * (large - small) := by exact_mod_cast apart
  calc 2 ^ (-24 : ℤ) * ((large : ℚ) * 2 ^ place)
      ≤ 2 ^ (-24 : ℤ) * (2 ^ 24 * (large - small) * 2 ^ place) := by gcongr
    _ = large * 2 ^ place - small * 2 ^ place := by
        norm_num
        ring

/-- A number far above the least one can be divided by a power of two. -/
theorem Representable.shift {number : ℚ} (representable : Representable number) {shift : ℤ}
    (large : 2 ^ (-125 - shift) ≤ number) : Representable (2 ^ shift * number) := by
  rcases representable with ⟨significand, exponent, short, _, rfl⟩
  refine ⟨significand, exponent + shift, short, ?_, ?_⟩
  · have shortRat : (significand : ℚ) ≤ 2 ^ (24 : ℤ) := by
      exact_mod_cast (le_abs_self significand).trans short
    have bound : (2 : ℚ) ^ (-125 - shift) ≤ 2 ^ (24 + exponent) := by
      calc (2 : ℚ) ^ (-125 - shift) ≤ significand * 2 ^ exponent := large
        _ ≤ 2 ^ (24 : ℤ) * 2 ^ exponent := by gcongr
        _ = 2 ^ (24 + exponent) := (zpow_add₀ (by norm_num) _ _).symm
    have := (zpow_le_zpow_iff_right₀ (by norm_num : (1 : ℚ) < 2)).mp bound
    omega
  · rw [zpow_add₀ (by norm_num)]
    ring

/-- What is left of a number when a part of it is taken off, each step rounded. -/
def remainder (divisor number : ℚ) : ℚ :=
  rounded (number - rounded (number / divisor))

section Remainder

variable {divisor number : ℚ} (representable : Representable number)
  (large : 2 ^ (-90 : ℤ) ≤ number) (bounded : number ≤ 2 ^ (128 : ℤ))

include representable large bounded

omit bounded in
theorem representable_part (shift : ℤ) (least : -35 ≤ shift) :
    Representable (2 ^ shift * number) := by
  apply representable.shift
  exact le_trans (zpow_le_zpow_right₀ (by norm_num) (by omega)) large

/-- Parts are compared with powers of two, which rounding respects. -/
theorem rounded_div_le (shift : ℤ) (least : -35 ≤ shift) (small : shift ≤ 0)
    (slow : 2 ^ (-shift) ≤ divisor) : rounded (number / divisor) ≤ 2 ^ shift * number := by
  have positive : 0 < number := lt_of_lt_of_le (by positivity) large
  have power : (2 : ℚ) ^ shift ≤ 1 := zpow_le_one_of_nonpos₀ (by norm_num) small
  apply rounded_le (representable_part representable large shift least)
  · rw [abs_of_nonneg (by positivity)]
    exact (mul_le_of_le_one_left positive.le power).trans bounded
  · rw [div_le_iff₀ (lt_of_lt_of_le (by positivity) slow)]
    calc number = 2 ^ shift * number * 2 ^ (-shift) := by
          rw [mul_right_comm, ← zpow_add₀ (by norm_num), add_neg_cancel, zpow_zero, one_mul]
      _ ≤ 2 ^ shift * number * divisor := by gcongr

theorem le_rounded_div (positive : 0 < divisor) (fast : divisor ≤ 2 ^ (24 : ℤ)) :
    2 ^ (-24 : ℤ) * number ≤ rounded (number / divisor) := by
  have numberPos : 0 < number := lt_of_lt_of_le (by positivity) large
  apply le_rounded (representable_part representable large (-24) (by norm_num))
  · rw [abs_of_nonneg (by positivity)]
    exact (mul_le_of_le_one_left numberPos.le (by norm_num)).trans bounded
  · rw [le_div_iff₀ positive]
    calc 2 ^ (-24 : ℤ) * number * divisor ≤ 2 ^ (-24 : ℤ) * number * 2 ^ (24 : ℤ) := by gcongr
      _ = number := by
          norm_num
          ring

/-- A divisor that is not too large takes something off. -/
theorem remainder_lt (positive : 0 < divisor) (fast : divisor ≤ 2 ^ (24 : ℤ)) :
    remainder divisor number < number := by
  have part := le_rounded_div representable large bounded positive fast
  have numberPos : 0 < number := lt_of_lt_of_le (by positivity) large
  rw [remainder]
  rcases lt_or_ge (number - rounded (number / divisor)) (2 ^ (-126 : ℤ)) with tiny | normal
  · calc rounded (number - rounded (number / divisor)) ≤ 2 ^ (-126 : ℤ) :=
          rounded_le (representable_zpow (by norm_num)) (by norm_num) tiny.le
      _ < 2 ^ (-90 : ℤ) := by norm_num
      _ ≤ number := large
  · -- Rounding up wins back less than the part that was taken off.
    rcases rounded_near normal with ⟨grid, error, value⟩
    have above := (abs_le.mp error).2
    rw [value]
    apply (min_le_left _ _).trans_lt
    norm_num at part above ⊢
    linarith

/-- With a large divisor, nothing representable below the number is passed. -/
theorem le_remainder {lower : ℚ} (slow : 2 ^ (24 : ℤ) ≤ divisor) (lowerNonneg : 0 ≤ lower)
    (lowerRepresentable : Representable lower) (less : lower < number) :
    lower ≤ remainder divisor number := by
  have part := rounded_div_le representable large bounded (-24) (by norm_num) (by norm_num) slow
  have apart := lowerRepresentable.gap representable less
  apply le_rounded lowerRepresentable
  · rw [abs_of_nonneg lowerNonneg]
    exact less.le.trans bounded
  · norm_num at part apart
    linarith

/-- A very large divisor takes nothing off. -/
theorem remainder_eq (slow : 2 ^ (26 : ℤ) ≤ divisor) : remainder divisor number = number := by
  have part := rounded_div_le representable large bounded (-26) (by norm_num) (by norm_num) slow
  have numberPos : 0 < number := lt_of_lt_of_le (by positivity) large
  have divisorPos : 0 < divisor := lt_of_lt_of_le (by positivity) slow
  have partNonneg : 0 ≤ rounded (number / divisor) := rounded_nonneg (by positivity)
  have restPos : 0 < number - rounded (number / divisor) := by
    norm_num at part
    linarith
  rcases rounded_nearest restPos with ⟨grid, gridNonneg, gridRepresentable, nearest, value⟩
  -- The number itself is only the part away, so the result is within twice the part of it, and
  -- that is less than a gap on either side.
  have error := nearest number representable
  rw [sub_sub_cancel, abs_of_nonneg partNonneg, abs_le] at error
  have gridEq : grid = number := by
    rcases lt_trichotomy grid number with below | same | above
    · have apart := gridRepresentable.gap representable below
      norm_num at part apart
      linarith
    · exact same
    · have apart := representable.gap gridRepresentable above
      norm_num at part apart
      linarith
  rw [remainder, value, gridEq]
  exact min_eq_left bounded

end Remainder

end Binary

namespace Pump

open Binary (Representable remainder)

/-- An amount that a period without charges leaves as it is. -/
structure Stuck (smoothing : Smoothing) (amount : Float32) : Prop where
  large : residue ≤ amount
  kept : drain smoothing amount == amount

variable {smoothing : Smoothing} {owed amount : Float32}

theorem Settled.representable (settled : Settled owed) : Representable (toRat owed) :=
  (Single.operand_of_isFinite settled.finite).representable

theorem Settled.lt_top (settled : Settled owed) : toRat owed < 2 ^ (128 : ℤ) :=
  (abs_lt.mp ((Single.isFinite_iff owed).mp settled.finite).2).2

theorem zpow_le_of_residue_le (large : toRat residue ≤ toRat owed) :
    2 ^ (-90 : ℤ) ≤ toRat owed :=
  le_trans (by norm_num) (residue_bounds.1.trans large)

/-- What a period leaves depends on the number only that the amount stands for. -/
theorem Settled.toRat_drain (settled : Settled owed) :
    toRat (Pump.drain smoothing owed) =
      if remainder (toRat smoothing.share) (toRat owed) < toRat residue then 0
      else remainder (toRat smoothing.share) (toRat owed) := by
  have stands := (settled.sub_share smoothing).1
  rw [(settled.share smoothing).1.2] at stands
  have same : owed - owed / smoothing.share < residue ↔
      remainder (toRat smoothing.share) (toRat owed) < toRat residue := by
    rw [Single.lt_iff, stands.2]
    exact ⟨fun less => less.2.2, fun less => ⟨stands.1, by decide, less⟩⟩
  simp only [Pump.drain, same]
  split
  · exact Single.toRat_zero
  · exact stands.2

theorem Stuck.toRat_drain (stuck : Stuck smoothing amount) :
    toRat (drain smoothing amount) = toRat amount :=
  (Single.beq_iff.mp stuck.kept).2.2

theorem Stuck.settled (stuck : Stuck smoothing amount) (settled : Settled owed)
    (le : toRat amount ≤ toRat owed) : Settled amount := by
  have large := Single.le_iff.mp stuck.large
  have nonneg := residue_pos.le.trans large.2.2
  exact ⟨settled.isFinite_of_le ⟨large.2.1, rfl⟩ nonneg le, Or.inr large.2.2⟩

/-- Up to a divisor of two to the power of 24, every period takes something off. -/
theorem Settled.drain_lt (settled : Settled owed) (large : toRat residue ≤ toRat owed)
    (fast : toRat smoothing.share ≤ 2 ^ (24 : ℤ)) :
    toRat (Pump.drain smoothing owed) < toRat owed := by
  have sharePos : 0 < toRat smoothing.share := zero_lt_one.trans_le smoothing.share_spec.2
  have less := Binary.remainder_lt settled.representable (zpow_le_of_residue_le large)
    settled.lt_top.le sharePos fast
  rw [settled.toRat_drain]
  split
  · exact residue_pos.trans_le large
  · exact less

theorem Stuck.share_large (stuck : Stuck smoothing amount) (settled : Settled amount) :
    2 ^ (24 : ℤ) < toRat smoothing.share := by
  by_contra! fast
  have less := settled.drain_lt (Single.le_iff.mp stuck.large).2.2 fast
  rw [stuck.toRat_drain] at less
  exact lt_irrefl _ less

/-- No period gets past a stuck amount. -/
theorem Stuck.le_drain (stuck : Stuck smoothing amount) (settled : Settled owed)
    (le : toRat amount ≤ toRat owed) : toRat amount ≤ toRat (drain smoothing owed) := by
  have amountSettled := stuck.settled settled le
  have amountLarge := (Single.le_iff.mp stuck.large).2.2
  rcases le.eq_or_lt with same | less
  · rw [settled.toRat_drain, ← same, ← amountSettled.toRat_drain, stuck.toRat_drain]
  · have left := Binary.le_remainder settled.representable
      (zpow_le_of_residue_le (amountLarge.trans le)) settled.lt_top.le
      (stuck.share_large amountSettled).le amountSettled.nonneg amountSettled.representable less
    rw [settled.toRat_drain, if_neg (not_lt.mpr (amountLarge.trans left))]
    exact left

theorem Stuck.le_iterate_drain (stuck : Stuck smoothing amount) (settled : Settled owed)
    (le : toRat amount ≤ toRat owed) (periods : ℕ) :
    toRat amount ≤ toRat ((drain smoothing)^[periods] owed) := by
  induction periods with
  | zero => exact le
  | succ periods inductionHypothesis =>
      rw [Function.iterate_succ_apply']
      exact stuck.le_drain (settled.iterate_drain smoothing periods) inductionHypothesis

/-- An amount that is not stuck loses at least the distance to the next smaller number. -/
theorem Settled.drain_le_of_not_stuck (settled : Settled owed)
    (large : toRat residue ≤ toRat owed) (free : ¬Stuck smoothing owed) :
    toRat (Pump.drain smoothing owed) ≤ toRat owed - 2 ^ (-24 : ℤ) * toRat residue := by
  rcases settled.drain smoothing with ⟨drained, le⟩
  have less : toRat (Pump.drain smoothing owed) < toRat owed := by
    apply lt_of_le_of_ne le
    intro same
    apply free
    exact ⟨Single.le_iff.mpr ⟨by decide, settled.stands.1, large⟩,
      Single.beq_iff.mpr ⟨drained.stands.1, settled.stands.1, same⟩⟩
  have apart := drained.representable.gap settled.representable less
  have scaled : (2 : ℚ) ^ (-24 : ℤ) * toRat residue ≤ 2 ^ (-24 : ℤ) * toRat owed := by gcongr
  linarith

/-- An amount drains completely if neither it nor a smaller one is stuck, and only then. -/
theorem exists_iterate_drain_eq_zero_iff (settled : Settled owed) :
    (∃ periods, toRat ((drain smoothing)^[periods] owed) = 0) ↔
      ∀ amount, Stuck smoothing amount → ¬amount ≤ owed := by
  constructor
  · rintro ⟨periods, emptied⟩ amount stuck le
    have kept := stuck.le_iterate_drain settled (Single.le_iff.mp le).2.2 periods
    have large := (Single.le_iff.mp stuck.large).2.2
    linarith [residue_pos]
  · intro free
    by_contra! never
    -- Every period takes off the gap at the residue or more, so less than nothing would be left.
    have current (periods : ℕ) := settled.iterate_drain smoothing periods
    have decreasing (periods : ℕ) : toRat ((drain smoothing)^[periods] owed) ≤
        toRat owed - periods * (2 ^ (-24 : ℤ) * toRat residue) := by
      induction periods with
      | zero => simp
      | succ periods inductionHypothesis =>
          have nonneg : 0 ≤ periods * (2 ^ (-24 : ℤ) * toRat residue) :=
            mul_nonneg (Nat.cast_nonneg _) (mul_nonneg (by positivity) residue_pos.le)
          have notStuck : ¬Stuck smoothing ((drain smoothing)^[periods] owed) := by
            intro stuck
            apply free _ stuck
            exact Single.le_iff.mpr ⟨(current periods).stands.1, settled.stands.1, by linarith⟩
          have step := (current periods).drain_le_of_not_stuck
            ((current periods).settled.resolve_left (never periods)) notStuck
          rw [Function.iterate_succ_apply']
          push_cast
          linarith
    have unit : 0 < (2 : ℚ) ^ (-24 : ℤ) * toRat residue := mul_pos (by positivity) residue_pos
    rcases Archimedean.arch (toRat owed) unit with ⟨periods, enough⟩
    have left := decreasing (periods + 1)
    have nonneg := (current (periods + 1)).nonneg
    rw [nsmul_eq_mul] at enough
    push_cast at left
    linarith

/-- An amount that has drained completely stays so. -/
theorem Settled.iterate_drain_eq_zero (settled : Settled owed) {periods later : ℕ}
    (emptied : toRat ((Pump.drain smoothing)^[periods] owed) = 0) (passed : periods ≤ later) :
    toRat ((Pump.drain smoothing)^[later] owed) = 0 := by
  induction later, passed using Nat.le_induction with
  | base => exact emptied
  | succ later _ inductionHypothesis =>
      rw [Function.iterate_succ_apply']
      exact drain_eq_zero (settled.iterate_drain smoothing later) inductionHypothesis

theorem not_stuck_of_share_le (settled : Settled owed) (fast : toRat smoothing.share ≤ 2 ^ (24 : ℤ))
    (stuck : Stuck smoothing amount) : ¬amount ≤ owed := by
  intro le
  have slow := stuck.share_large (stuck.settled settled (Single.le_iff.mp le).2.2)
  exact absurd fast (not_le.mpr slow)

/-- From a divisor of two to the power of 26 on, no period takes anything off. -/
theorem stuck_of_le_share (settled : Settled owed) (large : toRat residue ≤ toRat owed)
    (slow : 2 ^ (26 : ℤ) ≤ toRat smoothing.share) : Stuck smoothing owed := by
  have same := Binary.remainder_eq settled.representable (zpow_le_of_residue_le large)
    settled.lt_top.le slow
  refine ⟨Single.le_iff.mpr ⟨by decide, settled.stands.1, large⟩, Single.beq_iff.mpr
    ⟨(settled.drain smoothing).1.stands.1, settled.stands.1, ?_⟩⟩
  rw [settled.toRat_drain, same, if_neg (not_lt.mpr large)]

end Pump
end TransientFuel
