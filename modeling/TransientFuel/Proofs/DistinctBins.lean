import TransientFuel.Proofs.CheckedSettings
import TransientFuel.Proofs.Interpolation
import TransientFuel.Tabulation

/-!
# Bins in order

Three comparisons meet when bins are collected from a list of numbers. The numbers are sorted by
their bit patterns, where negative zero lies below zero. Neighbours are dropped if they are equal as
numbers, so the two zeros become one bin. And a bin is found again by counting the bins that are
less as numbers. The three agree on finite numbers: the order by bit patterns refines the order of
numbers, `Single.toRat_le_of_rank_le`, so what is left after dropping is strictly increasing,
`binsOf_distinct`, and counting leads to the one bin that is equal, `BinsOf.eq_position_iff`.
-/

namespace TransientFuel

namespace Single

open Binary (signFactor)

/-- The number that the bits of a number give without the sign; infinity comes out as `2 ^ 128`. -/
def magnitude (bits : ℕ) : ℚ :=
  if bits / 0x800000 = 0 then (bits % 0x800000 : ℕ) * 2 ^ (-149 : ℤ)
  else (0x800000 + bits % 0x800000 : ℕ) * 2 ^ ((bits / 0x800000 : ℕ) - 150 : ℤ)

theorem magnitude_nonneg (bits : ℕ) : 0 ≤ magnitude bits := by
  rw [magnitude]
  split <;> positivity

/-- The next bit pattern adds one to the last place, or begins the next power of two. -/
theorem magnitude_le_succ (bits : ℕ) : magnitude bits ≤ magnitude (bits + 1) := by
  rcases Nat.lt_or_ge (bits % 0x800000 + 1) 0x800000 with inside | last
  · have field : (bits + 1) / 0x800000 = bits / 0x800000 := by omega
    have fraction : (bits + 1) % 0x800000 = bits % 0x800000 + 1 := by omega
    simp only [magnitude, field, fraction]
    split
    · gcongr
      omega
    · gcongr
      omega
  · have field : (bits + 1) / 0x800000 = bits / 0x800000 + 1 := by omega
    have fraction : (bits + 1) % 0x800000 = 0 := by omega
    have full : bits % 0x800000 = 0x7fffff := by omega
    simp only [magnitude, field, fraction, full, Nat.add_eq_zero_iff, one_ne_zero, and_false,
      if_false]
    split
    · rename_i small
      rw [small]
      norm_num
    · generalize bits / 0x800000 = exponent
      have next : (2 : ℚ) ^ ((exponent + 1 : ℕ) - 150 : ℤ) = 2 ^ ((exponent : ℤ) - 150) * 2 := by
        rw [← zpow_add_one₀ two_ne_zero]
        congr 1
        omega
      have positive : (0 : ℚ) < 2 ^ ((exponent : ℤ) - 150) := by positivity
      rw [next]
      norm_num
      linarith

theorem magnitude_mono : Monotone magnitude :=
  monotone_nat_of_le_succ magnitude_le_succ

theorem toRat_eq_magnitude {x : Float32} (known : x.isNaN = false) :
    toRat x = signFactor (isNegative x) * magnitude (x.toBits.toNat % 0x80000000) := by
  have number : Binary.Value.ofSingle x ≠ .notNumber := by
    intro missing
    rw [← isNaN_iff, known] at missing
    contradiction
  have infinity : (2 : ℚ) ^ (128 : ℤ) = (0x800000 : ℕ) * 2 ^ ((255 : ℕ) - 150 : ℤ) := by norm_num
  simp only [toRat, magnitude, isNegative, Binary.Value.ofSingle, Binary.single] at number ⊢
  generalize x.toBits.toNat % 0x80000000 = bits at number ⊢
  by_cases special : bits / 0x800000 = 255
  · by_cases whole : bits % 0x800000 = 0
    · simp only [special, whole, if_true, Binary.Value.toRat, infinity, Nat.add_zero]
      norm_num
    · simp [special, whole] at number
  · by_cases small : bits / 0x800000 = 0
    · simp [small, Binary.Value.toRat]
    · have place : (-149 + (bits / 0x800000 : ℕ) - 1 : ℤ) = (bits / 0x800000 : ℕ) - 150 := by omega
      simp only [special, small, if_false, Binary.Value.toRat, place]

/-- The order by bit patterns refines the order of numbers: it tells the two zeros apart. -/
theorem toRat_le_of_rank_le {x y : Float32} (xKnown : x.isNaN = false) (yKnown : y.isNaN = false)
    (le : rank x ≤ rank y) : toRat x ≤ toRat y := by
  have xWidth := x.toBits.toNat_lt
  have yWidth := y.toBits.toNat_lt
  rw [toRat_eq_magnitude xKnown, toRat_eq_magnitude yKnown]
  have xNonneg := magnitude_nonneg (x.toBits.toNat % 0x80000000)
  have yNonneg := magnitude_nonneg (y.toBits.toNat % 0x80000000)
  rw [rank, rank] at le
  cases xSign : isNegative x <;> cases ySign : isNegative y <;>
    simp only [xSign, ySign, Bool.false_eq_true, if_false, if_true] at le <;>
    simp only [isNegative, decide_eq_true_eq, decide_eq_false_iff_not] at xSign ySign <;>
    simp only [Binary.signFactor_true, Binary.signFactor_false]
  · have := magnitude_mono (show x.toBits.toNat % 0x80000000 ≤ y.toBits.toNat % 0x80000000 by omega)
    linarith
  · omega
  · linarith
  · have := magnitude_mono (show y.toBits.toNat % 0x80000000 ≤ x.toBits.toNat % 0x80000000 by omega)
    linarith

end Single

theorem strictlyIncreasing_iff_pairwise {bins : List Float32} :
    strictlyIncreasing bins = true ↔ bins.Pairwise (· < ·) := by
  fun_induction strictlyIncreasing bins with
  | case1 first second rest inductionHypothesis =>
      rw [Bool.and_eq_true, decide_eq_true_eq, inductionHypothesis, List.pairwise_cons (a := first)]
      apply and_congr_left
      intro increasing
      constructor
      · intro less bin member
        rcases List.mem_cons.mp member with rfl | later
        · exact less
        · exact Single.less_trans less ((List.pairwise_cons.mp increasing).1 bin later)
      · intro below
        exact below second List.mem_cons_self
  | case2 bins short =>
      rcases bins with _ | ⟨first, _ | ⟨second, rest⟩⟩
      · simp
      · simp
      · exact absurd rfl (short first second rest)

section Distinct

variable {numbers : List Float32}

theorem mem_of_mem_dropRepeats {kept bin : Float32} {rest : List Float32}
    (found : bin ∈ dropRepeats kept rest) : bin ∈ rest := by
  fun_induction dropRepeats kept rest with
  | case1 => contradiction
  | case2 kept next rest same inductionHypothesis =>
      exact List.mem_cons_of_mem _ (inductionHypothesis found)
  | case3 kept next rest other inductionHypothesis =>
      rcases List.mem_cons.mp found with rfl | later
      · exact List.mem_cons_self
      · exact List.mem_cons_of_mem _ (inductionHypothesis later)

/-- What is dropped is equal to what was kept last. -/
theorem exists_kept {kept number : Float32} {rest : List Float32}
    (known : ∀ bin ∈ kept :: rest, bin.isNaN = false) (found : number ∈ kept :: rest) :
    ∃ bin ∈ kept :: dropRepeats kept rest, (bin == number) = true := by
  fun_induction dropRepeats kept rest with
  | case1 kept =>
      exact ⟨number, found, Single.beq_self_of_known (known number found)⟩
  | case2 kept next rest same inductionHypothesis =>
      simp only [List.forall_mem_cons] at known
      rcases List.mem_cons.mp found with rfl | later
      · exact ⟨number, List.mem_cons_self, Single.beq_self_of_known known.1⟩
      rcases List.mem_cons.mp later with rfl | later
      · exact ⟨kept, List.mem_cons_self, by rw [Single.beq_swap]; exact same⟩
      · apply inductionHypothesis
        · exact List.forall_mem_cons.mpr ⟨known.1, known.2.2⟩
        · exact List.mem_cons_of_mem _ later
  | case3 kept next rest other inductionHypothesis =>
      simp only [List.forall_mem_cons] at known
      rcases List.mem_cons.mp found with rfl | later
      · exact ⟨number, List.mem_cons_self, Single.beq_self_of_known known.1⟩
      · rcases inductionHypothesis (List.forall_mem_cons.mpr known.2) later with ⟨bin, member, same⟩
        exact ⟨bin, List.mem_cons_of_mem _ member, same⟩

/-- Of numbers in order, only those that are above the one kept last are kept. -/
theorem pairwise_dropRepeats {kept : Float32} {rest : List Float32}
    (known : ∀ bin ∈ kept :: rest, bin.isNaN = false)
    (ordered : (kept :: rest).Pairwise fun x y => Single.toRat x ≤ Single.toRat y) :
    (kept :: dropRepeats kept rest).Pairwise (· < ·) := by
  fun_induction dropRepeats kept rest with
  | case1 kept => exact List.pairwise_singleton _ _
  | case2 kept next rest same inductionHypothesis =>
      apply inductionHypothesis
      · intro bin member
        exact known bin (List.mem_cons.mpr ((List.mem_cons.mp member).imp_right
          (List.mem_cons_of_mem _)))
      · exact ordered.sublist (List.Sublist.cons_cons _ (List.sublist_cons_self _ _))
  | case3 kept next rest other inductionHypothesis =>
      simp only [List.forall_mem_cons] at known
      rw [List.pairwise_cons] at ordered
      have later := inductionHypothesis (List.forall_mem_cons.mpr known.2) ordered.2
      have less : kept < next := by
        rw [Single.lt_iff]
        refine ⟨known.1, known.2.1, lt_of_le_of_ne (ordered.1 next List.mem_cons_self) ?_⟩
        intro same
        exact other (Single.beq_iff.mpr ⟨known.2.1, known.1, same.symm⟩)
      refine List.pairwise_cons.mpr ⟨?_, later⟩
      intro bin member
      rcases List.mem_cons.mp member with rfl | above
      · exact less
      · exact Single.less_trans less ((List.pairwise_cons.mp later).1 bin above)

theorem pairwise_mergeSort_rankLe (numbers : List Float32) :
    (numbers.mergeSort Single.rankLe).Pairwise fun x y => Single.rankLe x y = true := by
  apply List.pairwise_mergeSort
  · intro x y z
    simp only [Single.rankLe, decide_eq_true_eq]
    omega
  · intro x y
    simp only [Single.rankLe, Bool.or_eq_true, decide_eq_true_eq]
    omega

theorem pairwise_mergeSort_rank (known : ∀ number ∈ numbers, number.isNaN = false) :
    (numbers.mergeSort Single.rankLe).Pairwise fun x y => Single.toRat x ≤ Single.toRat y := by
  apply (pairwise_mergeSort_rankLe numbers).imp_of_mem
  intro x y xMember yMember le
  rw [List.mem_mergeSort] at xMember yMember
  exact Single.toRat_le_of_rank_le (known x xMember) (known y yMember) (of_decide_eq_true le)

/-- That bins are the different ones among some numbers, in order. -/
structure BinsOf (bins numbers : List Float32) : Prop where
  increasing : bins.Pairwise (· < ·)
  occurs : ∀ bin ∈ bins, bin ∈ numbers
  covers : ∀ number ∈ numbers, ∃ bin ∈ bins, (bin == number) = true

theorem binsOf_distinct (known : ∀ number ∈ numbers, number.isNaN = false) :
    BinsOf (distinct numbers) numbers := by
  have ordered := pairwise_mergeSort_rank known
  have same (bin : Float32) := (numbers.mergeSort_perm Single.rankLe).mem_iff (a := bin)
  rw [distinct]
  cases sorted : numbers.mergeSort Single.rankLe with
  | nil =>
      simp only [sorted] at same
      constructor
      · exact List.Pairwise.nil
      · intro bin found
        contradiction
      · intro number found
        exact absurd ((same number).mpr found) List.not_mem_nil
  | cons first rest =>
      simp only [sorted] at ordered same
      have sortedKnown : ∀ bin ∈ first :: rest, bin.isNaN = false := by
        intro bin member
        exact known bin ((same bin).mp member)
      constructor
      · exact pairwise_dropRepeats sortedKnown ordered
      · intro bin found
        apply (same bin).mp
        rcases List.mem_cons.mp found with rfl | later
        · exact List.mem_cons_self
        · exact List.mem_cons_of_mem _ (mem_of_mem_dropRepeats later)
      · intro number found
        exact exists_kept sortedKnown ((same number).mpr found)

end Distinct

theorem BinsOf.exists_axis {bins numbers : List Float32} (given : BinsOf bins numbers)
    (nonempty : numbers ≠ []) (finite : ∀ number ∈ numbers, number.isFinite = true) :
    ∃ axis : Axis, axis.bins = bins := by
  obtain ⟨number, found⟩ := List.exists_mem_of_ne_nil numbers nonempty
  obtain ⟨bin, member, _⟩ := given.covers number found
  refine ⟨⟨bins, List.ne_nil_of_mem member, ?_, ?_⟩, rfl⟩
  · intro other otherMember
    exact finite other (given.occurs other otherMember)
  · exact strictlyIncreasing_iff_pairwise.mpr given.increasing

/-- How many bins come before a number. -/
def position (bins : List Float32) (x : Float32) : ℕ :=
  (bins.takeWhile (· < x)).length

/-- The bins before a number are those that are less. -/
theorem lt_position_iff {bins : List Float32} (increasing : bins.Pairwise (· < ·)) {x : Float32}
    {index : ℕ} (inside : index < bins.length) : index < position bins x ↔ bins[index] < x := by
  have partitioned : bins.Pairwise fun earlier later =>
      decide (later < x) = true → decide (earlier < x) = true := by
    apply increasing.imp
    intro earlier later ordered less
    exact decide_eq_true (Single.less_trans ordered (of_decide_eq_true less))
  rw [position, lt_length_takeWhile_iff (· < x) partitioned inside, decide_eq_true_iff]

/-- The bin that is equal to a number is the first one that is not less. -/
theorem eq_position {bins : List Float32} (increasing : bins.Pairwise (· < ·)) {x : Float32}
    {index : ℕ} (inside : index < bins.length) (same : (bins[index] == x) = true) :
    index = position bins x := by
  have notLess : ¬bins[index] < x := by
    intro less
    rw [Single.not_beq_of_lt less] at same
    contradiction
  rcases Nat.lt_trichotomy index (position bins x) with before | atPosition | behind
  · exact absurd ((lt_position_iff increasing inside).mp before) notLess
  · exact atPosition
  · have bound := behind.trans inside
    have less := List.pairwise_iff_getElem.mp increasing _ _ bound inside behind
    have below := (lt_position_iff increasing bound).mpr (Single.lt_of_lt_of_beq less same)
    exact absurd below (lt_irrefl _)

/-- A number that has a bin is led to it, and no other bin is equal to it. -/
theorem BinsOf.eq_position_iff {bins numbers : List Float32} (given : BinsOf bins numbers)
    {x : Float32} (found : x ∈ numbers) :
    position bins x < bins.length ∧
      ∀ (index : ℕ) (inside : index < bins.length),
        (bins[index] == x) = true ↔ index = position bins x := by
  obtain ⟨bin, member, same⟩ := given.covers x found
  obtain ⟨index, inside, rfl⟩ := List.getElem_of_mem member
  have atIndex := eq_position given.increasing inside same
  refine ⟨atIndex ▸ inside, ?_⟩
  intro other otherInside
  constructor
  · intro otherSame
    exact eq_position given.increasing otherInside otherSame
  · intro otherAt
    obtain rfl : other = index := otherAt.trans atIndex.symm
    exact same

end TransientFuel
