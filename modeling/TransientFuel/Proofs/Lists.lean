import Mathlib

/-!
# Lists

Facts about lists in general: the first element with a property, lists that are related element by
element, the prefix of what passes a test, rows put behind each other, and search by halving.
-/

namespace TransientFuel

variable {α β : Type}

section First

theorem mem_take_iff {list : List α} {count : ℕ} {element : α} :
    element ∈ list.take count ↔ ∃ index < count, list[index]? = some element := by
  simp only [List.mem_iff_getElem?, List.getElem?_take]
  constructor
  · rintro ⟨index, found⟩
    split at found
    · rename_i before
      exact ⟨index, before, found⟩
    · contradiction
  · rintro ⟨index, before, found⟩
    exact ⟨index, by rwa [if_pos before]⟩

/-- The first element with a property, said by those before it. -/
theorem isLeast_iff {HasIt : α → Prop} {list : List α} {index : ℕ} {element : α}
    (found : list[index]? = some element) :
    IsLeast {index | ∃ element, list[index]? = some element ∧ HasIt element} index ↔
      HasIt element ∧ ∀ earlier ∈ list.take index, ¬HasIt earlier := by
  constructor
  · rintro ⟨⟨same, sameFound, has⟩, least⟩
    obtain rfl : element = same := Option.some.inj (found.symm.trans sameFound)
    refine ⟨has, ?_⟩
    intro earlier member earlierHas
    rcases mem_take_iff.mp member with ⟨other, before, otherFound⟩
    exact absurd (least ⟨earlier, otherFound, earlierHas⟩) (not_le.mpr before)
  · rintro ⟨has, without⟩
    refine ⟨⟨element, found, has⟩, ?_⟩
    rintro other ⟨earlier, otherFound, earlierHas⟩
    by_contra before
    exact without earlier (mem_take_iff.mpr ⟨other, not_le.mp before, otherFound⟩) earlierHas

theorem findIdx?_eq_some_iff_isLeast {test : α → Bool} {list : List α} {index : ℕ} :
    list.findIdx? test = some index ↔
      IsLeast {index | ∃ element, list[index]? = some element ∧ test element = true} index := by
  constructor
  · intro found
    rcases List.findIdx?_eq_some_iff_getElem.mp found with ⟨inside, passes, others⟩
    refine ⟨⟨list[index], List.getElem?_eq_getElem inside, passes⟩, ?_⟩
    rintro other ⟨element, elementAt, elementPasses⟩
    by_contra before
    rcases List.getElem?_eq_some_iff.mp elementAt with ⟨otherInside, rfl⟩
    exact others other (not_le.mp before) elementPasses
  · rintro ⟨⟨element, elementAt, passes⟩, least⟩
    rcases List.getElem?_eq_some_iff.mp elementAt with ⟨inside, rfl⟩
    refine List.findIdx?_eq_some_iff_getElem.mpr ⟨inside, passes, ?_⟩
    intro other before otherPasses
    have otherAt := List.getElem?_eq_getElem (before.trans inside)
    exact absurd (least ⟨_, otherAt, otherPasses⟩) (not_le.mpr before)

end First

section Related

theorem exists_forall₂ {related : α → β → Prop} {list : List α}
    (each : ∀ element ∈ list, ∃ result, related element result) :
    ∃ results, List.Forall₂ related list results := by
  induction list with
  | nil => exact ⟨[], .nil⟩
  | cons first rest inductionHypothesis =>
      rw [List.forall_mem_cons] at each
      obtain ⟨result, here⟩ := each.1
      obtain ⟨results, later⟩ := inductionHypothesis each.2
      exact ⟨result :: results, .cons here later⟩

theorem exists_of_forall₂ {related : α → β → Prop} {list : List α}
    {results : List β} (each : List.Forall₂ related list results) {element : α}
    (member : element ∈ list) : ∃ result ∈ results, related element result := by
  induction each with
  | nil => contradiction
  | cons here _ inductionHypothesis =>
      rcases List.mem_cons.mp member with rfl | later
      · exact ⟨_, List.mem_cons_self, here⟩
      · rcases inductionHypothesis later with ⟨result, found, holds⟩
        exact ⟨result, List.mem_cons_of_mem _ found, holds⟩

end Related

section Prefixes

variable (test : α → Bool) {list : List α}

theorem length_takeWhile : (list.takeWhile test).length = list.findIdx (!test ·) := by
  rw [List.takeWhile_eq_take_findIdx_not, List.length_take, min_eq_left List.findIdx_le_length]

theorem getElem_of_lt_takeWhile {index : ℕ} (bound : index < list.length)
    (inside : index < (list.takeWhile test).length) : test list[index] = true := by
  rw [length_takeWhile] at inside
  simpa using List.not_of_lt_findIdx inside

theorem getElem_length_takeWhile (bound : (list.takeWhile test).length < list.length) :
    test list[(list.takeWhile test).length] = false := by
  simp only [length_takeWhile] at bound ⊢
  simpa using List.findIdx_getElem (w := bound)

/-- If nothing passes the test behind an element that fails, the prefix holds all that pass. -/
theorem lt_length_takeWhile_iff
    (partitioned : list.Pairwise fun earlier later => test later = true → test earlier = true)
    {index : ℕ} (inside : index < list.length) :
    index < (list.takeWhile test).length ↔ test list[index] = true := by
  constructor
  · exact getElem_of_lt_takeWhile test inside
  · intro passes
    by_contra behind
    rw [not_lt] at behind
    have fails := getElem_length_takeWhile test (behind.trans_lt inside)
    rcases behind.eq_or_lt with same | later
    · simp only [same, passes] at fails
      contradiction
    · rw [List.pairwise_iff_getElem.mp partitioned _ _ _ inside later passes] at fails
      contradiction

end Prefixes

section Rows

/-- One element of a list of images changes if its preimage alone is looked at differently. -/
theorem set_map_eq {list : List α} {former latter : α → β} {index : ℕ} {value : β}
    (inside : index < list.length) (changed : latter list[index] = value)
    (others : ∀ (other : ℕ) (otherInside : other < list.length), other ≠ index →
      latter list[other] = former list[other]) :
    (list.map former).set index value = list.map latter := by
  apply List.ext_getElem
  · simp
  · intro other _ otherInside
    rw [List.length_map] at otherInside
    rw [List.getElem_set, List.getElem_map, List.getElem_map]
    split
    · rename_i same
      subst same
      exact changed.symm
    · rename_i different
      exact (others other otherInside (Ne.symm different)).symm

theorem length_flatten_even {rows : List (List α)} {columns : ℕ}
    (even : ∀ row ∈ rows, row.length = columns) : rows.flatten.length = rows.length * columns := by
  rw [List.length_flatten, List.map_congr_left even, List.map_const', List.sum_replicate,
    smul_eq_mul]

/-- Rows of equal length that are put behind each other are found again by counting. -/
theorem getElem?_flatten {rows : List (List α)} {columns : ℕ}
    (even : ∀ row ∈ rows, row.length = columns) (row : ℕ) {column : ℕ} (inside : column < columns) :
    rows.flatten[row * columns + column]? = rows[row]?.bind fun values => values[column]? := by
  induction rows generalizing row with
  | nil => simp
  | cons first rest inductionHypothesis =>
      have length : first.length = columns := even first (by simp)
      have later := inductionHypothesis fun values member => even values (by simp [member])
      cases row with
      | zero =>
          simp [List.getElem?_append_left (show column < first.length by omega)]
      | succ row =>
          have place : (row + 1) * columns + column = first.length + (row * columns + column) := by
            rw [length, Nat.succ_mul]
            omega
          rw [List.flatten_cons, place, List.getElem?_append_right (by omega),
            Nat.add_sub_cancel_left, later]
          rfl

end Rows

section Ranges

/-- An increasing list of whole numbers is not longer than the range that they lie in. -/
theorem length_le_of_pairwise {ranks : List ℤ} {least bound : ℤ}
    (increasing : ranks.Pairwise (· < ·))
    (inside : ∀ rank ∈ ranks, least ≤ rank ∧ rank < bound) :
    ranks.length ≤ (bound - least).toNat := by
  have distinct : ranks.Nodup := increasing.imp fun less => ne_of_lt less
  have subset : ranks.toFinset ⊆ Finset.Ico least bound := by
    intro rank member
    exact Finset.mem_Ico.mpr (inside rank (List.mem_toFinset.mp member))
  have few := Finset.card_le_card subset
  rwa [List.toFinset_card_of_nodup distinct, Int.card_Ico] at few

/-- A search that goes on in that half of its range where the point looked for is finds it. -/
theorem halving {Outcome : Type} {search : ℕ → ℕ → Outcome} {point bound : ℕ} {found : Outcome}
    (atPoint : search point point = found)
    (step : ∀ low high, low < high → high ≤ bound → search low high =
      if (low + high) / 2 < point then search ((low + high) / 2 + 1) high
      else search low ((low + high) / 2))
    {low high : ℕ} (lower : low ≤ point) (upper : point ≤ high) (inside : high ≤ bound) :
    search low high = found := by
  induction size : high - low using Nat.strong_induction_on generalizing low high with
  | h size inductionHypothesis =>
      rcases (lower.trans upper).eq_or_lt with same | apart
      · obtain rfl : low = point := by omega
        rw [← same]
        exact atPoint
      · rw [step low high apart inside]
        split
        · exact inductionHypothesis _ (by omega) (by omega) upper inside rfl
        · exact inductionHypothesis _ (by omega) lower (by omega) (by omega) rfl

end Ranges

end TransientFuel
