import TransientFuel.Proofs.RingDistance
import TransientFuel.Proofs.SingleOrder
import TransientFuel.Rise

/-!
# The steepest rise of a list of readings

What a window says about its steepest rise depends on its list of readings only. The rise is found
by walking from the newest pair of readings to the oldest one, and each step of the walk keeps the
invariant `Rise.SteepestIn` for the pairs seen so far. A pair whose difference is not a number
neither wins nor stands in the way of another, except in the newest place, where the walk begins and
nothing displaces it. Together this says which rise is found, `steepest?_eq_some_iff`.
-/

namespace TransientFuel

namespace Rise

/-- That a rise is made of two neighbouring readings of a list, newest first. -/
def In (rise : Rise) (readings : List Float32) : Prop :=
  readings[rise.offset]? = some rise.after ∧ readings[rise.offset + 1]? = some rise.before

/--
That no rise of a list is steeper than this one, and that the more recent ones are less steep, if
they have a steepness at all.
-/
structure SteepestIn (rise : Rise) (readings : List Float32) : Prop where
  found : rise.In readings
  unbeaten : ∀ other : Rise, other.In readings → ¬rise.delta < other.delta
  recent : ∀ other : Rise, other.In readings → other.offset < rise.offset →
    other.delta < rise.delta ∨ other.delta.isNaN = true

/--
That a rise is the one to be found in a list of readings: it is the most recent of the steepest
ones, and one that has no steepness is found in the newest place only, but there always.
-/
structure FoundIn (rise : Rise) (readings : List Float32) : Prop extends
    rise.SteepestIn readings where
  missing : rise.delta.isNaN = true → rise.offset = 0
  newest : ∀ other : Rise, other.In readings → other.offset = 0 → other.delta.isNaN = true →
    rise.offset = 0

variable {rise other : Rise} {readings : List Float32}

theorem In.offset_lt (found : rise.In readings) : rise.offset + 1 < readings.length := by
  rcases List.getElem?_eq_some_iff.mp found.2 with ⟨inside, _⟩
  exact inside

theorem In.eq_of_offset (found : rise.In readings) (otherFound : other.In readings)
    (same : rise.offset = other.offset) : rise = other := by
  have afterEq : some rise.after = some other.after := by
    rw [← found.1, ← otherFound.1, same]
  have beforeEq : some rise.before = some other.before := by
    rw [← found.2, ← otherFound.2, same]
  cases rise
  cases other
  simp_all

theorem in_take_iff {length : ℕ} :
    rise.In (readings.take length) ↔ rise.In readings ∧ rise.offset + 1 < length := by
  rw [In, In, List.getElem?_take, List.getElem?_take]
  by_cases inside : rise.offset + 1 < length
  · simp [inside, show rise.offset < length by omega]
  · simp [inside]

/-- One step of the walk: the next pair takes the lead only if it is strictly steeper. -/
theorem SteepestIn.steeper {best candidate : Rise} {last : ℕ}
    (leads : best.SteepestIn (readings.take (last + 1))) (found : candidate.In readings)
    (next : candidate.offset = last) :
    (best.steeper candidate).SteepestIn (readings.take (last + 2)) := by
  have bestFound := in_take_iff.mp leads.found
  have seen (other : Rise) (otherFound : other.In (readings.take (last + 2))) :
      other.In (readings.take (last + 1)) ∨ other = candidate := by
    rw [in_take_iff] at otherFound ⊢
    rcases Nat.lt_or_ge (other.offset + 1) (last + 1) with earlier | latest
    · exact Or.inl ⟨otherFound.1, earlier⟩
    · exact Or.inr (otherFound.1.eq_of_offset found (by omega))
  rw [Rise.steeper]
  split
  · rename_i less
    have lessRat := Single.lt_iff.mp less
    constructor
    · exact in_take_iff.mpr ⟨found, by omega⟩
    · intro other otherFound beats
      rcases seen other otherFound with earlier | rfl
      · apply leads.unbeaten other earlier
        rw [Single.lt_iff] at beats ⊢
        exact ⟨lessRat.1, beats.2.1, lessRat.2.2.trans beats.2.2⟩
      · exact lt_irrefl _ (Single.lt_iff.mp beats).2.2
    · intro other otherFound more
      rcases seen other otherFound with earlier | rfl
      · -- The pairs between the former lead and the new one did not beat the former lead.
        by_cases missing : other.delta.isNaN = true
        · exact Or.inr missing
        · left
          have le := Single.le_of_not_lt lessRat.1 (Bool.eq_false_iff.mpr missing)
            (leads.unbeaten other earlier)
          rw [Single.le_iff] at le
          exact Single.lt_iff.mpr ⟨le.1, lessRat.2.1, le.2.2.trans_lt lessRat.2.2⟩
      · exact absurd more (lt_irrefl _)
  · rename_i notLess
    constructor
    · exact in_take_iff.mpr ⟨bestFound.1, by omega⟩
    · intro other otherFound
      rcases seen other otherFound with earlier | rfl
      · exact leads.unbeaten other earlier
      · exact notLess
    · intro other otherFound more
      rcases seen other otherFound with earlier | rfl
      · exact leads.recent other earlier more
      · omega

theorem steeper_of_isNaN {best : Rise} (missing : best.delta.isNaN = true) (candidate : Rise) :
    best.steeper candidate = best := by
  rw [steeper, if_neg]
  intro less
  rw [(Single.lt_iff.mp less).1] at missing
  contradiction

/-- A walk that begins or ends without a steepness stays where it began. -/
theorem foldl_steeper_of_isNaN {newest : Rise} {candidates : List Rise}
    (missing : newest.delta.isNaN = true ∨
      (candidates.foldl Rise.steeper newest).delta.isNaN = true) :
    candidates.foldl Rise.steeper newest = newest := by
  induction candidates using List.reverseRecOn with
  | nil => rfl
  | append_singleton earlier candidate inductionHypothesis =>
      rw [List.foldl_concat] at missing ⊢
      rcases missing with atStart | atEnd
      · rw [inductionHypothesis (Or.inl atStart)]
        exact steeper_of_isNaN atStart candidate
      · rw [Rise.steeper] at atEnd ⊢
        split at atEnd
        · rename_i less
          rw [(Single.lt_iff.mp less).2.1] at atEnd
          contradiction
        · rename_i notLess
          rw [if_neg notLess]
          exact inductionHypothesis (Or.inr atEnd)

namespace FoundIn

variable (found : rise.FoundIn readings) (otherFound : other.FoundIn readings)

include found otherFound

theorem offset_le : other.offset ≤ rise.offset := by
  by_contra earlier
  rw [not_le] at earlier
  rcases otherFound.recent rise found.found earlier with less | missing
  · exact found.unbeaten other otherFound.found less
  · have atStart := otherFound.newest rise found.found (found.missing missing) missing
    omega

theorem unique : rise = other :=
  found.found.eq_of_offset otherFound.found
    (le_antisymm (otherFound.offset_le found) (found.offset_le otherFound))

end FoundIn

end Rise

namespace Window

variable {window : Window}

theorem riseAt?_eq_some_iff {offset : ℕ} {rise : Rise} :
    window.riseAt? offset = some rise ↔ rise.offset = offset ∧ rise.In window.toList := by
  rw [Rise.In, getElem?_toList, getElem?_toList, riseAt?]
  constructor
  · intro found
    split at found
    · rename_i afterFound beforeFound
      obtain rfl := Option.some.inj found
      exact ⟨rfl, afterFound, beforeFound⟩
    · contradiction
  · rintro ⟨rfl, afterFound, beforeFound⟩
    rw [afterFound, beforeFound]

theorem exists_riseAt? {offset : ℕ} (inside : offset + 1 < window.count) :
    ∃ rise, window.riseAt? offset = some rise := by
  obtain ⟨after, afterFound⟩ := Option.isSome_iff_exists.mp
    ((isSome_get?_iff window).mpr (show offset < window.count by omega))
  obtain ⟨before, beforeFound⟩ := Option.isSome_iff_exists.mp ((isSome_get?_iff window).mpr inside)
  exact ⟨⟨offset, before, after⟩, by rw [riseAt?, afterFound, beforeFound]⟩

/-- The walk over the pairs up to some offset finds the steepest of them. -/
theorem steepestIn_foldl {newest : Rise} (found : window.riseAt? 0 = some newest) (older : ℕ)
    (inside : older + 1 < window.count) :
    (((List.range' 1 older).filterMap window.riseAt?).foldl Rise.steeper newest).SteepestIn
      (window.toList.take (older + 2)) := by
  rw [riseAt?_eq_some_iff] at found
  induction older with
  | zero =>
      have only (other : Rise) (otherFound : other.In (window.toList.take 2)) :
          other = newest := by
        rw [Rise.in_take_iff] at otherFound
        exact otherFound.1.eq_of_offset found.2 (by omega)
      constructor
      · exact Rise.in_take_iff.mpr ⟨found.2, by simp [found.1]⟩
      · intro other otherFound beats
        rw [only other otherFound] at beats
        exact lt_irrefl _ (Single.lt_iff.mp beats).2.2
      · intro other otherFound more
        rw [only other otherFound] at more
        exact absurd more (lt_irrefl _)
  | succ older inductionHypothesis =>
      obtain ⟨candidate, candidateFound⟩ := exists_riseAt? inside
      have leads := inductionHypothesis (by omega)
      rw [List.range'_concat, List.filterMap_append, List.foldl_append]
      rw [show 1 + 1 * older = older + 1 by omega]
      simp only [List.filterMap_cons, candidateFound, List.filterMap_nil, List.foldl_cons,
        List.foldl_nil]
      rw [riseAt?_eq_some_iff] at candidateFound
      exact leads.steeper candidateFound.2 candidateFound.1

theorem steepest?_eq_none_iff : window.steepest? = none ↔ window.count < 2 := by
  rw [steepest?, Option.map_eq_none_iff]
  constructor
  · intro missing
    by_contra enough
    obtain ⟨rise, found⟩ : ∃ rise, window.riseAt? 0 = some rise := exists_riseAt? (by omega)
    rw [missing] at found
    contradiction
  · intro few
    rw [Option.eq_none_iff_forall_not_mem]
    intro rise found
    have inside := (riseAt?_eq_some_iff.mp found).2.offset_lt
    rw [length_toList] at inside
    omega

theorem isSome_steepest?_iff : window.steepest?.isSome = true ↔ 2 ≤ window.count := by
  rw [Option.isSome_iff_ne_none, ne_eq, steepest?_eq_none_iff, not_lt]

theorem steepestIn_of_steepest? {rise : Rise} (steepest : window.steepest? = some rise) :
    rise.SteepestIn window.toList := by
  rw [steepest?, Option.map_eq_some_iff] at steepest
  rcases steepest with ⟨newest, found, rfl⟩
  have enough := (riseAt?_eq_some_iff.mp found).2.offset_lt
  rw [length_toList] at enough
  have leads := steepestIn_foldl found (window.count - 2) (by omega)
  rw [List.take_of_length_le (by rw [length_toList]; omega)] at leads
  exact leads

theorem foundIn_of_steepest? {rise : Rise} (steepest : window.steepest? = some rise) :
    rise.FoundIn window.toList := by
  refine ⟨steepestIn_of_steepest? steepest, ?_, ?_⟩
  · intro missing
    rw [steepest?, Option.map_eq_some_iff] at steepest
    rcases steepest with ⟨newest, found, rfl⟩
    rw [Rise.foldl_steeper_of_isNaN (Or.inr missing)]
    exact (riseAt?_eq_some_iff.mp found).1
  · intro other otherFound atStart missing
    have found := riseAt?_eq_some_iff.mpr ⟨atStart, otherFound⟩
    rw [steepest?, found, Option.map_some, Option.some_inj] at steepest
    rw [← steepest, Rise.foldl_steeper_of_isNaN (Or.inl missing)]
    exact atStart

theorem steepest?_eq_some_iff {rise : Rise} :
    window.steepest? = some rise ↔ rise.FoundIn window.toList := by
  constructor
  · exact foundIn_of_steepest?
  · intro found
    have inside := found.found.offset_lt
    cases steepest : window.steepest? with
    | none =>
        rw [steepest?_eq_none_iff, ← length_toList] at steepest
        omega
    | some other => rw [(foundIn_of_steepest? steepest).unique found]

/-- Windows with the same readings have the same steepest rise, wherever their heads are. -/
theorem steepest?_congr {left right : Window} (same : left.toList = right.toList) :
    left.steepest? = right.steepest? := by
  have riseEq : left.riseAt? = right.riseAt? := by
    funext offset
    rw [riseAt?, riseAt?]
    simp only [← getElem?_toList, same]
  have countEq : left.count = right.count := by
    rw [← length_toList, ← length_toList, same]
  rw [steepest?, steepest?, riseEq, countEq]

/--
A window of fewer than two readings has no steepest rise. Any other window has one, which is told by
its two readings, next to each other, and by what the other pairs of neighbours are like: none has a
larger difference, and the more recent ones have a smaller one or none that is a number. If its own
difference is not a number, or that of the newest pair is not, it is the newest pair. The steepness
is the difference of the same rise.
-/
theorem steepest?_most_recent (window : Window) :
    (window.steepest? = none ↔ window.count < 2) ∧
      (∀ rise, window.steepest? = some rise ↔
        rise.offset + 1 < window.count ∧
          window.get? rise.offset = some rise.after ∧
          window.get? (rise.offset + 1) = some rise.before ∧
          (∀ offset after before,
            window.get? offset = some after → window.get? (offset + 1) = some before →
              ¬rise.delta < after - before ∧
                (offset < rise.offset →
                  after - before < rise.delta ∨ (after - before).isNaN = true) ∧
                (offset = 0 → (after - before).isNaN = true → rise.offset = 0)) ∧
          (rise.delta.isNaN = true → rise.offset = 0)) ∧
      window.steepness? = window.steepest?.map Rise.delta := by
  refine ⟨steepest?_eq_none_iff, ?_, rfl⟩
  intro rise
  have pair (other : Rise) : other.In window.toList ↔
      window.get? other.offset = some other.after ∧
        window.get? (other.offset + 1) = some other.before := by
    simp [Rise.In]
  rw [steepest?_eq_some_iff]
  constructor
  · intro found
    have inside := found.found.offset_lt
    rw [length_toList] at inside
    have readings := (pair rise).mp found.found
    refine ⟨inside, readings.1, readings.2, ?_, found.missing⟩
    intro offset after before afterFound beforeFound
    have otherFound := (pair ⟨offset, before, after⟩).mpr ⟨afterFound, beforeFound⟩
    have difference : (⟨offset, before, after⟩ : Rise).delta = after - before := rfl
    rw [← difference]
    exact ⟨found.unbeaten _ otherFound, found.recent _ otherFound, found.newest _ otherFound⟩
  · rintro ⟨_, afterFound, beforeFound, others, missing⟩
    refine ⟨⟨(pair rise).mpr ⟨afterFound, beforeFound⟩, ?_, ?_⟩, missing, ?_⟩
    all_goals
      intro other otherFound
      rcases (pair other).mp otherFound with ⟨afterHeld, beforeHeld⟩
      rcases others _ _ _ afterHeld beforeHeld with ⟨unbeaten, recent, newest⟩
      rw [← Rise.delta] at unbeaten recent newest
      assumption

/-- A reading that is not a number spoils two pairs, and a rise behind them is still found. -/
theorem steepest?_most_recent_behind_gap : ∃ start, ofLength 5 = .ok start ∧
    let window := [0.0, 7.0, 0.0 / 0.0, 3.0, 4.0].foldl push start
    ∃ rise, window.steepest? = some rise ∧ rise.offset = 3 ∧
      ∀ offset after before,
        window.get? offset = some after → window.get? (offset + 1) = some before →
          ¬rise.delta < after - before := by
  refine ⟨_, rfl, ?_⟩
  intro window
  have steepest : window.steepest? = some ⟨3, 0.0, 7.0⟩ := by decide +kernel
  refine ⟨_, steepest, rfl, ?_⟩
  intro offset after before afterFound beforeFound
  rcases ((steepest?_most_recent window).2.1 _).mp steepest with ⟨_, _, _, others, _⟩
  exact (others offset after before afterFound beforeFound).1

end Window
end TransientFuel
