import TransientFuel.Proofs.SlidingWindow

/-!
# Ages of readings

The age of a reading is found from the slots of the ring: it is the way back from the head to the
slot of the reading, and a way that is not positive leads round the ring. A slot at or past the head
is in use only when the ring is full, `slot?_cases`, so what is added to lead round is the number of
slots in use. The way back is then the offset of the reading and one more, wherever the head is.
-/

namespace TransientFuel.Window

variable {window : Window} {offset : ℕ}

/-- A reading is as many slots before the head as its offset says, perhaps round a full ring. -/
theorem slot?_cases {slot : Fin 32} (found : window.slot? offset = some slot) :
    (slot : ℕ) + offset + 1 = window.head ∨
      window.count = window.capacity ∧ (slot : ℕ) + offset + 1 = window.head + window.capacity := by
  have headLt := window.head_lt
  have countLe := window.count_le
  rcases (slot?_eq_some_iff window).mp found with ⟨held, slotEq⟩
  rcases Nat.lt_or_ge offset window.head with behind | wraps
  · left
    have back : window.head + window.capacity - 1 - offset =
        (window.head - 1 - offset) + window.capacity := by omega
    rw [back, Nat.add_mod_right, Nat.mod_eq_of_lt (by omega)] at slotEq
    omega
  · right
    have full : window.count = window.capacity := by
      by_contra notFull
      have atCount := window.head_eq_count (by omega)
      omega
    rw [Nat.mod_eq_of_lt (by omega)] at slotEq
    omega

theorem wayBack_of_slot? {slot : Fin 32} (found : window.slot? offset = some slot) :
    window.wayBack slot = offset + 1 := by
  have headLt := window.head_lt
  rcases ((slot?_eq_some_iff window).mp found) with ⟨held, _⟩
  have countLe := window.count_le
  simp only [wayBack]
  rcases slot?_cases found with before | ⟨full, round⟩
  · rw [if_neg (by omega)]
    omega
  · -- Only here is a turn of the ring added, also when the slot is the head itself.
    rw [if_pos (by omega), full, min_self]
    omega

/-- Before it is made a natural number, the way back is one already. -/
theorem map_wayBack_slot? (window : Window) (offset : ℕ) :
    (window.slot? offset).map window.wayBack =
      if offset < window.count then some ((offset : Int) + 1) else none := by
  cases found : window.slot? offset with
  | none =>
      rw [if_neg, Option.map_none]
      intro held
      simp [slot?, held] at found
  | some slot =>
      rw [if_pos ((slot?_eq_some_iff window).mp found).1, Option.map_some, wayBack_of_slot? found]

/-- The slots give each reading its place in the list as its age, counted from one. -/
theorem age?_eq (offset : ℕ) :
    window.age? offset = if offset < window.count then some (offset + 1) else none := by
  have onRing : window.age? offset =
      ((window.slot? offset).map window.wayBack).map Int.toNat := by
    rw [age?, Option.map_map]
    rfl
  rw [onRing, map_wayBack_slot?]
  split
  · simp only [Option.map_some, Option.some_inj]
    omega
  · rfl

/-- A reading moves back by one place with each reading that comes after it. -/
theorem get?_foldl_push (window : Window) (reading : Float32) {later : List Float32}
    (room : later.length < window.capacity) :
    (later.foldl push (window.push reading)).get? later.length = some reading := by
  rw [← getElem?_toList, toList_foldl_push, capacity_push, List.getElem?_take_of_lt room,
    List.getElem?_append_right (by simp)]
  simp

/--
The age of a reading is its offset and one more, and there is none past the last reading. The way
back along the ring is that number as it stands, so cutting it off below zero changes nothing and no
age is zero. Windows with equally many readings agree on ages, wherever their heads are. And the age
tells how many readings have come in since: that of a reading, while the window still holds it, is
the number of later ones and one more.
-/
theorem age?_exact (window : Window) (offset : ℕ) :
    window.age? offset = (if offset < window.count then some (offset + 1) else none) ∧
      (window.slot? offset).map window.wayBack =
        (if offset < window.count then some ((offset : Int) + 1) else none) ∧
      window.age? offset ≠ some 0 ∧
      (∀ other : Window, other.count = window.count → other.age? offset = window.age? offset) ∧
      ∀ (reading : Float32) (later : List Float32), later.length < window.capacity →
        (later.foldl push (window.push reading)).get? later.length = some reading ∧
          (later.foldl push (window.push reading)).age? later.length =
            some (later.length + 1) := by
  refine ⟨age?_eq offset, map_wayBack_slot? window offset, ?_, ?_, ?_⟩
  · rw [age?_eq]
    split <;> simp
  · intro other sameCount
    rw [age?_eq, age?_eq, sameCount]
  · intro reading later room
    have found := window.get?_foldl_push reading room
    refine ⟨found, ?_⟩
    rw [age?_eq, if_pos]
    apply (isSome_get?_iff _).mp
    rw [found, Option.isSome_some]

/-- A ring of two that has come round, one that is just full, and a reading followed by another. -/
theorem age?_exact_round : ∃ start, ofLength 2 = .ok start ∧
    (((start.push 1.0).push 2.0).push 3.0).head ≠ ((start.push 1.0).push 2.0).head ∧
      (((start.push 1.0).push 2.0).push 3.0).age? 1 = ((start.push 1.0).push 2.0).age? 1 ∧
      ((start.push 5.0).push 6.0).get? 1 = some 5.0 ∧
      ((start.push 5.0).push 6.0).age? 1 = some 2 := by
  refine ⟨_, rfl, by decide, ?_, ?_⟩
  · exact (age?_exact _ 1).2.2.2.1 _ rfl
  · exact (age?_exact _ 0).2.2.2.2 5.0 [6.0] (by decide)

end TransientFuel.Window
