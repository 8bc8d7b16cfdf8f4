import TransientFuel.Proofs.Runs

/-!
# Windows as sliding lists

A window is a ring of slots, some of which hold readings from before it was last cleared or resized.
Seen from outside it is a bounded list of readings, newest first. This file gives that list as a
type of its own, `Sliding`, and shows that a window and its list cannot be told apart by any
sequence of operations: `replay_refines_sliding`.
-/

namespace TransientFuel

/-- An operation on a window. -/
inductive WindowAction where
  | push (reading : Float32)
  | clear
  | resize (requested : Int)

/-- A bounded list of readings, newest first. -/
structure Sliding where
  capacity : Nat
  readings : List Float32
deriving DecidableEq

namespace Sliding

def push (sliding : Sliding) (reading : Float32) : Sliding :=
  { sliding with readings := (reading :: sliding.readings).take sliding.capacity }

def clear (sliding : Sliding) : Sliding :=
  { sliding with readings := [] }

/-- The list after an operation. Only lengths from 1 to 32 can be asked for. -/
def apply (sliding : Sliding) : WindowAction → Sliding × Reply
  | .push reading => (sliding.push reading, .done)
  | .clear => (sliding.clear, .done)
  | .resize requested =>
    if 1 ≤ requested ∧ requested ≤ 32 then (⟨requested.toNat, []⟩, .done)
    else (sliding, .refused ⟨requested⟩)

end Sliding

namespace Window

/-- The window after an operation. -/
def apply (window : Window) : WindowAction → Window × Reply
  | .push reading => (window.push reading, .done)
  | .clear => (window.clear, .done)
  | .resize requested => settle window (window.resize requested)

/-- A window that was just made, with its list. -/
inductive Fresh : Window → Sliding → Prop
  | empty : Fresh Window.empty ⟨defaultLength, []⟩
  | ofLength {length : Nat} {window : Window} (made : ofLength length = .ok window) :
      Fresh window ⟨length, []⟩

/-- The list that a window stands for. -/
def sliding (window : Window) : Sliding :=
  ⟨window.capacity, window.toList⟩

section Slots

variable (window : Window)

theorem slot?_eq_some_iff {offset : Nat} {slot : Fin 32} :
    window.slot? offset = some slot ↔ offset < window.count ∧
      (slot : Nat) = (window.head + window.capacity - 1 - offset) % window.capacity := by
  by_cases held : offset < window.count
  · simp [slot?, held, Fin.ext_iff, eq_comm]
  · simp [slot?, held]

theorem slot?_lt_capacity {offset : Nat} {slot : Fin 32} (found : window.slot? offset = some slot) :
    slot < window.capacity := by
  rw [((slot?_eq_some_iff window).mp found).2]
  exact Nat.mod_lt _ window.capacity_pos

/-- A step back from the head is taken before the remainder, so it stays above zero. -/
theorem offset_succ_le {offset : Nat} (held : offset < window.count) :
    offset + 1 ≤ window.head + window.capacity := by
  have := window.count_le
  omega

theorem slot?_push_zero (reading : Float32) :
    (window.push reading).slot? 0 =
      some ⟨window.head, Nat.lt_of_lt_of_le window.head_lt window.capacity_le⟩ := by
  have capacityPos := window.capacity_pos
  have headLt := window.head_lt
  have counted : 0 < (window.push reading).count := by
    simp only [push]
    split <;> omega
  rw [slot?, if_pos counted, Option.some_inj, Fin.mk.injEq]
  simp only [push, Nat.sub_zero]
  rcases Nat.lt_or_ge (window.head + 1) window.capacity with inside | wraps
  · rw [Nat.mod_eq_of_lt inside, show window.head + 1 + window.capacity - 1 =
      window.head + window.capacity by omega, Nat.add_mod_right, Nat.mod_eq_of_lt headLt]
  · have last : window.head + 1 = window.capacity := by omega
    rw [last, Nat.mod_self, Nat.zero_add, Nat.mod_eq_of_lt (by omega)]
    omega

/-- The slots of the older readings do not move, but the ring forgets what it has no room for. -/
theorem slot?_push_succ (reading : Float32) (offset : Nat) :
    (window.push reading).slot? (offset + 1) =
      if offset + 1 < window.capacity then window.slot? offset else none := by
  have capacityPos := window.capacity_pos
  have headLt := window.head_lt
  have countLe := window.count_le
  have heldIff : offset + 1 < (window.push reading).count ↔
      offset + 1 < window.capacity ∧ offset < window.count := by
    simp only [push]
    split <;> omega
  by_cases room : offset + 1 < window.capacity
  · by_cases held : offset < window.count
    · rw [if_pos room, slot?, slot?, if_pos (heldIff.mpr ⟨room, held⟩), if_pos held,
        Option.some_inj, Fin.mk.injEq]
      simp only [push]
      rcases Nat.lt_or_ge (window.head + 1) window.capacity with inside | wraps
      · rw [Nat.mod_eq_of_lt inside]
        congr 1
        omega
      · have last : window.head + 1 = window.capacity := by omega
        rw [last, Nat.mod_self, show window.head + window.capacity - 1 - offset =
          (0 + window.capacity - 1 - (offset + 1)) + window.capacity by omega, Nat.add_mod_right]
    · rw [if_pos room, slot?, slot?, if_neg held, if_neg (fun inside => held (heldIff.mp inside).2)]
  · rw [if_neg room, slot?, if_neg (fun inside => room (heldIff.mp inside).1)]

/-- Less than a turn behind the newest reading, no slot is the one that is written next. -/
theorem slot?_ne_head {offset : Nat} {slot : Fin 32} (found : window.slot? offset = some slot)
    (room : offset + 1 < window.capacity) : (slot : Nat) ≠ window.head := by
  have headLt := window.head_lt
  rw [((slot?_eq_some_iff window).mp found).2]
  rcases Nat.lt_or_ge offset window.head with behind | wraps
  · rw [show window.head + window.capacity - 1 - offset =
      (window.head - 1 - offset) + window.capacity by omega, Nat.add_mod_right,
      Nat.mod_eq_of_lt (by omega)]
    omega
  · rw [Nat.mod_eq_of_lt (by omega)]
    omega

end Slots

section Readings

variable (window : Window)

@[simp]
theorem get?_push_zero (reading : Float32) : (window.push reading).get? 0 = some reading := by
  rw [get?, slot?_push_zero]
  simp [push]

theorem get?_push_succ (reading : Float32) (offset : Nat) :
    (window.push reading).get? (offset + 1) =
      if offset + 1 < window.capacity then window.get? offset else none := by
  rw [get?, slot?_push_succ]
  by_cases room : offset + 1 < window.capacity
  · rw [if_pos room, if_pos room, get?]
    cases found : window.slot? offset with
    | none => rfl
    | some slot =>
        have distinct := window.slot?_ne_head found room
        simp [push, Vector.getElem_set, Ne.symm distinct]
  · rw [if_neg room, if_neg room, Option.map_none]

theorem isSome_get?_iff {offset : Nat} : (window.get? offset).isSome ↔ offset < window.count := by
  rw [get?, Option.isSome_map, slot?]
  split <;> simp_all

/-- No offset below the count is stepped over. -/
theorem toList_eq_map :
    window.toList =
      (List.range window.count).map fun offset => (window.get? offset).getD 0.0 := by
  rw [toList, ← List.filterMap_eq_map]
  apply List.filterMap_congr
  intro offset held
  rcases Option.isSome_iff_exists.mp ((isSome_get?_iff window).mpr (List.mem_range.mp held)) with
    ⟨reading, found⟩
  rw [Function.comp_apply, found, Option.getD_some]

@[simp]
theorem length_toList : window.toList.length = window.count := by
  rw [toList_eq_map, List.length_map, List.length_range]

@[simp]
theorem getElem?_toList (offset : Nat) : window.toList[offset]? = window.get? offset := by
  rw [toList_eq_map, List.getElem?_map]
  rcases Nat.lt_or_ge offset window.count with held | beyond
  · rcases Option.isSome_iff_exists.mp ((isSome_get?_iff window).mpr held) with ⟨reading, found⟩
    rw [List.getElem?_range held, Option.map_some, found, Option.getD_some]
  · have missing : window.get? offset = none := by
      rw [← Option.not_isSome_iff_eq_none, isSome_get?_iff]
      omega
    rw [List.getElem?_eq_none (by simpa using beyond), Option.map_none, missing]

/-- A reading goes in front of the others, and the list is cut to the capacity. -/
theorem toList_push (reading : Float32) :
    (window.push reading).toList = (reading :: window.toList).take window.capacity := by
  apply List.ext_getElem?
  intro offset
  rw [getElem?_toList, List.getElem?_take]
  cases offset with
  | zero => rw [get?_push_zero, if_pos window.capacity_pos, List.getElem?_cons_zero]
  | succ offset => rw [get?_push_succ, List.getElem?_cons_succ, getElem?_toList]

@[simp]
theorem capacity_push (reading : Float32) :
    (window.push reading).capacity = window.capacity :=
  rfl

theorem capacity_foldl_push (readings : List Float32) :
    (readings.foldl push window).capacity = window.capacity := by
  induction readings generalizing window with
  | nil => rfl
  | cons reading rest inductionHypothesis =>
      simp [List.foldl_cons, inductionHypothesis]

theorem toList_foldl_push (readings : List Float32) :
    (readings.foldl push window).toList =
      (readings.reverse ++ window.toList).take window.capacity := by
  induction readings using List.reverseRecOn with
  | nil =>
      have fits := window.count_le
      rw [← length_toList] at fits
      simp [List.take_of_length_le fits]
  | append_singleton earlier reading inductionHypothesis =>
      rw [List.foldl_concat, toList_push, inductionHypothesis, capacity_foldl_push,
        List.reverse_append]
      cases room : window.capacity with
      | zero => rfl
      | succ length => simp [List.take_take]

theorem toList_eq_nil {window : Window} (cleared : window.count = 0) : window.toList = [] := by
  rw [← List.length_eq_zero_iff, length_toList, cleared]

end Readings

section Refinement

@[simp]
theorem sliding_push (window : Window) (reading : Float32) :
    (window.push reading).sliding = window.sliding.push reading := by
  rw [sliding, toList_push]
  rfl

@[simp]
theorem sliding_clear (window : Window) : window.clear.sliding = window.sliding.clear := by
  rw [sliding, toList_eq_nil rfl]
  rfl

/-- A length in range empties the list, whatever the slots still hold. -/
theorem resize_cases (window : Window) (requested : Int) :
    (1 ≤ requested ∧ requested ≤ 32 ∧ ∃ resized, window.resize requested = .ok resized ∧
        resized.sliding = ⟨requested.toNat, []⟩) ∨
      (¬(1 ≤ requested ∧ requested ≤ 32) ∧ window.resize requested = .error ⟨requested⟩) := by
  by_cases valid : 1 ≤ requested ∧ requested ≤ 32
  · left
    refine ⟨valid.1, valid.2, _, by rw [resize, dif_pos valid], ?_⟩
    rw [sliding, toList_eq_nil rfl]
  · right
    exact ⟨valid, by rw [resize, dif_neg valid]⟩

/-- One operation does the same to a window and to its list. -/
theorem apply_sliding (window : Window) (action : WindowAction) :
    window.sliding.apply action = ((window.apply action).1.sliding, (window.apply action).2) := by
  cases action with
  | push reading => rw [apply, sliding_push, Sliding.apply]
  | clear => rw [apply, sliding_clear, Sliding.apply]
  | resize requested =>
      rcases window.resize_cases requested with
        ⟨lower, upper, resized, accepted, emptied⟩ | ⟨invalid, refused⟩
      · rw [apply, accepted, settle, emptied, Sliding.apply, if_pos ⟨lower, upper⟩]
      · rw [apply, refused, settle, Sliding.apply, if_neg invalid]

theorem Fresh.sliding_eq {window : Window} {list : Sliding} (fresh : Fresh window list) :
    window.sliding = list := by
  cases fresh with
  | empty => rw [sliding, toList_eq_nil rfl]; rfl
  | @ofLength length window made =>
      rcases Window.empty.resize_cases (request length) with
        ⟨lower, upper, resized, accepted, emptied⟩ | ⟨invalid, refused⟩
      · rw [Window.ofLength, accepted] at made
        rw [← Except.ok.inj made, emptied]
        have exact : (request length).toNat = length := by
          simp only [request, longestRequest] at upper ⊢
          omega
        rw [exact]
      · rw [Window.ofLength, refused] at made
        contradiction

/--
After any operations on a window that was just made, its replies, its length, its readings, read one
at a time or as a list, are those of the sliding list after the same operations. Every slot that is
read or written is one of those in use, and the way back from the head does not pass below zero.
-/
theorem replay_refines_sliding {start : Window} {list : Sliding} (fresh : Fresh start list)
    (actions : List WindowAction) :
    let window := (replay Window.apply start actions).1
    let expected := (replay Sliding.apply list actions).1
    (replay Window.apply start actions).2 = (replay Sliding.apply list actions).2 ∧
      window.capacity = expected.capacity ∧
      1 ≤ window.capacity ∧ window.capacity ≤ 32 ∧
      window.count = expected.readings.length ∧
      window.toList = expected.readings ∧
      (∀ offset, window.get? offset = expected.readings[offset]?) ∧
      window.head < window.capacity ∧
      (∀ offset slot, window.slot? offset = some slot →
        (slot : Nat) < window.capacity ∧ offset + 1 ≤ window.head + window.capacity) := by
  intro window expected
  have simulated : replay Sliding.apply list actions =
      (window.sliding, (replay Window.apply start actions).2) := by
    rw [← fresh.sliding_eq]
    exact replay_map sliding apply_sliding start actions
  have expectedEq : expected = window.sliding := congrArg Prod.fst simulated
  refine ⟨(congrArg Prod.snd simulated).symm, by rw [expectedEq]; rfl, window.capacity_pos,
    window.capacity_le, ?_, ?_, ?_, window.head_lt, ?_⟩
  · rw [expectedEq, sliding, length_toList]
  · rw [expectedEq, sliding]
  · intro offset
    rw [expectedEq, sliding, getElem?_toList]
  · intro offset slot found
    exact ⟨window.slot?_lt_capacity found,
      window.offset_succ_le ((slot?_eq_some_iff window).mp found).1⟩

/-- Three readings turn a ring of two slots, and a refused length changes nothing. -/
theorem toList_after_turn : ∃ start, Fresh start ⟨2, []⟩ ∧
    (replay Window.apply start [.push 1.0, .push 2.0, .push 3.0, .resize 33]).1.toList =
      [3.0, 2.0] := by
  have fresh : Fresh _ ⟨2, []⟩ := .ofLength (show Window.ofLength 2 = .ok _ from rfl)
  refine ⟨_, fresh, ?_⟩
  rw [(replay_refines_sliding fresh _).2.2.2.2.2.1]
  decide

end Refinement
end Window
end TransientFuel
