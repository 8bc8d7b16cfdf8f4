/-!
# The window of recent readings

A window keeps the newest readings of one sensor in a ring of slots. The number of slots in use,
its capacity, can be changed while running. Readings are addressed by their offset from the newest
one, so the position of the ring's head is never visible from outside.
-/

namespace TransientFuel

/-- A window length that was asked for and refused. -/
structure LengthRefused where
  /-- The length that was asked for. -/
  requested : Int
deriving DecidableEq, Repr

/-- The newest readings of one sensor, held in a ring. -/
structure Window where
  /-- The ring's slots, of which only the first `capacity` are in use. -/
  slots : Vector Float32 32
  /-- How many readings the window holds at most. -/
  capacity : Nat
  /-- The slot that the next reading goes to. -/
  head : Nat
  /-- How many readings are held. -/
  count : Nat
  capacity_pos : 0 < capacity
  capacity_le : capacity ≤ 32
  head_lt : head < capacity
  count_le : count ≤ capacity
  /-- Until the ring is full, readings fill it from the first slot on. -/
  head_eq_count : count < capacity → head = count

namespace Window

/-- No window holds more readings than this. -/
def maxLength : Nat := 32

/-- The length of a window that nobody has configured. -/
def defaultLength : Nat := 4

/-- The largest length that a request can name; longer requests are reported as this one. -/
def longestRequest : Nat := 0x7fffffffffffffff

/-- The window of default length without readings. -/
def empty : Window where
  slots := Vector.replicate 32 0.0
  capacity := defaultLength
  head := 0
  count := 0
  capacity_pos := by decide
  capacity_le := by decide
  head_lt := by decide
  count_le := by decide
  head_eq_count := fun _ => rfl

instance : Inhabited Window := ⟨empty⟩

/-- The window without its readings; its length stays. -/
def clear (window : Window) : Window :=
  { window with
    head := 0
    count := 0
    head_lt := window.capacity_pos
    count_le := Nat.zero_le _
    head_eq_count := fun _ => rfl }

/--
The window with another length, and without its readings. A length outside 1 to `maxLength` is
refused.
-/
def resize (window : Window) (requested : Int) : Except LengthRefused Window :=
  if valid : 1 ≤ requested ∧ requested ≤ 32 then
    .ok { window with
      capacity := requested.toNat
      head := 0
      count := 0
      capacity_pos := by omega
      capacity_le := by omega
      head_lt := by omega
      count_le := Nat.zero_le _
      head_eq_count := fun _ => rfl }
  else
    .error ⟨requested⟩

/-- The request to give a window this length. -/
def request (length : Nat) : Int :=
  (min length longestRequest : Nat)

/-- A window of the given length without readings. -/
def ofLength (length : Nat) : Except LengthRefused Window :=
  empty.resize (request length)

/-- The window after a new reading, which pushes out the oldest one when the window is full. -/
def push (window : Window) (reading : Float32) : Window :=
  { window with
    slots := window.slots.set window.head reading
      (Nat.lt_of_lt_of_le window.head_lt window.capacity_le)
    head := (window.head + 1) % window.capacity
    count := if window.count < window.capacity then window.count + 1 else window.count
    head_lt := Nat.mod_lt _ window.capacity_pos
    count_le := by
      have := window.count_le
      split <;> omega
    head_eq_count := by
      intro notFull
      split at notFull
      · rename_i room
        rw [window.head_eq_count room, if_pos room, Nat.mod_eq_of_lt notFull]
      · omega }

/-- The slot of the reading at an offset from the newest one. -/
def slot? (window : Window) (offset : Nat) : Option (Fin 32) :=
  if offset < window.count then
    some ⟨(window.head + window.capacity - 1 - offset) % window.capacity,
      Nat.lt_of_lt_of_le (Nat.mod_lt _ window.capacity_pos) window.capacity_le⟩
  else
    none

/-- The reading at an offset from the newest one, if the window goes back so far. -/
def get? (window : Window) (offset : Nat) : Option Float32 :=
  (window.slot? offset).map fun slot => window.slots[slot]

/-- The readings, newest first. -/
def toList (window : Window) : List Float32 :=
  (List.range window.count).filterMap window.get?

/-- Whether the window holds no reading. -/
def isEmpty (window : Window) : Bool :=
  window.count == 0

/--
The way back from the head to a slot. The slots are compared with the head: a slot at or past the
head was written before the ring came round.
-/
def wayBack (window : Window) (slot : Fin 32) : Int :=
  let behind : Int := (window.head : Int) - (slot : Nat)
  if behind ≤ 0 then behind + (min window.count window.capacity : Nat) else behind

/-- How many readings have come in since the one at an offset, itself counted. -/
def age? (window : Window) (offset : Nat) : Option Nat :=
  (window.slot? offset).map fun slot => (window.wayBack slot).toNat

end Window

/-- The wording of a refused length. -/
def LengthRefused.message (refusal : LengthRefused) : String :=
  s!"history length must be in [1, {Window.maxLength}], got {refusal.requested}"

end TransientFuel
