/-
TextRoll/Roll/Basic.lean

Rolls: growable storage with a cursor.

A roll keeps its elements in the first `length` slots of its storage, in order;
the slots behind them are empty.  The cursor names the current element.  Two
counters tell how the roll has changed: `reallocations` counts the times storage
grew, `generation` every change after which an element may have another place or
none.  The policy is the one in force when the roll was made.

Reading a slot can go wrong in two ways, and both have a name: the slot may be
empty or may not exist.  That neither happens to the elements of a roll is a
fact about its operations, not a part of the type.
-/
import TextRoll.Growth

namespace TextRoll

/-- How a cursor was set. -/
inductive CursorOrigin
  /-- By the roll itself, which counted. -/
  | counted
  /-- By a truth value, which is then shown in its place. -/
  | truth
  /-- By a number with a mark. -/
  | given (mark : Mark)
deriving DecidableEq, Repr

/-- Storage with elements of type `α` and a cursor. -/
structure Roll (α : Type) where
  /-- The storage: occupied slots, then empty ones. -/
  slots : List (Option α)
  /-- How many elements there are. -/
  length : Nat
  /-- The index of the current element. -/
  cursor : Nat
  /-- How the cursor was last set. -/
  cursorOrigin : CursorOrigin
  /-- How often the roll itself set the cursor. -/
  moves : Nat
  /-- Goes up with every change that can move or drop an element. -/
  generation : Nat
  /-- How often storage grew. -/
  reallocations : Nat
  /-- The policy in force when the roll was made. -/
  policy : Policy

namespace Roll

variable {α : Type}

instance : Inhabited (Roll α) := ⟨⟨[], 0, 0, .counted, 0, 0, 0, default⟩⟩

/-- The number of slots. -/
def capacity (l : Roll α) : Nat := l.slots.length

/-- The cursor in the spelling in which it was set. -/
def shownCursor (l : Roll α) : Whole :=
  if l.cursorOrigin = .truth ∧ l.cursor ≤ 1 then .truth (l.cursor == 1) else .numeral l.cursor

/-- However the cursor is spelled, it is the cursor. -/
@[simp] theorem toInt_shownCursor (l : Roll α) : l.shownCursor.toInt = l.cursor := by
  unfold shownCursor
  split
  · next h =>
    have hcases : l.cursor = 0 ∨ l.cursor = 1 := by omega
    rcases hcases with h₀ | h₁
    · simp [h₀, Whole.toInt]
    · simp [h₁, Whole.toInt]
  · rfl

/-! ### Making a roll -/

/-- An empty roll with some slots. -/
def ofSlots (p : Policy) (slots : Whole) : Except Fault (Roll α) := do
  p.grant 0 slots
  return ⟨List.replicate slots.toNat none, 0, 0, .counted, 0, 0, 0, p⟩

/-- An empty roll with the capacity asked for, or with the starting capacity of the policy. -/
def create (p : Policy) : Option Whole → Except Fault (Roll α)
  | some capacity =>
    if capacity.toInt < 0 then .error (.negativeCapacity (.ofInt capacity.toInt))
    else ofSlots p capacity
  | none => ofSlots p (.numeral p.startingCapacity)

/-! ### Reading slots -/

/-- The element in a slot; `wanted` is what it is wanted for, should the slot be empty. -/
def stored (l : Roll α) (wanted : String) (i : Nat) : Except Fault α :=
  match l.slots[i]? with
  | some (some a) => .ok a
  | some none => .error (.emptySlot wanted)
  | none => .error .missingSlot

/-- The index of an element, or the fault of an index that is none. -/
def checkIndex (l : Roll α) (i : Whole) : Except Fault Nat :=
  if 0 ≤ i.toInt ∧ i.toInt < l.length then .ok i.toNat
  else .error (.outOfRange i.value (.ofInt l.length))

/-- The index of the current element, for an operation that needs one. -/
def currentIndex (l : Roll α) (operation : String) : Except Fault Nat :=
  if l.length = 0 then .error (.emptyRoll (.ofText operation)) else .ok l.cursor

/-- What is in a slot of the storage, empty or not; a negative index counts from the end. -/
def slotAt (l : Roll α) (i : Int) : Except Fault (Option α) :=
  if (uncountableSlots : Int) ≤ i ∨ i < -(uncountableSlots : Int) then .error .indexOverflow
  else
    let place := if i < 0 then i + l.capacity else i
    if place < 0 then .error .missingSlot
    else match l.slots[place.toNat]? with
      | some slot => .ok slot
      | none => .error .missingSlot

end Roll

end TextRoll
