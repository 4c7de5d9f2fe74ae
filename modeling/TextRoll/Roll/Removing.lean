/-
TextRoll/Roll/Removing.lean

Taking elements out.

Taking out one element moves the later ones down by one slot and adds an empty
slot at the end, so the capacity stays.  A cursor behind the gap moves down with
its element; a cursor that would be left behind the last element steps back to
it.  A cursor that stays where it is keeps its origin.  Clearing empties every
occupied slot, and under a policy that gives storage back it also returns to the
default capacity when there is more than that.
-/
import TextRoll.Roll.Basic

namespace TextRoll

namespace Roll

variable {α : Type}

/-- Where the cursor goes when the element at `i` is taken out and `left` elements remain. -/
def cursorAfterRemoval (cursor i left : Nat) : Nat :=
  let moved := if i < cursor then cursor - 1 else cursor
  if left ≤ moved then left - 1 else moved

/-- Whether the cursor stays where it is when the element at `i` is taken out and `left` elements
remain. -/
def cursorStays (cursor i left : Nat) : Bool := cursor ≤ i && cursor < left

/-- The roll without the element at `i`. -/
def without (l : Roll α) (i : Nat) : Roll α :=
  let stays := cursorStays l.cursor i (l.length - 1)
  { l with
    slots := l.slots.eraseIdx i ++ [none]
    length := l.length - 1
    cursor := cursorAfterRemoval l.cursor i (l.length - 1)
    cursorOrigin := if stays then l.cursorOrigin else .counted
    moves := if stays then l.moves else l.moves + 1
    generation := l.generation + 1 }

/-- The element in a slot, and the roll without it. -/
def takeSlot (l : Roll α) (i : Nat) : Except Fault (α × Roll α) :=
  (l.stored "copy" i).map fun a => (a, l.without i)

/-- Takes out the current element. -/
def remove (l : Roll α) : Except Fault (α × Roll α) := do
  l.takeSlot (← l.currentIndex "remove")

/-- Takes out the element at an index. -/
def removeAt (l : Roll α) (i : Whole) : Except Fault (α × Roll α) := do
  l.takeSlot (← l.checkIndex i)

/-- Takes out all elements; storage is given back if `release` says so. -/
def clear (l : Roll α) (release : Bool) : Roll α :=
  { l with
    slots :=
      if release ∧ l.policy.defaultCapacity < l.capacity then
        List.replicate l.policy.defaultCapacity none
      else List.replicate (min l.length l.capacity) none ++ l.slots.drop l.length
    length := 0
    cursor := 0
    cursorOrigin := .counted
    moves := l.moves + 1
    generation := l.generation + 1 }

end Roll

end TextRoll
