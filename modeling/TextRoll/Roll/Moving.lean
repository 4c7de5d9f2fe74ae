/-
TextRoll/Roll/Moving.lean

Moving the cursor.

`seek` checks for an element first, and only then whether the index is a number and
whether it is that of an element; it keeps the spelling and the mark of the index.  The
single steps say whether they moved; they never leave the elements.

A cursor is a whole number.  A number with a point is no place for it, even one that lies
between the indices of two elements.
-/
import TextRoll.Roll.Basic

namespace TextRoll

namespace Roll

variable {α : Type}

/-- Moves the cursor to an index with a mark, if what was given is one. -/
def seek (l : Roll α) (i : Except Fault Whole) (mark : Mark) : Except Fault (Roll α) := do
  let _ ← l.currentIndex "seek"
  let given ← i
  let index ← l.checkIndex given
  return { l with cursor := index, cursorOrigin := if given.isTruth then .truth else .given mark }

/-- The roll with its cursor at an index that is counted, not given. -/
def moveTo (l : Roll α) (i : Nat) : Roll α :=
  { l with cursor := i, cursorOrigin := .counted, moves := l.moves + 1 }

/-- One element forward, unless this is the last. -/
def advance (l : Roll α) : Bool × Roll α :=
  if l.cursor + 1 < l.length then (true, l.moveTo (l.cursor + 1)) else (false, l)

/-- One element back, unless this is the first. -/
def retreat (l : Roll α) : Bool × Roll α :=
  if 0 < l.cursor then (true, l.moveTo (l.cursor - 1)) else (false, l)

/-- Back to the start. -/
def rewind (l : Roll α) : Roll α := l.moveTo 0

end Roll

end TextRoll
