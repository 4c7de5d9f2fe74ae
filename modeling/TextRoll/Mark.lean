/-
TextRoll/Mark.lean

Places and marks: what tells a thing from its equals.

Things that change live at places: buffers, rolls, tallies and walks, each kind in
an arena of its own.  Things that never change can be equal and yet be two; they
carry a mark.  Something that a script writes out is marked by where it is written,
something that a request made and a register kept by a serial number, and what a
thing works out and holds on to by that thing and by how far it had changed.  A thing
that is passed on and stored keeps its mark wherever it goes.

Two marked things are one exactly when `Mark.same` holds of their marks.  A fresh
thing was not kept by anything yet and is no other thing.
-/

namespace TextRoll

/-! ### Places -/

/-- Where a buffer lives. -/
structure BufferId where
  index : Nat
deriving DecidableEq, Repr

/-- Where a roll lives. -/
structure RollId where
  index : Nat
deriving DecidableEq, Repr

/-- Where a tally lives. -/
structure TallyId where
  index : Nat
deriving DecidableEq, Repr

/-! ### Marks -/

/-- What tells a thing that never changes from its equals. -/
inductive Mark
  /-- Not kept by anything yet. -/
  | fresh
  /-- The only thing with its content: a short text, or what has a word of its own. -/
  | word
  /-- A name in a record that a script writes out: the only such name with its content. -/
  | name
  /-- Written out in a script, by the place where it is written. -/
  | written (place : Nat)
  /-- Kept after a request handed it out. -/
  | kept (serial : Nat)
  /-- Joined from the pieces of a buffer that had been edited so often. -/
  | joined (b : BufferId) (edits : Nat)
  /-- Worked out by a tally that had been told of so many growths, and what for. -/
  | figure (t : TallyId) (told : Nat) (purpose : String)
  /-- Counted by a roll as its so many-th count, and what for. -/
  | count (r : RollId) (n : Nat) (purpose : String)
deriving DecidableEq, Repr

namespace Mark

/-- Whether two marks are of one thing. -/
def same (m n : Mark) : Bool := m != fresh && m == n

/-- A mark for what has none yet. -/
def orElse : Mark → Mark → Mark
  | fresh, m => m
  | m, _ => m

/-- The mark of the names in a record with a mark: those of a summary have words of their own. -/
def ofNames : Mark → Mark
  | written _ => name
  | _ => word

@[simp] theorem fresh_orElse (m : Mark) : fresh.orElse m = m := rfl

/-- A fresh thing is not even the same as another fresh one. -/
@[simp] theorem same_fresh (m : Mark) : m.same fresh = false := by
  cases m <;> simp [same]

end Mark

end TextRoll
