/-
TextRoll/Walk.lean

Walks: handing out elements one at a time.

A walk over a roll is lazy.  It fixes how many elements it will hand out when
the first one is asked for, and looks at a slot only when its turn comes.  A
walk over the growths of a tally goes on for as long as the tally has another, but
once it has come to an end it stays there.  A walk over copies or over plain items
has them all from the start.
-/
import TextRoll.Value

namespace TextRoll

/-- How far a lazy walk has come. -/
inductive Progress
  /-- Nothing was asked for yet. -/
  | unstarted
  /-- The slot whose turn it is, and the number of elements to hand out. -/
  | running (turn bound : Nat)
  /-- There is nothing more to come. -/
  | finished
deriving DecidableEq, Repr

/-- Something that hands out elements one at a time. -/
inductive Walk
  | overRoll (r : RollId) (progress : Progress)
  /-- Over the growths of a tally: the place whose turn it is, or none after the end. -/
  | overGrowths (t : TallyId) (turn : Option Nat)
  | overCopies (rest : List Text)
  | overItems (subject : WalkKind) (rest : List Value)

instance : Inhabited Walk := ⟨.overItems .items []⟩

/-- What a walk goes over. -/
def Walk.kind : Walk → WalkKind
  | overRoll .. => .slots
  | overGrowths .. | overCopies _ => .items
  | overItems subject _ => subject

end TextRoll
