/-
TextRoll/Request/OfBookmark.lean

Requests to bookmarks.

A bookmark is checked before every use: once its roll has reached another
generation it refuses, whatever it is asked and whatever it is given.  Otherwise
it stands for what is stored in its slot, the buffer itself and not a copy.
-/
import TextRoll.Request.General

namespace TextRoll

namespace Act

/-- What is stored where a bookmark points, if it still may be used. -/
def follow (m : Bookmark) : Act (Option BufferId) := do
  let l ← roll m.roll
  if (← get).isCurrent m then
    let i ← ofExcept (m.index.asWhole .indexExpected)
    ofExcept (l.slotAt i.toInt)
  else throw (.staleBookmark m.generation (.ofInt l.generation))

/-- The buffer where a bookmark points, for something that an empty slot cannot do. -/
def followTo (m : Bookmark) (wanted : String) : Act BufferId := do
  match ← follow m with
  | some b => return b
  | none => throw (.emptySlot wanted)

/-- Answers the verbs of bookmarks. -/
def askBookmark (mark : Mark) (m : Bookmark) (verb : Verb) (args : List Value) : Act Answer :=
  match verb, args with
  | .index, [] => return .value m.index
  | .isCurrent, [] => return .value (.bool ((← get).isCurrent m))
  | .get, [] => do
    match ← follow m with
    | some b => return .value (.buffer b)
    | none => return .nothing
  | .append, [v] => do
    let b ← followTo m "append"
    let t ← ofExcept (v.asText "append")
    editBuffer b (·.append t)
    return .itself
  | .clear, [] => do
    let b ← followTo m "clear"
    editBuffer b Buffer.clear
    return .itself
  | .build, [] => do
    let b ← followTo m "build"
    return .value (.text (← built b))
  | verb, args => askGeneral (.bookmark mark m) verb args

end Act

end TextRoll
