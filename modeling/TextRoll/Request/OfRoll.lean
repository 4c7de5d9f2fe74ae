/-
TextRoll/Request/OfRoll.lean

Requests to rolls, plain and guarded.

A guard passes on all that a roll can do except handing out bookmarks and telling
its counters and its policy; `Act.askShared` answers what both have in common.
Elements go in as new buffers and come out either as the buffers themselves, when
they are taken out, or as copies.  A plain roll can also be asked for another one.
-/
import TextRoll.Request.General
import TextRoll.Roll.Moving
import TextRoll.Roll.Removing

namespace TextRoll

namespace Act

/-! ### Making rolls -/

/-- Why no roll can be made under something that is no policy: it lacks the first field that is
looked up, unless the capacity asked for is wrong in itself. -/
def notPolicy (got : Kind) : Option Whole → Fault
  | none => .missingAttribute got "default_capacity"
  | some capacity =>
    if capacity.toInt < 0 then .negativeCapacity (.ofInt capacity.toInt)
    else .missingAttribute got "max_capacity"

/-- Why no roll can be made with a capacity that has a point: it is below zero, or refused by what
is in force as the policy. -/
def noRoll (x : Binary64) (policy : Value) : Fault :=
  if (Number.real .fresh x).precedes (.ofInt 0) then .negativeCapacity (.real .fresh x)
  else match policy with
    | .policy p => Policy.refusedReal p x
    | v => .missingAttribute v.kind "max_capacity"

/-- An empty roll under the policy in force. -/
def newRoll (capacity : Option Whole) : Act (Roll BufferId) := do
  match (← get).ambient.policy with
  | .policy p => granted (Roll.create p capacity)
  | v => throw (notPolicy v.kind capacity)

/-- An empty roll with a capacity that was given, where null stands for none. -/
def newRollFor : Value → Act (Roll BufferId)
  | .null => newRoll none
  | .real _ x => do granted (.error (noRoll x (← get).ambient.policy))
  | v => do newRoll (some (← ofExcept (v.asSlots "<")))

/-! ### Changing and reading rolls -/

/-- Adds an element with a text of its own. -/
def appendText (r : RollId) (text : Text) : Act Unit := do
  let place := (← get).freeBuffer
  let (l, growth) ← granted ((← roll r).append place)
  recordGrowth growth
  modify (·.addBuffer (Buffer.ofText text))
  setRoll r l

/-- Makes room for as many elements as asked for by a number with a mark. -/
def reserve (r : RollId) (capacity : Whole) (mark : Mark) : Act Unit := do
  let (l, growth) ← granted ((← roll r).reserve capacity mark)
  setRoll r l
  recordGrowth growth

/-- Makes room for as many elements as a value says. -/
def reserveFor (r : RollId) : Value → Act Unit
  | .real _ x => do granted ((← roll r).reserveReal x)
  | v => do reserve r (← ofExcept (v.asSlots ">")) v.mark

/-- Takes out all elements. -/
def clear (r : RollId) : Act Unit := do
  let l ← roll r
  let release := (← get).truth l.policy.releaseOnClear
  setRoll r (l.clear release)
  note (.cleared l.length)

/-- Leaves a roll as it is after taking out an element, and hands that out. -/
def takenFrom (r : RollId) (outcome : Except Fault (BufferId × Roll BufferId)) : Act Answer := do
  let (b, l) ← ofExcept outcome
  setRoll r l
  return .value (.buffer b)

/-- A copy of the element in a slot. -/
def copyOf (r : RollId) (i : Nat) : Act Answer := do
  let b ← ofExcept ((← roll r).stored "copy" i)
  return .copy (← built b)

/-- Leaves a roll as it is after a move of the cursor, and hands out whether it moved. -/
def movedTo (r : RollId) (outcome : Bool × Roll BufferId) : Act Answer := do
  setRoll r outcome.2
  return .value (.bool outcome.1)

/-- One of the counts that a roll keeps. -/
def countOf (r : RollId) (name : String) (n : Nat) : Value := .int (.count r n name) n

/-- The cursor of a roll, as it was set. -/
def cursorOf (r : RollId) : Act Value := do
  let l ← roll r
  return l.shownCursor.valueAs (match l.cursorOrigin with
    | .given mark => mark
    | .counted | .truth => .count r l.moves "cursor")

/-- Answers the verbs that plain and guarded rolls share. -/
def askShared (asked : Value) (r : RollId) (verb : Verb) (args : List Value) : Act Answer :=
  match verb, args with
  | .add, [v] => do
    appendText r (← ofExcept (v.asText "add"))
    return .nothing
  | .addBuffer, [.buffer b] => do
    appendText r (← built b)
    return .nothing
  | .addBuffer, [v] => throw (.bufferExpected v.kind)
  | .reserve, [v] => do
    reserveFor r v
    return .nothing
  | .clear, [] => do
    clear r
    return .nothing
  | .remove, [] => do takenFrom r (← roll r).remove
  | .removeAt, [v] => do
    let l ← roll r
    takenFrom r (l.removeAt (← ofExcept (v.asIndex l.length)))
  | .current, [] => do copyOf r (← ofExcept ((← roll r).currentIndex "current"))
  | .get, [v] => do
    let l ← roll r
    copyOf r (← ofExcept (l.checkIndex (← ofExcept (v.asIndex l.length))))
  | .texts, [] => return .items ((← textsOf r "build").map fun t => .value (.text t))
  | .seek, [v] => do
    let l ← roll r
    setRoll r (← ofExcept (l.seek (v.asIndex l.length) v.mark))
    return .nothing
  | .advance, [] => do movedTo r (← roll r).advance
  | .retreat, [] => do movedTo r (← roll r).retreat
  | .rewind, [] => do
    setRoll r (← roll r).rewind
    return .nothing
  | .cursor, [] => return .value (← cursorOf r)
  | .capacity, [] => return .value (.ofInt (← roll r).capacity)
  | .length, [] => return .value (.ofInt (← roll r).length)
  | verb, args => askGeneral asked verb args

/-- Answers the verbs of plain rolls. -/
def askRoll (r : RollId) (verb : Verb) (args : List Value) : Act Answer :=
  match verb, args with
  | .bookmark, [] => do
    let l ← roll r
    let _ ← ofExcept (l.currentIndex "current_ref")
    return .value (.bookmark .fresh ⟨r, ← cursorOf r, countOf r "generation" l.generation⟩)
  | .generation, [] => return .value (countOf r "generation" (← roll r).generation)
  | .reallocations, [] => return .value (countOf r "reallocations" (← roll r).reallocations)
  | .policy, [] => return .value (.policy (← roll r).policy)
  | .withCapacity, [v] => return .draft (.roll (← newRollFor v))
  | .printed, [] | .written, [] => do
    let forms ← texts r
    return .value (.ofText (Printed.roll isUnprintable forms (← roll r).shownCursor))
  | verb, args => askShared (.roll r) r verb args

/-- Answers the verbs of guarded rolls. -/
def askGuarded (mark : Mark) (depth : Nat) (r : RollId) (verb : Verb) (args : List Value) :
    Act Answer :=
  match verb, args with
  | .printed, [] | .written, [] => do
    let forms ← texts r
    return .value (.ofText (Printed.guarded isUnprintable depth forms (← roll r).shownCursor))
  | verb, args => askShared (.guarded mark depth r) r verb args

end Act

end TextRoll
