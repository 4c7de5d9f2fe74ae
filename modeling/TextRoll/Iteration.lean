/-
TextRoll/Iteration.lean

Walking to the next element, and to the end.

A lazy walk copies whatever is in the slot whose turn it is.  Until that has
worked the walk counts as finished, so a walk that met an empty or a missing
slot hands out nothing ever after; the same holds when its end is reached, and
for a walk over growths as well.  `Act.drain` walks to the end and leaves the walk
finished in every case.
-/
import TextRoll.Equality

namespace TextRoll

/-- Whether one list stands somewhere inside another. -/
def occursIn {α : Type} [BEq α] (piece : List α) : List α → Bool
  | [] => piece.isEmpty
  | x :: xs => piece.isPrefixOf (x :: xs) || occursIn piece xs

namespace Act

/-- Replaces the state of a walk. -/
def setWalk (k : WalkId) (x : Walk) : Act Unit := modify (·.setWalk k x)

/-- Copies the element whose turn it is on a lazy walk, if there is one left. -/
def takeTurn (k : WalkId) (r : RollId) (turn bound : Nat) : Act Item := do
  setWalk k (.overRoll r .finished)
  if bound ≤ turn then throw .exhausted
  let b ← ofExcept ((← roll r).stored "copy" turn)
  let text ← built b
  setWalk k (.overRoll r (.running (turn + 1) bound))
  return .copy text

/-- The growth whose turn it is on a walk over the growths of a tally, if there is one. -/
def takeGrowth (k : WalkId) (t : TallyId) (turn : Nat) : Act Item := do
  if turn < ((← get).tally t).events.length then
    setWalk k (.overGrowths t (some (turn + 1)))
    return .value (.growth t turn)
  else
    setWalk k (.overGrowths t none)
    throw .exhausted

/-- The next element of a walk. -/
def next (k : WalkId) : Act Item := do
  match (← get).walk k with
  | .overRoll r .unstarted => takeTurn k r 0 (← roll r).length
  | .overRoll r (.running turn bound) => takeTurn k r turn bound
  | .overRoll _ .finished => throw .exhausted
  | .overGrowths t (some turn) => takeGrowth k t turn
  | .overGrowths _ none => throw .exhausted
  | .overCopies [] => throw .exhausted
  | .overCopies (text :: rest) => do
    setWalk k (.overCopies rest)
    return .copy text
  | .overItems _ [] => throw .exhausted
  | .overItems subject (v :: rest) => do
    setWalk k (.overItems subject rest)
    return .value v

end Act

namespace World

/-- How many elements a walk can still hand out. -/
def remaining (w : World) (k : WalkId) : Nat :=
  match w.walk k with
  | .overRoll r .unstarted => (w.roll r).length
  | .overRoll _ (.running turn bound) => bound - turn
  | .overRoll _ .finished => 0
  | .overGrowths t (some turn) => (w.tally t).events.length - turn
  | .overGrowths _ none => 0
  | .overCopies rest => rest.length
  | .overItems _ rest => rest.length

/-- The walk at its end. -/
def finishWalk (w : World) (k : WalkId) : World :=
  w.setWalk k (match w.walk k with
    | .overRoll r _ => .overRoll r .finished
    | .overGrowths t _ => .overGrowths t none
    | .overCopies _ => .overCopies []
    | .overItems subject _ => .overItems subject [])

end World

namespace Act

/-- The next `count` elements of a walk, which is finished after them. -/
def drainCount (k : WalkId) : Nat → Act (List Item)
  | 0 => do
    modify (·.finishWalk k)
    return []
  | count + 1 => do
    let x ← next k
    let xs ← drainCount k count
    return x :: xs

/-- All elements that a walk can still hand out. -/
def drain (k : WalkId) : Act (List Item) := do drainCount k ((← get).remaining k)

/-- The elements of plain data and of growths, and what a walk over them goes over. -/
def parts? (w : World) : Value → Option (WalkKind × List Value)
  | .text ⟨s, _⟩ =>
    some (if s.toList.all (·.toNat < 128) then .plainCharacters else .characters,
      s.toList.map fun c => .ofText (String.singleton c))
  | .bytes _ octets => some (.octets, octets.map fun (n : Nat) => .ofInt n)
  | .list _ items => some (.items, items)
  | .record mark entries =>
    some (.names, entries.map fun (name, _) => .text (.marked name (.ofNames mark)))
  | .growths t => some (.items, w.growths t)
  | .growth t place =>
    let (before, after) := w.growth t place
    some (.pair, [before.value, after.value])
  | _ => none

/-- The elements of a value that has any. -/
def elements : Value → Act (List Item)
  | .roll r | .guarded _ _ r => return (← textsOf r "copy").map .copy
  | .walk k => drain k
  | v => do
    match parts? (← get) v with
    | some (_, items) => return items.map .value
    | none => throw (.notIterable v.kind)

/-- A new walk over a value. -/
def startWalk : Value → Act Answer
  | .roll r => return .draft (.walk (.overRoll r .unstarted))
  | .guarded _ _ r => return .draft (.walk (.overCopies (← textsOf r "copy")))
  | .growths t => return .draft (.walk (.overGrowths t (some 0)))
  | .walk _ => return .itself
  | v => do
    match parts? (← get) v with
    | some (subject, items) => return .draft (.walk (.overItems subject items))
    | none => throw (.notIterable v.kind)

/-! ### Membership -/

/-- Whether an item agrees with a value. -/
def itemAgrees (x : Item) (v : Value) : Act Bool :=
  match x with
  | .value u => agree u v
  | .copy text =>
    match v with
    | .buffer b => return text.content == (← textOf b)
    | .text t => return text.content == t.content
    | _ => return false

/-- Walks on until an element agrees with a value, for at most `count` elements. -/
def walkUntil (k : WalkId) (v : Value) : Nat → Act Bool
  | 0 => do
    modify (·.finishWalk k)
    return false
  | count + 1 => do
    let x ← next k
    if ← itemAgrees x v then return true else walkUntil k v count

/-- Whether a roll has an element with the text of a value. -/
def rollContains (r : RollId) : Value → Act Bool
  | .buffer b => do
    let sought ← textOf b
    return sought ∈ (← texts r)
  | .text t => return t.content ∈ (← texts r)
  | _ => return false

/-- Whether one of some values agrees with a value. -/
def anyAgrees (v : Value) : List Value → Act Bool
  | [] => return false
  | u :: us => do if ← agree u v then return true else anyAgrees v us

/-- Whether a text has another as a piece. -/
def textContains (s : String) : Value → Except Fault Bool
  | .text piece => .ok (occursIn piece.content.toList s.toList)
  | v => .error (.pieceExpected v.kind)

/-- Whether octets have a number among them, or others as a piece. -/
def bytesContain (octets : List Nat) (v : Value) : Except Fault Bool :=
  match v, v.toInt? with
  | .bytes _ piece, _ => .ok (occursIn piece octets)
  | _, some n => if 0 ≤ n ∧ n < 256 then .ok (octets.contains n.toNat) else .error .octetOutOfRange
  | v, none => .error (.octetsExpected v.kind)

/-- Whether a record has a value as a name: only texts are names, and what can be edited is not even
looked up. -/
def recordContains (entries : List (String × Value)) (v : Value) : Except Fault Bool :=
  match v.unhashable?, v with
  | some part, _ => .error (.unhashable part)
  | none, .text t => .ok (entries.any (·.1 == t.content))
  | none, _ => .ok false

/-- Whether a value has another among its elements. -/
def contains (v : Value) : Value → Act Bool
  | .roll r | .guarded _ _ r => rollContains r v
  | .walk k => do walkUntil k v ((← get).remaining k)
  | .text t => ofExcept (textContains t.content v)
  | .bytes _ octets => ofExcept (bytesContain octets v)
  | .record _ entries => ofExcept (recordContains entries v)
  | owner => do
    match parts? (← get) owner with
    | some (_, items) => anyAgrees v items
    | none => throw (.notContainer owner.kind)

end Act

end TextRoll
