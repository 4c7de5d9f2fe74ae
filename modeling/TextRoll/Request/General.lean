/-
TextRoll/Request/General.lean

Requests that make sense for values of many kinds.

Each kind of value answers the verbs of its own first and leaves the rest to
`Act.askGeneral`: length, truth, printed form, elements, membership, walks.  What
a value cannot do fails with the fault that names its kind, and so does the printed
form of what cannot be written out.
-/
import TextRoll.Iteration
import TextRoll.Policy
import TextRoll.Printed
import TextRoll.Verb

namespace TextRoll

/-- The whole number that an operation was given, or the fault of giving it something else. -/
def Value.asWhole (refused : Kind → Fault) (v : Value) : Except Fault Whole :=
  match v.toWhole? with
  | some n => .ok n
  | none => .error (refused v.kind)

/-- Why a number with a point is no index of so many elements: it is not among their indices, or it
is and names no slot. -/
def Fault.noIndex (length : Nat) (x : Binary64) : Fault :=
  let index := Number.real .fresh x
  if index.precedes (.ofInt length) && !index.precedes (.ofInt 0) then .indexExpected .real
  else .outOfRange (.real .fresh x) (.ofInt length)

/-- The index among so many elements that an operation was given, or the fault of giving it
something else: it cannot be compared with an index, or is a number with a point. -/
def Value.asIndex (length : Nat) : Value → Except Fault Whole
  | .real _ x => .error (.noIndex length x)
  | v => v.asWhole (.notOrdered "<=" .int ·)

/-- The whole number of slots that an operation was given, or the fault of giving it something that
cannot be compared with one. -/
def Value.asSlots (sign : String) (v : Value) : Except Fault Whole :=
  v.asWhole (.notOrdered sign · .int)

/-- A whole number is taken as it is, whatever it is taken for. -/
theorem Value.asWhole_of_whole {v : Value} {n : Whole} (h : v.toWhole? = some n)
    (refused : Kind → Fault) : v.asWhole refused = .ok n := by
  unfold asWhole
  rw [h]

theorem Value.asIndex_of_whole {v : Value} {n : Whole} (h : v.toWhole? = some n) (length : Nat) :
    v.asIndex length = .ok n := by
  unfold asIndex
  split
  · cases h
  · exact asWhole_of_whole h _

namespace Act

/-- The number of parts of plain data and of growths. -/
def lengthOf (w : World) (v : Value) : Except Fault Nat :=
  match parts? w v with
  | some (_, items) => .ok items.length
  | none => .error (.noLength v.kind)

/-- The next element of a walk; nothing else has a next element. -/
def nextOf : Value → Act Answer
  | .walk k => return .item (← next k)
  | v => throw (.notIterator v.kind)

/-- Why a field cannot be assigned: policies refuse every assignment, in different words for their
own fields and for others, and nothing else has fields to assign. -/
def assignTo (asked name : Value) : Fault :=
  match asked, name with
  | .policy _, .text ⟨field, _⟩ =>
    if field ∈ Policy.fieldNames then .frozenField field else .foreignField
  | asked, .text ⟨field, _⟩ => .missingAttribute asked.kind field
  | _, name => .fieldNameExpected name.kind

/-- The truth of a value; a truth value is its own. -/
def truthOf (asked : Value) : Act Answer :=
  match asked with
  | .bool _ => return .itself
  | v => return .value (.bool ((← get).truth v))

/-- A form of a value, provided that it can be written out. -/
def formOf (form : World → Value → String) (asked : Value) : Act Answer := do
  let w ← get
  if w.isWritable asked then
    let mark := match asked with
      | .bool _ => .word
      | _ => .fresh
    return .value (.text ⟨form w asked, mark⟩)
  else throw .tooManyDigits

/-- The written form of a value; a text is its own. -/
def writtenOf (asked : Value) : Act Answer :=
  match asked with
  | .text _ => return .itself
  | v => formOf World.written v

/-- Answers the verbs that make sense for values of many kinds. -/
def askGeneral (asked : Value) (verb : Verb) (args : List Value) : Act Answer :=
  match verb, args with
  | .length, [] => return .value (.ofInt (← ofExcept (lengthOf (← get) asked)))
  | .truth, [] => truthOf asked
  | .written, [] => writtenOf asked
  | .printed, [] => formOf World.printed asked
  | .hash, [] => throw (.unhashable (asked.unhashable?.getD asked.kind))
  | .elements, [] => return .items (← elements asked)
  | .contains, [v] => return .value (.bool (← contains v asked))
  | .walk, [] => startWalk asked
  | .next, [] => nextOf asked
  | .assign, [name, _] => throw (assignTo asked name)
  | verb, _ => throw (.missingAttribute asked.kind verb.name)

end Act

end TextRoll
