/-
TextRoll/Request/OfBuffer.lean

Requests to buffers.

A buffer takes texts only, and says which operation was given what otherwise.
`extend` takes the elements of its argument all at once, and before it looks at
any of them; it adds nothing unless all of them are texts.
-/
import TextRoll.Request.General

namespace TextRoll

/-- The text of an item that an operation was given, or the fault of giving it something else. -/
def Item.asText (operation : String) : Item → Except Fault Text
  | .value v => v.asText operation
  | .copy _ => .error (.textExpected operation .buffer)

namespace Act

/-- Answers the verbs of buffers. -/
def askBuffer (b : BufferId) (verb : Verb) (args : List Value) : Act Answer :=
  match verb, args with
  | .append, [v] => do
    let t ← ofExcept (v.asText "append")
    editBuffer b (·.append t)
    return .itself
  | .appendLine, [] => do
    editBuffer b (·.appendLine Text.empty)
    return .itself
  | .appendLine, [v] => do
    let t ← ofExcept (v.asText "append_line")
    editBuffer b (·.appendLine t)
    return .itself
  | .extend, [v] => do
    let items ← elements v
    let pieces ← ofExcept (items.mapM (·.asText "extend"))
    editBuffer b (·.extend pieces)
    return .itself
  | .build, [] => return .value (.text (← built b))
  | .clear, [] => do
    editBuffer b Buffer.clear
    return .itself
  | .copy, [] => return .copy (← built b)
  | .length, [] => return .value (.ofInt ((← get).buffer b).length)
  | .written, [] => return .value (.text (← built b))
  | .printed, [] => return .value (.ofText (Printed.buffer isUnprintable (← textOf b)))
  | verb, args => askGeneral (.buffer b) verb args

end Act

end TextRoll
