/-
TextRoll/Act.lean

Acts: steps that read and change the world and may fail.

What an act changed before it failed stays changed.  The acts here are the few
ways in which all others touch the world; the one that reads a text
(`Act.built`) leaves the buffer collapsed, so even reading is a change, though
not one that any text shows.
-/
import TextRoll.Answer
import TextRoll.Roll.Growing

namespace TextRoll

/-- A step that reads and changes the world and may fail. -/
abbrev Act := EStateM Fault World

namespace Act

/-- The roll at a place. -/
def roll (r : RollId) : Act (Roll BufferId) := return (← get).roll r

/-- Replaces the roll at a place. -/
def setRoll (r : RollId) (l : Roll BufferId) : Act Unit := modify (·.setRoll r l)

/-- Changes the buffer at a place. -/
def editBuffer (b : BufferId) (edit : Buffer → Buffer) : Act Unit :=
  modify fun w => w.setBuffer b (edit (w.buffer b))

/-- The text of a buffer with its mark; the buffer is left collapsed. -/
def built (b : BufferId) : Act Text := do
  let text := (← get).built b
  editBuffer b Buffer.collapse
  return text

/-- The text of a buffer, which is left collapsed. -/
def textOf (b : BufferId) : Act String := return (← built b).content

/-- Adds a record to the log. -/
def note (n : Notice) : Act Unit := modify (·.note n)

/-- Takes what storage was granted; a refusal is logged before it is passed on. -/
def granted {α : Type} (outcome : Except Fault α) : Act α :=
  match outcome with
  | .ok a => return a
  | .error fault => do
    fault.notice?.forM note
    throw fault

/-- Counts and logs a growth, if there was one. -/
def recordGrowth (growth : Option Growth) : Act Unit :=
  growth.forM fun g => modify (·.recordGrowth g)

/-- The texts of the elements of a roll, read one slot after the other; `wanted` is what they are
read for. -/
def textsOf (r : RollId) (wanted : String) : Act (List Text) := do
  let l ← roll r
  (List.range l.length).mapM fun i => do built (← ofExcept (l.stored wanted i))

/-- The contents of the elements of a roll. -/
def texts (r : RollId) : Act (List String) := return (← textsOf r "build").map Text.content

end Act

/-- The text that an operation was given, or the fault of giving it something else. -/
def Value.asText (operation : String) : Value → Except Fault Text
  | .text t => .ok t
  | v => .error (.textExpected operation v.kind)

end TextRoll
