/-
TextRoll/Answer.lean

What requests hand back, and what becomes of it.

An answer is the thing that was asked itself, an item, a list of items, or the
draft of something new.  An item is a value, or a copy of a buffer that has only
its text so far.  `World.adopt` keeps an answer: it gives every draft and every
copy in it a place of its own and every fresh value a mark, and yields the value
that names the result.
-/
import TextRoll.World

namespace TextRoll

/-- A value, or a copy of a buffer that has no place yet. -/
inductive Item
  | value (v : Value)
  | copy (text : Text)

/-- Something new that has no place yet. -/
inductive Draft
  | roll (l : Roll BufferId)
  /-- A guard around a roll of its own. -/
  | guardedRoll (l : Roll BufferId)
  /-- A tally, with the values that its figures start from. -/
  | tally (start : List Value)
  | walk (k : Walk)

/-- What a request hands back. -/
inductive Answer
  /-- The very thing that was asked. -/
  | itself
  | item (x : Item)
  | items (xs : List Item)
  | draft (d : Draft)

namespace Answer

/-- A value as an answer. -/
def value (v : Value) : Answer := .item (.value v)

/-- A copy of a text as an answer. -/
def copy (text : Text) : Answer := .item (.copy text)

/-- Nothing to hand back. -/
def nothing : Answer := .value .null

end Answer

namespace World

/-- Keeps a value: a fresh one gets the next serial number as its mark. -/
def adoptValue (w : World) (v : Value) : Value × World :=
  let (serial, w₁) := w.nextSerial
  (v.markedAs (.kept serial), w₁)

/-- Keeps an item: a copy gets a place of its own. -/
def adoptItem (w : World) : Item → Value × World
  | .value v => w.adoptValue v
  | .copy text => (.buffer w.freeBuffer, w.addBuffer (Buffer.ofText text))

/-- Keeps items, the first one first. -/
def adoptItems (w : World) : List Item → List Value × World
  | [] => ([], w)
  | x :: xs =>
    let (v, w₁) := w.adoptItem x
    let (vs, w₂) := w₁.adoptItems xs
    (v :: vs, w₂)

/-- Keeps a draft. -/
def adoptDraft (w : World) : Draft → Value × World
  | .roll l =>
    let (r, w₁) := w.addRoll l
    (.roll r, w₁)
  | .guardedRoll l =>
    let (r, w₁) := w.addRoll l
    w₁.adoptValue (.guarded .fresh 0 r)
  | .tally start =>
    let (place, w₁) := w.addTally (Tally.ofValues start)
    (.tally place start, w₁)
  | .walk k =>
    let (place, w₁) := w.addWalk k
    (.walk place, w₁)

/-- Keeps the answer of a thing that was asked: the value that names it from now on. -/
def adopt (w : World) (asked : Value) : Answer → Value × World
  | .itself => (asked, w)
  | .item x => w.adoptItem x
  | .items xs =>
    let (vs, w₁) := w.adoptItems xs
    w₁.adoptValue (.list .fresh vs)
  | .draft d => w.adoptDraft d

end World

end TextRoll
