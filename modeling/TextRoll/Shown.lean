/-
TextRoll/Shown.lean

What a report shows of an answer, or of a failure.

A shown answer is free of places and marks: a buffer is its text, a roll the texts
of its elements, a bookmark its printed form.  A shown failure has been put into
words.  Two runs that show the same cannot be told apart.
-/
import TextRoll.Answer
import TextRoll.Printed

namespace TextRoll

/-- What a report shows of an answer. -/
inductive Shown
  | null
  | bool (b : Bool)
  | int (n : Int)
  | real (x : Binary64)
  | text (s : String)
  | bytes (octets : List Nat)
  | list (items : List Shown)
  | record (entries : List (String × Shown))
  /-- The very thing that was asked. -/
  | itself
  | buffer (text : String)
  | roll (texts : List String)
  | bookmark (form : String)
  | policy (defaultCapacity growthFactor : Nat) (maxCapacity : Option Nat) (release : Shown)
  | tally (figures : List (String × Shown)) (events : List Shown)
  | walk

/-- Shows a whole number in the spelling that was given. -/
def Shown.whole : Whole → Shown
  | .numeral n => .int n
  | .truth b => .bool b

/-- Shows a number. -/
def Shown.number : Number → Shown
  | .whole _ n => .whole n
  | .real _ x => .real x

/-- Shows one growth of a tally: from and to how many slots. -/
def Shown.growth : Number × Number → Shown
  | (before, after) => .list [.number before, .number after]

instance : Inhabited Shown := ⟨.null⟩

/-- Shows a tally; what its figures started from is shown already. -/
def Shown.ofTally (t : Tally) (start : List Shown) : Shown :=
  .tally (Tally.names.zip (t.readings number start)) (t.events.map growth)

namespace World

mutual

/-- Shows a value as it is in this world. -/
def shown (w : World) : Value → Shown
  | .null => .null
  | .bool b => .bool b
  | .int _ n => .int n
  | .real _ x => .real x
  | .text t => .text t.content
  | .bytes _ octets => .bytes octets
  | .list _ items => .list (w.shownItems items)
  | .record _ entries => .record (w.shownEntries entries)
  | .buffer b => .buffer (w.text b)
  | .roll r | .guarded _ _ r => .roll (w.texts r)
  | .bookmark mark m => .bookmark (w.printed (.bookmark mark m))
  | .policy ⟨_, _, d, g, m, release, _⟩ => .policy d g m (w.shown release)
  | .tally t start => .ofTally (w.tally t) (w.shownItems start)
  | .growths t => .list ((w.tally t).events.map Shown.growth)
  | .growth t place => .growth (w.growth t place)
  | .walk _ => .walk

/-- Shows values. -/
def shownItems (w : World) : List Value → List Shown
  | [] => []
  | x :: xs => w.shown x :: w.shownItems xs

/-- Shows named values. -/
def shownEntries (w : World) : List (String × Value) → List (String × Shown)
  | [] => []
  | (name, x) :: xs => (name, w.shown x) :: w.shownEntries xs

end

/-- Shows an item. -/
def shownItem (w : World) : Item → Shown
  | .value v => w.shown v
  | .copy text => .buffer text.content

/-- Shows a draft. -/
def shownDraft (w : World) : Draft → Shown
  | .roll _ | .guardedRoll _ => .roll []
  | .tally start => .ofTally (Tally.ofValues start) (w.shownItems start)
  | .walk _ => .walk

/-- Shows an answer. -/
def shownAnswer (w : World) : Answer → Shown
  | .itself => .itself
  | .item x => w.shownItem x
  | .items xs => .list (xs.map w.shownItem)
  | .draft d => w.shownDraft d

/-- What a report shows of a failure. -/
structure Refusal where
  fault : Fault
  wording : String
  /-- The facts that the failure carries, in order. -/
  facts : List Shown

/-- Shows a failure, or the failure to put it into words. -/
def refusal (w : World) (fault : Fault) : Refusal :=
  let told := if fault.mentioned.all w.isWritable then fault else .tooManyDigits
  ⟨told, told.message w.written, told.facts.map w.shown⟩

/-- What a report shows of the state of a roll: length, capacity, cursor, and the two counters
unless the roll is guarded. -/
structure Standing where
  length : Nat
  capacity : Nat
  cursor : Whole
  counters : Option (Nat × Nat)
deriving DecidableEq, Repr

/-- The state of a value that is a roll. -/
def standing (w : World) : Value → Option Standing
  | .roll r =>
    let l := w.roll r
    some ⟨l.length, l.capacity, l.shownCursor, some (l.generation, l.reallocations)⟩
  | .guarded _ _ r =>
    let l := w.roll r
    some ⟨l.length, l.capacity, l.shownCursor, none⟩
  | _ => none

end World

end TextRoll
