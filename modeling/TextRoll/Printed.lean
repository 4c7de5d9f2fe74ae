/-
TextRoll/Printed.lean

Printed forms of values.

The forms of texts, buffers, rolls and guarded rolls are given first, as
functions of what they show and of the characters that may not be shown as they
are.  `World.printed` then prints any value, lists and records item by item, and
`World.isWritable` tells whether that is possible: whole numbers can be too long to
be written out.
-/
import TextRoll.Number.Shortest
import TextRoll.Text.Quoted
import TextRoll.Text.Unprintable
import TextRoll.World

namespace TextRoll

/-- The written form of a number. -/
def Number.written : Number → String
  | .whole _ n => n.written
  | .real _ x => x.written .plain

/-- Whether a number can be written out. -/
def Number.isWritable : Number → Bool
  | .whole _ n => Whole.isWritable n.toInt
  | .real .. => true

namespace Printed

/-- Items between brackets. -/
def items (forms : List String) : String := "[" ++ String.intercalate ", " forms ++ "]"

/-- A buffer with a text. -/
def buffer (hidden : Char → Bool) (text : String) : String :=
  "StringBuilder(" ++ quoted hidden text ++ ")"

/-- A roll with the texts of its elements and its cursor. -/
def roll (hidden : Char → Bool) (texts : List String) (cursor : Whole) : String :=
  "StringList(" ++ items (texts.map (quoted hidden)) ++ ", cursor=" ++ cursor.written ++ ")"

/-- A roll behind a guard, with `depth` further guards between them. -/
def guarded (hidden : Char → Bool) (depth : Nat) (texts : List String) (cursor : Whole) : String :=
  String.join (List.replicate (depth + 1) "Locked") ++ roll hidden texts cursor

/-- A bookmark with the written forms of its index and generation, and whether it still points at
what it was taken at. -/
def bookmark (index generation : String) (current : Bool) : String :=
  let state := if current then "valid" else "stale"
  s!"CursorRef(index={index}, generation={generation}, {state})"

/-- A growth in the list of a tally. -/
def growth : Number × Number → String
  | (before, after) => s!"({before.written}, {after.written})"

/-- The growths of a tally. -/
def growths (t : Tally) : String := items (t.events.map growth)

/-- A tally with the printed forms of the values that its figures started from. -/
def tally (t : Tally) (start : List String) : String :=
  let figures := (Tally.names.zip (t.readings Number.written start)).map fun (name, form) =>
    name ++ "=" ++ form
  "GrowthAccumulator(" ++ String.intercalate ", " (figures ++ ["events=" ++ growths t]) ++ ")"

/-- A policy, with the printed form of its choice about clearing. -/
def policy (p : Policy) (release : String) : String :=
  let limit := match p.maxCapacity with
    | some n => toString n
    | none => "None"
  s!"ListConfig(default_capacity={p.defaultCapacity}, growth_factor={p.growthFactor}, "
    ++ s!"max_capacity={limit}, release_on_clear={release})"

/-- Octets, shown as the characters with their numbers as far as those are plain. -/
def bytes (octets : List Nat) : String :=
  "b" ++ quoted (fun c => c.toNat < 0x20 || 0x7f ≤ c.toNat) (String.ofList (octets.map Char.ofNat))

/-- A named entry of a record. -/
def entry (name form : String) : String := quoted isUnprintable name ++ ": " ++ form

/-- A walk. -/
def walk (k : WalkId) : String := "<" ++ (Value.walk k).kind.name ++ " object>"

/-- The written form of a text, which is the text itself, and of a buffer, which is its text; of all
else it is the printed form. -/
def bare (w : World) (form : String) : Value → String
  | .text t => t.content
  | .buffer b => w.text b
  | _ => form

end Printed

namespace World

mutual

/-- The printed form of a value. -/
def printed (w : World) : Value → String
  | .null => "None"
  | .bool b => Whole.truthWord b
  | .int _ n => toString n
  | .real _ x => x.written .plain
  | .text t => quoted isUnprintable t.content
  | .bytes _ octets => Printed.bytes octets
  | .list _ items => Printed.items (w.printedItems items)
  | .record _ entries => "\x7b" ++ String.intercalate ", " (w.printedEntries entries) ++ "\x7d"
  | .buffer b => Printed.buffer isUnprintable (w.text b)
  | .roll r => Printed.roll isUnprintable (w.texts r) (w.roll r).shownCursor
  | .guarded _ depth r => Printed.guarded isUnprintable depth (w.texts r) (w.roll r).shownCursor
  | .bookmark _ ⟨r, index, generation⟩ =>
    Printed.bookmark (Printed.bare w (w.printed index) index)
      (Printed.bare w (w.printed generation) generation) (w.isCurrent ⟨r, index, generation⟩)
  | .policy ⟨n, c, d, g, m, release, h⟩ =>
    Printed.policy ⟨n, c, d, g, m, .null, h⟩ (w.printed release)
  | .tally t start => Printed.tally (w.tally t) (w.printedItems start)
  | .growths t => Printed.growths (w.tally t)
  | .growth t place => Printed.growth (w.growth t place)
  | .walk k => Printed.walk k

/-- The printed forms of values. -/
def printedItems (w : World) : List Value → List String
  | [] => []
  | x :: xs => w.printed x :: w.printedItems xs

/-- The printed forms of named entries. -/
def printedEntries (w : World) : List (String × Value) → List String
  | [] => []
  | (name, x) :: xs => Printed.entry name (w.printed x) :: w.printedEntries xs

end

/-- The written form of a value. -/
def written (w : World) (v : Value) : String := Printed.bare w (w.printed v) v

/-! ### What can be written out -/

/-- Whether growths can be written out. -/
def areWritableGrowths (events : List (Number × Number)) : Bool :=
  events.all fun (before, after) => before.isWritable && after.isWritable

mutual

/-- Whether a value can be written out. -/
def isWritable (w : World) : Value → Bool
  | .int _ n => Whole.isWritable n
  | .list _ items => (w.writableItems items).all id
  | .record _ entries => w.areWritableEntries entries
  | .bookmark _ ⟨_, index, generation⟩ => w.isWritable index && w.isWritable generation
  | .policy ⟨_, _, d, g, m, release, _⟩ =>
    Whole.isWritable d && Whole.isWritable g && m.all (Whole.isWritable ·) && w.isWritable release
  | .tally t start =>
    let figures := (w.tally t).readings Number.isWritable (w.writableItems start)
    figures.all id && areWritableGrowths (w.tally t).events
  | .growths t => areWritableGrowths (w.tally t).events
  | .growth t place => areWritableGrowths [w.growth t place]
  | .null | .bool _ | .real .. | .text _ | .bytes .. => true
  | .buffer _ | .roll _ | .guarded .. | .walk _ => true

/-- For each of some values, whether it can be written out. -/
def writableItems (w : World) : List Value → List Bool
  | [] => []
  | x :: xs => w.isWritable x :: w.writableItems xs

/-- Whether named values can be written out. -/
def areWritableEntries (w : World) : List (String × Value) → Bool
  | [] => true
  | (_, x) :: xs => w.isWritable x && w.areWritableEntries xs

end

end World

end TextRoll
