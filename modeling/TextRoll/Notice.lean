/-
TextRoll/Notice.lean

What rolls write to the log, and the channel they write it to.

Four things are worth a record: storage grew, a roll was cleared, a limit was
hit, memory ran out.  The first two are details, the last two warnings.

A record is left with the numbers it is about and put into words by whoever reads
the log.  That can fail, since the numbers can be too long (`Notice.isWritable`).
-/
import TextRoll.Fault

namespace TextRoll

/-- How much a record matters, the least first. -/
inductive Level
  | detail
  | warning
deriving DecidableEq, Repr

namespace Level

/-- The word a log shows for a level. -/
def name : Level → String
  | detail => "DEBUG"
  | warning => "WARNING"

/-- Whether a record of this level passes a threshold. -/
def passes : Level → Level → Bool
  | _, detail => true
  | warning, warning => true
  | detail, warning => false

end Level

/-- A record in the log. -/
inductive Notice
  /-- Storage grew. -/
  | grew (before after : Nat)
  /-- A roll let go of its elements. -/
  | cleared (count : Nat)
  /-- A request for storage went past the limit. -/
  | overLimit (requested limit : Int)
  /-- A request for storage went past the limit, and was for a number of slots with a point. -/
  | realOverLimit (requested : Binary64) (limit : Int)
  /-- A request for storage found no memory. -/
  | outOfMemory (requested : Int)
deriving DecidableEq, Repr

namespace Notice

/-- The level of a record. -/
def level : Notice → Level
  | grew .. | cleared _ => .detail
  | overLimit .. | realOverLimit .. | outOfMemory _ => .warning

/-- The wording of a request past the limit. -/
def overLimitMessage (requested limit : Int) : String :=
  s!"StringList growth to {requested} slots exceeds max_capacity={limit}"

/-- The wording of a record; of a number with a point only the whole part is told. -/
def message : Notice → String
  | grew before after => s!"Grew StringList storage {before} -> {after} slots"
  | cleared count => s!"Cleared {count} StringList entries"
  | overLimit requested limit => overLimitMessage requested limit
  | realOverLimit requested limit => overLimitMessage requested.wholePart limit
  | outOfMemory requested => s!"Out of memory reserving {requested} StringList slots"

/-- Whether a record can be put into words: its numbers can be written out. -/
def isWritable : Notice → Bool
  | grew before after => Whole.isWritable before && Whole.isWritable after
  | cleared count => Whole.isWritable count
  | overLimit requested limit => Whole.isWritable requested && Whole.isWritable limit
  | realOverLimit requested limit => requested.isFinite && Whole.isWritable limit
  | outOfMemory requested => Whole.isWritable requested

end Notice

/-- The record that a failure leaves behind: refused storage leaves one, and nothing else does. -/
def Fault.notice? : Fault → Option Notice
  | .allocation requested limit _ =>
    match requested.toNumber?, limit.toInt? with
    | some (.whole _ slots), some most => some (.overLimit slots.toInt most)
    | some (.whole _ slots), none => some (.outOfMemory slots.toInt)
    | some (.real _ x), some most => some (.realOverLimit x most)
    | _, _ => none
  | _ => none

/-! ### Channels -/

namespace Channel

/-- The channel that all others hang under. -/
def root : String := "strlist"

/-- The full name of a channel: a name under the root stands for itself, any other is hung under
the root. -/
def qualified (name : String) : String :=
  if name = root ∨ (root ++ ".").isPrefixOf name then name else root ++ "." ++ name

/-- The channel that rolls write to. -/
def rolls : String := root ++ ".strlist"

end Channel

end TextRoll
