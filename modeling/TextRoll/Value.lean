/-
TextRoll/Value.lean

Values: what registers hold, what requests take and what they hand back.

Things that can change are named by where they live (`BufferId`, `RollId`,
`TallyId`, `WalkId`), so two values may name one thing.  All else never changes,
yet each number, text, list, record, policy, bookmark and guard is a thing of its
own and carries the mark by which it can be told from its equals.  A growth is
named by its place in a tally.

`Value.same` says when two values are one and the same, `Value.sameNumber` when
they are equal as numbers.
-/
import TextRoll.Kind
import TextRoll.Number
import TextRoll.Text

namespace TextRoll

/-- Where a walk lives, and what it goes over. -/
structure WalkId where
  index : Nat
  subject : WalkKind
deriving DecidableEq, Repr

/-! ### Bookmarks and policies -/

/-- A place in a roll, together with the generation of the roll it was taken at.  Anyone may make
one out of whatever they like, hence the parameter. -/
structure BookmarkOf (ρ : Type) where
  roll : RollId
  index : ρ
  generation : ρ

/-- The marks of the counts in a policy, which are kept as they were given. -/
structure CountMarks where
  defaultCapacity : Mark
  growthFactor : Mark
  maxCapacity : Mark
deriving DecidableEq, Repr

/-- How the storage of a roll grows, and whether clearing gives grown storage back.  The choice
about clearing is kept as it was given, hence the parameter. -/
structure PolicyOf (ρ : Type) where
  /-- Tells the policy from its equals. -/
  mark : Mark
  /-- Tell its counts from theirs. -/
  marks : CountMarks
  /-- Slots of a roll that is made without a word about its capacity. -/
  defaultCapacity : Nat
  /-- The factor by which full storage grows. -/
  growthFactor : Nat
  /-- The most slots a roll may have, if there is a limit. -/
  maxCapacity : Option Nat
  /-- Whether clearing drops back to the default capacity. -/
  releaseOnClear : ρ
  /-- Growth at least doubles. -/
  two_le_growthFactor : 2 ≤ growthFactor

/-! ### Values -/

/-- A value. -/
inductive Value
  | null
  | bool (b : Bool)
  | int (mark : Mark) (n : Int)
  | real (mark : Mark) (x : Binary64)
  | text (t : Text)
  | bytes (mark : Mark) (octets : List Nat)
  | list (mark : Mark) (items : List Value)
  | record (mark : Mark) (entries : List (String × Value))
  | buffer (b : BufferId)
  | roll (r : RollId)
  /-- A guard around a roll, with `depth` further guards between them. -/
  | guarded (mark : Mark) (depth : Nat) (r : RollId)
  | bookmark (mark : Mark) (m : BookmarkOf Value)
  | policy (p : PolicyOf Value)
  /-- A tally, with the values that its figures started from.  Those that are no numbers can never
  change, so they are part of the value and not of what lives at its place. -/
  | tally (t : TallyId) (start : List Value)
  /-- The growths of a tally: a list that lengthens with each that is recorded. -/
  | growths (t : TallyId)
  /-- One growth of a tally, by its place among them. -/
  | growth (t : TallyId) (place : Nat)
  | walk (k : WalkId)

instance : Inhabited Value := ⟨.null⟩

/-- The policy of a roll. -/
abbrev Policy := PolicyOf Value

/-- Eight slots at first, doubling, without a limit, and keeping storage when cleared. -/
def Policy.standard : Policy :=
  ⟨.kept 0, ⟨.fresh, .fresh, .fresh⟩, 8, 2, none, .bool false, by decide⟩

instance : Inhabited Policy := ⟨Policy.standard⟩

/-- A place in a roll, as a value may hold it. -/
abbrev Bookmark := BookmarkOf Value

/-! ### Numbers and texts as values -/

/-- A whole number as a value, in the spelling that was given. -/
def Whole.valueAs (mark : Mark) : Whole → Value
  | .numeral n => .int mark n
  | .truth b => .bool b

/-- A whole number as a value that nothing has kept yet. -/
def Whole.value (n : Whole) : Value := n.valueAs .fresh

/-- A number as a value. -/
def Number.value : Number → Value
  | .whole mark n => n.valueAs mark
  | .real mark x => .real mark x

namespace Value

/-- A whole number that was counted. -/
def ofInt (n : Int) : Value := int .fresh n

/-- A text that was made. -/
def ofText (content : String) : Value := text (.fresh content)

/-- The kind of a value. -/
def kind : Value → Kind
  | null => .null
  | bool _ => .bool
  | int .. => .int
  | real .. => .real
  | text _ => .text
  | bytes .. => .bytes
  | list .. => .list
  | record .. => .record
  | buffer _ => .buffer
  | roll _ => .roll
  | guarded .. => .guarded
  | bookmark .. => .bookmark
  | policy _ => .policy
  | tally .. => .tally
  | growths _ => .list
  | growth .. => .growth
  | walk k => .walk k.subject

/-- The whole number that a value stands for where one is asked for: a truth value is one. -/
def toWhole? : Value → Option Whole
  | int _ n => some (.numeral n)
  | bool b => some (.truth b)
  | _ => none

/-- The whole number that a value stands for, whatever its spelling. -/
def toInt? (v : Value) : Option Int := v.toWhole?.map Whole.toInt

/-- The number of either kind that a value stands for. -/
def toNumber? : Value → Option Number
  | int mark n => some (.whole mark (.numeral n))
  | bool b => some (.whole .word (.truth b))
  | real mark x => some (.real mark x)
  | _ => none

/-- Equality of numbers of any kind; anything else is not a number. -/
def sameNumber (v w : Value) : Bool :=
  match v.toNumber?, w.toNumber? with
  | some a, some b => a.sameNumber b
  | _, _ => false

/-! ### Identity -/

/-- The mark of a value that carries one. -/
def mark : Value → Mark
  | null | bool _ => .word
  | int m _ | real m _ | bytes m _ | list m _ | record m _ | guarded m _ _ | bookmark m _ => m
  | text t => t.mark
  | policy p => p.mark
  | buffer _ | roll _ | tally .. | growths _ | growth .. | walk _ => .fresh

/-- Whether there is only one whole number of this value. -/
def isSmall (n : Int) : Bool := -5 ≤ n && n ≤ 256

/-- Whether two values are one and the same. -/
def same : Value → Value → Bool
  | null, null => true
  | bool a, bool b => a == b
  | int m a, int n b => a == b && (isSmall a || m.same n)
  | real m x, real n y => x == y && m.same n
  | text t, text u => t.same u
  | bytes m xs, bytes n ys => xs == ys && (xs.length ≤ 1 || m.same n)
  | list m _, list n _ => m.same n
  | record m _, record n _ => m.same n
  | buffer a, buffer b => a == b
  | roll a, roll b => a == b
  | guarded m _ _, guarded n _ _ => m.same n
  | bookmark m _, bookmark n _ => m.same n
  | policy p, policy q => p.mark.same q.mark
  | tally a _, tally b _ => a == b
  | growths a, growths b => a == b
  | growth a i, growth b j => a == b && i == j
  | walk a, walk b => a == b
  | _, _ => false

/-- The value with a mark, if it carries one and has none yet. -/
def markedAs (m : Mark) : Value → Value
  | int n x => int (n.orElse m) x
  | real n x => real (n.orElse m) x
  | text t => text ⟨t.content, t.mark.orElse m⟩
  | bytes n octets => bytes (n.orElse m) octets
  | list n items => list (n.orElse m) items
  | record n entries => record (n.orElse m) entries
  | guarded n depth r => guarded (n.orElse m) depth r
  | bookmark n b => bookmark (n.orElse m) b
  | policy p => policy { p with mark := p.mark.orElse m }
  | v => v

/-- What keeps a value from being a name in a record: it, or a part of it, can be edited or is
compared by what it holds. -/
def unhashable? : Value → Option Kind
  | list .. => some .list
  | record .. => some .record
  | buffer _ => some .buffer
  | roll _ => some .roll
  | guarded .. => some .guarded
  | tally .. => some .tally
  | growths _ => some .list
  | policy ⟨_, _, _, _, _, release, _⟩ => release.unhashable?
  | null | bool _ | int .. | real .. | text _ | bytes .. | bookmark .. | growth .. | walk _ => none

end Value

end TextRoll
