/-
TextRoll/Number.lean

Numbers of either kind, whole ones and ones with a point, with what tells them
from their equals.

Whole numbers are added and compared exactly.  Where one of two numbers has a
point, sums are worked out with the nearest numbers that have one, and fail if a
whole number is too large for that; comparisons stay exact.  What is undefined is
neither equal to anything, itself included, nor greater or less.
-/
import TextRoll.Mark
import TextRoll.Number.Binary64
import TextRoll.Number.Whole

namespace TextRoll

/-- A number. -/
inductive Number
  | whole (mark : Mark) (n : Whole)
  | real (mark : Mark) (x : Binary64)
deriving DecidableEq, Repr

namespace Number

instance : Inhabited Number := ⟨.whole .fresh default⟩

/-- A whole number that was counted. -/
def ofInt (n : Int) : Number := whole .fresh (.numeral n)

/-- The number with a mark, if it has none yet. -/
def markedAs (m : Mark) : Number → Number
  | whole n x => whole (n.orElse m) x
  | real n x => real (n.orElse m) x

/-! ### Comparing -/

/-- Where a number stands among all others. -/
inductive Position
  | belowAll
  /-- At a whole number times a power of two. -/
  | multiple (n : Int) (power : Int)
  | aboveAll

/-- The position of a number, if it has one. -/
def position? : Number → Option Position
  | whole _ n => some (.multiple n.toInt 0)
  | real _ (.finite s n p) => some (.multiple (Binary64.signed s n) p)
  | real _ (.infinite s) => some (if s then .belowAll else .aboveAll)
  | real _ .undefined => none

/-- The order of two positions. -/
def Position.compare : Position → Position → Ordering
  | .belowAll, .belowAll | .aboveAll, .aboveAll => .eq
  | .belowAll, _ | _, .aboveAll => .lt
  | .aboveAll, _ | _, .belowAll => .gt
  | .multiple m p, .multiple n q =>
    let least := min p q
    Ord.compare (m * Int.pow 2 (p - least).toNat) (n * Int.pow 2 (q - least).toNat)

/-- How two numbers compare, if both have a position. -/
def compare? (a b : Number) : Option Ordering := do return (← a.position?).compare (← b.position?)

/-- Equality as numbers. -/
def sameNumber : Number → Number → Bool
  | whole _ m, whole _ n => m.sameNumber n
  | a, b => compare? a b == some .eq

/-- Whether two numbers agree as parts of larger things: they are equal, or one and the same.  Only
what is undefined can be one and the same without being equal. -/
def agrees : Number → Number → Bool
  | real m .undefined, real n .undefined => m.same n
  | a, b => a.sameNumber b

/-- Whether one number is less than another. -/
def precedes : Number → Number → Bool
  | whole _ m, whole _ n => m.toInt < n.toInt
  | a, b => compare? a b == some .lt

/-- The greater of two numbers; of two equal ones the first. -/
def larger (a b : Number) : Number := if a.precedes b then b else a

/-! ### Adding -/

/-- The number with a point that is nearest, unless that is past all of them. -/
def toReal? : Number → Option Binary64
  | whole _ n =>
    match Binary64.ofInt n.toInt with
    | .infinite _ => none
    | x => some x
  | real _ x => some x

/-- The sum, unless a whole number in it is too large. -/
def plus? : Number → Number → Option Number
  | whole _ m, whole _ n => some (ofInt (m.toInt + n.toInt))
  | a, b => do return real .fresh ((← a.toReal?).plus (← b.toReal?))

/-- The difference, unless a whole number in it is too large. -/
def minus? : Number → Number → Option Number
  | whole _ m, whole _ n => some (ofInt (m.toInt - n.toInt))
  | a, b => do return real .fresh ((← a.toReal?).minus (← b.toReal?))

end Number

end TextRoll
