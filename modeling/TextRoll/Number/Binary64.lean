/-
TextRoll/Number/Binary64.lean

Numbers with a point, held the way a 64-bit word holds them: a sign, a
significand below `2 ^ 53` and a power of two not below `2 ^ (-1074)`, or else a
number past all of those, or no number at all.

`nearest` rounds a quotient of naturals to the nearest such number, a tie going
to the even significand; what lies past the greatest one becomes infinite.  All
of it is exact arithmetic on naturals: one scaling by a power of two turns the
rounding into `roundHalfEven` of a quotient.  Decimal numerals and sums are
quotients of that kind, so `ofDecimal`, `plus` and `minus` are roundings too.  The
difference of two infinite numbers on one side is undefined, and so is every sum
with what is undefined.
-/

namespace TextRoll

/-- A number with a point. -/
inductive Binary64
  /-- The number `± significand * 2 ^ exponent`. -/
  | finite (negative : Bool) (significand : Nat) (exponent : Int)
  /-- The number past all others on one side. -/
  | infinite (negative : Bool)
  /-- No number at all. -/
  | undefined
deriving DecidableEq, Repr

/-- The natural number nearest to `n / d`; of two equally near ones the even one. -/
def roundHalfEven (n d : Nat) : Nat :=
  let quotient := n / d
  let twice := 2 * (n % d)
  if d < twice ∨ (twice = d ∧ quotient % 2 = 1) then quotient + 1 else quotient

/-- The quotient `base ^ power` as a pair of naturals, for a power of any sign. -/
def powerRatio (base : Nat) (power : Int) : Nat × Nat :=
  (base.pow power.toNat, base.pow (-power).toNat)

namespace Binary64

/-- The least exponent of two that a word can hold. -/
def leastExponent : Int := -1074

/-- The greatest exponent of two that goes with a significand of 53 bits. -/
def greatestExponent : Int := 971

/-- Zero with a sign. -/
def zero (negative : Bool) : Binary64 := finite negative 0 0

/-- Whether the number is zero, of either sign. -/
def isZero : Binary64 → Bool
  | finite _ significand _ => significand == 0
  | infinite _ | undefined => false

/-- The exponent that gives the quotient `n / d` a significand of 53 bits, or the least one. -/
def exponentFor (n d : Nat) : Int :=
  let guess : Int := (Nat.log2 n : Int) - Nat.log2 d
  let (up, down) := powerRatio 2 guess
  let top := if n * down < d * up then guess - 1 else guess
  max (top - 52) leastExponent

/-- The number with a significand of up to 53 bits or the next power of two. -/
def ofParts (negative : Bool) (significand : Nat) (exponent : Int) : Binary64 :=
  let carried := significand = Nat.pow 2 53
  let place := if carried then exponent + 1 else exponent
  if greatestExponent < place then infinite negative
  else finite negative (if carried then Nat.pow 2 52 else significand) place

/-- The number nearest to `± n / d`. -/
def nearest (negative : Bool) (n d : Nat) : Binary64 :=
  if n = 0 then zero negative
  else
    let exponent := exponentFor n d
    let (scale, unscale) := powerRatio 2 exponent
    ofParts negative (roundHalfEven (n * unscale) (d * scale)) exponent

/-- A numeral whose leading power of ten is past this one, on either side of zero, is infinite or
zero whatever its digits are. -/
def decimalReach : Int := 400

/-- The number nearest to `± digits * 10 ^ power`. -/
def ofDecimal (negative : Bool) (digits : Nat) (power : Int) : Binary64 :=
  let leading := power + (Nat.toDigits 10 digits).length
  if digits = 0 ∨ leading < -decimalReach then zero negative
  else if decimalReach < leading then infinite negative
  else
    let (up, down) := powerRatio 10 power
    nearest negative (digits * up) down

/-- The number nearest to a whole one. -/
def ofInt (n : Int) : Binary64 := nearest (n < 0) n.natAbs 1

/-- A natural number with a sign. -/
def signed (negative : Bool) (n : Nat) : Int := if negative then -(n : Int) else n

/-- Whether the number is one, and not past all others. -/
def isFinite : Binary64 → Bool
  | finite .. => true
  | infinite _ | undefined => false

/-- The whole part, with the sign; only a finite number has one. -/
def wholePart : Binary64 → Int
  | finite s n p =>
    let (up, down) := powerRatio 2 p
    signed s (n * up / down)
  | infinite _ | undefined => 0

/-! ### Arithmetic -/

/-- The number with the other sign. -/
def negated : Binary64 → Binary64
  | finite s n p => finite (!s) n p
  | infinite s => infinite (!s)
  | undefined => undefined

/-- The sum.  A sum of nothing keeps its sign only if both parts have it. -/
def plus : Binary64 → Binary64 → Binary64
  | undefined, _ | _, undefined => undefined
  | infinite s, infinite t => if s = t then infinite s else undefined
  | infinite s, finite .. | finite .., infinite s => infinite s
  | finite s m p, finite t n q =>
    let least := min p q
    let sum := signed s m * Int.pow 2 (p - least).toNat + signed t n * Int.pow 2 (q - least).toNat
    let (up, down) := powerRatio 2 least
    if sum = 0 then zero (s && t) else nearest (sum < 0) (sum.natAbs * up) down

/-- The difference. -/
def minus (x y : Binary64) : Binary64 := x.plus y.negated

end Binary64

end TextRoll
