/-
TextRoll/Number/Shortest.lean

The shortest decimal numeral that reads back as a given number.

The reals that round to `s * 2 ^ q` form an interval around it, its ends
included exactly when `s` is even.  On the grid of `k`-digit decimals only the
two neighbours of the number can lie in that interval if any grid point does;
the first `k` with a hit wins, of two hits the nearer, of two equally near ones
the even.  A `PointLayout` then says how the digits are laid out, and which words
stand for what has no digits.
-/
import TextRoll.Number.Binary64

namespace TextRoll

namespace Binary64

/-- How many decimal digits a positive natural has. -/
def digitCount (n : Nat) : Nat := (Nat.toDigits 10 n).length

/-- The power of ten of the leading digit of the positive quotient `n / d`. -/
def leadingPower (n d : Nat) : Int :=
  if d ≤ n then (digitCount (n / d) : Int) - 1
  else -(digitCount ((d + n - 1) / n - 1) : Int)

/-- The interval of a number in quarter units: its own place, its lower and its upper end. -/
def quarters (significand : Nat) (exponent : Int) : Nat × Nat × Nat :=
  let here := 4 * significand
  let narrow := significand = Nat.pow 2 52 ∧ leastExponent < exponent
  (here, if narrow then here - 1 else here - 2, here + 2)

/-- The grid point with `k` digits that reads back as `significand * 2 ^ exponent`, if there is one,
as digits and power. -/
def onGrid? (significand : Nat) (exponent : Int) (k : Nat) : Option (Nat × Int) :=
  let (here, low, high) := quarters significand exponent
  let (up, down) := powerRatio 2 (exponent - 2)
  let power := leadingPower (here * up) down - ((k : Int) - 1)
  let (tens, parts) := powerRatio 10 power
  -- `digits * 10 ^ power` compared with `place * 2 ^ (exponent - 2)`, both over one denominator
  let decimal (digits : Nat) := digits * tens * down
  let binary (place : Nat) := place * up * parts
  let floor := binary here / (tens * down)
  let closed := significand % 2 = 0
  let lowHit := if closed then binary low ≤ decimal floor else binary low < decimal floor
  let highHit :=
    if closed then decimal (floor + 1) ≤ binary high else decimal (floor + 1) < binary high
  let gapBelow := 2 * binary here
  let middle := decimal (2 * floor + 1)
  if lowHit ∧ highHit then
    if gapBelow < middle ∨ (gapBelow = middle ∧ floor % 2 = 0) then some (floor, power)
    else some (floor + 1, power)
  else if lowHit then some (floor, power)
  else if highHit then some (floor + 1, power)
  else none

/-- The shortest digits, with the power of ten of the last one; seventeen digits always suffice. -/
def shortest (significand : Nat) (exponent : Int) : Nat × Int :=
  ((List.range 17).findSome? fun k => onGrid? significand exponent (k + 1)).getD (0, 0)

end Binary64

/-! ### Layout -/

/-- How a numeral with a point is laid out: the leading powers of ten that are written
positionally, all others with an exponent, and the words for what has no digits. -/
structure PointLayout where
  leastPositional : Int
  mostPositional : Int
  exponentDigits : Nat
  infiniteWord : String
  undefinedWord : String

/-- Numbers from a ten-thousandth up to sixteen whole digits are written positionally, all
others with a signed exponent of at least two digits. -/
def PointLayout.plain : PointLayout := ⟨-4, 15, 2, "inf", "nan"⟩

/-- Zeros on the left up to a width. -/
def padLeft (width : Nat) (s : String) : String :=
  String.ofList (List.replicate (width - s.length) '0') ++ s

/-- Digits that end at a power of ten, laid out. -/
def PointLayout.numeral (layout : PointLayout) (digits : Nat) (power : Int) : String :=
  let all := Nat.toDigits 10 digits
  let leading := power + (all.length : Int) - 1
  let kept := (all.reverse.dropWhile (· == '0')).reverse
  if leading < layout.leastPositional ∨ layout.mostPositional < leading then
    let fraction := if kept.length ≤ 1 then "" else "." ++ String.ofList (kept.drop 1)
    let mark := if leading < 0 then "e-" else "e+"
    String.ofList (kept.take 1) ++ fraction ++ mark
      ++ padLeft layout.exponentDigits (toString leading.natAbs)
  else if leading < 0 then
    "0." ++ String.ofList (List.replicate (leading.natAbs - 1) '0') ++ String.ofList kept
  else
    let whole := kept.take (leading.toNat + 1)
    let padded := whole ++ List.replicate (leading.toNat + 1 - whole.length) '0'
    let rest := kept.drop (leading.toNat + 1)
    String.ofList padded ++ "." ++ (if rest.isEmpty then "0" else String.ofList rest)

/-- The numeral of a number with a point, or the word for it. -/
def Binary64.written (layout : PointLayout) (x : Binary64) : String :=
  let sign (negative : Bool) := if negative then "-" else ""
  match x with
  | .undefined => layout.undefinedWord
  | .infinite s => sign s ++ layout.infiniteWord
  | .finite s 0 _ => sign s ++ "0.0"
  | .finite s significand exponent =>
    let (digits, power) := shortest significand exponent
    sign s ++ layout.numeral digits power

end TextRoll
