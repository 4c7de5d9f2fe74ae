/-
TextRoll/Number/Whole.lean

Whole numbers as they were given: a numeral, or a truth value that counts as one
or zero.

Arithmetic sees the number only (`Whole.toInt`).  The spelling is kept beside it
because reports and printed forms show what was given.
-/

namespace TextRoll

/-- A whole number as it was given. -/
inductive Whole
  | numeral (n : Int)
  /-- A truth value: true counts as one, false as zero. -/
  | truth (b : Bool)
deriving DecidableEq, Repr

namespace Whole

instance : Inhabited Whole := ⟨.numeral 0⟩

/-- The number. -/
def toInt : Whole → Int
  | numeral n => n
  | truth b => if b then 1 else 0

/-- The number as a count; what is below zero counts as zero. -/
def toNat (n : Whole) : Nat := n.toInt.toNat

/-- Whether the number was given as a truth value. -/
def isTruth : Whole → Bool
  | numeral _ => false
  | truth _ => true

/-- Equality as numbers, whatever the spelling. -/
def sameNumber (m n : Whole) : Bool := m.toInt == n.toInt

/-- Numbers of this size have more digits than can be written out. -/
def unwritable : Nat := Nat.pow 10 4300

/-- Whether a number can be written out. -/
def isWritable (n : Int) : Bool := n.natAbs < unwritable

/-- The word for a truth value. -/
def truthWord (b : Bool) : String := if b then "True" else "False"

/-- The written form, in the spelling that was given. -/
def written : Whole → String
  | numeral n => toString n
  | truth b => truthWord b

@[simp] theorem toInt_numeral (n : Int) : (numeral n).toInt = n := rfl

@[simp] theorem toNat_numeral (n : Nat) : (numeral n).toNat = n := rfl

/-- A count is below a number just when it is below what that number counts. -/
theorem lt_toNat {m : Nat} {n : Whole} : m < n.toNat ↔ (m : Int) < n.toInt := by
  unfold toNat
  omega

end Whole

end TextRoll
