/-
TextRoll/Growth.lean

How far storage may grow.

A request for storage names the slots there are and the slots that are wanted.
It is decided in three steps, in this order:

* past the limit of the policy, it is refused with that limit;
* with more new slots than can be counted, it overflows;
* for more slots than there is memory for, it is refused without a limit.

Otherwise it is granted: there is taken to be memory for every request below
`unaffordableSlots`.  A number of slots with a point is compared with the limit like
any other, but no storage has that many (`Policy.refusedReal`).

Full storage asks for `Policy.enlarged` slots: its own number times the growth
factor, but at least one, and no more than the limit as long as the limit still
leaves room for another slot.
-/
import TextRoll.Fault

namespace TextRoll

/-- Storage grew from some slots to more; the slots that were asked for keep their spelling and
their mark. -/
structure Growth where
  before : Nat
  after : Whole
  mark : Mark
deriving DecidableEq, Repr

/-- New slots in this number can no longer be counted. -/
def uncountableSlots : Nat := Nat.pow 2 63

/-- Slots in this number no longer fit into memory. -/
def unaffordableSlots : Nat := Nat.pow 2 59

namespace Policy

/-- The limit that a number of slots is past, if it is past one. -/
def exceeded? (p : Policy) (wanted : Nat) : Option Nat := p.maxCapacity.filter (· < wanted)

/-- Grants storage or says why not. -/
def grant (p : Policy) (slots : Nat) (wanted : Whole) : Except Fault Unit :=
  match p.exceeded? wanted.toNat with
  | some limit => .error (.allocation wanted.value (.ofInt limit) false)
  | none =>
    if uncountableSlots ≤ wanted.toNat - slots then .error .sizeOverflow
    else if unaffordableSlots ≤ wanted.toNat then .error (.allocation wanted.value .null true)
    else .ok ()

/-- Why there cannot be a number of slots that has a point: it is past the limit, or else it counts
no slots. -/
def refusedReal (p : Policy) (x : Binary64) : Fault :=
  match p.maxCapacity.filter fun limit => (Number.ofInt limit).precedes (.real .fresh x) with
  | some limit => .allocation (.real .fresh x) (.ofInt limit) false
  | none => .slotsExpected .real

/-- The slots that full storage asks for. -/
def enlarged (p : Policy) (slots : Nat) : Nat :=
  let next := max (slots * p.growthFactor) 1
  match p.maxCapacity with
  | some limit => if slots < limit ∧ limit < next then limit else next
  | none => next

/-- The mark of the slots that full storage asks for: where the limit cuts them down, it is the
limit itself that is asked for. -/
def enlargedMark (p : Policy) (slots : Nat) : Mark :=
  if p.enlarged slots = max (slots * p.growthFactor) 1 then .fresh else p.marks.maxCapacity

/-- The slots of a roll that is made without a word about its capacity: never past the limit. -/
def startingCapacity (p : Policy) : Nat :=
  match p.maxCapacity with
  | some limit => min p.defaultCapacity limit
  | none => p.defaultCapacity

end Policy

end TextRoll
