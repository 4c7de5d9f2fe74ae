/-
TextRoll/Roll/Growing.lean

Adding elements and making room for them.

Only two operations ask for storage: an append that finds every slot occupied,
and `reserve` with more slots than there are.  A grant is one growth: the new
slots come behind the others, and both counters go up by one.  A refusal leaves
nothing behind, since the roll is handed back only with a grant.
-/
import TextRoll.Roll.Basic

namespace TextRoll

namespace Roll

variable {α : Type}

/-- The roll with empty slots added until there are `wanted`. -/
def grown (l : Roll α) (wanted : Nat) : Roll α :=
  { l with
    slots := l.slots ++ List.replicate (wanted - l.capacity) none
    generation := l.generation + 1
    reallocations := l.reallocations + 1 }

/-- Brings the storage to `wanted` slots, if the policy grants it. -/
def reallocate (l : Roll α) (wanted : Whole) (mark : Mark) : Except Fault (Roll α × Growth) :=
  (l.policy.grant l.capacity wanted).map fun _ => (l.grown wanted.toNat, ⟨l.capacity, wanted, mark⟩)

/-- Makes sure that there is an empty slot behind the elements. -/
def makeRoom (l : Roll α) : Except Fault (Roll α × Option Growth) :=
  if l.length = l.capacity then
    let wanted := l.policy.enlarged l.capacity
    (l.reallocate (.numeral wanted) (l.policy.enlargedMark l.capacity)).map fun (larger, growth) =>
      (larger, some growth)
  else .ok (l, none)

/-- Puts an element into the slot behind the others. -/
def place (l : Roll α) (a : α) : Roll α :=
  { l with slots := l.slots.set l.length (some a), length := l.length + 1 }

/-- Adds an element at the end. -/
def append (l : Roll α) (a : α) : Except Fault (Roll α × Option Growth) :=
  l.makeRoom.map fun (roomy, growth) => (roomy.place a, growth)

/-- Makes sure that there are at least as many slots as asked for by a number with a mark. -/
def reserve (l : Roll α) (capacity : Whole) (mark : Mark) :
    Except Fault (Roll α × Option Growth) :=
  if (l.capacity : Int) < capacity.toInt then
    (l.reallocate capacity mark).map fun (larger, growth) => (larger, some growth)
  else .ok (l, none)

/-- Makes sure that there are at least as many slots as a number with a point: there may be, but
there cannot come to be. -/
def reserveReal (l : Roll α) (x : Binary64) : Except Fault Unit :=
  if (Number.ofInt l.capacity).precedes (.real .fresh x) then .error (l.policy.refusedReal x)
  else .ok ()

end Roll

end TextRoll
