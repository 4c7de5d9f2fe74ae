/-
TextRoll/Tally.lean

Tallies of growth.

A tally keeps the growths it was told of, in order, and three figures about
them: how many there were, how many slots they added, and the most slots any of
them reached.  A tally may start from other figures than zero, which need not even
be numbers, and may be told of a growth by hand.

`Tally.record` counts one growth, one figure after the other, and fails at the
first figure that nothing can be added to or compared with; the figures before it
stay counted.  A figure that is worked out is marked by the tally and by how many
growths it had been told of; one that is taken over keeps its mark.
-/
import TextRoll.Growth

namespace TextRoll

/-- A figure of a tally. -/
inductive Figure
  | number (n : Number)
  /-- Something that is no number.  It never changes, since nothing can be added to it. -/
  | other (got : Kind)
deriving DecidableEq, Repr

/-- A sum or a difference, unless a whole number in it was too large. -/
def Fault.ofSum : Option Number → Except Fault Number
  | some n => .ok n
  | none => .error .realOverflow

namespace Figure

/-- A value as a figure. -/
def ofValue (v : Value) : Figure :=
  match v.toNumber? with
  | some n => number n
  | none => other v.kind

/-- Whether two figures agree as numbers. -/
def agrees : Figure → Figure → Bool
  | number m, number n => m.agrees n
  | _, _ => false

/-- The figure with a number added. -/
def increased (f : Figure) (added : Number) : Except Fault Number :=
  match f with
  | number n => Fault.ofSum (n.plus? added)
  | other got => .error (.cannotAdd got added.value.kind)

/-- The greater of a figure and a number. -/
def raised (f : Figure) (n : Number) : Except Fault Number :=
  match f with
  | number m => .ok (m.larger n)
  | other got => .error (.notOrdered ">" n.value.kind got)

end Figure

/-- Figures about growth. -/
structure Tally where
  /-- How many growths were recorded. -/
  reallocations : Figure
  /-- How many slots they added, all together. -/
  slotsAllocated : Figure
  /-- The most slots that one of them reached. -/
  peakCapacity : Figure
  /-- The growths, from and to how many slots, in order. -/
  events : List (Number × Number)
  /-- How many growths the tally was told of, those it could not count among them. -/
  told : Nat
deriving DecidableEq, Repr

namespace Tally

/-- The tally of nothing, with figures that start from some values; those that are not given are
zero. -/
def ofValues (start : List Value) : Tally :=
  let figure (i : Nat) : Figure := .ofValue (start.getD i (.ofInt 0))
  ⟨figure 0, figure 1, figure 2, [], 0⟩

/-- The tally of nothing. -/
def zero : Tally := ofValues []

instance : Inhabited Tally := ⟨zero⟩

/-! ### Recording -/

/-- The two numbers of a growth. -/
def numbersOf (before after : Value) : Except Fault (Number × Number) :=
  match before.toNumber?, after.toNumber? with
  | some m, some n => .ok (m, n)
  | _, _ => .error (.cannotSubtract after.kind before.kind)

/-- Counts one growth in the tally at a place. -/
def record (place : TallyId) (before after : Value) : EStateM Fault Tally Unit := do
  modify fun t => { t with told := t.told + 1 }
  let t ← get
  let marked (n : Number) (purpose : String) : Number := n.markedAs (.figure place t.told purpose)
  let reallocations ← ofExcept (t.reallocations.increased (.ofInt 1))
  modify fun t => { t with reallocations := .number (marked reallocations "reallocations") }
  let (m, n) ← ofExcept (numbersOf before after)
  let added ← ofExcept (Fault.ofSum (n.minus? m))
  let slots ← ofExcept (t.slotsAllocated.increased added)
  modify fun t => { t with slotsAllocated := .number (marked slots "slots") }
  let growth := (marked m "before", marked n "after")
  let peak ← ofExcept (t.peakCapacity.raised growth.2)
  modify fun t => { t with peakCapacity := .number peak, events := t.events ++ [growth] }

/-- The tally after it was told of a growth, counted or not. -/
def afterRecord (t : Tally) (place : TallyId) (before after : Value) : Tally :=
  match (record place before after).run t with
  | .ok _ t => t
  | .error _ t => t

/-! ### Reading -/

/-- Whether two growths agree in their numbers. -/
def sameGrowth (g h : Number × Number) : Bool := g.1.agrees h.1 && g.2.agrees h.2

/-- Whether two lists of growths agree in their numbers and their order. -/
def sameGrowths : List (Number × Number) → List (Number × Number) → Bool
  | [], [] => true
  | g :: gs, h :: hs => sameGrowth g h && sameGrowths gs hs
  | _, _ => false

/-- The figures, in order. -/
def figures (t : Tally) : List Figure := [t.reallocations, t.slotsAllocated, t.peakCapacity]

/-- What is read off the figures: off a number by itself, off anything else by what the tally
started from, which is given in the order of the figures. -/
def readings {α : Type} [Inhabited α] (t : Tally) (ofNumber : Number → α) (start : List α) :
    List α :=
  t.figures.zipIdx.map fun (f, i) =>
    match f with
    | .number n => ofNumber n
    | .other _ => start.getD i default

/-- The names of the figures, in order. -/
def names : List String := ["reallocations", "slots_allocated", "peak_capacity"]

end Tally

end TextRoll
