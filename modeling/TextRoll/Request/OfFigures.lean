/-
TextRoll/Request/OfFigures.lean

Requests to policies and tallies, which tell their figures.

A policy never changes and tells the very counts it was given, though it can be asked
for another one that is made from a record.  A tally can be told of a growth by hand, and
then changes as it would for a growth of its own; what it counted before it met something
it cannot count stays.
-/
import TextRoll.Request.General

namespace TextRoll

namespace Act

/-- The policy with those fields of a record that have a meaning. -/
def policyFrom : Value → Except Fault Policy
  | .record _ entries => Policy.ofKnownFields? entries
  | v => .error (.missingAttribute v.kind "items")

/-- Answers the verbs of policies. -/
def askPolicy (p : Policy) (verb : Verb) (args : List Value) : Act Answer :=
  match verb, args with
  | .defaultCapacity, [] => return .value (.int p.marks.defaultCapacity p.defaultCapacity)
  | .growthFactor, [] => return .value (.int p.marks.growthFactor p.growthFactor)
  | .maxCapacity, [] =>
    return .value (match p.maxCapacity with
      | some limit => .int p.marks.maxCapacity limit
      | none => .null)
  | .releaseOnClear, [] => return .value p.releaseOnClear
  | .ofRecord, [v] => return .value (.policy (← ofExcept (policyFrom v)))
  | verb, args => askGeneral (.policy p) verb args

/-- Tells a tally of a growth. -/
def tell (t : TallyId) (before after : Value) : Act Unit := do
  let w ← get
  match (Tally.record t before after).run (w.tally t) with
  | .ok _ tally => set (w.setTally t tally)
  | .error fault tally => do
    set (w.setTally t tally)
    throw fault

/-- The figures of a tally as values, with their names. -/
def figuresOf (t : TallyId) (start : List Value) : Act (List (String × Value)) :=
  return Tally.names.zip (((← get).tally t).readings Number.value start)

/-- A figure of a tally, by its place among them. -/
def figureAt (t : TallyId) (start : List Value) (i : Nat) : Act Answer :=
  return .value ((((← get).tally t).readings Number.value start).getD i .null)

/-- Answers the verbs of tallies. -/
def askTally (t : TallyId) (start : List Value) (verb : Verb) (args : List Value) : Act Answer :=
  match verb, args with
  | .recordGrowth, [before, after] => do
    tell t before after
    return .nothing
  | .summary, [] => return .value (.record .fresh (← figuresOf t start))
  | .events, [] => return .value (.growths t)
  | .reallocations, [] => figureAt t start 0
  | .slotsAllocated, [] => figureAt t start 1
  | .peakCapacity, [] => figureAt t start 2
  | verb, args => askGeneral (.tally t start) verb args

end Act

end TextRoll
