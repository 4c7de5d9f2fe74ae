/-
TextRoll/Policy.lean

Policies from named fields.

There are two ways in.  `Policy.ofFields?` takes the four fields and nothing
else: the first name that is not a field is refused before any value is looked at,
in words of its own if the name is reserved.
`Policy.ofKnownFields?` passes over such names.  Either way the values are
checked one field after the other, in a fixed order, and for each field its kind
before its size; a truth value is not a count.  The choice about clearing is
taken as it comes.
-/
import TextRoll.Fault

namespace TextRoll

namespace Policy

/-- The names of the fields, in the order in which they are checked. -/
def fieldNames : List String :=
  ["default_capacity", "growth_factor", "max_capacity", "release_on_clear"]

/-- The name that stands for the policy itself while it is made; no caller may give it. -/
def reservedName : String := "self"

/-- A count of at least `least`, or what is wrong with the value. -/
def count? (field : String) (least : Nat) : Value → Except Fault { n : Nat // least ≤ n }
  | .int _ n =>
    if h : (least : Int) ≤ n then .ok ⟨n.toNat, by omega⟩
    else .error (.countTooSmall field least n)
  | v => .error (.countExpected field v.kind)

/-- A limit on a count: none, or a count. -/
def limit? (field : String) : Value → Except Fault (Option Nat)
  | .null => .ok none
  | v => (count? field 0 v).map (some ·.1)

/-- The value given for a field, the last one if there are several. -/
def given? (fields : List (String × Value)) (name : String) : Option Value :=
  (fields.reverse.find? (·.1 == name)).map (·.2)

/-- The policy with the values given for its fields, all others standard. -/
def ofGiven (fields : List (String × Value)) : Except Fault Policy := do
  let value (name : String) (standard : Value) := (given? fields name).getD standard
  let capacity := value "default_capacity" (.ofInt Policy.standard.defaultCapacity)
  let factor := value "growth_factor" (.ofInt Policy.standard.growthFactor)
  let most := value "max_capacity" .null
  let slots ← count? "default_capacity" 0 capacity
  let times ← count? "growth_factor" 2 factor
  let limit ← limit? "max_capacity" most
  let release := value "release_on_clear" Policy.standard.releaseOnClear
  let marks : CountMarks := ⟨capacity.mark, factor.mark, most.mark⟩
  return ⟨.fresh, marks, slots.1, times.1, limit, release, times.2⟩

/-- The policy with these fields; any other name is refused. -/
def ofFields? (fields : List (String × Value)) : Except Fault Policy :=
  match fields.find? (·.1 ∉ fieldNames) with
  | some (name, _) =>
    .error (if name = reservedName then .reservedField name else .unknownField name)
  | none => ofGiven fields

/-- The policy with those of the fields that have a meaning. -/
def ofKnownFields? (fields : List (String × Value)) : Except Fault Policy :=
  ofFields? (fields.filter (·.1 ∈ fieldNames))

end Policy

end TextRoll
