/-
TextRoll/Proofs/Roll/Verdicts.lean

What becomes of a request for storage.

There are four verdicts on a request, and one of them alone is given, since they are looked for in
a fixed order: the limit of the policy comes first, then whether the new slots can be counted, then
whether there is memory for all of them.  `Policy.grant_eq` says that a policy decides in this way,
for numbers of any size.  Three requests are decided so: a new roll asks for the slots it is to
have (`create_eq`), a roll that is to have room asks for as many as that (`reserve_eq`), and one
that is full and is to take another element asks for its slots times the growth factor
(`append_eq`).
-/
import Mathlib.Algebra.Group.Nat.Defs
import TextRoll.Proofs.Roll.Limit
import TextRoll.Notice

namespace TextRoll

/-- What becomes of a request for storage. -/
inductive Verdict
  /-- It is past a limit. -/
  | pastLimit (limit : Nat)
  /-- The new slots can no longer be counted. -/
  | uncountable
  /-- There is no memory for the slots. -/
  | outOfMemory
  | granted
deriving DecidableEq, Repr

namespace Verdict

/-- The fault of a request that is not granted. -/
def fault? (wanted : Whole) : Verdict → Option Fault
  | pastLimit limit => some (.allocation wanted.value (.ofInt limit) false)
  | uncountable => some .sizeOverflow
  | outOfMemory => some (.allocation wanted.value .null true)
  | granted => none

/-- The warning that a request leaves in the log. -/
def warning? (wanted : Whole) : Verdict → Option Notice
  | pastLimit limit => some (.overLimit wanted.toInt limit)
  | outOfMemory => some (.outOfMemory wanted.toInt)
  | uncountable | granted => none

/-- What is handed back, if a request is granted. -/
def outcome {α : Type} (v : Verdict) (wanted : Whole) (a : α) : Except Fault α :=
  match v.fault? wanted with
  | some fault => .error fault
  | none => .ok a

@[simp] theorem map_outcome {α β : Type} (v : Verdict) (wanted : Whole) (a : α) (f : α → β) :
    (v.outcome wanted a).map f = v.outcome wanted (f a) := by
  cases v <;> rfl

theorem fault?_eq_none {v : Verdict} {wanted : Whole} : v.fault? wanted = none ↔ v = .granted := by
  cases v <;> simp [fault?]

end Verdict

/-- The verdict on a request for a number of slots in place of those that there are. -/
def Policy.verdict (p : Policy) (slots wanted : Nat) : Verdict :=
  match p.maxCapacity.filter (· < wanted) with
  | some limit => .pastLimit limit
  | none =>
    if 2 ^ 63 ≤ wanted - slots then .uncountable
    else if 2 ^ 59 ≤ wanted then .outOfMemory
    else .granted

namespace Policy

variable {p : Policy} {slots wanted limit : Nat}

/-- **A policy decides by the verdict.** -/
theorem grant_eq (p : Policy) (slots : Nat) (wanted : Whole) :
    p.grant slots wanted = (p.verdict slots wanted.toNat).outcome wanted () := by
  unfold grant verdict exceeded?
  cases p.maxCapacity.filter (· < wanted.toNat) with
  | some limit => rfl
  | none =>
    have hcountable : uncountableSlots = 2 ^ 63 := rfl
    have haffordable : unaffordableSlots = 2 ^ 59 := rfl
    rw [hcountable, haffordable]
    dsimp only
    split
    · rfl
    · split <;> rfl

/-- A limit that a request is past is that of the policy. -/
theorem verdict_eq_pastLimit : p.verdict slots wanted = .pastLimit limit ↔
    p.maxCapacity = some limit ∧ limit < wanted := by
  rw [← exceeded?_eq_some, exceeded?, verdict]
  cases p.maxCapacity.filter (· < wanted) with
  | some limit' => simp
  | none =>
    dsimp only
    split
    · simp
    · split <;> simp

/-- Slots that there is no memory for are many, but the new ones can be counted. -/
theorem verdict_eq_outOfMemory (h : p.verdict slots wanted = .outOfMemory) :
    2 ^ 59 ≤ wanted ∧ wanted - slots < 2 ^ 63 := by
  unfold verdict at h
  split at h
  · cases h
  · split at h
    · cases h
    · split at h
      · omega
      · cases h

end Policy

namespace Roll

variable {α : Type} {l : Roll α}

theorem reallocate_eq (l : Roll α) (wanted : Whole) (mark : Mark) :
    l.reallocate wanted mark = (l.policy.verdict l.capacity wanted.toNat).outcome wanted
      (l.grown wanted.toNat, ⟨l.capacity, wanted, mark⟩) := by
  rw [reallocate, Policy.grant_eq, Verdict.map_outcome]

/-- Room that a roll has already is not asked for. -/
theorem reserve_of_le {capacity : Whole} (h : capacity.toInt ≤ l.capacity) (mark : Mark) :
    l.reserve capacity mark = .ok (l, none) :=
  if_neg (Int.not_lt.mpr h)

/-- **Room that a roll does not have** is asked for as it is. -/
theorem reserve_eq {capacity : Whole} (h : l.capacity < capacity.toInt) (mark : Mark) :
    l.reserve capacity mark = (l.policy.verdict l.capacity capacity.toNat).outcome capacity
      (l.grown capacity.toNat, some ⟨l.capacity, capacity, mark⟩) := by
  rw [reserve, if_pos h, reallocate_eq, Verdict.map_outcome]

/-- **A full roll that is to take an element** asks for its slots times the growth factor. -/
theorem append_eq (h : l.length = l.capacity) (a : α) :
    let wanted := l.policy.enlarged l.capacity
    l.append a = (l.policy.verdict l.capacity wanted).outcome (.numeral wanted)
      ((l.grown wanted).place a,
        some ⟨l.capacity, .numeral wanted, l.policy.enlargedMark l.capacity⟩) := by
  intro wanted
  rw [append, makeRoom, if_pos h]
  dsimp only
  rw [reallocate_eq, Verdict.map_outcome, Verdict.map_outcome]
  rfl

/-- The roll has been given more slots, and elements for them, and nothing else has happened. -/
structure Enlarged (l : Roll α) (slots : Nat) (added : List α) (l' : Roll α) : Prop where
  capacity_eq : l'.capacity = slots
  elements_eq : l'.elements = l.elements ++ added
  cursor_eq : l'.cursor = l.cursor
  generation_eq : l'.generation = l.generation + 1
  reallocations_eq : l'.reallocations = l.reallocations + 1
  policy_eq : l'.policy = l.policy

theorem WellFormed.enlarged_grown (h : l.WellFormed) {slots : Nat} (hlt : l.capacity < slots) :
    l.Enlarged slots [] (l.grown slots) where
  capacity_eq := capacity_grown hlt
  elements_eq := (h.layout.grown slots).elements_eq.trans (List.append_nil _).symm
  cursor_eq := rfl
  generation_eq := rfl
  reallocations_eq := rfl
  policy_eq := rfl

theorem WellFormed.enlarged_place (h : l.WellFormed) {slots : Nat} (hlt : l.capacity < slots)
    (a : α) : l.Enlarged slots [a] ((l.grown slots).place a) where
  capacity_eq := (capacity_place _ a).trans (capacity_grown hlt)
  elements_eq := by
    have hfree : l.capacity - l.length + (slots - l.capacity)
        = (l.capacity - l.length + (slots - l.capacity) - 1) + 1 := by omega
    exact ((hfree ▸ h.layout.grown slots).place a).elements_eq
  cursor_eq := rfl
  generation_eq := rfl
  reallocations_eq := rfl
  policy_eq := rfl

/-- **A new roll** asks for the slots it is to have. -/
theorem create_eq (p : Policy) {capacity : Option Whole}
    (h : ∀ n, capacity = some n → 0 ≤ n.toInt) :
    let wanted := p.slotsAsked capacity
    (create p capacity : Except Fault (Roll α)) = (p.verdict 0 wanted.toNat).outcome wanted
      ⟨List.replicate wanted.toNat none, 0, 0, .counted, 0, 0, 0, p⟩ := by
  intro wanted
  have hslots : (create p capacity : Except Fault (Roll α)) = ofSlots p wanted := by
    cases capacity with
    | none => rfl
    | some n => exact if_neg (Int.not_lt.mpr (h n rfl))
  rw [hslots]
  show (p.grant 0 wanted).map _ = _
  rw [Policy.grant_eq, Verdict.map_outcome]

/-- A capacity below zero is refused before any storage is asked for. -/
theorem create_negative (p : Policy) {n : Whole} (h : n.toInt < 0) :
    (create p (some n) : Except Fault (Roll α)) = .error (.negativeCapacity (.ofInt n.toInt)) :=
  if_pos h

end Roll

end TextRoll
