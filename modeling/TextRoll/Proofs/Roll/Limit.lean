/-
TextRoll/Proofs/Roll/Limit.lean

Rolls under a limit.

As long as the limit itself fits into memory, it is all that decides about storage
(`Policy.grant_of_limit`).  What full storage asks for is the growth factor times what there is, and
that may be far past the limit; it is cut down to the limit exactly as long as the limit leaves
room for another slot (`Policy.enlarged_le_limit`, `Policy.enlarged_at_limit`).  So a roll can take
another element as long as it has fewer than the limit allows, and no longer
(`append_of_lt_limit`, `append_at_limit`).
-/
import TextRoll.Proofs.Roll.Change

namespace TextRoll

namespace Policy

variable {p : Policy} {limit : Nat}

/-- Under a limit that fits into memory, storage is refused past the limit and granted up to it. -/
theorem grant_of_limit (hlimit : p.maxCapacity = some limit) (hfits : limit < unaffordableSlots)
    (slots : Nat) (wanted : Whole) :
    p.grant slots wanted = if limit < wanted.toNat then
        .error (.allocation wanted.value (.ofInt limit) false)
      else .ok () := by
  have hcountable : unaffordableSlots < uncountableSlots := by decide
  unfold grant
  split
  · next limit' hexceeded =>
    obtain ⟨hlimit', hlt⟩ := exceeded?_eq_some.mp hexceeded
    obtain rfl := Option.some.inj (hlimit.symm.trans hlimit')
    rw [if_pos hlt]
  · next hexceeded =>
    have hle : ¬limit < wanted.toNat := by
      intro hlt
      rw [exceeded?_eq_some.mpr ⟨hlimit, hlt⟩] at hexceeded
      cases hexceeded
    rw [if_neg hle, if_neg (by omega), if_neg (by omega)]

/-- Storage below the limit asks for no more than the limit. -/
theorem enlarged_le_limit (hlimit : p.maxCapacity = some limit) {slots : Nat}
    (hlt : slots < limit) : p.enlarged slots ≤ limit := by
  unfold enlarged
  rw [hlimit]
  dsimp only
  split <;> omega

/-- Storage at the limit asks for what the growth factor makes of it. -/
theorem enlarged_at_limit (hlimit : p.maxCapacity = some limit) :
    p.enlarged limit = max (limit * p.growthFactor) 1 := by
  unfold enlarged
  rw [hlimit]
  exact if_neg fun h => Nat.lt_irrefl _ h.1

theorem startingCapacity_le_limit (hlimit : p.maxCapacity = some limit) :
    p.startingCapacity ≤ limit := by
  unfold startingCapacity
  rw [hlimit]
  exact Nat.min_le_right ..

/-- The slots that a new roll is asked to have: those of the capacity that is given, if one is. -/
def slotsAsked (p : Policy) : Option Whole → Whole
  | some capacity => capacity
  | none => .numeral p.startingCapacity

end Policy

namespace Roll

variable {α : Type} {l : Roll α} {limit : Nat}

theorem reallocate_of_limit (hlimit : l.policy.maxCapacity = some limit)
    (hfits : limit < unaffordableSlots) (wanted : Whole) (mark : Mark) :
    l.reallocate wanted mark = if limit < wanted.toNat then
        .error (.allocation wanted.value (.ofInt limit) false)
      else .ok (l.grown wanted.toNat, ⟨l.capacity, wanted, mark⟩) := by
  unfold reallocate
  rw [Policy.grant_of_limit hlimit hfits]
  split <;> rfl

/-! ### Adding an element -/

/-- A roll with fewer elements than the limit allows takes another one. -/
theorem append_of_lt_limit (hlimit : l.policy.maxCapacity = some limit)
    (hfits : limit < unaffordableSlots) (hlt : l.length < limit) (a : α) :
    ∃ outcome, l.append a = .ok outcome := by
  unfold append makeRoom
  split
  · next hfull =>
    have hle : ¬limit < (Whole.numeral (l.policy.enlarged l.capacity)).toNat :=
      Nat.not_lt.mpr (Policy.enlarged_le_limit hlimit (hfull ▸ hlt))
    dsimp only
    rw [reallocate_of_limit hlimit hfits, if_neg hle]
    exact ⟨_, rfl⟩
  · exact ⟨_, rfl⟩

/-- A roll with as many elements as the limit allows asks for more slots than that. -/
theorem WellFormed.append_at_limit (h : l.WellFormed) (hlimit : l.policy.maxCapacity = some limit)
    (hfits : limit < unaffordableSlots) (hfull : l.length = limit) (a : α) :
    l.append a = .error
      (.allocation (Whole.numeral (max (limit * l.policy.growthFactor) 1 : Nat)).value
        (.ofInt limit) false) := by
  -- between the elements and the limit there is no place for an empty slot
  have hcap : l.capacity = limit :=
    Nat.le_antisymm (h.allowed.le_limit limit hlimit) (hfull ▸ h.length_le)
  have hpast : limit < (Whole.numeral (l.policy.enlarged limit)).toNat := l.policy.lt_enlarged limit
  unfold append makeRoom
  rw [hcap, if_pos hfull]
  dsimp only
  rw [reallocate_of_limit hlimit hfits, if_pos hpast, Policy.enlarged_at_limit hlimit]
  rfl

/-! ### Making room -/

theorem reserve_of_le_limit (hlimit : l.policy.maxCapacity = some limit)
    (hfits : limit < unaffordableSlots) {capacity : Whole} (hle : capacity.toInt ≤ limit)
    (mark : Mark) : ∃ outcome, l.reserve capacity mark = .ok outcome := by
  unfold reserve
  split
  · have hle' : ¬limit < capacity.toNat := fun hlt => Int.not_lt.mpr hle (Whole.lt_toNat.mp hlt)
    rw [reallocate_of_limit hlimit hfits, if_neg hle']
    exact ⟨_, rfl⟩
  · exact ⟨_, rfl⟩

theorem WellFormed.reserve_past_limit (h : l.WellFormed)
    (hlimit : l.policy.maxCapacity = some limit) (hfits : limit < unaffordableSlots)
    {capacity : Whole} (hlt : limit < capacity.toInt) (mark : Mark) :
    l.reserve capacity mark = .error (.allocation capacity.value (.ofInt limit) false) := by
  have hcap := h.allowed.le_limit limit hlimit
  have hpast : limit < capacity.toNat := Whole.lt_toNat.mpr hlt
  unfold reserve
  rw [if_pos (by omega), reallocate_of_limit hlimit hfits, if_pos hpast]
  rfl

/-! ### Making a roll -/

variable {p : Policy}

theorem ofSlots_of_limit (hlimit : p.maxCapacity = some limit) (hfits : limit < unaffordableSlots)
    (slots : Whole) :
    (ofSlots p slots : Except Fault (Roll α)) = if limit < slots.toNat then
        .error (.allocation slots.value (.ofInt limit) false)
      else .ok ⟨List.replicate slots.toNat none, 0, 0, .counted, 0, 0, 0, p⟩ := by
  unfold ofSlots
  rw [Policy.grant_of_limit hlimit hfits]
  split <;> rfl

/-- Whatever the standard capacity of the policy is, a roll can be made without naming one. -/
theorem create_none_of_limit (hlimit : p.maxCapacity = some limit)
    (hfits : limit < unaffordableSlots) : ∃ l : Roll α, create p none = .ok l := by
  have hle : ¬limit < (Whole.numeral p.startingCapacity).toNat :=
    Nat.not_lt.mpr (Policy.startingCapacity_le_limit hlimit)
  show ∃ l : Roll α, ofSlots p (.numeral p.startingCapacity) = .ok l
  rw [ofSlots_of_limit hlimit hfits, if_neg hle]
  exact ⟨_, rfl⟩

/-- A roll with a capacity can be made exactly up to the limit. -/
theorem create_some_of_limit (hlimit : p.maxCapacity = some limit)
    (hfits : limit < unaffordableSlots) {capacity : Whole} (hnonneg : 0 ≤ capacity.toInt) :
    (create p (some capacity) : Except Fault (Roll α)) = if limit < capacity.toNat then
        .error (.allocation capacity.value (.ofInt limit) false)
      else .ok ⟨List.replicate capacity.toNat none, 0, 0, .counted, 0, 0, 0, p⟩ := by
  show (if capacity.toInt < 0 then .error (.negativeCapacity (.ofInt capacity.toInt))
    else ofSlots p capacity) = _
  rw [if_neg (Int.not_lt.mpr hnonneg), ofSlots_of_limit hlimit hfits]

/-- A new roll has the policy it was made under and as many slots as were asked for. -/
theorem create_eq_ok {capacity : Option Whole} (h : create p capacity = .ok l) :
    l = ⟨List.replicate (p.slotsAsked capacity).toNat none, 0, 0, .counted, 0, 0, 0, p⟩ := by
  have hslots : ∀ slots, ofSlots p slots = .ok l →
      l = ⟨List.replicate slots.toNat none, 0, 0, .counted, 0, 0, 0, p⟩ := by
    intro slots hslots
    unfold ofSlots at hslots
    cases hgrant : p.grant 0 slots with
    | error fault => rw [hgrant] at hslots; cases hslots
    | ok u =>
      rw [hgrant] at hslots
      cases hslots
      rfl
  unfold create at h
  split at h
  · split at h
    · cases h
    · exact hslots _ h
  · exact hslots _ h

theorem policy_of_create {capacity : Option Whole} (h : create p capacity = .ok l) :
    l.policy = p := by
  rw [create_eq_ok h]

theorem capacity_of_create {capacity : Option Whole} (h : create p capacity = .ok l) :
    l.capacity = (p.slotsAsked capacity).toNat := by
  rw [create_eq_ok h]
  exact List.length_replicate

/-- **A roll keeps its policy.** -/
theorem Change.policy_eq {l' : Roll α} {loss : Loss} {added : List α}
    (h : Change l loss added l') : l'.policy = l.policy := by
  cases h with
  | moved | taken | cleared => rfl
  | appended h =>
    rcases append_eq_ok h with ⟨-, rfl, -⟩ | ⟨wanted, -, -, -, rfl, -⟩
    · rfl
    · rfl
  | reserved h =>
    rcases reserve_eq_ok h with ⟨-, rfl, -⟩ | ⟨-, -, rfl, -⟩
    · rfl
    · rfl

end Roll

end TextRoll
