/-
TextRoll/Proofs/Roll/Powers.lean

How many slots full storage has after it was enlarged a number of times.

Each enlargement multiplies the slots by the growth factor, the last one perhaps cut down to the
limit.  So the slots are a power of the factor times the slots there were at the start, and which
power it is depends on the largest number of elements there ever was, the peak
(`Policy.Climbed`):

* up to the slots at the start, nothing was enlarged;
* beyond them, it is the least power that is enough for the peak.

`Climbed.stay` and `Climbed.enlarged` keep this from one moment to the next.  Since the slots are
multiplied each time, there are no more enlargements than the logarithm of the peak
(`Climbed.growths_le`).
-/
import Mathlib.Algebra.Group.Nat.Defs
import Mathlib.Data.Nat.Log
import Mathlib.Order.Bounds.Basic
import TextRoll.Proofs.Roll.Limit

namespace TextRoll

namespace Policy

variable {p : Policy} {start peak slots growths : Nat}

/-- A number of slots, cut down to the limit if there is one. -/
def capped (p : Policy) (slots : Nat) : Nat :=
  match p.maxCapacity with
  | some limit => min slots limit
  | none => slots

/-- The slots after some enlargements, were there no limit; the first one of no slots makes one. -/
def power (p : Policy) (start k : Nat) : Nat := max start 1 * p.growthFactor ^ k

/-- Storage that had some slots at the start was enlarged for a peak of elements, and never more
than was necessary. -/
structure Climbed (p : Policy) (start peak slots growths : Nat) : Prop where
  peak_le : peak ≤ slots
  kept : peak ≤ start → slots = start ∧ growths = 0
  /-- The slots are the least power that is enough, within the limit. -/
  climbed : start < peak → ∃ k, IsLeast {k | peak ≤ p.power start k} k ∧
    slots = p.capped (p.power start k) ∧ growths = k + if start = 0 then 1 else 0

theorem power_zero (p : Policy) (start : Nat) : p.power start 0 = max start 1 := by
  simp [power]

theorem power_succ (p : Policy) (start k : Nat) :
    p.power start (k + 1) = p.power start k * p.growthFactor := by
  simp [power, Nat.pow_succ, Nat.mul_assoc]

theorem power_pos (p : Policy) (start k : Nat) : 0 < p.power start k :=
  Nat.mul_pos (by omega) (Nat.pow_pos (Nat.lt_of_lt_of_le Nat.two_pos p.two_le_growthFactor))

theorem power_mono (p : Policy) (start : Nat) : Monotone (p.power start) := by
  refine monotone_nat_of_le_succ fun k => ?_
  rw [power_succ]
  exact Nat.le_mul_of_pos_right _ (Nat.lt_of_lt_of_le Nat.two_pos p.two_le_growthFactor)

theorem capped_of_limit {limit : Nat} (h : p.maxCapacity = some limit) (slots : Nat) :
    p.capped slots = min slots limit := by
  simp only [capped, h]

theorem capped_of_none (h : p.maxCapacity = none) (slots : Nat) : p.capped slots = slots := by
  simp only [capped, h]

theorem capped_le (p : Policy) (slots : Nat) : p.capped slots ≤ slots := by
  unfold capped
  split <;> omega

/-- Slots that are allowed to be enlarged were not cut down before. -/
theorem capped_eq_of_allows (hallowed : p.Allows (p.enlarged (p.capped slots))) :
    p.capped slots = slots := by
  have hlt := p.lt_enlarged (p.capped slots)
  cases hlimit : p.maxCapacity with
  | none => exact capped_of_none hlimit slots
  | some limit =>
    have hle := hallowed.le_limit limit hlimit
    rw [capped_of_limit hlimit] at hlt hle ⊢
    omega

/-- What full storage is enlarged to, if that is allowed. -/
theorem enlarged_eq_capped (hallowed : p.Allows (p.enlarged slots)) :
    p.enlarged slots = p.capped (max (slots * p.growthFactor) 1) := by
  cases hlimit : p.maxCapacity with
  | none => simp only [enlarged, capped, hlimit]
  | some limit =>
    have hle := hallowed.le_limit limit hlimit
    rw [capped_of_limit hlimit]
    simp only [enlarged, hlimit] at hle ⊢
    split at hle
    · next hcut => rw [if_pos hcut, Nat.min_eq_right (Nat.le_of_lt hcut.2)]
    · next hcut => rw [if_neg hcut, Nat.min_eq_left hle]

namespace Climbed

/-- At the start nothing was enlarged. -/
theorem of_start (p : Policy) (start : Nat) : p.Climbed start 0 start 0 where
  peak_le := Nat.zero_le _
  kept _ := ⟨rfl, rfl⟩
  climbed := nofun

/-- As long as there are enough slots, the peak may rise and nothing is enlarged. -/
theorem stay (h : p.Climbed start peak slots growths) {length : Nat} (hle : length ≤ slots) :
    p.Climbed start (max peak length) slots growths where
  peak_le := Nat.max_le.mpr ⟨h.peak_le, hle⟩
  kept hstart := h.kept (by omega)
  climbed hstart := by
    by_cases hpeak : peak ≤ start
    · have hslots := (h.kept hpeak).1
      omega
    · obtain ⟨k, ⟨-, hleast⟩, hslots, hgrowths⟩ := h.climbed (Nat.lt_of_not_le hpeak)
      have henough : max peak length ≤ p.power start k :=
        Nat.le_trans (Nat.max_le.mpr ⟨h.peak_le, hle⟩) (hslots ▸ p.capped_le _)
      refine ⟨k, ⟨henough, fun j hj => hleast ?_⟩, hslots, hgrowths⟩
      exact Nat.le_trans (Nat.le_max_left peak length) hj

/-- The first enlargement of the slots at the start. -/
theorem first (hallowed : p.Allows (p.enlarged start)) :
    p.Climbed start (start + 1) (p.enlarged start) 1 where
  peak_le := p.lt_enlarged start
  kept hstart := absurd hstart (Nat.not_succ_le_self start)
  climbed _ := by
    have henlarged := enlarged_eq_capped hallowed
    rcases Nat.eq_zero_or_pos start with rfl | hpos
    · -- without slots there is nothing to multiply, and the first power is one slot
      refine ⟨0, ⟨?_, fun j _ => Nat.zero_le j⟩, ?_, rfl⟩
      · exact Nat.le_of_eq (p.power_zero 0).symm
      · rw [henlarged, p.power_zero 0, Nat.zero_mul]
    · have hstart : p.power start 0 = start := by
        rw [p.power_zero]
        omega
      have hone : p.power start 1 = start * p.growthFactor := by rw [p.power_succ, hstart]
      have hdouble := Nat.mul_le_mul_left start p.two_le_growthFactor
      refine ⟨1, ⟨?_, fun j hj => ?_⟩, ?_, by rw [if_neg (Nat.ne_of_gt hpos)]⟩
      · show start + 1 ≤ p.power start 1
        omega
      · refine Nat.one_le_iff_ne_zero.mpr ?_
        rintro rfl
        have hj : start + 1 ≤ p.power start 0 := hj
        omega
      · rw [henlarged, hone, Nat.max_eq_left (by omega)]

/-- **One more enlargement** is one more power, since it was necessary. -/
theorem enlarged (h : p.Climbed start peak slots growths) (hallowed : p.Allows (p.enlarged slots)) :
    p.Climbed start (max peak (slots + 1)) (p.enlarged slots) (growths + 1) := by
  have hpeak : max peak (slots + 1) = slots + 1 :=
    Nat.max_eq_right (Nat.le_succ_of_le h.peak_le)
  rw [hpeak]
  by_cases hstart : peak ≤ start
  · obtain ⟨rfl, rfl⟩ := h.kept hstart
    exact first hallowed
  · obtain ⟨k, ⟨henough, -⟩, hslots, rfl⟩ := h.climbed (Nat.lt_of_not_le hstart)
    have hpower : slots = p.power start k := by
      rw [hslots] at hallowed
      rw [hslots, capped_eq_of_allows hallowed]
    have hdouble := Nat.mul_le_mul_left slots p.two_le_growthFactor
    have hpos := p.power_pos start k
    have henlarged : p.enlarged slots = p.capped (p.power start (k + 1)) := by
      rw [enlarged_eq_capped hallowed, p.power_succ, ← hpower, Nat.max_eq_left (by omega)]
    refine ⟨p.lt_enlarged slots, fun hle => ?_,
      fun _ => ⟨k + 1, ⟨?_, fun j hj => ?_⟩, henlarged, ?_⟩⟩
    · have := h.peak_le
      omega
    · show slots + 1 ≤ p.power start (k + 1)
      rw [p.power_succ, ← hpower]
      omega
    · -- a smaller power is no more than the slots there were
      by_contra hlt
      have hle : p.power start j ≤ p.power start k := p.power_mono start (by omega)
      have hj : slots + 1 ≤ p.power start j := hj
      omega
    · omega

/-- **There are few enlargements:** no more than the logarithm of the peak to the base of the growth
factor, and one. -/
theorem growths_le (h : p.Climbed start peak slots growths) :
    growths ≤ Nat.clog p.growthFactor peak + 1 := by
  by_cases hstart : peak ≤ start
  · rw [(h.kept hstart).2]
    exact Nat.zero_le _
  · obtain ⟨k, ⟨-, hleast⟩, -, rfl⟩ := h.climbed (Nat.lt_of_not_le hstart)
    have hk : k ≤ Nat.clog p.growthFactor peak := by
      refine hleast ?_
      show peak ≤ max start 1 * _
      calc peak ≤ p.growthFactor ^ Nat.clog p.growthFactor peak :=
            Nat.le_pow_clog p.two_le_growthFactor peak
        _ ≤ max start 1 * p.growthFactor ^ Nat.clog p.growthFactor peak :=
            Nat.le_mul_of_pos_left _ (by omega)
    split <;> omega

end Climbed

end Policy

end TextRoll
