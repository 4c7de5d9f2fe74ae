/-
TextRoll/Proofs/Roll/Layout.lean

How the storage of a roll is laid out: its elements first, then empty slots.

`Roll.Layout l as free` says that the slots of `l` hold the elements `as` and behind
them `free` empty slots, and that the length of `l` counts the former.  Every operation
is described once by what it does to a layout:

* placing an element takes the first empty slot;
* growing adds empty slots;
* taking out the element at `i` erases it and leaves one more empty slot;
* clearing leaves empty slots only.

All that is said elsewhere about slots, elements and capacity is read off these four
statements.
-/
import Mathlib.Data.List.InsertIdx
import TextRoll.Roll.Growing
import TextRoll.Roll.Moving
import TextRoll.Roll.Removing

namespace TextRoll

namespace Roll

variable {α : Type}

/-- The elements, in order. -/
def elements (l : Roll α) : List α := (l.slots.take l.length).filterMap id

/-- The slots hold these elements and, behind them, so many empty slots. -/
structure Layout (l : Roll α) (as : List α) (free : Nat) : Prop where
  slots_eq : l.slots = as.map some ++ List.replicate free none
  length_eq : l.length = as.length

namespace Layout

variable {l : Roll α} {as : List α} {free : Nat}

/-! ### What a layout says -/

theorem capacity_eq (h : l.Layout as free) : l.capacity = as.length + free := by
  simp [capacity, h.slots_eq]

theorem elements_eq (h : l.Layout as free) : l.elements = as := by
  have htake : l.slots.take l.length = as.map some := by
    rw [h.slots_eq, h.length_eq]
    exact List.take_left' (List.length_map some)
  rw [elements, htake, List.filterMap_map]
  exact List.filterMap_some

theorem slot_eq (h : l.Layout as free) {i : Nat} (hi : i < as.length) :
    l.slots[i]? = some (some as[i]) := by
  rw [h.slots_eq, List.getElem?_append_left (by simpa using hi)]
  simp [hi]

theorem slot_eq_none (h : l.Layout as free) {i : Nat} (hi : as.length ≤ i)
    (hcap : i < l.capacity) : l.slots[i]? = some none := by
  have hfree : i - as.length < free := by
    have := h.capacity_eq
    omega
  rw [h.slots_eq, List.getElem?_append_right (by simpa using hi)]
  simp [hfree]

/-- What is found in a slot is the element with the same index. -/
theorem slot_iff (h : l.Layout as free) {i : Nat} {a : α} :
    l.slots[i]? = some (some a) ↔ as[i]? = some a := by
  rw [h.slots_eq, List.getElem?_append]
  split
  · simp
  · next hi =>
    have hnone : as[i]? = none := by simpa using hi
    rw [hnone, List.getElem?_replicate]
    split <;> simp

/-- Reading an element never fails. -/
theorem stored_eq (h : l.Layout as free) (wanted : String) {i : Nat} (hi : i < as.length) :
    l.stored wanted i = .ok as[i] := by
  simp [stored, h.slot_eq hi]

/-! ### What the operations do to a layout -/

theorem place (h : l.Layout as (free + 1)) (a : α) : (l.place a).Layout (as ++ [a]) free := by
  constructor
  · show l.slots.set l.length (some a) = _
    rw [h.slots_eq, h.length_eq, List.set_append_right _ _ (by simp)]
    simp [List.replicate_succ]
  · simp [Roll.place, h.length_eq]

theorem grown (h : l.Layout as free) (wanted : Nat) :
    (l.grown wanted).Layout as (free + (wanted - l.capacity)) := by
  constructor
  · show l.slots ++ List.replicate (wanted - l.capacity) none = _
    rw [h.slots_eq, List.append_assoc, List.replicate_append_replicate]
  · exact h.length_eq

theorem without (h : l.Layout as free) {i : Nat} (hi : i < as.length) :
    (l.without i).Layout (as.eraseIdx i) (free + 1) := by
  constructor
  · show l.slots.eraseIdx i ++ [none] = _
    rw [h.slots_eq, List.eraseIdx_append_of_lt_length (by simpa using hi), List.append_assoc,
      ← List.replicate_succ', List.eraseIdx_map]
  · show l.length - 1 = _
    rw [h.length_eq, List.length_eraseIdx_of_lt hi]

/-- Clearing gives storage back only if there is more than the default. -/
theorem clear (h : l.Layout as free) (release : Bool) :
    (l.clear release).Layout []
      (if release ∧ l.policy.defaultCapacity < l.capacity then l.policy.defaultCapacity
        else l.capacity) := by
  have hcap := h.capacity_eq
  constructor
  · show (if release ∧ l.policy.defaultCapacity < l.capacity then
        List.replicate l.policy.defaultCapacity none
      else List.replicate (min l.length l.capacity) none ++ l.slots.drop l.length) = _
    split
    · rfl
    · have hdrop : l.slots.drop l.length = List.replicate free none := by
        rw [h.slots_eq, h.length_eq]
        exact List.drop_left' (List.length_map some)
      have hmin : min l.length l.capacity = as.length := by
        rw [h.length_eq]
        omega
      rw [hdrop, hmin, List.replicate_append_replicate, hcap]
      rfl
  · rfl

end Layout

end Roll

end TextRoll
