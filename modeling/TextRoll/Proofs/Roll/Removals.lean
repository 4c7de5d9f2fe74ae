/-
TextRoll/Proofs/Roll/Removals.lean

Elements that are taken out one after the other.

`Roll.Thinned l gone l'` describes what is left of a roll after some of its elements are gone, in
terms of the roll as it was and of the elements alone: their order, the number of slots, and the
place of the cursor.  The cursor is counted in survivors: those that were before it still are,
except that it stays at the last survivor when none is left behind them (`Roll.cursorWithout`).

* `Thinned.without`: taking out one more element keeps the description.
* `Thinned.eq_of_mem_iff`: the order in which the elements went does not show in it.
* `Thinned.current_eq`: the cursor is at the first survivor that was not before it, or else at the
  last survivor.
-/
import Mathlib.Data.List.Nodup
import TextRoll.Proofs.Roll.Change

namespace TextRoll

namespace Roll

variable {α : Type} [DecidableEq α] {l l' l'' : Roll α} {gone gone' : List α}

/-- What is left of the elements when some are gone. -/
def survivors (l : Roll α) (gone : List α) : List α := l.elements.filter (· ∉ gone)

/-- Where the cursor is when some elements are gone: behind the survivors that were before it, or
else at the last survivor. -/
def cursorWithout (l : Roll α) (gone : List α) : Nat :=
  min ((l.elements.take l.cursor).filter (· ∉ gone)).length ((l.survivors gone).length - 1)

/-- The roll has lost some of its elements, and nothing else has happened to it. -/
structure Thinned (l : Roll α) (gone : List α) (l' : Roll α) : Prop where
  elements_eq : l'.elements = l.survivors gone
  capacity_eq : l'.capacity = l.capacity
  cursor_eq : l'.cursor = l.cursorWithout gone

@[simp] theorem survivors_nil (l : Roll α) : l.survivors [] = l.elements := by
  simp [survivors]

theorem survivors_congr (h : ∀ a, a ∈ gone ↔ a ∈ gone') :
    l.survivors gone = l.survivors gone' := by
  simp only [survivors, h]

theorem cursorWithout_congr (h : ∀ a, a ∈ gone ↔ a ∈ gone') :
    l.cursorWithout gone = l.cursorWithout gone' := by
  simp only [cursorWithout, survivors, h]

/-- The survivors that were before the cursor, and then those that were not. -/
theorem survivors_eq_append (l : Roll α) (gone : List α) :
    l.survivors gone = (l.elements.take l.cursor).filter (· ∉ gone)
      ++ (l.elements.drop l.cursor).filter (· ∉ gone) := by
  rw [← List.filter_append, List.take_append_drop, survivors]

theorem length_survivors (l : Roll α) (gone : List α) :
    (l.survivors gone).length = ((l.elements.take l.cursor).filter (· ∉ gone)).length
      + ((l.elements.drop l.cursor).filter (· ∉ gone)).length := by
  rw [survivors_eq_append, List.length_append]

/-- A roll that has lost nothing is as it was. -/
theorem WellFormed.thinned_nil (h : l.WellFormed) : l.Thinned [] l where
  elements_eq := l.survivors_nil.symm
  capacity_eq := rfl
  cursor_eq := by
    have hlength := h.length_elements
    have hlt := h.cursor_lt
    have hzero := h.cursor_eq_zero
    have hall : (l.elements.take l.cursor).filter (· ∉ ([] : List α)) = l.elements.take l.cursor :=
      List.filter_eq_self.mpr (by simp)
    rw [cursorWithout, hall, survivors_nil, List.length_take]
    omega

/-! ### One more element -/

/-- With one more element gone there is one survivor less. -/
theorem filter_gone_append {as : List α} (hnodup : as.Nodup) (gone : List α) (a : α) :
    as.filter (· ∉ gone ++ [a]) = (as.filter (· ∉ gone)).erase a := by
  rw [List.Nodup.erase_eq_filter (hnodup.filter _), List.filter_filter]
  apply List.filter_congr
  intro b _
  simp only [List.mem_append, List.mem_singleton, not_or, bne, beq_eq_decide, Bool.decide_and,
    decide_not, Bool.and_comm]

/-- A survivor was before the cursor just when its place is among the survivors that were. -/
theorem mem_before_iff (hnodup : l.elements.Nodup) {i : Nat} {a : α}
    (ha : (l.survivors gone)[i]? = some a) :
    a ∈ (l.elements.take l.cursor).filter (· ∉ gone) ↔
      i < ((l.elements.take l.cursor).filter (· ∉ gone)).length := by
  have hsurvivors : (l.survivors gone).Nodup := hnodup.filter _
  rw [survivors_eq_append] at ha hsurvivors
  constructor
  · intro hmem
    by_contra hle
    rw [List.getElem?_append_right (Nat.le_of_not_lt hle)] at ha
    exact (List.disjoint_of_nodup_append hsurvivors) hmem (List.mem_of_getElem? ha)
  · intro hlt
    rw [List.getElem?_append_left hlt] at ha
    exact List.mem_of_getElem? ha

/-- The cursor after one more survivor is taken out is the one without that survivor. -/
theorem cursorAfterRemoval_cursorWithout (hnodup : l.elements.Nodup) {i : Nat} {a : α}
    (ha : (l.survivors gone)[i]? = some a) :
    cursorAfterRemoval (l.cursorWithout gone) i ((l.survivors gone).length - 1)
      = l.cursorWithout (gone ++ [a]) := by
  have hi : i < (l.survivors gone).length := (List.getElem?_eq_some_iff.mp ha).1
  have hbefore := mem_before_iff hnodup ha
  have hle := l.length_survivors gone
  have hleft : (l.survivors (gone ++ [a])).length = (l.survivors gone).length - 1 := by
    rw [survivors, filter_gone_append hnodup]
    exact List.length_erase_of_mem (List.mem_of_getElem? ha)
  unfold cursorWithout
  rw [hleft, filter_gone_append (hnodup.sublist (List.take_sublist _ _)), List.length_erase]
  simp only [hbefore]
  unfold cursorAfterRemoval
  dsimp only
  split <;> split <;> split <;> omega

/-- **Taking out one more element** leaves the roll without that one as well. -/
theorem Thinned.without (h : l.Thinned gone l') (hl : l.elements.Nodup) (hl' : l'.WellFormed)
    {i : Nat} {a : α} (ha : l'.elements[i]? = some a) :
    l.Thinned (gone ++ [a]) (l'.without i) := by
  obtain ⟨hi, hget⟩ := List.getElem?_eq_some_iff.mp ha
  have hlay := hl'.layout.without hi
  constructor
  · -- no element is there twice, so erasing its place is erasing the element
    have hnodup : l'.elements.Nodup := h.elements_eq ▸ hl.filter _
    rw [hlay.elements_eq, ← hnodup.erase_getElem i hi, hget, h.elements_eq]
    exact (filter_gone_append hl gone a).symm
  · exact (hl'.capacity_without (hl'.length_elements ▸ hi)).trans h.capacity_eq
  · show cursorAfterRemoval l'.cursor i (l'.length - 1) = _
    rw [h.cursor_eq, ← hl'.length_elements, h.elements_eq]
    exact cursorAfterRemoval_cursorWithout hl (h.elements_eq ▸ ha)

/-! ### What shows afterwards -/

/-- Which elements are gone decides what is left, not the order in which they went. -/
theorem Thinned.eq_of_mem_iff (h : l.Thinned gone l') (h' : l.Thinned gone' l'')
    (hgone : ∀ a, a ∈ gone ↔ a ∈ gone') :
    l''.elements = l'.elements ∧ l''.capacity = l'.capacity ∧ l''.cursor = l'.cursor := by
  refine ⟨?_, ?_, ?_⟩
  · rw [h.elements_eq, h'.elements_eq, survivors_congr hgone]
  · rw [h.capacity_eq, h'.capacity_eq]
  · rw [h.cursor_eq, h'.cursor_eq, cursorWithout_congr hgone]

/-- **Where the cursor is:** at the first survivor that was not before it, or else at the last
one. -/
theorem Thinned.current_eq (h : l.Thinned gone l') :
    (l.survivors gone)[l'.cursor]?
      = ((l.elements.drop l.cursor).find? (· ∉ gone)).or (l.survivors gone).getLast? := by
  rw [h.cursor_eq, ← List.head?_filter, cursorWithout, l.length_survivors gone,
    survivors_eq_append]
  cases hbehind : (l.elements.drop l.cursor).filter (· ∉ gone) with
  | nil => simp [List.getLast?_eq_getElem?]
  | cons a rest => simp

/-- Without survivors the cursor is at the start. -/
theorem Thinned.cursor_eq_zero (h : l.Thinned gone l') (hnone : l.survivors gone = []) :
    l'.cursor = 0 := by
  rw [h.cursor_eq, cursorWithout, hnone]
  exact Nat.min_zero _

end Roll

end TextRoll
