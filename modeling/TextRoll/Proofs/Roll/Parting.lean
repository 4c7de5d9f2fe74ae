/-
TextRoll/Proofs/Roll/Parting.lean

The cursor parts the elements of a roll.

`Roll.Parted l before behind` says which elements are before the cursor and which are not.  The
cursor is at the first of those behind, and if there are none, at the last of all.  So an element
that is taken out at the cursor is the first of those behind, and what is left is parted in the
same place (`Parted.without`); once nothing is left behind, it is the last of those before
(`Parted.last`).

Besides that, taking out elements one by one changes little (`Roll.Worn`): no slot goes, and the
generation counts the elements that went.
-/
import TextRoll.Proofs.Roll.Change

namespace TextRoll

namespace Roll

variable {α : Type} {l l' l'' : Roll α} {before behind : List α} {a : α} {n n' : Nat}

/-! ### Before the cursor and behind it -/

/-- Some elements are before the cursor and the others are not.  The cursor is at the first of the
others, or else at the last element. -/
structure Parted (l : Roll α) (before behind : List α) : Prop where
  elements_eq : l.elements = before ++ behind
  cursor_eq : l.cursor = min before.length ((before ++ behind).length - 1)

/-- Every roll is parted by its cursor. -/
theorem WellFormed.parted (h : l.WellFormed) :
    l.Parted (l.elements.take l.cursor) (l.elements.drop l.cursor) where
  elements_eq := (List.take_append_drop _ _).symm
  cursor_eq := by
    have hlength := h.length_elements
    have hlt := h.cursor_lt
    have hzero := h.cursor_eq_zero
    rw [List.take_append_drop, List.length_take]
    omega

/-- A rewound roll has all its elements behind the cursor. -/
theorem parted_rewind (l : Roll α) : l.rewind.Parted [] l.elements := ⟨rfl, (Nat.zero_min _).symm⟩

namespace Parted

theorem cursor_eq_length (h : l.Parted before (a :: behind)) : l.cursor = before.length := by
  rw [h.cursor_eq, List.length_append, List.length_cons]
  omega

/-- The current element is the first of those behind. -/
theorem current_eq (h : l.Parted before (a :: behind)) : l.elements[l.cursor]? = some a := by
  rw [h.elements_eq, h.cursor_eq_length]
  simp

/-- Whether the last element is the only one behind the cursor or the last one before it makes no
difference. -/
theorem last_iff : l.Parted before [a] ↔ l.Parted (before ++ [a]) [] := by
  constructor
  · rintro ⟨helements, hcursor⟩
    exact ⟨by rw [helements, List.append_nil], by rw [hcursor]; simp⟩
  · rintro ⟨helements, hcursor⟩
    exact ⟨by rw [helements, List.append_nil], by rw [hcursor]; simp⟩

/-- **Taking out the current element** leaves the others where they are, before the cursor or
behind it. -/
theorem without (h : l.Parted before (a :: behind)) (hl : l.WellFormed) :
    (l.without l.cursor).Parted before behind := by
  have hcursor := h.cursor_eq_length
  have hlength : l.length = before.length + (behind.length + 1) := by
    rw [← hl.length_elements, h.elements_eq, List.length_append, List.length_cons]
  have hi : l.cursor < l.elements.length := by
    rw [hl.length_elements]
    omega
  constructor
  · rw [(hl.layout.without hi).elements_eq, h.elements_eq, hcursor,
      List.eraseIdx_append_of_length_le (Nat.le_refl _), Nat.sub_self]
    rfl
  · -- without elements behind it the cursor falls back to the last one
    show cursorAfterRemoval _ _ _ = _
    rw [hcursor, hlength, List.length_append]
    unfold cursorAfterRemoval
    dsimp only
    split <;> split <;> omega

/-- Going on past an element that is not the last. -/
theorem moveTo (h : l.Parted before (a :: behind)) (hbehind : behind ≠ []) :
    (l.moveTo (l.cursor + 1)).Parted (before ++ [a]) behind := by
  have hmore : 0 < behind.length := List.length_pos_iff.mpr hbehind
  constructor
  · rw [List.append_assoc]
    exact h.elements_eq
  · show l.cursor + 1 = _
    simp only [h.cursor_eq_length, List.length_append, List.length_cons, List.length_nil]
    omega

end Parted

/-- The roll goes on from an element just when that is not the last. -/
theorem WellFormed.advance_eq (hl : l.WellFormed) (h : l.Parted before (a :: behind)) :
    l.advance = if behind = [] then (false, l) else (true, l.moveTo (l.cursor + 1)) := by
  have hcursor := h.cursor_eq_length
  have hlength : l.length = before.length + (behind.length + 1) := by
    rw [← hl.length_elements, h.elements_eq, List.length_append, List.length_cons]
  cases behind with
  | nil => exact if_neg (by rw [hcursor, hlength]; simp)
  | cons b behind => exact if_pos (by rw [hcursor, hlength, List.length_cons]; omega)

/-! ### Taking out one by one -/

/-- The roll has lost so many elements, one after the other, and its cursor may have moved. -/
structure Worn (n : Nat) (l l' : Roll α) : Prop where
  capacity_eq : l'.capacity = l.capacity
  generation_eq : l'.generation = l.generation + n
  reallocations_eq : l'.reallocations = l.reallocations
  policy_eq : l'.policy = l.policy

theorem Worn.refl (l : Roll α) : l.Worn 0 l := ⟨rfl, rfl, rfl, rfl⟩

theorem Worn.trans (h : Worn n l l') (h' : Worn n' l' l'') : Worn (n + n') l l'' where
  capacity_eq := h'.capacity_eq.trans h.capacity_eq
  generation_eq := by rw [h'.generation_eq, h.generation_eq, Nat.add_assoc]
  reallocations_eq := h'.reallocations_eq.trans h.reallocations_eq
  policy_eq := h'.policy_eq.trans h.policy_eq

theorem worn_moveTo (l : Roll α) (i : Nat) : l.Worn 0 (l.moveTo i) := ⟨rfl, rfl, rfl, rfl⟩

theorem WellFormed.worn_without (h : l.WellFormed) {i : Nat} (hi : i < l.length) :
    l.Worn 1 (l.without i) := ⟨h.capacity_without hi, rfl, rfl, rfl⟩

/-- A roll that still has all its elements is as it was, but for the cursor. -/
theorem WellFormed.eq_of_worn (hl : l.WellFormed) (hl' : l'.WellFormed) (h : l.Worn 0 l')
    (helements : l'.elements = l.elements) :
    l' = { l with
      cursor := l'.cursor, cursorOrigin := l'.cursorOrigin, moves := l'.moves } := by
  have hlength : l'.length = l.length := by
    rw [← hl.length_elements, ← hl'.length_elements, helements]
  have hslots : l'.slots = l.slots := by
    rw [hl'.layout.slots_eq, hl.layout.slots_eq, helements, h.capacity_eq, hlength]
  have hgeneration := h.generation_eq
  have hreallocations := h.reallocations_eq
  have hpolicy := h.policy_eq
  cases l
  cases l'
  simp_all

end Roll

end TextRoll
