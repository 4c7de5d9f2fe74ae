/-
TextRoll/Arena.lean

Arenas: numbered cells for things that change while others point at them.

An arena is a total map with finitely many written cells.  A number that was
never issued reads as the default, and writing past the end fills the gap with
defaults, so that the two laws of a store need no side condition:

* what was written is read back (`get_put_self`);
* every other cell is left alone (`get_put_of_ne`).

`issue` hands out the next free number; it equals no number issued before.
-/

namespace TextRoll

/-- Cells numbered from zero. -/
structure Arena (α : Type) where
  /-- The cells written so far, in order of their numbers. -/
  cells : Array α

namespace Arena

variable {α : Type} [Inhabited α]

instance : Inhabited (Arena α) := ⟨⟨#[]⟩⟩

/-- How many numbers have been issued; also the next number to issue. -/
def size (a : Arena α) : Nat := a.cells.size

/-- The content of a cell. -/
def get (a : Arena α) (i : Nat) : α := a.cells.getD i default

/-- Replaces the content of a cell. -/
def put (a : Arena α) (i : Nat) (x : α) : Arena α :=
  if i < a.cells.size then ⟨a.cells.setIfInBounds i x⟩
  else ⟨(a.cells ++ Array.replicate (i - a.cells.size) default).push x⟩

/-- Puts a new content into the next free cell. -/
def issue (a : Arena α) (x : α) : Arena α := ⟨a.cells.push x⟩

/-! ### The laws of a store -/

@[simp] theorem get_put_self (a : Arena α) (i : Nat) (x : α) : (a.put i x).get i = x := by
  unfold put get
  split
  · simp_all
  · next h =>
    have hi : i = (a.cells ++ Array.replicate (i - a.cells.size) (default : α)).size := by
      simp; omega
    rw [Array.getD_eq_getD_getElem?, Array.getElem?_push, if_pos hi]
    rfl

theorem get_put_of_ne (a : Arena α) {i j : Nat} (x : α) (h : j ≠ i) :
    (a.put i x).get j = a.get j := by
  unfold put get
  simp only [Array.getD_eq_getD_getElem?]
  split
  · rw [Array.getElem?_setIfInBounds_ne (Ne.symm h)]
  · rw [Array.getElem?_push]
    split
    · next hj => simp at hj; omega
    · rw [Array.getElem?_append]
      split
      · rfl
      · next hlt =>
        have hnone : a.cells[j]? = none := by simp; omega
        rw [hnone, Array.getElem?_replicate]
        split <;> rfl

@[simp] theorem get_issue_self (a : Arena α) (x : α) : (a.issue x).get a.size = x := by
  simp [issue, get, size]

theorem get_issue_of_ne (a : Arena α) {j : Nat} (x : α) (h : j ≠ a.size) :
    (a.issue x).get j = a.get j := by
  unfold issue get size at *
  simp only [Array.getD_eq_getD_getElem?, Array.getElem?_push, if_neg h]

omit [Inhabited α] in
@[simp] theorem size_issue (a : Arena α) (x : α) : (a.issue x).size = a.size + 1 := by
  simp [issue, size]

theorem size_put (a : Arena α) {i : Nat} (x : α) (h : i < a.size) : (a.put i x).size = a.size := by
  unfold put size at *
  simp [h]

/-- Writing uses up no number but those up to the one that is written. -/
theorem size_put_eq_max (a : Arena α) (i : Nat) (x : α) :
    (a.put i x).size = max a.size (i + 1) := by
  unfold put size
  split
  · simp; omega
  · simp; omega

/-- A number that was never issued reads as the default. -/
theorem get_of_size_le (a : Arena α) {i : Nat} (h : a.size ≤ i) : a.get i = default := by
  unfold get size at *
  simp [h]

end Arena

end TextRoll
