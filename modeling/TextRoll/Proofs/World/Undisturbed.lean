/-
TextRoll/Proofs/World/Undisturbed.lean

Worlds that differ in nothing a reader could have changed.

Reading is not without effect: asking a buffer for its text joins its pieces, and asking
a walk for its next element moves the walk on.  `World.Undisturbed w w'` says that
nothing else has happened between `w` and `w'`: every roll, every tally, the
surroundings, the log and the serial numbers are the same, and every buffer has the same
text with the same mark.
-/
import TextRoll.Proofs.Roll.Change
import TextRoll.World

namespace TextRoll

namespace World

/-- Every roll is well-formed. -/
def WellFormed (w : World) : Prop := ∀ r, (w.roll r).WellFormed

/-- Only pieces of buffers were joined and walks were moved on. -/
structure Undisturbed (w w' : World) : Prop where
  rolls_eq : w'.rolls = w.rolls
  tallies_eq : w'.tallies = w.tallies
  ambient_eq : w'.ambient = w.ambient
  log_eq : w'.log = w.log
  serial_eq : w'.serial = w.serial
  built_eq : ∀ b, w'.built b = w.built b
  size_le : w.buffers.size ≤ w'.buffers.size

variable {w w' w'' : World}

namespace Undisturbed

theorem refl (w : World) : w.Undisturbed w := ⟨rfl, rfl, rfl, rfl, rfl, fun _ => rfl, Nat.le_refl _⟩

theorem trans (h : w.Undisturbed w') (h' : w'.Undisturbed w'') : w.Undisturbed w'' where
  rolls_eq := h'.rolls_eq.trans h.rolls_eq
  tallies_eq := h'.tallies_eq.trans h.tallies_eq
  ambient_eq := h'.ambient_eq.trans h.ambient_eq
  log_eq := h'.log_eq.trans h.log_eq
  serial_eq := h'.serial_eq.trans h.serial_eq
  built_eq b := (h'.built_eq b).trans (h.built_eq b)
  size_le := Nat.le_trans h.size_le h'.size_le

theorem text_eq (h : w.Undisturbed w') (b : BufferId) : w'.text b = w.text b :=
  congrArg Text.content (h.built_eq b)

theorem roll_eq (h : w.Undisturbed w') (r : RollId) : w'.roll r = w.roll r := by
  unfold roll
  rw [h.rolls_eq]

theorem elements_eq (h : w.Undisturbed w') (r : RollId) : w'.elements r = w.elements r := by
  unfold elements
  rw [h.roll_eq]

theorem texts_eq (h : w.Undisturbed w') (r : RollId) : w'.texts r = w.texts r := by
  unfold texts
  rw [h.elements_eq, funext h.text_eq]

theorem wellFormed (h : w.Undisturbed w') (hw : w.WellFormed) : w'.WellFormed :=
  fun r => h.roll_eq r ▸ hw r

end Undisturbed

/-! ### Writing one buffer -/

@[simp] theorem buffer_setBuffer_self (w : World) (b : BufferId) (x : Buffer) :
    (w.setBuffer b x).buffer b = x := w.buffers.get_put_self b.index x

theorem buffer_setBuffer_of_ne (w : World) {b b' : BufferId} (x : Buffer) (h : b' ≠ b) :
    (w.setBuffer b x).buffer b' = w.buffer b' :=
  w.buffers.get_put_of_ne x fun hindex => h (congrArg BufferId.mk hindex)

theorem size_le_setBuffer (w : World) (b : BufferId) (x : Buffer) :
    w.buffers.size ≤ (w.setBuffer b x).buffers.size := by
  show _ ≤ (w.buffers.put b.index x).size
  rw [Arena.size_put_eq_max]
  exact Nat.le_max_left ..

/-! ### Reading texts -/

/-- The world with a buffer collapsed. -/
def collapse (w : World) (b : BufferId) : World := w.setBuffer b (w.buffer b).collapse

/-- The world with some buffers collapsed, the first one first. -/
def collapseAll (w : World) (bs : List BufferId) : World := bs.foldl collapse w

theorem undisturbed_collapse (w : World) (b : BufferId) : w.Undisturbed (w.collapse b) where
  rolls_eq := rfl
  tallies_eq := rfl
  ambient_eq := rfl
  log_eq := rfl
  serial_eq := rfl
  built_eq b' := by
    unfold built collapse
    by_cases hb : b' = b
    · subst hb
      rw [buffer_setBuffer_self, Buffer.built_collapse]
    · rw [buffer_setBuffer_of_ne w _ hb]
  size_le := w.size_le_setBuffer b _

theorem undisturbed_collapseAll (w : World) (bs : List BufferId) :
    w.Undisturbed (w.collapseAll bs) := by
  induction bs generalizing w with
  | nil => exact .refl w
  | cons b bs ih => exact (w.undisturbed_collapse b).trans (ih (w.collapse b))

/-! ### Moving walks on -/

theorem undisturbed_setWalk (w : World) (k : WalkId) (x : Walk) :
    w.Undisturbed (w.setWalk k x) :=
  ⟨rfl, rfl, rfl, rfl, rfl, fun _ => rfl, Nat.le_refl _⟩

end World

end TextRoll
