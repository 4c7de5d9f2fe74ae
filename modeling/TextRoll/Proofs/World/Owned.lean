/-
TextRoll/Proofs/World/Owned.lean

Every element of a roll is an element once.

`World.Owned` is the invariant about buffers as elements: every roll is well-formed, every
element has a place, no buffer is an element twice, neither of one roll nor of two rolls.
It is kept because an event takes elements from a roll or adds one buffer that had no place
before, and never both.  For the same reason

* a buffer that has a place and is no element will never be one (`Passes.loose`), and
* an edit shows in the one slot that stores the buffer, if there is one
  (`texts_edited_self` and `texts_edited_other`).
-/
import Mathlib.Data.List.Nodup
import TextRoll.Proofs.World.Event

namespace TextRoll

namespace Roll

variable {α : Type} {l l' : Roll α} {loss : Loss} {added : List α}

/-- A change adds at most one element, and then it loses none. -/
theorem Change.added_cases (h : Change l loss added l') :
    added = [] ∨ loss = .nothing ∧ ∃ a, added = [a] := by
  cases h with
  | moved | reserved | taken | cleared => exact .inl rfl
  | @appended a => exact .inr ⟨rfl, a, rfl⟩

/-- What is left is what was there, in the same order. -/
theorem Loss.rest_sublist (loss : Loss) (as : List α) : (loss.rest as).Sublist as := by
  cases loss with
  | nothing => exact .refl _
  | element i => exact as.eraseIdx_sublist i
  | everything => exact List.nil_sublist _

/-- Where no element occurs twice, the one that is taken out is gone. -/
theorem Loss.not_mem_rest {as : List α} (h : as.Nodup) {i : Nat} (hi : i < as.length) :
    as[i] ∉ (Loss.element i).rest as := by
  intro hmem
  obtain ⟨j, hne, hj⟩ := List.mem_eraseIdx_iff_getElem?.mp hmem
  obtain ⟨hlt, hget⟩ := List.getElem?_eq_some_iff.mp hj
  exact hne ((List.Nodup.getElem_inj_iff h).mp hget)

theorem Loss.map_rest {β : Type} (loss : Loss) (as : List α) (f : α → β) :
    (loss.rest as).map f = loss.rest (as.map f) := by
  cases loss with
  | nothing => rfl
  | element i => exact (List.eraseIdx_map f as i).symm
  | everything => rfl

end Roll

namespace World

variable {w w' w'' : World} {e : Event} {es es' : List Event} {r : RollId} {b : BufferId}

/-- Every roll is well-formed, and every element has a place and is an element once. -/
structure Owned (w : World) : Prop where
  wellFormed : w.WellFormed
  issued : ∀ r, ∀ b ∈ w.elements r, b.index < w.buffers.size
  nodup : ∀ r, (w.elements r).Nodup
  apart : ∀ r r' b, b ∈ w.elements r → b ∈ w.elements r' → r = r'

/-- A buffer that has a place and is an element of no roll. -/
structure Loose (w : World) (b : BufferId) : Prop where
  issued : b.index < w.buffers.size
  not_mem : ∀ r, b ∉ w.elements r

/-! ### What an event does to the elements -/

theorem elements_of_roll_eq (h : w'.roll r = w.roll r) : w'.elements r = w.elements r := by
  unfold elements
  rw [h]

theorem elements_of_unused (h : (w.roll r).Unused) : w.elements r = [] :=
  List.eq_nil_of_length_eq_zero (h.wellFormed.layout.length_eq ▸ h.length_eq)

theorem Occurs.size_le (h : w.Occurs e w') : w.buffers.size ≤ w'.buffers.size := by
  cases h with
  | still _ htexts => exact htexts.size_le
  | edited _ hsize => exact hsize
  | changed _ _ htexts => exact htexts.size_le
  | created _ _ htexts => exact htexts.size_le

/-- Either no roll has an element that it did not have, or one buffer that had no place before
was added to one roll. -/
theorem Occurs.elements_cases (h : w.Occurs e w') (hw : w.WellFormed) :
    (∀ r, (w'.elements r).Sublist (w.elements r)) ∨
      ∃ r b, w.buffers.size ≤ b.index ∧ b.index < w'.buffers.size ∧
        w'.elements r = w.elements r ++ [b] ∧ ∀ r', r' ≠ r → w'.elements r' = w.elements r' := by
  by_cases hadds : ∃ r b, e = .changed r .nothing [w'.text b] ∧
      (w.roll r).Change .nothing [b] (w'.roll r) ∧
      w.buffers.size ≤ b.index ∧ b.index < w'.buffers.size
  · obtain ⟨r, b, rfl, hchange, hle, hlt⟩ := hadds
    refine .inr ⟨r, b, hle, hlt, hchange.elements_eq (hw r), fun r' hr' => ?_⟩
    rcases h.roll_cases r' with ⟨hsame, -⟩ | ⟨loss, bs, heq, -⟩ | ⟨heq, -⟩
    · exact elements_of_roll_eq hsame
    · injection heq with hr
      exact absurd hr.symm hr'
    · cases heq
  · refine .inl fun r => ?_
    rcases h.roll_cases r with ⟨hsame, -⟩ | ⟨loss, bs, heq, hchange, hnew⟩ | ⟨-, -, hunused⟩
    · rw [elements_of_roll_eq hsame]
    · -- a change adds nothing, or one element and takes nothing
      rcases hchange.added_cases with rfl | ⟨rfl, b, rfl⟩
      · have hrest := hchange.elements_eq (hw r)
        rw [List.append_nil] at hrest
        show (w'.roll r).elements.Sublist _
        rw [hrest]
        exact loss.rest_sublist _
      · exact absurd ⟨r, b, heq, hchange, hnew b (by simp)⟩ hadds
    · rw [elements_of_unused hunused]
      exact List.nil_sublist _

/-- **Events keep the elements apart.** -/
theorem Occurs.owned (h : w.Occurs e w') (hw : w.Owned) : w'.Owned := by
  have hsize := h.size_le
  refine ⟨h.wellFormed hw.wellFormed, ?_, ?_, ?_⟩
  all_goals rcases h.elements_cases hw.wellFormed with hsub | ⟨r₀, b₀, hle, hlt, hadd, hothers⟩
  · exact fun r b hb => Nat.lt_of_lt_of_le (hw.issued r b ((hsub r).mem hb)) hsize
  · intro r b hb
    by_cases hr : r = r₀
    · subst hr
      rw [hadd, List.mem_append, List.mem_singleton] at hb
      rcases hb with hb | rfl
      · exact Nat.lt_of_lt_of_le (hw.issued r b hb) hsize
      · exact hlt
    · rw [hothers r hr] at hb
      exact Nat.lt_of_lt_of_le (hw.issued r b hb) hsize
  · exact fun r => (hw.nodup r).sublist (hsub r)
  · intro r
    by_cases hr : r = r₀
    · subst hr
      rw [hadd]
      -- an element had its place before, and the added buffer had none
      refine List.nodup_append.mpr ⟨hw.nodup r, List.nodup_singleton b₀, fun b hb b' hb' heq => ?_⟩
      rw [List.mem_singleton] at hb'
      have := hw.issued r b hb
      rw [heq, hb'] at this
      omega
    · rw [hothers r hr]
      exact hw.nodup r
  · exact fun r r' b hb hb' => hw.apart r r' b ((hsub r).mem hb) ((hsub r').mem hb')
  · -- the added buffer had no place, so it was an element of no roll
    have hold : ∀ r b, b ∈ w'.elements r → b ∈ w.elements r ∨ r = r₀ ∧ b = b₀ := by
      intro r b hb
      by_cases hr : r = r₀
      · subst hr
        rw [hadd, List.mem_append, List.mem_singleton] at hb
        exact hb.imp id fun hb => ⟨rfl, hb⟩
      · exact .inl (hothers r hr ▸ hb)
    intro r r' b hb hb'
    rcases hold r b hb with hb | ⟨rfl, rfl⟩ <;> rcases hold r' b hb' with hb' | ⟨rfl, hb'⟩
    · exact hw.apart r r' b hb hb'
    · have := hw.issued r b hb
      rw [hb'] at this
      omega
    · have := hw.issued r' b hb'
      omega
    · rfl

/-- **What is no element never becomes one.** -/
theorem Occurs.loose (h : w.Occurs e w') (hw : w.WellFormed) (hb : w.Loose b) : w'.Loose b := by
  refine ⟨Nat.lt_of_lt_of_le hb.issued h.size_le, fun r hmem => ?_⟩
  rcases h.elements_cases hw with hsub | ⟨r₀, b₀, hle, -, hadd, hothers⟩
  · exact hb.not_mem r ((hsub r).mem hmem)
  · by_cases hr : r = r₀
    · subst hr
      rw [hadd, List.mem_append, List.mem_singleton] at hmem
      rcases hmem with hmem | rfl
      · exact hb.not_mem r hmem
      · have := hb.issued
        omega
    · exact hb.not_mem r (hothers r hr ▸ hmem)

/-- What is taken out or cleared away is no element of any roll any more. -/
theorem Occurs.loose_of_lost (h : w.Occurs e w') (hw : w.Owned) (hb : b ∈ w.elements r)
    (hlost : b ∉ w'.elements r) : w'.Loose b := by
  refine ⟨Nat.lt_of_lt_of_le (hw.issued r b hb) h.size_le, fun r' hmem => ?_⟩
  rcases h.elements_cases hw.wellFormed with hsub | ⟨r₀, b₀, hle, -, hadd, hothers⟩
  · have hr : r' = r := hw.apart r' r b ((hsub r').mem hmem) hb
    exact hlost (hr ▸ hmem)
  · -- an event that adds an element takes none
    refine hlost ?_
    by_cases hr : r = r₀
    · subst hr
      rw [hadd]
      exact List.mem_append_left _ hb
    · exact hothers r hr ▸ hb

/-- The elements of a roll that loses one are the others, in the same order. -/
theorem Occurs.elements_of_loss (h : w.Occurs e w') (hw : w.WellFormed)
    (hloss : e.lossOn r ≠ .nothing) : w'.elements r = (e.lossOn r).rest (w.elements r) := by
  rcases h.roll_cases r with ⟨-, hne⟩ | ⟨loss, bs, rfl, hchange, -⟩ | ⟨rfl, -, -⟩
  · exact absurd (Event.lossOn_of_ne hne) hloss
  · rw [Event.lossOn_changed] at hloss ⊢
    rcases hchange.added_cases with rfl | ⟨rfl, -⟩
    · exact (hchange.elements_eq (hw r)).trans (List.append_nil _)
    · exact absurd rfl hloss
  · exact absurd rfl hloss

/-! ### Editing one buffer -/

/-- An edit of a buffer that is no element of a roll does not show in it. -/
theorem texts_edited_other (hrolls : w'.rolls = w.rolls)
    (hothers : ∀ b' ∈ w.elements r, b' ≠ b → w'.text b' = w.text b') (hb : b ∉ w.elements r) :
    w'.texts r = w.texts r := by
  unfold texts
  rw [elements_of_roll_eq (roll_of_rolls_eq hrolls r)]
  refine List.map_congr_left fun b' hb' => hothers b' hb' ?_
  rintro rfl
  exact hb hb'

/-- An edit of an element shows in its slot and nowhere else. -/
theorem texts_edited_self (hrolls : w'.rolls = w.rolls)
    (hothers : ∀ b' ∈ w.elements r, b' ≠ b → w'.text b' = w.text b') (hw : w.Owned) {i : Nat}
    (hi : (w.elements r)[i]? = some b) : w'.texts r = (w.texts r).set i (w'.text b) := by
  obtain ⟨hlt, hget⟩ := List.getElem?_eq_some_iff.mp hi
  unfold texts
  rw [elements_of_roll_eq (roll_of_rolls_eq hrolls r)]
  apply List.ext_getElem
  · simp
  · intro j hj hj'
    rw [List.getElem_set, List.getElem_map]
    split
    · next hij =>
      subst hij
      rw [hget]
    · next hij =>
      rw [List.getElem_map]
      refine hothers _ (List.getElem_mem _) fun heq => hij ?_
      exact (List.Nodup.getElem_inj_iff (hw.nodup r)).mp (hget.trans heq.symm)

/-! ### Runs of events -/

/-- Some events occur one after the other. -/
inductive Passes : World → List Event → World → Prop
  | nil (w : World) : Passes w [] w
  | cons {w w' w'' : World} {e : Event} {es : List Event} (h : w.Occurs e w')
      (hrest : Passes w' es w'') : Passes w (e :: es) w''

namespace Passes

theorem single (h : w.Occurs e w') : w.Passes [e] w' := .cons h (.nil w')

theorem append (h : w.Passes es w') (h' : w'.Passes es' w'') : w.Passes (es ++ es') w'' := by
  induction h with
  | nil => exact h'
  | cons hoccurs hrest ih => exact .cons hoccurs (ih h')

theorem owned (h : w.Passes es w') (hw : w.Owned) : w'.Owned := by
  induction h with
  | nil => exact hw
  | cons hoccurs hrest ih => exact ih (hoccurs.owned hw)

/-- **A buffer that has a place and is no element is no element ever after.** -/
theorem loose (h : w.Passes es w') (hw : w.WellFormed) (hb : w.Loose b) : w'.Loose b := by
  induction h with
  | nil => exact hb
  | cons hoccurs hrest ih => exact ih (hoccurs.wellFormed hw) (hoccurs.loose hw hb)

/-- An element is an element of the same roll or of none for good. -/
theorem mem_or_loose (h : w.Passes es w') (hw : w.Owned) (hb : b ∈ w.elements r) :
    b ∈ w'.elements r ∨ w'.Loose b := by
  induction h with
  | nil => exact .inl hb
  | @cons w w₁ w' e es hoccurs hrest ih =>
    by_cases hb₁ : b ∈ w₁.elements r
    · exact ih (hoccurs.owned hw) hb₁
    · exact .inr (hrest.loose (hoccurs.wellFormed hw.wellFormed) (hoccurs.loose_of_lost hw hb hb₁))

end Passes

/-- Before anything has happened there are no elements. -/
theorem owned_initial : initial.Owned := by
  have hunused : ∀ r, (initial.roll r).Unused := fun r => unused_of_size_le (Nat.zero_le _)
  have hnone : ∀ r, initial.elements r = [] := fun r => elements_of_unused (hunused r)
  refine ⟨fun r => (hunused r).wellFormed, fun r b hb => ?_, fun r => ?_, fun r r' b hb => ?_⟩
  · rw [hnone] at hb
    cases hb
  · rw [hnone]
    exact List.nodup_nil
  · rw [hnone] at hb
    cases hb

end World

end TextRoll
