/-
TextRoll/Proofs/World/Event.lean

What can happen to the rolls and the texts of a world.

However many verbs there are, to rolls and texts only four things ever happen: nothing, one
buffer is edited, one roll changes, one roll is made.  `World.Occurs` says what each of
these `Event`s leaves as it was and what it does not:

* buffers that have a place keep their texts, apart from the one that is edited;
* rolls stay as they are, apart from the one that changes or is made;
* what is added to a roll is a buffer that had no place before.

What an event means for a single roll is `Occurs.fate`: the roll keeps all its elements
where they are, or it loses some and its generation moves on, or it is new.
-/
import TextRoll.Proofs.World.Undisturbed

namespace TextRoll

/-- What is done to the text of a buffer. -/
inductive Edit
  | added (s : String)
  | dropped
deriving DecidableEq, Repr

/-- The text after an edit. -/
def Edit.apply : Edit → String → String
  | added s, text => text ++ s
  | dropped, _ => ""

/-- What happens to the rolls and the texts of a world in one step. -/
inductive Event
  /-- Nothing that a roll or a text shows. -/
  | still
  /-- One buffer was edited. -/
  | edited (b : BufferId) (edit : Edit)
  /-- One roll changed: some elements were lost, and new ones with these texts were added. -/
  | changed (r : RollId) (loss : Roll.Loss) (added : List String)
  /-- A roll was made. -/
  | created

/-- What an event takes from a roll. -/
def Event.lossOn (r : RollId) : Event → Roll.Loss
  | changed r' loss _ => if r' = r then loss else .nothing
  | still | edited .. | created => .nothing

namespace Event

variable {r : RollId}

@[simp] theorem lossOn_changed (r : RollId) (loss : Roll.Loss) (added : List String) :
    (changed r loss added).lossOn r = loss := if_pos rfl

theorem lossOn_of_ne {e : Event} (h : ∀ loss added, e ≠ .changed r loss added) :
    e.lossOn r = .nothing := by
  cases e with
  | changed r' loss added => exact if_neg fun hr : r' = r => h loss added (hr ▸ rfl)
  | still | edited | created => rfl

end Event

namespace Roll

variable {α : Type}

/-- A roll that was just made: without elements, and nothing was counted yet. -/
structure Unused (l : Roll α) : Prop where
  wellFormed : l.WellFormed
  length_eq : l.length = 0
  shownCursor_eq : l.shownCursor = .numeral 0
  generation_eq : l.generation = 0
  reallocations_eq : l.reallocations = 0

/-- A roll that was never made has no slots. -/
theorem unused_default : Unused (default : Roll α) where
  wellFormed :=
    { length_le := Nat.le_refl _
      allowed := ⟨nofun, (by decide : 0 < unaffordableSlots)⟩
      occupied := nofun
      vacant := nofun
      cursor_lt := nofun
      cursor_eq_zero := fun _ => rfl }
  length_eq := rfl
  shownCursor_eq := rfl
  generation_eq := rfl
  reallocations_eq := rfl

theorem unused_of_ofSlots {p : Policy} {slots : Whole} {l : Roll α}
    (h : ofSlots p slots = .ok l) : l.Unused := by
  unfold ofSlots at h
  cases hgrant : p.grant 0 slots with
  | error fault => rw [hgrant] at h; cases h
  | ok u =>
    rw [hgrant] at h
    cases h
    have hlay : Layout (⟨List.replicate slots.toNat none, 0, 0, .counted, 0, 0, 0, p⟩ : Roll α) []
        slots.toNat := ⟨rfl, rfl⟩
    refine ⟨hlay.wellFormed ?_ (.inr rfl), rfl, rfl, rfl, rfl⟩
    rw [hlay.capacity_eq, List.length_nil, Nat.zero_add]
    exact Policy.allows_of_grant hgrant

/-- However its capacity is chosen, a new roll is unused. -/
theorem unused_of_create {p : Policy} {capacity : Option Whole} {l : Roll α}
    (h : create p capacity = .ok l) : l.Unused := by
  unfold create at h
  split at h
  · split at h
    · cases h
    · exact unused_of_ofSlots h
  · exact unused_of_ofSlots h

end Roll

namespace World

variable {w w' w'' : World}

/-! ### Buffers keep their texts -/

/-- Buffers that have a place keep it, and their texts. -/
structure KeepsTexts (w w' : World) : Prop where
  size_le : w.buffers.size ≤ w'.buffers.size
  text_eq : ∀ b : BufferId, b.index < w.buffers.size → w'.text b = w.text b

theorem KeepsTexts.refl (w : World) : w.KeepsTexts w := ⟨Nat.le_refl _, fun _ _ => rfl⟩

theorem KeepsTexts.trans (h : w.KeepsTexts w') (h' : w'.KeepsTexts w'') : w.KeepsTexts w'' where
  size_le := Nat.le_trans h.size_le h'.size_le
  text_eq b hb := (h'.text_eq b (Nat.lt_of_lt_of_le hb h.size_le)).trans (h.text_eq b hb)

theorem Undisturbed.keepsTexts (h : w.Undisturbed w') : w.KeepsTexts w' :=
  ⟨h.size_le, fun b _ => h.text_eq b⟩

/-- Only what buffers there are, and what is in them, matters. -/
theorem keepsTexts_of_buffers_eq (h : w'.buffers = w.buffers) : w.KeepsTexts w' := by
  refine ⟨Nat.le_of_eq (by rw [h]), fun b _ => ?_⟩
  unfold text buffer
  rw [h]

theorem keepsTexts_addBuffer (w : World) (x : Buffer) : w.KeepsTexts (w.addBuffer x) where
  size_le := by
    show _ ≤ (w.buffers.issue x).size
    rw [Arena.size_issue]
    exact Nat.le_succ _
  text_eq b hb := by
    show ((w.buffers.issue x).get b.index).text = (w.buffers.get b.index).text
    rw [Arena.get_issue_of_ne _ _ (Nat.ne_of_lt hb)]

/-- The text of a buffer that has just got its place. -/
theorem text_of_issue {x : Buffer} (h : w'.buffers = w.buffers.issue x) :
    w'.text w.freeBuffer = x.text := by
  unfold text buffer
  rw [h]
  exact congrArg Buffer.text (w.buffers.get_issue_self x)

/-! ### Events -/

/-- What an event leaves as it was, and what it does not. -/
inductive Occurs (w : World) : Event → World → Prop
  | still {w' : World} (hrolls : w'.rolls = w.rolls) (htexts : w.KeepsTexts w') :
      Occurs w .still w'
  | edited {w' : World} {b : BufferId} {edit : Edit} (hrolls : w'.rolls = w.rolls)
      (hsize : w.buffers.size ≤ w'.buffers.size)
      (hself : w'.text b = edit.apply (w.text b))
      (hothers : ∀ b', b' ≠ b → w'.text b' = w.text b') :
      Occurs w (.edited b edit) w'
  | changed {w' : World} {r : RollId} {loss : Roll.Loss} {bs : List BufferId}
      {l : Roll BufferId} (hchange : (w.roll r).Change loss bs l)
      (hrolls : w'.rolls = w.rolls.put r.index l) (htexts : w.KeepsTexts w')
      (hnew : ∀ b ∈ bs, w.buffers.size ≤ b.index ∧ b.index < w'.buffers.size) :
      Occurs w (.changed r loss (bs.map w'.text)) w'
  | created {w' : World} {l : Roll BufferId} (hunused : l.Unused)
      (hrolls : w'.rolls = w.rolls.issue l) (htexts : w.KeepsTexts w') :
      Occurs w .created w'

/-- Reading is no event. -/
theorem Undisturbed.occurs (h : w.Undisturbed w') : w.Occurs .still w' :=
  .still h.rolls_eq h.keepsTexts

/-- What occurs after reading occurs as if nothing had been read. -/
theorem Undisturbed.occurs_of {e : Event} (hu : w.Undisturbed w') (h : w'.Occurs e w'') :
    w.Occurs e w'' := by
  cases h with
  | still hrolls htexts => exact .still (hrolls.trans hu.rolls_eq) (hu.keepsTexts.trans htexts)
  | @edited _ b edit hrolls hsize hself hothers =>
    refine .edited (hrolls.trans hu.rolls_eq) (Nat.le_trans hu.size_le hsize) ?_ fun b' hb' => ?_
    · rw [hself, hu.text_eq]
    · rw [hothers b' hb', hu.text_eq]
  | @changed _ r loss bs l hchange hrolls htexts hnew =>
    refine .changed (hu.roll_eq r ▸ hchange) (hu.rolls_eq ▸ hrolls) (hu.keepsTexts.trans htexts)
      fun b hb => ⟨Nat.le_trans hu.size_le (hnew b hb).1, (hnew b hb).2⟩
  | created hunused hrolls htexts =>
    exact .created hunused (hu.rolls_eq ▸ hrolls) (hu.keepsTexts.trans htexts)

theorem roll_of_rolls_eq (h : w'.rolls = w.rolls) (r : RollId) : w'.roll r = w.roll r := by
  unfold roll
  rw [h]

@[simp] theorem roll_put_self {r : RollId} {l : Roll BufferId}
    (h : w'.rolls = w.rolls.put r.index l) : w'.roll r = l := by
  unfold roll
  rw [h, Arena.get_put_self]

theorem roll_put_of_ne {r r' : RollId} {l : Roll BufferId}
    (h : w'.rolls = w.rolls.put r.index l) (hne : r' ≠ r) : w'.roll r' = w.roll r' := by
  unfold roll
  rw [h, Arena.get_put_of_ne _ _ fun hindex => hne (congrArg RollId.mk hindex)]

theorem roll_issue_of_ne {r : RollId} {l : Roll BufferId} (h : w'.rolls = w.rolls.issue l)
    (hne : r.index ≠ w.rolls.size) : w'.roll r = w.roll r := by
  unfold roll
  rw [h, Arena.get_issue_of_ne _ _ hne]

theorem roll_issue_self {r : RollId} {l : Roll BufferId} (h : w'.rolls = w.rolls.issue l)
    (heq : r.index = w.rolls.size) : w'.roll r = l := by
  unfold roll
  rw [h, heq, Arena.get_issue_self]

/-- What was never made reads as a roll that was never used. -/
theorem unused_of_size_le {r : RollId} (h : w.rolls.size ≤ r.index) : (w.roll r).Unused := by
  unfold roll
  rw [Arena.get_of_size_le _ h]
  exact Roll.unused_default

/-- Rolls keep their places. -/
theorem Occurs.rolls_le {e : Event} (h : w.Occurs e w') : w.rolls.size ≤ w'.rolls.size := by
  cases h with
  | still hrolls => exact Nat.le_of_eq (congrArg Arena.size hrolls.symm)
  | edited hrolls => exact Nat.le_of_eq (congrArg Arena.size hrolls.symm)
  | changed hchange hrolls =>
    rw [hrolls, Arena.size_put_eq_max]
    exact Nat.le_max_left ..
  | created hunused hrolls =>
    rw [hrolls, Arena.size_issue]
    exact Nat.le_succ _

/-- What an event does to one roll: nothing, or the one change, or it makes it. -/
theorem Occurs.roll_cases {e : Event} (h : w.Occurs e w') (r : RollId) :
    (w'.roll r = w.roll r ∧ ∀ loss added, e ≠ .changed r loss added) ∨
      (∃ loss bs, e = .changed r loss (bs.map w'.text) ∧
        (w.roll r).Change loss bs (w'.roll r) ∧
        ∀ b ∈ bs, w.buffers.size ≤ b.index ∧ b.index < w'.buffers.size) ∨
      (e = .created ∧ (w.roll r).Unused ∧ (w'.roll r).Unused) := by
  cases h with
  | still hrolls => exact .inl ⟨roll_of_rolls_eq hrolls r, nofun⟩
  | edited hrolls => exact .inl ⟨roll_of_rolls_eq hrolls r, nofun⟩
  | @changed _ r' loss bs l hchange hrolls htexts hnew =>
    by_cases hr : r = r'
    · subst hr
      exact .inr (.inl ⟨loss, bs, rfl, roll_put_self hrolls ▸ hchange, hnew⟩)
    · refine .inl ⟨roll_put_of_ne hrolls hr, fun _ _ heq => ?_⟩
      injection heq with hr'
      exact hr hr'.symm
  | created hunused hrolls htexts =>
    by_cases hr : r.index = w.rolls.size
    · refine .inr (.inr ⟨rfl, unused_of_size_le (Nat.le_of_eq hr.symm), ?_⟩)
      rwa [roll_issue_self hrolls hr]
    · exact .inl ⟨roll_issue_of_ne hrolls hr, nofun⟩

/-- **What an event means for one roll.** It keeps its elements where they are, it loses some, or
it is new. -/
theorem Occurs.fate {e : Event} (h : w.Occurs e w') (hw : w.WellFormed) (r : RollId) :
    (e.lossOn r = .nothing ∧ (w.roll r).Retains (w'.roll r)) ∨
      (e.lossOn r ≠ .nothing ∧ (w.roll r).Sheds (w'.roll r)) ∨
      (e = .created ∧ (w.roll r).Unused ∧ (w'.roll r).Unused) := by
  rcases h.roll_cases r with ⟨hsame, hne⟩ | ⟨loss, bs, rfl, hchange, -⟩ | hcreated
  · refine .inl ⟨Event.lossOn_of_ne hne, ?_⟩
    rw [hsame]
    exact .refl _
  · rw [Event.lossOn_changed]
    by_cases hnothing : loss = .nothing
    · subst hnothing
      exact .inl ⟨rfl, hchange.retains (hw r)⟩
    · exact .inr (.inl ⟨hnothing, hchange.sheds (hw r) hnothing⟩)
  · exact .inr (.inr hcreated)

/-- **Events keep all rolls well-formed.** -/
theorem Occurs.wellFormed {e : Event} (h : w.Occurs e w') (hw : w.WellFormed) :
    w'.WellFormed := by
  intro r
  rcases h.roll_cases r with ⟨hsame, -⟩ | ⟨loss, bs, -, hchange, -⟩ | ⟨-, -, hunused⟩
  · exact hsame ▸ hw r
  · exact hchange.wellFormed (hw r)
  · exact hunused.wellFormed

end World

end TextRoll
