/-
TextRoll/Proofs/Act/Keeping.lean

Keeping answers.

An answer that is kept gets a name: copies get places of their own among the buffers, and a
new roll gets one among the rolls.  Nothing else happens (`occurs_adopt`).  So copies
are kept at new places (`adopt_copies`), and what is at a new place is no element of any roll
(`loose_of_new`).
-/
import TextRoll.Proofs.Act.Answering
import TextRoll.Proofs.World.Owned

namespace TextRoll

/-- The value is a buffer, or a list of buffers. -/
def Value.NamesBuffers (v : Value) (bs : List BufferId) : Prop :=
  (∃ b, v = .buffer b ∧ bs = [b]) ∨ ∃ mark, v = .list mark (bs.map .buffer)

namespace World

variable {w w' : World} {b : BufferId}

/-! ### Keeping an answer -/

/-- Keeping items gives copies places of their own, and nothing else happens. -/
theorem occurs_adoptItems (xs : List Item) (w : World) :
    w.KeepsTexts (w.adoptItems xs).2 ∧ (w.adoptItems xs).2.rolls = w.rolls := by
  induction xs generalizing w with
  | nil => exact ⟨.refl w, rfl⟩
  | cons x xs ih =>
    have hitem : w.KeepsTexts (w.adoptItem x).2 ∧ (w.adoptItem x).2.rolls = w.rolls := by
      cases x with
      | value v => exact ⟨keepsTexts_of_buffers_eq rfl, rfl⟩
      | copy text => exact ⟨w.keepsTexts_addBuffer _, rfl⟩
    have hrest := ih (w.adoptItem x).2
    exact ⟨hitem.1.trans hrest.1, hrest.2.trans hitem.2⟩

/-- **Keeping an answer** at most makes a roll that is unused. -/
theorem occurs_adopt {answer : Answer} (h : answer.MakesUnused) (asked : Value) (w : World) :
    ∃ e, (e = .still ∨ e = .created) ∧ w.Occurs e (w.adopt asked answer).2 := by
  cases answer with
  | itself => exact ⟨.still, .inl rfl, .still rfl (.refl w)⟩
  | item x =>
    obtain ⟨htexts, hrolls⟩ := occurs_adoptItems [x] w
    exact ⟨.still, .inl rfl, .still hrolls htexts⟩
  | items xs =>
    obtain ⟨htexts, hrolls⟩ := occurs_adoptItems xs w
    exact ⟨.still, .inl rfl, .still hrolls (htexts.trans (keepsTexts_of_buffers_eq rfl))⟩
  | draft d =>
    cases d with
    | roll l => exact ⟨.created, .inr rfl, .created (h l rfl) rfl (keepsTexts_of_buffers_eq rfl)⟩
    | guardedRoll l =>
      exact ⟨.created, .inr rfl, .created (h l rfl) rfl (keepsTexts_of_buffers_eq rfl)⟩
    | tally start => exact ⟨.still, .inl rfl, Act.occurs_of_same rfl rfl⟩
    | walk k => exact ⟨.still, .inl rfl, Act.occurs_of_same rfl rfl⟩

/-! ### Copies -/

/-- A buffer that has just got its place is no element. -/
theorem loose_of_new (hw : w.Owned) (hrolls : w'.rolls = w.rolls)
    (hle : w.buffers.size ≤ b.index) (hlt : b.index < w'.buffers.size) : w'.Loose b := by
  refine ⟨hlt, fun r hmem => ?_⟩
  rw [elements_of_roll_eq (roll_of_rolls_eq hrolls r)] at hmem
  have := hw.issued r b hmem
  omega

theorem adoptItems_copies (texts : List Text) (w : World) :
    ∃ bs : List BufferId, (w.adoptItems (texts.map .copy)).1 = bs.map .buffer ∧
      ∀ b ∈ bs, w.buffers.size ≤ b.index ∧
        b.index < (w.adoptItems (texts.map .copy)).2.buffers.size := by
  induction texts generalizing w with
  | nil => exact ⟨[], rfl, nofun⟩
  | cons text texts ih =>
    obtain ⟨bs, hbs, hnew⟩ := ih (w.addBuffer (Buffer.ofText text))
    have hsize : (w.addBuffer (Buffer.ofText text)).buffers.size = w.buffers.size + 1 :=
      w.buffers.size_issue _
    obtain ⟨hkeeps, -⟩ := occurs_adoptItems (texts.map .copy) (w.addBuffer (Buffer.ofText text))
    have hgrows := hkeeps.size_le
    refine ⟨w.freeBuffer :: bs, congrArg (Value.buffer w.freeBuffer :: ·) hbs, fun b hb => ?_⟩
    show w.buffers.size ≤ b.index ∧ b.index
      < ((w.addBuffer (Buffer.ofText text)).adoptItems (texts.map .copy)).2.buffers.size
    rcases List.mem_cons.mp hb with rfl | hb
    · have hplace : w.freeBuffer.index = w.buffers.size := rfl
      omega
    · have := hnew b hb
      omega

/-- **Copies are kept at new places.** -/
theorem adopt_copies {answer : Answer} (h : answer.IsCopies) (asked : Value) (w : World) :
    (w.adopt asked answer).2.rolls = w.rolls ∧
      ∃ bs, (w.adopt asked answer).1.NamesBuffers bs ∧
        ∀ b ∈ bs, w.buffers.size ≤ b.index ∧ b.index < (w.adopt asked answer).2.buffers.size := by
  rcases h with ⟨text, rfl⟩ | ⟨texts, rfl⟩
  · refine ⟨rfl, [w.freeBuffer], .inl ⟨_, rfl, rfl⟩, fun b hb => ?_⟩
    rw [List.mem_singleton.mp hb]
    refine ⟨Nat.le_refl _, ?_⟩
    show w.buffers.size < (w.buffers.issue _).size
    rw [Arena.size_issue]
    exact Nat.lt_succ_self _
  · obtain ⟨bs, hbs, hnew⟩ := adoptItems_copies texts w
    refine ⟨(occurs_adoptItems _ w).2, bs,
      .inr ⟨.kept (w.adoptItems (texts.map .copy)).2.serial, ?_⟩, hnew⟩
    show Value.markedAs _ (.list .fresh (w.adoptItems (texts.map .copy)).1) = _
    rw [hbs]
    rfl

end World

end TextRoll
