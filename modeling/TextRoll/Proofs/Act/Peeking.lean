/-
TextRoll/Proofs/Act/Peeking.lean

Acts that do no more than look.

`Act.Peeks act` is stricter than `Act.Reads`: not even a walk is moved on, and all that may have
happened to the world is that pieces of buffers were joined (`World.Peeked`).  An act that peeks
can fail, but not for want of storage.

Following a bookmark peeks, and so does all that a roll, a guard or a bookmark can be asked
like any other value (`peeks_askGeneral`).  The checks that come before a change are no acts;
of them `Act.SparesStorage` says that they do not fail for want of storage.
-/
import TextRoll.Proofs.Act.Sparing
import TextRoll.Proofs.World.Refusing

namespace TextRoll

namespace World

/-- Only pieces of buffers were joined. -/
structure Peeked (w w' : World) : Prop extends w.Undisturbed w' where
  walks_eq : w'.walks = w.walks

variable {w w' w'' : World}

theorem Peeked.refl (w : World) : w.Peeked w := ⟨.refl w, rfl⟩

theorem Peeked.trans (h : w.Peeked w') (h' : w'.Peeked w'') : w.Peeked w'' :=
  ⟨h.toUndisturbed.trans h'.toUndisturbed, h'.walks_eq.trans h.walks_eq⟩

theorem peeked_collapse (w : World) (b : BufferId) : w.Peeked (w.collapse b) :=
  ⟨w.undisturbed_collapse b, rfl⟩

theorem peeked_collapseAll (w : World) (bs : List BufferId) : w.Peeked (w.collapseAll bs) := by
  induction bs generalizing w with
  | nil => exact .refl w
  | cons b bs ih => exact (w.peeked_collapse b).trans (ih (w.collapse b))

end World

namespace Act

variable {α β : Type} {w : World} {r : RollId}

/-- The act only peeks, and fails only with faults that are not of storage. -/
structure Peeks (act : Act α) : Prop where
  ok : ∀ w : World, w.WellFormed → ∀ a w', act.run w = .ok a w' → w.Peeked w'
  error : ∀ w : World, w.WellFormed → ∀ fault w', act.run w = .error fault w' →
    w.Peeked w' ∧ fault.isAllocation = false

/-- What can go wrong here is not a fault of storage. -/
def SparesStorage (outcome : Except Fault α) : Prop :=
  ∀ fault, outcome = .error fault → fault.isAllocation = false

namespace Peeks

theorem pure (a : α) : Peeks (Pure.pure a : Act α) where
  ok w _ a' w' hrun := by
    cases hrun
    exact .refl w
  error w _ fault w' hrun := by cases hrun

theorem throw {fault : Fault} (h : fault.isAllocation = false) :
    Peeks (MonadExcept.throw fault : Act α) where
  ok w _ a w' hrun := by cases hrun
  error w _ fault' w' hrun := by
    cases hrun
    exact ⟨.refl w, h⟩

theorem ofExcept {outcome : Except Fault α} (h : SparesStorage outcome) :
    Peeks (MonadExcept.ofExcept outcome : Act α) := by
  cases outcome with
  | ok a => exact pure a
  | error fault => exact throw (h fault rfl)

/-- An act that only joins pieces and always succeeds. -/
theorem of_run {act : Act α} (h : ∀ w : World, w.WellFormed → ∃ a w', act.run w = .ok a w' ∧
    w.Peeked w') : Peeks act where
  ok w hw a w' hrun := by
    obtain ⟨a', w₁, hrun', hpeeked⟩ := h w hw
    cases hrun'.symm.trans hrun
    exact hpeeked
  error w hw fault w' hrun := by
    obtain ⟨a', w₁, hrun', -⟩ := h w hw
    cases hrun'.symm.trans hrun

theorem bind {x : Act β} {f : β → Act α} (hx : Peeks x) (hf : ∀ b, Peeks (f b)) :
    Peeks (x >>= f) where
  ok w hw a w' hrun := by
    obtain ⟨b, w₁, hfirst, hrest⟩ := bind_eq_ok hrun
    have hpeeked := hx.ok w hw b w₁ hfirst
    exact hpeeked.trans ((hf b).ok w₁ (hpeeked.wellFormed hw) a w' hrest)
  error w hw fault w' hrun := by
    obtain hfirst | ⟨b, w₁, hfirst, hrest⟩ := bind_eq_error hrun
    · exact hx.error w hw fault w' hfirst
    · have hpeeked := hx.ok w hw b w₁ hfirst
      obtain ⟨hlater, hother⟩ := (hf b).error w₁ (hpeeked.wellFormed hw) fault w' hrest
      exact ⟨hpeeked.trans hlater, hother⟩

theorem get_bind {f : World → Act α} (hf : ∀ v, Peeks (f v)) : Peeks (get >>= f) where
  ok w := (hf w).ok w
  error w := (hf w).error w

theorem roll_bind {f : Roll BufferId → Act α} (hf : ∀ l, Peeks (f l)) :
    Peeks (Act.roll r >>= f) where
  ok w := (hf (w.roll r)).ok w
  error w := (hf (w.roll r)).error w

end Peeks

/-! ### What goes wrong without storage -/

namespace SparesStorage

theorem ok (a : α) : SparesStorage (.ok a) := nofun

theorem error {fault : Fault} (h : fault.isAllocation = false) :
    SparesStorage (.error fault : Except Fault α) := by
  rintro fault' ⟨⟩
  exact h

theorem bind {x : Except Fault β} {f : β → Except Fault α} (hx : SparesStorage x)
    (hf : ∀ b, SparesStorage (f b)) : SparesStorage (x >>= f) := by
  cases x with
  | error fault => exact error (hx fault rfl)
  | ok b => exact hf b

theorem asText (operation : String) (v : Value) : SparesStorage (v.asText operation) := by
  unfold Value.asText
  split
  · exact ok _
  · exact error rfl

theorem asWhole {refused : Kind → Fault} (h : ∀ got, (refused got).isAllocation = false)
    (v : Value) : SparesStorage (v.asWhole refused) := by
  unfold Value.asWhole
  split
  · exact ok _
  · exact error (h _)

theorem asIndex (length : Nat) (v : Value) : SparesStorage (v.asIndex length) := by
  unfold Value.asIndex
  split
  · unfold Fault.noIndex
    dsimp only
    split <;> exact error rfl
  · exact asWhole (fun _ => rfl) _

theorem asSlots (sign : String) (v : Value) : SparesStorage (v.asSlots sign) :=
  asWhole (fun _ => rfl) v

variable {γ : Type}

theorem stored (l : Roll γ) (wanted : String) (i : Nat) : SparesStorage (l.stored wanted i) := by
  unfold Roll.stored
  split
  · exact ok _
  · exact error rfl
  · exact error rfl

theorem checkIndex (l : Roll γ) (i : Whole) : SparesStorage (l.checkIndex i) := by
  unfold Roll.checkIndex
  split
  · exact ok _
  · exact error rfl

theorem currentIndex (l : Roll γ) (operation : String) :
    SparesStorage (l.currentIndex operation) := by
  unfold Roll.currentIndex
  split
  · exact error rfl
  · exact ok _

theorem slotAt (l : Roll γ) (i : Int) : SparesStorage (l.slotAt i) := by
  unfold Roll.slotAt
  split
  · exact error rfl
  · dsimp only
    generalize (if i < 0 then i + (l.capacity : Int) else i) = place
    split
    · exact error rfl
    · split
      · exact ok _
      · exact error rfl

theorem takeSlot (l : Roll γ) (i : Nat) : SparesStorage (l.takeSlot i) := by
  unfold Roll.takeSlot
  rcases hstored : l.stored "copy" i with fault | a
  · exact error (stored l "copy" i fault hstored)
  · exact ok _

theorem remove (l : Roll γ) : SparesStorage l.remove :=
  (currentIndex l _).bind fun i => takeSlot l i

theorem removeAt (l : Roll γ) (i : Whole) : SparesStorage (l.removeAt i) :=
  (checkIndex l i).bind fun i => takeSlot l i

theorem seek (l : Roll γ) {i : Except Fault Whole} (hi : SparesStorage i) (mark : Mark) :
    SparesStorage (l.seek i mark) :=
  (currentIndex l _).bind fun _ => hi.bind fun given => (checkIndex l given).bind fun _ => ok _

end SparesStorage

/-! ### The acts that peek -/

theorem peeks_built (b : BufferId) : Peeks (built b) :=
  .of_run fun w _ => ⟨_, _, rfl, w.peeked_collapse b⟩

theorem peeks_textOf (b : BufferId) : Peeks (textOf b) := (peeks_built b).bind fun _ => .pure _

theorem peeks_textsOf (r : RollId) (wanted : String) : Peeks (textsOf r wanted) :=
  .of_run fun w hw => ⟨_, _, run_textsOf (hw r) wanted, w.peeked_collapseAll _⟩

theorem peeks_texts (r : RollId) : Peeks (texts r) :=
  (peeks_textsOf r "build").bind fun _ => .pure _

theorem peeks_rollContains (r : RollId) (sought : Value) : Peeks (rollContains r sought) := by
  unfold rollContains
  split
  · exact (peeks_textOf _).bind fun _ => (peeks_texts r).bind fun _ => .pure _
  · exact (peeks_texts r).bind fun _ => .pure _
  · exact .pure _

theorem peeks_copyOf (r : RollId) (i : Nat) : Peeks (copyOf r i) :=
  .roll_bind fun l => Peeks.bind (.ofExcept (SparesStorage.stored l "copy" i)) fun b =>
    (peeks_built b).bind fun _ => .pure _

theorem peeks_cursorOf (r : RollId) : Peeks (cursorOf r) := .roll_bind fun _ => .pure _

theorem peeks_follow (m : Bookmark) : Peeks (follow m) := by
  refine .roll_bind fun l => .get_bind fun w => ?_
  split
  · exact Peeks.bind (.ofExcept (SparesStorage.asWhole (fun _ => rfl) _)) fun i =>
      .ofExcept (SparesStorage.slotAt l _)
  · exact .throw rfl

theorem peeks_followTo (m : Bookmark) (wanted : String) : Peeks (followTo m wanted) := by
  refine (peeks_follow m).bind fun found => ?_
  cases found with
  | some b => exact .pure _
  | none => exact .throw rfl

/-! ### Requests that peek -/

end Act

/-- The value is a roll, a guard around one, or a bookmark in one. -/
def Value.IsHandle : Value → Prop
  | .roll _ | .guarded .. | .bookmark .. => True
  | _ => False

namespace Act

variable {α : Type} {r : RollId} {asked : Value}

theorem peeks_formOf (form : World → Value → String) : Peeks (formOf form asked) := by
  refine .get_bind fun w => ?_
  dsimp only
  split
  · exact .pure _
  · exact .throw rfl

theorem peeks_elements (h : asked.IsHandle) : Peeks (elements asked) := by
  cases asked with
  | roll r => exact (peeks_textsOf r _).bind fun _ => .pure _
  | guarded mark depth r => exact (peeks_textsOf r _).bind fun _ => .pure _
  | bookmark mark m => exact .get_bind fun _ => .throw rfl
  | _ => exact h.elim

theorem peeks_contains (h : asked.IsHandle) (sought : Value) : Peeks (contains sought asked) := by
  cases asked with
  | roll r => exact peeks_rollContains r sought
  | guarded mark depth r => exact peeks_rollContains r sought
  | bookmark mark m => exact .get_bind fun _ => .throw rfl
  | _ => exact h.elim

theorem peeks_startWalk (h : asked.IsHandle) : Peeks (startWalk asked) := by
  cases asked with
  | roll r => exact .pure _
  | guarded mark depth r => exact (peeks_textsOf r _).bind fun _ => .pure _
  | bookmark mark m => exact .get_bind fun _ => .throw rfl
  | _ => exact h.elim

/-- What a roll, a guard and a bookmark can be asked like any other value only peeks. -/
theorem peeks_askGeneral (h : asked.IsHandle) (verb : Verb) (args : List Value) :
    Peeks (askGeneral asked verb args) := by
  unfold askGeneral
  split
  · refine .get_bind fun w => Peeks.bind (.ofExcept ?_) fun _ => .pure _
    unfold lengthOf
    split
    · exact SparesStorage.ok _
    · exact SparesStorage.error rfl
  · unfold truthOf
    split
    · exact .pure _
    · exact .get_bind fun _ => .pure _
  · unfold writtenOf
    split
    · exact .pure _
    · exact peeks_formOf _
  · exact peeks_formOf _
  · exact .throw rfl
  · exact (peeks_elements h).bind fun _ => .pure _
  · exact (peeks_contains h _).bind fun _ => .pure _
  · exact peeks_startWalk h
  · cases asked with
    | roll | guarded | bookmark => exact .throw rfl
    | _ => exact h.elim
  · refine .throw ?_
    unfold assignTo
    split
    · split <;> rfl
    · rfl
    · rfl
  · exact .throw rfl

/-- The printed form of a roll can always be told. -/
theorem peeks_printedRoll (form : List String → Roll BufferId → Answer) :
    Peeks (do
      let forms ← texts r
      return form forms (← roll r) : Act Answer) :=
  (peeks_texts r).bind fun _ => .roll_bind fun _ => .pure _

end Act

end TextRoll
