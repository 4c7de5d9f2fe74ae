/-
TextRoll/Proofs/Act/Failing.lean

What a request has done when it fails.

A request to a roll, to a guard or to a bookmark that fails has done nothing: it may have joined
pieces of buffers, which no text shows, and if storage was refused the refusal is in the log.
`World.Failed w fault w'` says that this is all that lies between `w` and `w'`, and
`Act.FailsCleanly act` that it is all that `act` leaves when it fails.

Such acts are put together from those that only peek, those that never fail, and the two that ask
for storage; peeking may come before any act that fails cleanly (`FailsCleanly.after`).  The
main statement is `failsCleanly_ask`.
-/
import TextRoll.Proofs.Act.Peeking

namespace TextRoll

namespace World

variable {w w' w'' : World}

/-- A request that fails with this fault has at most joined pieces of buffers, and the fault was
logged if faults of its kind are. -/
structure Failed (w : World) (fault : Fault) (w' : World) : Prop where
  refused : ∃ w₁, w.Peeked w₁ ∧ w' = w₁.refused fault
  logged : fault.IsLogged

theorem Failed.of_peeked {fault : Fault} (h : w.Peeked w') (hother : fault.isAllocation = false) :
    w.Failed fault w' := by
  refine ⟨⟨w', h, ?_⟩, Fault.isLogged_of_other hother⟩
  unfold World.refused
  cases fault <;> first | rfl | cases hother

/-- What fails after peeking fails as if nothing had been peeked at. -/
theorem Peeked.failed {fault : Fault} (h : w.Peeked w') (hfailed : w'.Failed fault w'') :
    w.Failed fault w'' := by
  obtain ⟨w₁, hpeeked, rfl⟩ := hfailed.refused
  exact ⟨⟨w₁, h.trans hpeeked, rfl⟩, hfailed.logged⟩

end World

namespace Act

variable {α β : Type} {w : World} {r : RollId} {asked : Value}

/-- When the act fails, it fails having done nothing but peek. -/
def FailsCleanly (act : Act α) : Prop :=
  ∀ w : World, w.WellFormed → ∀ fault w', act.run w = .error fault w' → w.Failed fault w'

/-- An act that only peeks fails cleanly. -/
theorem Peeks.failsCleanly {act : Act α} (h : Peeks act) : FailsCleanly act := by
  intro w hw fault w' hrun
  obtain ⟨hpeeked, hother⟩ := h.error w hw fault w' hrun
  exact .of_peeked hpeeked hother

namespace FailsCleanly

/-- Peeking first makes no difference. -/
theorem after {x : Act β} {f : β → Act α} (hx : Peeks x) (hf : ∀ b, FailsCleanly (f b)) :
    FailsCleanly (x >>= f) := by
  intro w hw fault w' hrun
  obtain hfirst | ⟨b, w₁, hfirst, hrest⟩ := bind_eq_error hrun
  · obtain ⟨hpeeked, hother⟩ := hx.error w hw fault w' hfirst
    exact .of_peeked hpeeked hother
  · have hpeeked := hx.ok w hw b w₁ hfirst
    exact hpeeked.failed (hf b w₁ (hpeeked.wellFormed hw) fault w' hrest)

/-- It makes no difference what is handed back. -/
theorem map {x : Act β} {f : β → α} (hx : FailsCleanly x) :
    FailsCleanly (x >>= fun b => Pure.pure (f b)) := by
  intro w hw fault w' hrun
  obtain hfirst | ⟨b, w₁, -, hrest⟩ := bind_eq_error hrun
  · exact hx w hw fault w' hfirst
  · cases hrest

theorem get_bind {f : World → Act α} (hf : ∀ v, FailsCleanly (f v)) :
    FailsCleanly (get >>= f) := fun w => hf w w

theorem roll_bind {f : Roll BufferId → Act α} (hf : ∀ l, FailsCleanly (f l)) :
    FailsCleanly (Act.roll r >>= f) := fun w => hf (w.roll r) w

theorem ofExcept_bind {outcome : Except Fault β} {f : β → Act α} (h : SparesStorage outcome)
    (hf : ∀ b, FailsCleanly (f b)) : FailsCleanly (MonadExcept.ofExcept outcome >>= f) :=
  after (.ofExcept h) hf

/-- An act that never fails. -/
theorem of_ok {act : Act α} (h : ∀ w, ∃ a w', act.run w = .ok a w') : FailsCleanly act := by
  intro w hw fault w' hrun
  obtain ⟨a, w₁, hrun'⟩ := h w
  cases hrun'.symm.trans hrun

/-- Storage that is refused. -/
theorem of_refused {act : Act α}
    (h : ∀ w : World, ∀ fault w', act.run w = .error fault w' →
      fault.IsLogged ∧ w' = w.refused fault) : FailsCleanly act := by
  intro w hw fault w' hrun
  obtain ⟨hlogged, rfl⟩ := h w fault w' hrun
  exact ⟨⟨w, .refl w, rfl⟩, hlogged⟩

end FailsCleanly

/-! ### Requests for storage -/

theorem isLogged_of_refuses {l : Roll BufferId} {fault : Fault} (h : l.Refuses fault) :
    fault.IsLogged := by
  rcases h with ⟨wanted, -, hgrant⟩ | ⟨x, hreal⟩
  · exact Fault.isLogged_of_grant hgrant
  · rw [Roll.reserveReal_eq_error hreal]
    exact Fault.isLogged_refusedReal _ x

theorem failsCleanly_appendText (r : RollId) (text : Text) : FailsCleanly (appendText r text) := by
  refine .of_refused fun w fault w' hrun => ?_
  obtain ⟨happend, hrefused⟩ := appendText_eq_error hrun
  exact ⟨isLogged_of_refuses (Roll.refuses_of_append happend), hrefused⟩

/-- Taking what was granted fails only if it was not. -/
theorem failsCleanly_granted {outcome : Except Fault α}
    (h : ∀ fault, outcome = .error fault → fault.IsLogged) : FailsCleanly (granted outcome) := by
  refine .of_refused fun w fault w' hrun => ?_
  rw [run_granted] at hrun
  cases outcome with
  | ok a => cases hrun
  | error fault' =>
    cases hrun
    exact ⟨h fault rfl, rfl⟩

theorem failsCleanly_reserve (r : RollId) (capacity : Whole) (mark : Mark) :
    FailsCleanly (reserve r capacity mark) := by
  refine .of_refused fun w fault w' hrun => ?_
  rw [run_reserve] at hrun
  cases hreserve : (w.roll r).reserve capacity mark with
  | ok outcome => rw [hreserve] at hrun; cases hrun
  | error fault' =>
    rw [hreserve] at hrun
    cases hrun
    exact ⟨isLogged_of_refuses (Roll.refuses_of_reserve hreserve), rfl⟩

theorem failsCleanly_reserveFor (r : RollId) (v : Value) : FailsCleanly (reserveFor r v) := by
  unfold reserveFor
  split
  · exact .roll_bind fun l => failsCleanly_granted fun fault h =>
      isLogged_of_refuses (.inr ⟨_, h⟩)
  · exact .ofExcept_bind (SparesStorage.asSlots _ _) fun n => failsCleanly_reserve r n _

/-- A roll is not made for want of storage, or since its capacity is below zero. -/
theorem isLogged_of_create {p : Policy} {capacity : Option Whole} {fault : Fault}
    (h : (Roll.create p capacity : Except Fault (Roll BufferId)) = .error fault) :
    fault.IsLogged := by
  have hslots : ∀ {slots : Whole},
      (Roll.ofSlots p slots : Except Fault (Roll BufferId)) = .error fault →
      fault.IsLogged := by
    intro slots hslots
    unfold Roll.ofSlots at hslots
    cases hgrant : p.grant 0 slots with
    | ok u => rw [hgrant] at hslots; cases hslots
    | error fault' =>
      rw [hgrant] at hslots
      cases hslots
      exact Fault.isLogged_of_grant hgrant
  unfold Roll.create at h
  split at h
  · split at h
    · cases h
      exact Fault.isLogged_of_other rfl
    · exact hslots h
  · exact hslots h

theorem failsCleanly_newRoll (capacity : Option Whole) : FailsCleanly (newRoll capacity) := by
  refine .get_bind fun v => ?_
  split
  · exact failsCleanly_granted fun _ => isLogged_of_create
  · refine (Peeks.throw ?_).failsCleanly
    unfold notPolicy
    split
    · rfl
    · split <;> rfl

theorem isLogged_noRoll (x : Binary64) (policy : Value) : (noRoll x policy).IsLogged := by
  unfold noRoll
  split
  · rfl
  · split
    · exact Fault.isLogged_refusedReal _ x
    · rfl

theorem failsCleanly_newRollFor (v : Value) : FailsCleanly (newRollFor v) := by
  unfold newRollFor
  split
  · exact failsCleanly_newRoll none
  · refine .get_bind fun w => failsCleanly_granted fun fault h => ?_
    cases h
    exact isLogged_noRoll _ _
  · exact .ofExcept_bind (SparesStorage.asSlots _ _) fun n => failsCleanly_newRoll (some n)

/-! ### All requests -/

theorem failsCleanly_takenFrom {outcome : Except Fault (BufferId × Roll BufferId)}
    (h : SparesStorage outcome) : FailsCleanly (takenFrom r outcome) :=
  .ofExcept_bind h fun _ => .of_ok fun _ => ⟨_, _, rfl⟩

theorem failsCleanly_askShared (h : asked.IsHandle) (r : RollId) (verb : Verb)
    (args : List Value) : FailsCleanly (askShared asked r verb args) := by
  unfold askShared
  split
  · exact .ofExcept_bind (SparesStorage.asText _ _) fun t => (failsCleanly_appendText r t).map
  · exact .after (peeks_built _) fun t => (failsCleanly_appendText r t).map
  · exact (Peeks.throw rfl).failsCleanly
  · exact (failsCleanly_reserveFor r _).map
  · exact .of_ok fun _ => ⟨_, _, rfl⟩
  · exact .roll_bind fun l => failsCleanly_takenFrom (SparesStorage.remove l)
  · exact .roll_bind fun l => .ofExcept_bind (SparesStorage.asIndex _ _) fun i =>
      failsCleanly_takenFrom (SparesStorage.removeAt l i)
  · refine Peeks.failsCleanly (.roll_bind fun l => ?_)
    exact Peeks.bind (.ofExcept (SparesStorage.currentIndex l _)) fun i => peeks_copyOf r i
  · refine Peeks.failsCleanly ?_
    refine .roll_bind fun l => Peeks.bind (.ofExcept (SparesStorage.asIndex _ _)) fun i => ?_
    exact Peeks.bind (.ofExcept (SparesStorage.checkIndex l i)) fun i => peeks_copyOf r i
  · exact ((peeks_textsOf r _).bind fun _ => .pure _).failsCleanly
  · refine .roll_bind fun l => ?_
    exact .ofExcept_bind (SparesStorage.seek l (SparesStorage.asIndex _ _) _) fun l' =>
      .of_ok fun _ => ⟨_, _, rfl⟩
  · exact .roll_bind fun l => .of_ok fun _ => ⟨_, _, rfl⟩
  · exact .roll_bind fun l => .of_ok fun _ => ⟨_, _, rfl⟩
  · exact .roll_bind fun l => .of_ok fun _ => ⟨_, _, rfl⟩
  · exact ((peeks_cursorOf r).bind fun _ => .pure _).failsCleanly
  · exact .roll_bind fun l => .of_ok fun _ => ⟨_, _, rfl⟩
  · exact .roll_bind fun l => .of_ok fun _ => ⟨_, _, rfl⟩
  · exact (peeks_askGeneral h _ _).failsCleanly

theorem failsCleanly_askRoll (r : RollId) (verb : Verb) (args : List Value) :
    FailsCleanly (askRoll r verb args) := by
  unfold askRoll
  split
  · refine Peeks.failsCleanly (.roll_bind fun l => ?_)
    exact Peeks.bind (.ofExcept (SparesStorage.currentIndex l _)) fun _ =>
      (peeks_cursorOf r).bind fun _ => .pure _
  · exact .roll_bind fun l => .of_ok fun _ => ⟨_, _, rfl⟩
  · exact .roll_bind fun l => .of_ok fun _ => ⟨_, _, rfl⟩
  · exact .roll_bind fun l => .of_ok fun _ => ⟨_, _, rfl⟩
  · exact (failsCleanly_newRollFor _).map
  · exact (peeks_printedRoll _).failsCleanly
  · exact (peeks_printedRoll _).failsCleanly
  · exact failsCleanly_askShared (show (Value.roll r).IsHandle from trivial) r _ _

theorem failsCleanly_askGuarded (mark : Mark) (depth : Nat) (r : RollId) (verb : Verb)
    (args : List Value) : FailsCleanly (askGuarded mark depth r verb args) := by
  unfold askGuarded
  split
  · exact (peeks_printedRoll _).failsCleanly
  · exact (peeks_printedRoll _).failsCleanly
  · exact failsCleanly_askShared (show (Value.guarded mark depth r).IsHandle from trivial) r _ _

theorem failsCleanly_askBookmark (mark : Mark) (m : Bookmark) (verb : Verb) (args : List Value) :
    FailsCleanly (askBookmark mark m verb args) := by
  unfold askBookmark
  split
  · exact .of_ok fun _ => ⟨_, _, rfl⟩
  · exact .of_ok fun _ => ⟨_, _, rfl⟩
  · refine ((peeks_follow m).bind fun found => ?_).failsCleanly
    cases found <;> exact .pure _
  · -- the bookmark is followed before the text is looked at
    refine .after (peeks_followTo m _) fun b => ?_
    exact .ofExcept_bind (SparesStorage.asText _ _) fun t => .of_ok fun _ => ⟨_, _, rfl⟩
  · exact .after (peeks_followTo m _) fun b => .of_ok fun _ => ⟨_, _, rfl⟩
  · exact ((peeks_followTo m _).bind fun b => (peeks_built b).bind fun _ => .pure _).failsCleanly
  · exact (peeks_askGeneral (show (Value.bookmark mark m).IsHandle from trivial) _ _).failsCleanly

/-- **A request to a roll, a guard or a bookmark that fails has done nothing.** -/
theorem failsCleanly_ask (h : asked.IsHandle) (verb : Verb) (args : List Value) :
    FailsCleanly (ask asked verb args) := by
  cases asked with
  | roll r => exact failsCleanly_askRoll r verb args
  | guarded mark depth r => exact failsCleanly_askGuarded mark depth r verb args
  | bookmark mark m => exact failsCleanly_askBookmark mark m verb args
  | _ => exact h.elim

end Act

end TextRoll
