/-
TextRoll/Proofs/Act/Doing.lean

What acts do.

`Act.Does p P act` says that `act`, run in any well-formed world, causes one event for
which `p` holds if it succeeds, and if it fails causes none and does so with a fault in
`P`.  An act that only reads causes no event at all (`Reads.does`), reading first
changes nothing about what an act does (`Does.after`), and neither does what is
handed back in the end (`Does.map`).

Requests never fail with the fault of a bare slot (`Fault.IsRegular`), and neither do texts,
numbers and storage that are refused.
-/
import TextRoll.Proofs.Act.OfRoll
import TextRoll.Request

namespace TextRoll

/-! ### What an event may be -/

/-- What a request to a roll takes from it, if it succeeds. -/
def Verb.takes (verb : Verb) (args : List Value) : Roll.Loss → Prop
  | .nothing => verb ≠ .remove ∧ verb ≠ .removeAt ∧ ¬(verb = .clear ∧ args = [])
  | .element _ => verb = .remove ∨ verb = .removeAt
  | .everything => verb = .clear ∧ args = []

/-- The roll that a value is, or guards. -/
def Value.rollId? : Value → Option RollId
  | .roll r | .guarded _ _ r => some r
  | _ => none

namespace Event

/-- The event that a request to a roll causes. -/
def Answers (r : RollId) (verb : Verb) (args : List Value) : Event → Prop
  | still => verb.takes args .nothing
  | changed r' loss _ => r' = r ∧ verb.takes args loss
  | edited .. | created => False

theorem Answers.of_changed {r : RollId} {verb : Verb} {args : List Value} {loss : Roll.Loss}
    {added : List String} {e : Event} (htakes : verb.takes args loss)
    (he : e = .changed r loss added) : e.Answers r verb args := by
  subst he
  exact ⟨rfl, htakes⟩

/-- No buffer but this one is edited, and no roll is touched. -/
def EditsOnly (b : BufferId) : Event → Prop
  | still => True
  | edited b' _ => b' = b
  | changed .. | created => False

end Event

namespace Act

variable {α β : Type} {p p' : Event → Prop} {P P' : Fault → Prop} {w : World}

/-- Run in this world, the act causes one event of a certain kind if it succeeds, and none if it
fails, which it does in certain ways only. -/
def DoesFrom (act : Act α) (w : World) (p : Event → Prop) (P : Fault → Prop) : Prop :=
  match act.run w with
  | .ok _ w' => ∃ e, p e ∧ w.Occurs e w'
  | .error fault w' => w.Occurs .still w' ∧ P fault

/-- The same in every well-formed world. -/
def Does (p : Event → Prop) (P : Fault → Prop) (act : Act α) : Prop :=
  ∀ w : World, w.WellFormed → act.DoesFrom w p P

/-! ### Putting acts together -/

namespace DoesFrom

variable {act : Act α} {w' : World} {a : α} {fault : Fault} {e : Event}

theorem of_ok (hrun : act.run w = .ok a w') (hp : p e) (h : w.Occurs e w') :
    act.DoesFrom w p P := by
  unfold DoesFrom
  rw [hrun]
  exact ⟨e, hp, h⟩

theorem of_error (hrun : act.run w = .error fault w') (h : w.Occurs .still w') (hP : P fault) :
    act.DoesFrom w p P := by
  unfold DoesFrom
  rw [hrun]
  exact ⟨h, hP⟩

/-- What an act that succeeds has caused. -/
theorem ok (h : act.DoesFrom w p P) (hrun : act.run w = .ok a w') : ∃ e, p e ∧ w.Occurs e w' := by
  unfold DoesFrom at h
  rwa [hrun] at h

/-- An act that fails has caused nothing. -/
theorem error (h : act.DoesFrom w p P) (hrun : act.run w = .error fault w') :
    w.Occurs .still w' ∧ P fault := by
  unfold DoesFrom at h
  rwa [hrun] at h

theorem mono (h : act.DoesFrom w p P) (hp : ∀ e, p e → p' e) (hP : ∀ fault, P fault → P' fault) :
    act.DoesFrom w p' P' := by
  cases hrun : act.run w with
  | ok a w' =>
    obtain ⟨e, he, hoccurs⟩ := h.ok hrun
    exact .of_ok hrun (hp e he) hoccurs
  | error fault w' =>
    obtain ⟨hoccurs, hfault⟩ := h.error hrun
    exact .of_error hrun hoccurs (hP fault hfault)

end DoesFrom

/-- What is done after reading is done as if nothing had been read. -/
theorem ReadsFrom.doesFrom_bind {x : Act β} {f : β → Act α} (hx : x.ReadsFrom w P)
    (hf : ∀ b w', x.run w = .ok b w' → w.Undisturbed w' → (f b).DoesFrom w' p P) :
    (x >>= f).DoesFrom w p P := by
  cases hrun : (x >>= f).run w with
  | ok a w'' =>
    obtain ⟨b, w', hfirst, hrest⟩ := bind_eq_ok hrun
    have hread := hx.ok hfirst
    obtain ⟨e, he, hoccurs⟩ := (hf b w' hfirst hread).ok hrest
    exact .of_ok hrun he (hread.occurs_of hoccurs)
  | error fault w'' =>
    obtain hfirst | ⟨b, w', hfirst, hrest⟩ := bind_eq_error hrun
    · obtain ⟨hread, hfault⟩ := hx.error hfirst
      exact .of_error hrun hread.occurs hfault
    · have hread := hx.ok hfirst
      obtain ⟨hoccurs, hfault⟩ := (hf b w' hfirst hread).error hrest
      exact .of_error hrun (hread.occurs_of hoccurs) hfault

/-- Reading causes no event. -/
theorem ReadsFrom.doesFrom {act : Act α} (h : act.ReadsFrom w P) (hp : p .still) :
    act.DoesFrom w p P := by
  cases hrun : act.run w with
  | ok a w' => exact .of_ok hrun hp (h.ok hrun).occurs
  | error fault w' =>
    obtain ⟨hread, hfault⟩ := h.error hrun
    exact .of_error hrun hread.occurs hfault

namespace Does

theorem mono {act : Act α} (h : Does p P act) (hp : ∀ e, p e → p' e)
    (hP : ∀ fault, P fault → P' fault) : Does p' P' act := fun w hw => (h w hw).mono hp hP

theorem throw {fault : Fault} (h : P fault) : Does p P (MonadExcept.throw fault : Act α) :=
  fun w _ => ⟨.still rfl (.refl w), h⟩

/-- Reading first makes no difference. -/
theorem after {x : Act β} {f : β → Act α} (hx : Reads P x) (hf : ∀ b, Does p P (f b)) :
    Does p P (x >>= f) :=
  fun w hw => (hx w hw).doesFrom_bind fun b w' _ hu => hf b w' (hu.wellFormed hw)

/-- It makes no difference what is handed back. -/
theorem map {x : Act β} {f : β → α} (hx : Does p P x) :
    Does p P (x >>= fun b => Pure.pure (f b)) := by
  intro w hw
  cases hrun : x.run w with
  | ok b w' =>
    obtain ⟨e, he, hoccurs⟩ := (hx w hw).ok hrun
    exact .of_ok (run_bind_ok _ hrun) he hoccurs
  | error fault w' =>
    obtain ⟨hoccurs, hfault⟩ := (hx w hw).error hrun
    exact .of_error (run_bind_error _ hrun) hoccurs hfault

/-- Looking at the world makes no difference either. -/
theorem get_bind {f : World → Act α} (hf : ∀ v, Does p P (f v)) : Does p P (get >>= f) :=
  fun w hw => hf w w hw

theorem roll_bind {r : RollId} {f : Roll BufferId → Act α}
    (hf : ∀ w : World, w.WellFormed → (f (w.roll r)).DoesFrom w p P) :
    Does p P (Act.roll r >>= f) := hf

theorem ofExcept_bind {outcome : Except Fault β} {f : β → Act α}
    (hP : ∀ fault, outcome = .error fault → P fault) (hf : ∀ b, Does p P (f b)) :
    Does p P (MonadExcept.ofExcept outcome >>= f) := after (.ofExcept hP) hf

end Does

theorem Reads.does {act : Act α} (h : Reads P act) (hp : p .still) : Does p P act :=
  fun w hw => (h w hw).doesFrom hp

/-! ### Faults that are not those of bare slots -/

theorem asText_error {v : Value} {operation : String} {fault : Fault}
    (h : v.asText operation = .error fault) : fault.IsRegular := by
  unfold Value.asText at h
  split at h <;> cases h
  rfl

theorem asWhole_error {v : Value} {refused : Kind → Fault} {fault : Fault}
    (hrefused : ∀ got, (refused got).IsRegular) (h : v.asWhole refused = .error fault) :
    fault.IsRegular := by
  unfold Value.asWhole at h
  split at h <;> cases h
  exact hrefused _

theorem asSlots_error {v : Value} {sign : String} {fault : Fault}
    (h : v.asSlots sign = .error fault) : fault.IsRegular := by
  refine asWhole_error (fun _ => ?_) h
  rfl

theorem asIndex_error {v : Value} {length : Nat} {fault : Fault}
    (h : v.asIndex length = .error fault) : fault.IsRegular := by
  unfold Value.asIndex at h
  split at h
  · cases h
    unfold Fault.noIndex
    dsimp only
    split <;> rfl
  · refine asWhole_error (fun _ => ?_) h
    rfl

theorem regular_of_grant {p : Policy} {slots : Nat} {wanted : Whole} {fault : Fault}
    (h : p.grant slots wanted = .error fault) : fault.IsRegular := by
  unfold Policy.grant at h
  split at h
  · cases h
    rfl
  · split at h
    · cases h
      rfl
    · split at h <;> cases h
      rfl

theorem regular_refusedReal (p : Policy) (x : Binary64) : (p.refusedReal x).IsRegular := by
  unfold Policy.refusedReal
  split <;> rfl

theorem regular_of_refuses {l : Roll BufferId} {fault : Fault} (h : l.Refuses fault) :
    fault.IsRegular := by
  rcases h with ⟨wanted, -, hgrant⟩ | ⟨x, hreal⟩
  · exact regular_of_grant hgrant
  · rw [Roll.reserveReal_eq_error hreal]
    exact regular_refusedReal _ x

theorem regular_noRoll (x : Binary64) (policy : Value) : (noRoll x policy).IsRegular := by
  unfold noRoll
  split
  · rfl
  · split
    · exact regular_refusedReal _ x
    · rfl

end Act

end TextRoll
