/-
TextRoll/Proofs/Act/Agreeing.lean

Acts that come out the same in worlds that cannot be told apart.

`Act.Agrees view n A act` says that in matching worlds, with places for at least `n` buffers, the
act has the same outcome and leaves matching worlds; an answer satisfies `A`, and a fault is within
the view.  A sequence agrees if its parts do, and what an act reads of the world may be used if it
is the same in both.

A fault that names nothing is within every view (`Fault.IsNameless`).  Most faults are such, and the
first part goes through the tests that fail with them.
-/
import TextRoll.Proofs.World.Showing
import TextRoll.Request

namespace TextRoll

/-! ### Faults that name nothing -/

/-- The fault is within every view. -/
def Fault.IsNameless (fault : Fault) : Prop := ∀ view n, fault.Within view n

theorem Fault.isNameless_of_nil {fault : Fault} (h : fault.mentioned ++ fault.facts = []) :
    fault.IsNameless := by
  intro view n v hv
  rw [h] at hv
  cases hv

/-- A fault is nameless if all it mentions is within every view, and its facts are among this. -/
theorem Fault.isNameless_of_mentioned {fault : Fault}
    (hfacts : ∀ v ∈ fault.facts, v ∈ fault.mentioned)
    (h : ∀ v ∈ fault.mentioned, ∀ view n, v.Within view n) : fault.IsNameless := by
  intro view n v hv
  rcases List.mem_append.mp hv with hv | hv
  · exact h v hv view n
  · exact h v (hfacts v hv) view n

theorem Fault.Within.mono {view : View} {m n : Nat} {fault : Fault} (h : fault.Within view m)
    (hle : m ≤ n) : fault.Within view n := fun v hv => (h v hv).mono hle

/-- If the outcome is a fault, it names nothing. -/
def FailsNamelessly {α : Type} (outcome : Except Fault α) : Prop :=
  ∀ fault, outcome = .error fault → fault.IsNameless

namespace FailsNamelessly

variable {α β : Type}

theorem ok (a : α) : FailsNamelessly (.ok a) := nofun

theorem error {fault : Fault} (h : fault.IsNameless) :
    FailsNamelessly (.error fault : Except Fault α) := by
  rintro fault' ⟨⟩
  exact h

/-- Most faults mention nothing and carry no facts. -/
theorem bare {fault : Fault} (h : fault.mentioned ++ fault.facts = []) :
    FailsNamelessly (.error fault : Except Fault α) := error (Fault.isNameless_of_nil h)

theorem bind {x : Except Fault β} {f : β → Except Fault α} (hx : FailsNamelessly x)
    (hf : ∀ b, FailsNamelessly (f b)) : FailsNamelessly (x >>= f) := by
  cases x with
  | error fault => exact error (hx fault rfl)
  | ok b => exact hf b

theorem map {x : Except Fault β} (hx : FailsNamelessly x) (f : β → α) :
    FailsNamelessly (x.map f) := by
  cases x with
  | error fault => exact error (hx fault rfl)
  | ok b => exact ok _

theorem asText (operation : String) (v : Value) : FailsNamelessly (v.asText operation) := by
  unfold Value.asText
  split
  · exact ok _
  · exact bare rfl

theorem asWhole {refused : Kind → Fault} (h : ∀ got, (refused got).IsNameless) (v : Value) :
    FailsNamelessly (v.asWhole refused) := by
  unfold Value.asWhole
  split
  · exact ok _
  · exact error (h _)

theorem asIndex (length : Nat) (v : Value) : FailsNamelessly (v.asIndex length) := by
  unfold Value.asIndex
  split
  · unfold Fault.noIndex
    dsimp only
    split
    · exact bare rfl
    · refine error (Fault.isNameless_of_mentioned (fun _ h => h) fun v hv view n => ?_)
      rcases List.mem_cons.mp hv with rfl | hv
      · trivial
      · obtain rfl := List.mem_singleton.mp hv
        trivial
  · exact asWhole (fun _ => Fault.isNameless_of_nil rfl) _

theorem asSlots (sign : String) (v : Value) : FailsNamelessly (v.asSlots sign) :=
  asWhole (fun _ => Fault.isNameless_of_nil rfl) v

variable {γ : Type}

theorem stored (l : Roll γ) (wanted : String) (i : Nat) : FailsNamelessly (l.stored wanted i) := by
  unfold Roll.stored
  split
  · exact ok _
  · exact bare rfl
  · exact bare rfl

theorem checkIndex (l : Roll γ) (i : Whole) : FailsNamelessly (l.checkIndex i) := by
  unfold Roll.checkIndex
  split
  · exact ok _
  · refine error (Fault.isNameless_of_mentioned (fun _ h => h) fun v hv view n => ?_)
    rcases List.mem_cons.mp hv with rfl | hv
    · exact Value.within_valueAs _ i
    · obtain rfl := List.mem_singleton.mp hv
      trivial

theorem currentIndex (l : Roll γ) (operation : String) :
    FailsNamelessly (l.currentIndex operation) := by
  unfold Roll.currentIndex
  split
  · refine error (Fault.isNameless_of_mentioned (fun _ h => h) fun v hv view n => ?_)
    obtain rfl := List.mem_singleton.mp hv
    trivial
  · exact ok _

theorem slotAt (l : Roll γ) (i : Int) : FailsNamelessly (l.slotAt i) := by
  unfold Roll.slotAt
  split
  · exact bare rfl
  · dsimp only
    -- a place below zero is counted from the end; wherever it is, nothing is named
    generalize (if i < 0 then i + (l.capacity : Int) else i) = place
    split
    · exact bare rfl
    · split
      · exact ok _
      · exact bare rfl

theorem takeSlot (l : Roll γ) (i : Nat) : FailsNamelessly (l.takeSlot i) := (stored l _ i).map _

theorem remove (l : Roll γ) : FailsNamelessly l.remove :=
  (currentIndex l _).bind fun i => takeSlot l i

theorem removeAt (l : Roll γ) (i : Whole) : FailsNamelessly (l.removeAt i) :=
  (checkIndex l i).bind fun i => takeSlot l i

theorem seek (l : Roll γ) {i : Except Fault Whole} (hi : FailsNamelessly i) (mark : Mark) :
    FailsNamelessly (l.seek i mark) :=
  (currentIndex l _).bind fun _ => hi.bind fun given => (checkIndex l given).bind fun _ => ok _

theorem grant (p : Policy) (slots : Nat) (wanted : Whole) :
    FailsNamelessly (p.grant slots wanted) := by
  -- a refusal names the slots that were wanted and the limit, if there is one
  have hallocation : ∀ limit : Value, (∀ view n, limit.Within view n) → ∀ outOfMemory,
      (Fault.allocation wanted.value limit outOfMemory).IsNameless := by
    intro limit hlimit outOfMemory
    refine Fault.isNameless_of_mentioned (fun _ h => h) fun v hv view n => ?_
    rcases List.mem_cons.mp hv with rfl | hv
    · exact Value.within_valueAs _ wanted
    · obtain rfl := List.mem_singleton.mp hv
      exact hlimit view n
  unfold Policy.grant
  split
  · next limit _ => exact error (hallocation (.ofInt limit) (fun _ _ => trivial) _)
  · split
    · exact bare rfl
    · split
      · exact error (hallocation .null (fun _ _ => trivial) _)
      · exact ok _

theorem append (l : Roll γ) (a : γ) : FailsNamelessly (l.append a) := by
  refine FailsNamelessly.map ?_ _
  unfold Roll.makeRoom
  split
  · exact ((grant _ _ _).map _).map _
  · exact ok _

theorem reserve (l : Roll γ) (capacity : Whole) (mark : Mark) :
    FailsNamelessly (l.reserve capacity mark) := by
  unfold Roll.reserve
  split
  · exact ((grant _ _ _).map _).map _
  · exact ok _

theorem refusedReal (p : Policy) (x : Binary64) :
    FailsNamelessly (.error (p.refusedReal x) : Except Fault α) := by
  unfold Policy.refusedReal
  split
  · refine error (Fault.isNameless_of_mentioned (fun _ h => h) fun v hv view n => ?_)
    rcases List.mem_cons.mp hv with rfl | hv
    · trivial
    · obtain rfl := List.mem_singleton.mp hv
      trivial
  · exact bare rfl

theorem reserveReal (l : Roll γ) (x : Binary64) : FailsNamelessly (l.reserveReal x) := by
  unfold Roll.reserveReal
  split
  · exact refusedReal _ x
  · exact ok _

theorem create (p : Policy) (capacity : Option Whole) :
    FailsNamelessly (Roll.create p capacity : Except Fault (Roll γ)) := by
  have hslots : ∀ slots, FailsNamelessly (Roll.ofSlots p slots : Except Fault (Roll γ)) :=
    fun slots => (grant p 0 slots).bind fun _ => ok _
  cases capacity with
  | none => exact hslots _
  | some capacity =>
    unfold Roll.create
    dsimp only
    split
    · refine error (Fault.isNameless_of_mentioned nofun fun v hv view n => ?_)
      obtain rfl := List.mem_singleton.mp hv
      trivial
    · exact hslots _

end FailsNamelessly

namespace Act

variable {α β : Type} {view : View} {m n : Nat} {A : Nat → α → Prop} {B : Nat → β → Prop}
  {w w' : World}

/-! ### Acts that agree -/

/-- In these two worlds the act has the same outcome, which is within the view, and leaves matching
worlds. -/
def AgreesFrom (view : View) (A : Nat → α → Prop) (act : Act α) (w w' : World) : Prop :=
  match act.run w, act.run w' with
  | .ok a v, .ok a' v' => a' = a ∧ A v.buffers.size a ∧ v.Matches view w.buffers.size v'
  | .error fault v, .error fault' v' =>
    fault' = fault ∧ fault.Within view v.buffers.size ∧ v.Matches view w.buffers.size v'
  | _, _ => False

/-- In all matching worlds with places for `n` buffers the act agrees. -/
def Agrees (view : View) (n : Nat) (A : Nat → α → Prop) (act : Act α) : Prop :=
  ∀ w w', w.Matches view n w' → act.AgreesFrom view A w w'

/-- Nothing is asked of an answer. -/
def Whatever : Nat → α → Prop := fun _ _ => True

namespace AgreesFrom

theorem pure (h : w.Matches view n w') {a : α} (ha : A w.buffers.size a) :
    AgreesFrom view A (Pure.pure a : Act α) w w' := ⟨rfl, ha, h.full⟩

theorem throw (h : w.Matches view n w') {fault : Fault} (hfault : fault.Within view n) :
    AgreesFrom view A (MonadExcept.throw fault : Act α) w w' :=
  ⟨rfl, hfault.mono h.size_le, h.full⟩

theorem of_ok {act : Act α} {a : α} {v v' : World} (hrun : act.run w = .ok a v)
    (hrun' : act.run w' = .ok a v') (ha : A v.buffers.size a)
    (hv : v.Matches view w.buffers.size v') : act.AgreesFrom view A w w' := by
  unfold AgreesFrom
  rw [hrun, hrun']
  exact ⟨rfl, ha, hv⟩

theorem of_error {act : Act α} {fault : Fault} {v v' : World} (hrun : act.run w = .error fault v)
    (hrun' : act.run w' = .error fault v') (hfault : fault.Within view v.buffers.size)
    (hv : v.Matches view w.buffers.size v') : act.AgreesFrom view A w w' := by
  unfold AgreesFrom
  rw [hrun, hrun']
  exact ⟨rfl, hfault, hv⟩

/-- An act that agrees gives the same answer in both worlds or fails in both for one reason. -/
theorem cases {act : Act α} (h : act.AgreesFrom view A w w') :
    (∃ a v v', act.run w = .ok a v ∧ act.run w' = .ok a v' ∧ A v.buffers.size a ∧
      v.Matches view w.buffers.size v') ∨
    ∃ fault v v', act.run w = .error fault v ∧ act.run w' = .error fault v' ∧
      fault.Within view v.buffers.size ∧ v.Matches view w.buffers.size v' := by
  unfold AgreesFrom at h
  split at h
  · next a v a' v' hrun hrun' =>
    obtain ⟨rfl, ha, hv⟩ := h
    exact .inl ⟨a', v, v', hrun, hrun', ha, hv⟩
  · next fault v fault' v' hrun hrun' =>
    obtain ⟨rfl, hfault, hv⟩ := h
    exact .inr ⟨fault', v, v', hrun, hrun', hfault, hv⟩
  · exact h.elim

/-- If the first part agrees and the second does so after it, the sequence agrees. -/
theorem bind {x : Act β} {f : β → Act α} (hx : x.AgreesFrom view B w w')
    (hf : ∀ b v v', v.Matches view w.buffers.size v' → B v.buffers.size b →
      (f b).AgreesFrom view A v v') : AgreesFrom view A (x >>= f) w w' := by
  rcases hx.cases with ⟨b, v, v', hrun, hrun', hb, hv⟩ | ⟨fault, v, v', hrun, hrun', hfault, hv⟩
  · -- the second part begins in worlds that match, and with more buffers than the first
    rcases (hf b v v' hv hb).cases with
      ⟨a, u, u', hrest, hrest', ha, hu⟩ | ⟨fault, u, u', hrest, hrest', hfault, hu⟩
    · exact .of_ok ((run_bind_ok f hrun).trans hrest) ((run_bind_ok f hrun').trans hrest') ha
        (hu.mono hv.size_le)
    · exact .of_error ((run_bind_ok f hrun).trans hrest) ((run_bind_ok f hrun').trans hrest') hfault
        (hu.mono hv.size_le)
  · exact .of_error (run_bind_error f hrun) (run_bind_error f hrun') hfault hv

theorem get_bind {f : World → Act α} (hsame : f w' = f w) (h : (f w).AgreesFrom view A w w') :
    AgreesFrom view A (get >>= f) w w' := by
  unfold AgreesFrom at h ⊢
  show match (f w).run w, (f w').run w' with
    | .ok a v, .ok a' v' => _
    | .error fault v, .error fault' v' => _
    | _, _ => False
  rw [hsame]
  exact h

theorem ofExcept {outcome : Except Fault α} (hw : w.Matches view n w') (h : FailsNamelessly outcome)
    (hA : ∀ a, outcome = .ok a → A w.buffers.size a) :
    AgreesFrom view A (MonadExcept.ofExcept outcome : Act α) w w' := by
  cases outcome with
  | error fault => exact throw hw (h fault rfl view n)
  | ok a => exact pure hw (hA a rfl)

theorem ofExcept_bind {outcome : Except Fault β} {f : β → Act α} (hw : w.Matches view n w')
    (h : FailsNamelessly outcome) (hf : ∀ b, outcome = .ok b → (f b).AgreesFrom view A w w') :
    AgreesFrom view A (MonadExcept.ofExcept outcome >>= f) w w' := by
  cases outcome with
  | error fault => exact throw hw (h fault rfl view n)
  | ok b => exact hf b rfl

end AgreesFrom

namespace Agrees

/-- What agrees in matching worlds agrees in those with more buffers. -/
theorem of_le {act : Act α} (h : Agrees view m A act) (hle : m ≤ n) : Agrees view n A act :=
  fun w w' hw => h w w' (hw.mono hle)

theorem pure {a : α} (ha : ∀ m, n ≤ m → A m a) : Agrees view n A (Pure.pure a : Act α) :=
  fun _ _ hw => .pure hw (ha _ hw.size_le)

/-- Where nothing is asked of the answer. -/
theorem done (a : α) : Agrees view n Whatever (Pure.pure a : Act α) := pure fun _ _ => trivial

theorem throw {fault : Fault} (h : fault.Within view n) :
    Agrees view n A (MonadExcept.throw fault : Act α) := fun _ _ hw => .throw hw h

/-- A fault that names nothing is within the view. -/
theorem throw_bare {fault : Fault} (h : fault.mentioned ++ fault.facts = []) :
    Agrees view n A (MonadExcept.throw fault : Act α) := throw (Fault.isNameless_of_nil h view n)

theorem ofExcept {outcome : Except Fault α} (h : FailsNamelessly outcome) :
    Agrees view n Whatever (MonadExcept.ofExcept outcome : Act α) :=
  fun _ _ hw => .ofExcept hw h fun _ _ => trivial

theorem bind_of {x : Act β} {f : β → Act α} (hx : Agrees view n B x)
    (hf : ∀ m b, n ≤ m → B m b → Agrees view m A (f b)) : Agrees view n A (x >>= f) :=
  fun w w' hw => (hx w w' hw).bind fun b v v' hv hb =>
    hf v.buffers.size b (Nat.le_trans hw.size_le hv.size_le) hb v v' hv.full

theorem bind {x : Act β} {f : β → Act α} (hx : Agrees view n B x)
    (hf : ∀ b, Agrees view n A (f b)) : Agrees view n A (x >>= f) :=
  hx.bind_of fun _ b hle _ => (hf b).of_le hle

/-- What is read of the world may be used if it is the same in both. -/
theorem get_bind {f : World → Act α} (hsame : ∀ w w', w.Matches view n w' → f w' = f w)
    (hf : ∀ w w', w.Matches view n w' → (f w).AgreesFrom view A w w') :
    Agrees view n A (get >>= f) :=
  fun w w' hw => .get_bind (hsame w w' hw) (hf w w' hw)

theorem roll_bind {r : RollId} {f : Roll BufferId → Act α}
    (hf : ∀ w w', w.Matches view n w' → (f (w.roll r)).AgreesFrom view A w w') :
    Agrees view n A (Act.roll r >>= f) :=
  get_bind (f := fun w => f (w.roll r)) (fun _ _ hw => by rw [hw.roll_eq]) hf

theorem ite {c : Prop} [Decidable c] {x y : Act α} (hx : Agrees view n A x)
    (hy : Agrees view n A y) : Agrees view n A (if c then x else y) := by
  split
  · exact hx
  · exact hy

theorem modify {f : World → World}
    (h : ∀ w w', w.Matches view n w' → (f w).Matches view w.buffers.size (f w')) :
    Agrees view n Whatever (modify f : Act Unit) := fun w w' hw => ⟨rfl, trivial, h w w' hw⟩

theorem mapM {f : β → Act α} {xs : List β} (hf : ∀ x ∈ xs, Agrees view n Whatever (f x)) :
    Agrees view n Whatever (xs.mapM f) := by
  induction xs with
  | nil => exact .done _
  | cons x xs ih =>
    rw [List.mapM_cons]
    exact (hf x List.mem_cons_self).bind fun _ =>
      (ih fun y hy => hf y (List.mem_cons_of_mem _ hy)).bind fun _ => .done _

end Agrees

end Act

end TextRoll
