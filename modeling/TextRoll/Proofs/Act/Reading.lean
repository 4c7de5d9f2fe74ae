/-
TextRoll/Proofs/Act/Reading.lean

Acts that only read.

`Act.Reads P act` says that `act`, run in any well-formed world, leaves the world
undisturbed whether it fails or not, and that it only fails with faults in `P`.  Reading
the elements of rolls, comparing values and looking for one among others never fails
for having met an empty or a missing slot (`Fault.IsRegular`).  Walks are the exception:
a walk may outlive the elements it was to hand out, so of acts that move walks on the
faults are left open.

Acts that only read are closed under sequencing (`Reads.bind`), and all of them are put
together from reading one text (`run_built`) and reading the texts of a roll
(`run_textsOf`), whose outcomes are given exactly.
-/
import TextRoll.Iteration
import TextRoll.Proofs.Act.Comparing
import TextRoll.Proofs.World.Undisturbed

namespace TextRoll

/-- Whether a fault is that of a slot which is empty, does not exist or cannot be counted to. -/
def Fault.isBareSlot : Fault → Bool
  | .emptySlot _ | .missingSlot | .indexOverflow => true
  | _ => false

/-- The fault is not that of a bare slot. -/
def Fault.IsRegular (fault : Fault) : Prop := fault.isBareSlot = false

namespace Act

variable {α β : Type} {w : World} {P P' : Fault → Prop}

/-! ### Sequencing -/

section Sequencing

variable {x : Act β} {f : β → Act α} {b : β} {a : α} {fault : Fault} {w' w'' : World}

theorem run_bind_ok (f : β → Act α) (h : x.run w = .ok b w') :
    (x >>= f).run w = (f b).run w' := by
  rw [EStateM.run_bind, h]

theorem run_bind_error (f : β → Act α) (h : x.run w = .error fault w') :
    (x >>= f).run w = .error fault w' := by
  rw [EStateM.run_bind, h]

/-- If a sequence succeeds, so do both of its parts. -/
theorem bind_eq_ok (h : (x >>= f).run w = .ok a w'') :
    ∃ b w', x.run w = .ok b w' ∧ (f b).run w' = .ok a w'' := by
  cases hx : x.run w with
  | ok b w' => exact ⟨b, w', rfl, (run_bind_ok f hx).symm.trans h⟩
  | error fault w' => cases (run_bind_error f hx).symm.trans h

/-- If a sequence fails, the first part does, or else the second. -/
theorem bind_eq_error (h : (x >>= f).run w = .error fault w'') :
    x.run w = .error fault w'' ∨
      ∃ b w', x.run w = .ok b w' ∧ (f b).run w' = .error fault w'' := by
  cases hx : x.run w with
  | ok b w' => exact .inr ⟨b, w', rfl, (run_bind_ok f hx).symm.trans h⟩
  | error fault' w' =>
    cases (run_bind_error f hx).symm.trans h
    exact .inl rfl

end Sequencing

/-! ### Outcomes -/

/-- From this world the act only reads, and what can go wrong with it is of a certain kind. -/
def ReadsFrom (act : Act α) (w : World) (P : Fault → Prop) : Prop :=
  match act.run w with
  | .ok _ w' => w.Undisturbed w'
  | .error fault w' => w.Undisturbed w' ∧ P fault

/-- From any well-formed world the act only reads, and fails in certain ways only. -/
def Reads (P : Fault → Prop) (act : Act α) : Prop := ∀ w, w.WellFormed → act.ReadsFrom w P

namespace ReadsFrom

variable {act : Act α} {w' : World} {a : α} {fault : Fault}

theorem of_ok (hrun : act.run w = .ok a w') (h : w.Undisturbed w') : act.ReadsFrom w P := by
  unfold ReadsFrom
  rw [hrun]
  exact h

theorem of_error (hrun : act.run w = .error fault w') (h : w.Undisturbed w') (hP : P fault) :
    act.ReadsFrom w P := by
  unfold ReadsFrom
  rw [hrun]
  exact ⟨h, hP⟩

/-- What an act that only reads leaves when it succeeds. -/
theorem ok (h : act.ReadsFrom w P) (hrun : act.run w = .ok a w') : w.Undisturbed w' := by
  unfold ReadsFrom at h
  rwa [hrun] at h

/-- What an act that only reads leaves when it fails, and what it fails with. -/
theorem error (h : act.ReadsFrom w P) (hrun : act.run w = .error fault w') :
    w.Undisturbed w' ∧ P fault := by
  unfold ReadsFrom at h
  rwa [hrun] at h

theorem mono (h : act.ReadsFrom w P) (hP : ∀ fault, P fault → P' fault) :
    act.ReadsFrom w P' := by
  cases hrun : act.run w with
  | ok a w' => exact .of_ok hrun (h.ok hrun)
  | error fault w' =>
    obtain ⟨hread, hfault⟩ := h.error hrun
    exact .of_error hrun hread (hP fault hfault)

theorem pure (a : α) : ReadsFrom (Pure.pure a : Act α) w P := World.Undisturbed.refl w

theorem throw (h : P fault) : ReadsFrom (MonadExcept.throw fault : Act α) w P :=
  ⟨World.Undisturbed.refl w, h⟩

theorem ofExcept {outcome : Except Fault α} (h : ∀ fault, outcome = .error fault → P fault) :
    ReadsFrom (MonadExcept.ofExcept outcome : Act α) w P := by
  cases outcome with
  | ok a => exact pure a
  | error fault => exact throw (h fault rfl)

theorem modify {f : World → World} (h : w.Undisturbed (f w)) :
    ReadsFrom (modify f : Act Unit) w P := h

/-- Sequencing: what comes later starts from a world that is still undisturbed. -/
theorem bind {x : Act β} {f : β → Act α} (hx : x.ReadsFrom w P)
    (hf : ∀ b w', w.Undisturbed w' → (f b).ReadsFrom w' P) : (x >>= f).ReadsFrom w P := by
  cases hrun : (x >>= f).run w with
  | ok a w'' =>
    obtain ⟨b, w', hfirst, hrest⟩ := bind_eq_ok hrun
    have hread := hx.ok hfirst
    exact .of_ok hrun (hread.trans ((hf b w' hread).ok hrest))
  | error fault w'' =>
    obtain hfirst | ⟨b, w', hfirst, hrest⟩ := bind_eq_error hrun
    · obtain ⟨hread, hfault⟩ := hx.error hfirst
      exact .of_error hrun hread hfault
    · have hread := hx.ok hfirst
      obtain ⟨hread', hfault⟩ := (hf b w' hread).error hrest
      exact .of_error hrun (hread.trans hread') hfault

end ReadsFrom

namespace Reads

theorem mono {act : Act α} (h : Reads P act) (hP : ∀ fault, P fault → P' fault) :
    Reads P' act := fun w hw => (h w hw).mono hP

theorem pure (a : α) : Reads P (Pure.pure a : Act α) := fun _ _ => .pure a

theorem throw {fault : Fault} (h : P fault) : Reads P (MonadExcept.throw fault : Act α) :=
  fun _ _ => .throw h

theorem ofExcept {outcome : Except Fault α} (h : ∀ fault, outcome = .error fault → P fault) :
    Reads P (MonadExcept.ofExcept outcome : Act α) := fun _ _ => .ofExcept h

theorem modify {f : World → World} (h : ∀ w, World.Undisturbed w (f w)) :
    Reads P (modify f : Act Unit) := fun w _ => .modify (h w)

theorem bind {x : Act β} {f : β → Act α} (hx : Reads P x) (hf : ∀ b, Reads P (f b)) :
    Reads P (x >>= f) :=
  fun w hw => (hx w hw).bind fun b w' hu => hf b w' (hu.wellFormed hw)

/-- Looking at the world changes nothing; what is looked at may be used. -/
theorem get_bind {f : World → Act α} (hf : ∀ v, World.WellFormed v → (f v).ReadsFrom v P) :
    Reads P (get >>= f) := fun w hw => hf w hw

theorem roll_bind {r : RollId} {f : Roll BufferId → Act α} (hf : ∀ l, Reads P (f l)) :
    Reads P (Act.roll r >>= f) := fun w hw => hf (w.roll r) w hw

theorem ite {c : Prop} [Decidable c] {x y : Act α} (hx : Reads P x) (hy : Reads P y) :
    Reads P (if c then x else y) := by
  split
  · exact hx
  · exact hy

end Reads

/-! ### Reading texts -/

/-- Building a text leaves the buffer collapsed. -/
theorem run_built (b : BufferId) (w : World) : (built b).run w = .ok (w.built b) (w.collapse b) :=
  rfl

/-- Reading several slots in turn reads what was there before any of them was read. -/
theorem run_mapM_built {l : Roll BufferId} {wanted : String} {slots : List Nat}
    {place : Nat → BufferId} (h : ∀ i ∈ slots, l.stored wanted i = .ok (place i)) (w : World) :
    (slots.mapM fun i => do built (← ofExcept (l.stored wanted i))).run w
      = .ok ((slots.map place).map w.built) (w.collapseAll (slots.map place)) := by
  induction slots generalizing w with
  | nil => rfl
  | cons i rest ih =>
    have hrest := ih (fun j hj => h j (by simp [hj])) (w.collapse (place i))
    have hsame : (w.collapse (place i)).built = w.built :=
      funext (w.undisturbed_collapse (place i)).built_eq
    rw [hsame] at hrest
    have hhead : EStateM.run (do built (← ofExcept (l.stored wanted i))) w
        = .ok (w.built (place i)) (w.collapse (place i)) := by
      rw [h i (by simp)]
      rfl
    rw [List.mapM_cons, EStateM.run_bind, hhead]
    dsimp only
    rw [EStateM.run_bind, hrest]
    rfl

/-- **The texts of a well-formed roll can always be read.** -/
theorem run_textsOf {r : RollId} (hr : (w.roll r).WellFormed) (wanted : String) :
    (textsOf r wanted).run w
      = .ok ((w.elements r).map w.built) (w.collapseAll (w.elements r)) := by
  have hlay := hr.layout
  have hlen : (w.roll r).length = (w.elements r).length := hlay.length_eq
  have hplaces : (List.range (w.roll r).length).map (fun i => (w.elements r).getD i ⟨0⟩)
      = w.elements r := by
    apply List.ext_getElem
    · simp [hlen]
    · intro i hi hi'
      simp [hi']
  have hstored : ∀ i ∈ List.range (w.roll r).length,
      (w.roll r).stored wanted i = .ok ((w.elements r).getD i ⟨0⟩) := by
    intro i hi
    have hi' : i < (w.elements r).length := hlen ▸ List.mem_range.mp hi
    rw [hlay.stored_eq wanted hi']
    simp [hi']
    rfl
  have hrun := run_mapM_built hstored w
  rw [hplaces] at hrun
  exact hrun

theorem run_texts {r : RollId} (hr : (w.roll r).WellFormed) :
    (texts r).run w = .ok (w.texts r) (w.collapseAll (w.elements r)) := by
  unfold texts
  rw [EStateM.run_bind, run_textsOf hr]
  show EStateM.Result.ok (((w.elements r).map w.built).map Text.content) _ = _
  rw [List.map_map]
  rfl

theorem reads_built (b : BufferId) : Reads P (built b) := fun w _ => w.undisturbed_collapse b

theorem reads_textOf (b : BufferId) : Reads P (textOf b) := fun w _ => w.undisturbed_collapse b

theorem reads_textsOf (r : RollId) (wanted : String) : Reads P (textsOf r wanted) := by
  intro w hw
  exact .of_ok (run_textsOf (hw r) wanted) (w.undisturbed_collapseAll _)

theorem reads_texts (r : RollId) : Reads P (texts r) :=
  (reads_textsOf r "build").bind fun _ => .pure _

/-! ### Comparing -/

theorem reads_offer (v u : Value) : Reads P (offer v u) := by
  unfold offer
  split
  · exact (reads_textOf _).bind fun _ => (reads_textOf _).bind fun _ => .pure _
  · exact (reads_textOf _).bind fun _ => .pure _
  · exact .pure _
  · exact .pure _
  · exact (reads_texts _).bind fun _ => (reads_texts _).bind fun _ => .pure _
  · exact (reads_texts _).bind fun _ => (reads_texts _).bind fun _ => .pure _
  · exact (reads_texts _).bind fun _ => (reads_texts _).bind fun _ => .pure _
  · exact .get_bind fun _ _ => .pure _
  · exact .get_bind fun _ _ => .pure _
  · exact .get_bind fun _ _ => .pure _
  · exact .get_bind fun _ _ => .pure _
  · exact .pure _

theorem reads_agreeByOffer (v u : Value) : Reads P (agreeByOffer v u) := by
  refine (reads_offer v u).bind fun mine => ?_
  cases mine with
  | some answer => exact .pure _
  | none =>
    refine (reads_offer u v).bind fun theirs => ?_
    cases theirs with
    | some answer => exact .pure _
    | none =>
      dsimp only
      split <;> exact .pure _

theorem comparedBy_reads : ComparedBy (fun _ => True) (Reads P) where
  parts := Value.partsAre_true
  done := .pure
  andThen hx hy := hx.bind fun _ => .ite hy (.pure _)
  byOffer _ _ := reads_agreeByOffer _ _
  tallies _ _ _ hf :=
    .get_bind fun v hv => (Reads.get_bind fun v' hv' => hf _ _ v' hv') v hv

theorem reads_agree (v u : Value) : Reads P (agree v u) :=
  comparedBy_reads.agree v u trivial trivial

theorem reads_equal (v u : Value) : Reads P (equal v u) := by
  unfold equal
  split
  · exact .pure _
  · exact reads_agree v u

/-! ### Walking -/

theorem reads_setWalk (k : WalkId) (x : Walk) : Reads P (setWalk k x) :=
  .modify fun w => w.undisturbed_setWalk k x

theorem reads_finishWalk (k : WalkId) : Reads P (modify (·.finishWalk k)) :=
  .modify fun w => w.undisturbed_setWalk k _

variable {Any : Fault → Prop} (hAny : ∀ fault, Any fault)
include hAny

theorem reads_takeTurn (k : WalkId) (r : RollId) (turn bound : Nat) :
    Reads Any (takeTurn k r turn bound) := by
  refine (reads_setWalk k _).bind fun _ => ?_
  refine .ite (Reads.bind (.throw (hAny _)) fun _ => ?_) ?_ <;>
  · refine .roll_bind fun l => Reads.bind (.ofExcept fun fault _ => hAny fault) fun b => ?_
    exact (reads_built b).bind fun _ => (reads_setWalk k _).bind fun _ => .pure _

theorem reads_takeGrowth (k : WalkId) (t : TallyId) (turn : Nat) :
    Reads Any (takeGrowth k t turn) := by
  refine .get_bind fun v hv => ?_
  refine Reads.ite ((reads_setWalk k _).bind fun _ => .pure _) ?_ v hv
  exact (reads_setWalk k _).bind fun _ => .throw (hAny _)

theorem reads_next (k : WalkId) : Reads Any (next k) := by
  refine .get_bind fun v hv => ?_
  split
  · exact (Reads.roll_bind fun _ => reads_takeTurn hAny _ _ _ _) v hv
  · exact reads_takeTurn hAny _ _ _ _ v hv
  · exact .throw (hAny _)
  · exact reads_takeGrowth hAny _ _ _ v hv
  · exact .throw (hAny _)
  · exact .throw (hAny _)
  · exact ((reads_setWalk k _).bind fun _ => .pure _) v hv
  · exact .throw (hAny _)
  · exact ((reads_setWalk k _).bind fun _ => .pure _) v hv

theorem reads_drainCount (k : WalkId) (count : Nat) : Reads Any (drainCount k count) := by
  induction count with
  | zero => exact (reads_finishWalk k).bind fun _ => .pure _
  | succ count ih => exact (reads_next hAny k).bind fun _ => ih.bind fun _ => .pure _

theorem reads_walkUntil (k : WalkId) (v : Value) (count : Nat) :
    Reads Any (walkUntil k v count) := by
  induction count with
  | zero => exact (reads_finishWalk k).bind fun _ => .pure _
  | succ count ih =>
    refine (reads_next hAny k).bind fun x => Reads.bind ?_ fun _ => .ite (.pure _) ih
    cases x with
    | value u => exact reads_agree u v
    | copy text =>
      unfold itemAgrees
      dsimp only
      split
      · exact (reads_textOf _).bind fun _ => .pure _
      · exact .pure _
      · exact .pure _

theorem reads_drain (k : WalkId) : Reads Any (drain k) :=
  .get_bind fun v hv => reads_drainCount hAny k _ v hv

omit hAny

/-! ### Elements and membership -/

theorem textContains_error {s : String} {sought : Value} {fault : Fault}
    (h : textContains s sought = .error fault) : fault.IsRegular := by
  unfold textContains at h
  split at h <;> cases h
  rfl

theorem bytesContain_error {octets : List Nat} {sought : Value} {fault : Fault}
    (h : bytesContain octets sought = .error fault) : fault.IsRegular := by
  unfold bytesContain at h
  split at h
  · cases h
  · split at h <;> cases h
    rfl
  · cases h
    rfl

theorem recordContains_error {entries : List (String × Value)} {sought : Value} {fault : Fault}
    (h : recordContains entries sought = .error fault) : fault.IsRegular := by
  unfold recordContains at h
  split at h <;> cases h
  rfl

variable {v : Value} (hregular : ∀ fault : Fault, fault.IsRegular → P fault)
  (hwalk : ∀ k, v = .walk k → ∀ fault, P fault)
include hregular hwalk

/-- Only a walk can meet a bare slot when it is asked for its elements. -/
theorem reads_elements : Reads P (elements v) := by
  unfold elements
  split
  · exact (reads_textsOf _ _).bind fun _ => .pure _
  · exact (reads_textsOf _ _).bind fun _ => .pure _
  · exact reads_drain (hwalk _ rfl) _
  · refine .get_bind fun u hu => ?_
    split
    · exact .pure _
    · exact .throw (hregular _ rfl)

omit hwalk in
/-- A walk that begins reads its elements at once or not at all. -/
theorem reads_startWalk (v : Value) : Reads P (startWalk v) := by
  unfold startWalk
  split
  · exact .pure _
  · exact (reads_textsOf _ _).bind fun _ => .pure _
  · exact .pure _
  · exact .pure _
  · refine .get_bind fun u hu => ?_
    split
    · exact .pure _
    · exact .throw (hregular _ rfl)

omit hregular hwalk in
theorem reads_rollContains (r : RollId) (sought : Value) : Reads P (rollContains r sought) := by
  unfold rollContains
  split
  · exact (reads_textOf _).bind fun _ => (reads_texts r).bind fun _ => .pure _
  · exact (reads_texts r).bind fun _ => .pure _
  · exact .pure _

omit hregular hwalk in
theorem reads_anyAgrees (sought : Value) (vs : List Value) : Reads P (anyAgrees sought vs) := by
  induction vs with
  | nil => exact .pure _
  | cons u us ih => exact (reads_agree u sought).bind fun _ => .ite (.pure _) ih

/-- Only a walk can meet a bare slot when something is looked for in it. -/
theorem reads_contains (sought : Value) : Reads P (contains sought v) := by
  unfold contains
  split
  · exact reads_rollContains _ _
  · exact reads_rollContains _ _
  · exact .get_bind fun u hu => reads_walkUntil (hwalk _ rfl) _ _ _ u hu
  · exact .ofExcept fun fault h => hregular fault (textContains_error h)
  · exact .ofExcept fun fault h => hregular fault (bytesContain_error h)
  · exact .ofExcept fun fault h => hregular fault (recordContains_error h)
  · refine .get_bind fun u hu => ?_
    split
    · exact reads_anyAgrees _ _ u hu
    · exact .throw (hregular _ rfl)

end Act

end TextRoll
