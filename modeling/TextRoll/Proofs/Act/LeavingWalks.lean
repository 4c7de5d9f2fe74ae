/-
TextRoll/Proofs/Act/LeavingWalks.lean

Which requests move a walk on.

`Act.LeavesWalk k act` says that `act` leaves the walk `k` where it is, whether or not it succeeds.
Such acts are closed under sequencing (`LeavesWalk.bind`), and whatever does not write to the walk
itself is one of them.

A walk can be asked for its next element, for all that is left of it, and whether something is among
what is left; and a buffer can be extended by all that is left of it.  These requests move it on
(`Act.movesWalk`), and no others do (`leavesWalk_ask`, `leavesWalk_serve`).
-/
import TextRoll.Proofs.Act.Sparing
import TextRoll.Request

namespace TextRoll

namespace World

variable {w w' w'' : World} {k k' : WalkId}

/-- A walk that has a place keeps it, and does not move on. -/
def LeavesWalk (w : World) (k : WalkId) (w' : World) : Prop :=
  k.index < w.walks.size → k.index < w'.walks.size ∧ w'.walk k = w.walk k

theorem LeavesWalk.refl (w : World) (k : WalkId) : w.LeavesWalk k w := fun hk => ⟨hk, rfl⟩

theorem LeavesWalk.trans (h : w.LeavesWalk k w') (h' : w'.LeavesWalk k w'') :
    w.LeavesWalk k w'' := by
  intro hk
  obtain ⟨hk', hwalk⟩ := h hk
  obtain ⟨hk'', hwalk'⟩ := h' hk'
  exact ⟨hk'', hwalk'.trans hwalk⟩

/-- Only the walks matter. -/
theorem leavesWalk_of_walks_eq (h : w'.walks = w.walks) : w.LeavesWalk k w' := by
  intro hk
  unfold walk
  rw [h]
  exact ⟨hk, rfl⟩

theorem leavesWalk_setWalk (h : k'.index ≠ k.index) (w : World) (x : Walk) :
    w.LeavesWalk k (w.setWalk k' x) := by
  intro hk
  refine ⟨?_, w.walks.get_put_of_ne x h.symm⟩
  show _ < (w.walks.put k'.index x).size
  rw [Arena.size_put_eq_max]
  exact Nat.lt_of_lt_of_le hk (Nat.le_max_left _ _)

/-- A new walk has a place of its own. -/
theorem leavesWalk_addWalk (w : World) (x : Walk) : w.LeavesWalk k (w.addWalk x).2 := by
  intro hk
  refine ⟨?_, w.walks.get_issue_of_ne x (Nat.ne_of_lt hk)⟩
  show _ < (w.walks.issue x).size
  rw [Arena.size_issue]
  exact Nat.lt_succ_of_lt hk

@[simp] theorem walks_recorded (w : World) (growth : Option Growth) :
    (w.recorded growth).walks = w.walks := by
  cases growth with
  | none => rfl
  | some g =>
    show (w.recordGrowth g).walks = _
    unfold recordGrowth
    split <;> rfl

@[simp] theorem walks_refused (w : World) (fault : Fault) :
    (w.refused fault).walks = w.walks := by
  unfold refused
  split <;> rfl

/-- Keeping an answer moves no walk on. -/
theorem walks_adoptItems (w : World) (xs : List Item) : (w.adoptItems xs).2.walks = w.walks := by
  induction xs generalizing w with
  | nil => rfl
  | cons x xs ih =>
    refine (ih (w.adoptItem x).2).trans ?_
    cases x <;> rfl

theorem leavesWalk_adopt (w : World) (k : WalkId) (asked : Value) (answer : Answer) :
    w.LeavesWalk k (w.adopt asked answer).2 := by
  cases answer with
  | itself => exact .refl w k
  | item x => cases x <;> exact leavesWalk_of_walks_eq rfl
  | items xs => exact leavesWalk_of_walks_eq (w.walks_adoptItems xs)
  | draft d =>
    cases d with
    | walk x => exact w.leavesWalk_addWalk x
    | roll | guardedRoll | tally => exact leavesWalk_of_walks_eq rfl

end World

namespace Act

variable {α β : Type} {k k' : WalkId} {r : RollId} {asked v u : Value} {verb : Verb}
  {args : List Value}

/-- The act leaves the walk where it is. -/
def LeavesWalk (k : WalkId) (act : Act α) : Prop :=
  ∀ w, match act.run w with
    | .ok _ w' | .error _ w' => w.LeavesWalk k w'

namespace LeavesWalk

theorem ok {act : Act α} (h : LeavesWalk k act) {w w' : World} {a : α}
    (hrun : act.run w = .ok a w') : w.LeavesWalk k w' := by
  have hw := h w
  rwa [hrun] at hw

theorem error {act : Act α} (h : LeavesWalk k act) {w w' : World} {fault : Fault}
    (hrun : act.run w = .error fault w') : w.LeavesWalk k w' := by
  have hw := h w
  rwa [hrun] at hw

theorem pure (a : α) : LeavesWalk k (Pure.pure a : Act α) := fun w => .refl w k

theorem throw (fault : Fault) : LeavesWalk k (MonadExcept.throw fault : Act α) :=
  fun w => .refl w k

theorem ofExcept (outcome : Except Fault α) :
    LeavesWalk k (MonadExcept.ofExcept outcome : Act α) := by
  cases outcome with
  | ok a => exact pure a
  | error fault => exact throw fault

theorem modify {f : World → World} (h : ∀ w, World.LeavesWalk w k (f w)) :
    LeavesWalk k (modify f : Act Unit) := h

theorem bind {x : Act β} {f : β → Act α} (hx : LeavesWalk k x) (hf : ∀ b, LeavesWalk k (f b)) :
    LeavesWalk k (x >>= f) := by
  intro w
  rw [EStateM.run_bind]
  cases hrun : x.run w with
  | error fault w' => exact hx.error hrun
  | ok b w' =>
    dsimp only
    cases hrest : (f b).run w' with
    | error fault w'' => exact (hx.ok hrun).trans ((hf b).error hrest)
    | ok a w'' => exact (hx.ok hrun).trans ((hf b).ok hrest)

theorem get_bind {f : World → Act α} (hf : ∀ w, LeavesWalk k (f w)) :
    LeavesWalk k (get >>= f) := fun w => hf w w

theorem roll_bind {f : Roll BufferId → Act α} (hf : ∀ l, LeavesWalk k (f l)) :
    LeavesWalk k (Act.roll r >>= f) := fun w => hf (w.roll r) w

theorem ofExcept_bind {outcome : Except Fault β} {f : β → Act α}
    (hf : ∀ b, LeavesWalk k (f b)) : LeavesWalk k (MonadExcept.ofExcept outcome >>= f) :=
  bind (ofExcept outcome) hf

theorem ite {c : Prop} [Decidable c] {x y : Act α} (hx : LeavesWalk k x) (hy : LeavesWalk k y) :
    LeavesWalk k (if c then x else y) := by
  split
  · exact hx
  · exact hy

theorem mapM {f : β → Act α} (hf : ∀ x, LeavesWalk k (f x)) (xs : List β) :
    LeavesWalk k (xs.mapM f) := by
  induction xs with
  | nil => exact pure _
  | cons x xs ih =>
    rw [List.mapM_cons]
    exact (hf x).bind fun _ => ih.bind fun _ => pure _

/-- An act whose run is known leaves all walks if no outcome of it touches them. -/
theorem of_walks_eq {act : Act α}
    (h : ∀ w, match act.run w with
      | .ok _ w' | .error _ w' => w'.walks = w.walks) : LeavesWalk k act := by
  intro w
  have hw := h w
  cases hrun : act.run w with
  | ok a w' =>
    rw [hrun] at hw
    exact World.leavesWalk_of_walks_eq hw
  | error fault w' =>
    rw [hrun] at hw
    exact World.leavesWalk_of_walks_eq hw

end LeavesWalk

/-! ### Reading and comparing -/

theorem leavesWalk_editBuffer (b : BufferId) (edit : Buffer → Buffer) :
    LeavesWalk k (editBuffer b edit) := .modify fun _ => World.leavesWalk_of_walks_eq rfl

theorem leavesWalk_setRoll (r : RollId) (l : Roll BufferId) : LeavesWalk k (setRoll r l) :=
  .modify fun _ => World.leavesWalk_of_walks_eq rfl

theorem leavesWalk_built (b : BufferId) : LeavesWalk k (built b) :=
  .get_bind fun _ => (leavesWalk_editBuffer b _).bind fun _ => .pure _

theorem leavesWalk_textOf (b : BufferId) : LeavesWalk k (textOf b) :=
  (leavesWalk_built b).bind fun _ => .pure _

theorem leavesWalk_textsOf (r : RollId) (wanted : String) : LeavesWalk k (textsOf r wanted) :=
  .roll_bind fun _ => .mapM (fun _ => .ofExcept_bind fun b => leavesWalk_built b) _

theorem leavesWalk_texts (r : RollId) : LeavesWalk k (texts r) :=
  (leavesWalk_textsOf r "build").bind fun _ => .pure _

theorem leavesWalk_offer (v u : Value) : LeavesWalk k (offer v u) := by
  unfold offer
  split
  · exact (leavesWalk_textOf _).bind fun _ => (leavesWalk_textOf _).bind fun _ => .pure _
  · exact (leavesWalk_textOf _).bind fun _ => .pure _
  · exact .pure _
  · exact .pure _
  · exact (leavesWalk_texts _).bind fun _ => (leavesWalk_texts _).bind fun _ => .pure _
  · exact (leavesWalk_texts _).bind fun _ => (leavesWalk_texts _).bind fun _ => .pure _
  · exact (leavesWalk_texts _).bind fun _ => (leavesWalk_texts _).bind fun _ => .pure _
  · exact .get_bind fun _ => .pure _
  · exact .get_bind fun _ => .pure _
  · exact .get_bind fun _ => .pure _
  · exact .get_bind fun _ => .pure _
  · exact .pure _

theorem leavesWalk_agreeByOffer (v u : Value) : LeavesWalk k (agreeByOffer v u) := by
  refine (leavesWalk_offer v u).bind fun mine => ?_
  cases mine with
  | some answer => exact .pure _
  | none =>
    refine (leavesWalk_offer u v).bind fun theirs => ?_
    cases theirs with
    | some answer => exact .pure _
    | none =>
      dsimp only
      split <;> exact .pure _

theorem comparedBy_leavesWalk : ComparedBy (fun _ => True) (LeavesWalk k) where
  parts := Value.partsAre_true
  done := .pure
  andThen hx hy := hx.bind fun _ => .ite hy (.pure _)
  byOffer _ _ := leavesWalk_agreeByOffer _ _
  tallies _ _ _ hf := .get_bind fun _ => .get_bind fun _ => hf _ _

theorem leavesWalk_agree (v u : Value) : LeavesWalk k (agree v u) :=
  comparedBy_leavesWalk.agree v u trivial trivial

theorem leavesWalk_equal (v u : Value) : LeavesWalk k (equal v u) := by
  unfold equal
  split
  · exact .pure _
  · exact leavesWalk_agree v u

/-! ### Other walks -/

section OtherWalks

variable (hk : k'.index ≠ k.index)
include hk

theorem leavesWalk_setWalk (x : Walk) : LeavesWalk k (setWalk k' x) :=
  .modify fun w => w.leavesWalk_setWalk hk x

theorem leavesWalk_finishWalk : LeavesWalk k (modify (·.finishWalk k') : Act Unit) :=
  .modify fun w => w.leavesWalk_setWalk hk _

theorem leavesWalk_takeTurn (r : RollId) (turn bound : Nat) :
    LeavesWalk k (takeTurn k' r turn bound) := by
  refine (leavesWalk_setWalk hk _).bind fun _ => .ite ((LeavesWalk.throw _).bind fun _ => ?_) ?_ <;>
  · refine .roll_bind fun l => .ofExcept_bind fun b => (leavesWalk_built b).bind fun _ => ?_
    exact (leavesWalk_setWalk hk _).bind fun _ => .pure _

theorem leavesWalk_takeGrowth (t : TallyId) (turn : Nat) :
    LeavesWalk k (takeGrowth k' t turn) := by
  refine .get_bind fun w => .ite ((leavesWalk_setWalk hk _).bind fun _ => .pure _) ?_
  exact (leavesWalk_setWalk hk _).bind fun _ => .throw _

theorem leavesWalk_next : LeavesWalk k (next k') := by
  refine .get_bind fun w => ?_
  split
  · exact .roll_bind fun _ => leavesWalk_takeTurn hk _ _ _
  · exact leavesWalk_takeTurn hk _ _ _
  · exact .throw _
  · exact leavesWalk_takeGrowth hk _ _
  · exact .throw _
  · exact .throw _
  · exact (leavesWalk_setWalk hk _).bind fun _ => .pure _
  · exact .throw _
  · exact (leavesWalk_setWalk hk _).bind fun _ => .pure _

theorem leavesWalk_drainCount (count : Nat) : LeavesWalk k (drainCount k' count) := by
  induction count with
  | zero => exact (leavesWalk_finishWalk hk).bind fun _ => .pure _
  | succ count ih => exact (leavesWalk_next hk).bind fun _ => ih.bind fun _ => .pure _

omit hk in
theorem leavesWalk_itemAgrees (x : Item) (v : Value) : LeavesWalk k (itemAgrees x v) := by
  cases x with
  | value u => exact leavesWalk_agree u v
  | copy text =>
    unfold itemAgrees
    dsimp only
    split
    · exact (leavesWalk_textOf _).bind fun _ => .pure _
    · exact .pure _
    · exact .pure _

theorem leavesWalk_walkUntil (v : Value) (count : Nat) : LeavesWalk k (walkUntil k' v count) := by
  induction count with
  | zero => exact (leavesWalk_finishWalk hk).bind fun _ => .pure _
  | succ count ih =>
    exact (leavesWalk_next hk).bind fun x =>
      (leavesWalk_itemAgrees x v).bind fun _ => .ite (.pure _) ih

end OtherWalks

/-! ### Elements and membership -/

theorem leavesWalk_elements (h : ∀ k', v = .walk k' → k'.index ≠ k.index) :
    LeavesWalk k (elements v) := by
  unfold elements
  split
  · exact (leavesWalk_textsOf _ _).bind fun _ => .pure _
  · exact (leavesWalk_textsOf _ _).bind fun _ => .pure _
  · exact .get_bind fun _ => leavesWalk_drainCount (h _ rfl) _
  · refine .get_bind fun w => ?_
    split
    · exact .pure _
    · exact .throw _

theorem leavesWalk_startWalk (v : Value) : LeavesWalk k (startWalk v) := by
  unfold startWalk
  split
  · exact .pure _
  · exact (leavesWalk_textsOf _ _).bind fun _ => .pure _
  · exact .pure _
  · exact .pure _
  · refine .get_bind fun w => ?_
    split
    · exact .pure _
    · exact .throw _

theorem leavesWalk_rollContains (r : RollId) (sought : Value) :
    LeavesWalk k (rollContains r sought) := by
  unfold rollContains
  split
  · exact (leavesWalk_textOf _).bind fun _ => (leavesWalk_texts r).bind fun _ => .pure _
  · exact (leavesWalk_texts r).bind fun _ => .pure _
  · exact .pure _

theorem leavesWalk_anyAgrees (sought : Value) (vs : List Value) :
    LeavesWalk k (anyAgrees sought vs) := by
  induction vs with
  | nil => exact .pure _
  | cons u us ih => exact (leavesWalk_agree u sought).bind fun _ => .ite (.pure _) ih

theorem leavesWalk_contains (h : ∀ k', u = .walk k' → k'.index ≠ k.index) (sought : Value) :
    LeavesWalk k (contains sought u) := by
  unfold contains
  split
  · exact leavesWalk_rollContains _ _
  · exact leavesWalk_rollContains _ _
  · exact .get_bind fun _ => leavesWalk_walkUntil (h _ rfl) _ _
  · exact .ofExcept _
  · exact .ofExcept _
  · exact .ofExcept _
  · refine .get_bind fun w => ?_
    split
    · exact leavesWalk_anyAgrees _ _
    · exact .throw _

/-! ### Requests -/

/-- Whether a request moves a walk on: it is asked for its next element, for all that is left or
whether something is left, or a buffer is extended by what is left. -/
def movesWalk (k : WalkId) : Value → Verb → List Value → Bool
  | .walk k', .next, [] | .walk k', .elements, [] | .walk k', .contains, [_] => k'.index == k.index
  | .buffer _, .extend, [.walk k'] => k'.index == k.index
  | _, _, _ => false

theorem leavesWalk_formOf (form : World → Value → String) (v : Value) :
    LeavesWalk k (formOf form v) := .get_bind fun _ => .ite (.pure _) (.throw _)

/-- **What makes sense for values of many kinds** moves a walk on only if it is asked to. -/
theorem leavesWalk_askGeneral (h : movesWalk k asked verb args = false) :
    LeavesWalk k (askGeneral asked verb args) := by
  unfold askGeneral
  split
  · exact .get_bind fun _ => .ofExcept_bind fun _ => .pure _
  · unfold truthOf
    split
    · exact .pure _
    · exact .get_bind fun _ => .pure _
  · unfold writtenOf
    split
    · exact .pure _
    · exact leavesWalk_formOf _ _
  · exact leavesWalk_formOf _ _
  · exact .throw _
  · refine (leavesWalk_elements fun k' hasked => ?_).bind fun _ => .pure _
    subst hasked
    simpa [movesWalk] using h
  · refine (leavesWalk_contains (fun k' hasked => ?_) _).bind fun _ => .pure _
    subst hasked
    simpa [movesWalk] using h
  · exact leavesWalk_startWalk _
  · unfold nextOf
    split
    · exact (leavesWalk_next (by simpa [movesWalk] using h)).bind fun _ => .pure _
    · exact .throw _
  · exact .throw _
  · exact .throw _

theorem leavesWalk_granted (outcome : Except Fault α) : LeavesWalk k (granted outcome) := by
  refine .of_walks_eq fun w => ?_
  rw [run_granted]
  cases outcome with
  | ok a => rfl
  | error fault => exact w.walks_refused fault

theorem leavesWalk_appendText (r : RollId) (text : Text) : LeavesWalk k (appendText r text) := by
  refine .of_walks_eq fun w => ?_
  rw [run_appendText]
  cases (w.roll r).append w.freeBuffer with
  | ok outcome => exact w.walks_recorded outcome.2
  | error fault => exact w.walks_refused fault

theorem leavesWalk_reserve (r : RollId) (capacity : Whole) (mark : Mark) :
    LeavesWalk k (reserve r capacity mark) := by
  refine .of_walks_eq fun w => ?_
  rw [run_reserve]
  cases (w.roll r).reserve capacity mark with
  | ok outcome => exact (w.setRoll r outcome.1).walks_recorded outcome.2
  | error fault => exact w.walks_refused fault

theorem leavesWalk_reserveFor (r : RollId) (v : Value) : LeavesWalk k (reserveFor r v) := by
  unfold reserveFor
  split
  · exact .roll_bind fun _ => leavesWalk_granted _
  · exact .ofExcept_bind fun _ => leavesWalk_reserve r _ _

theorem leavesWalk_clear (r : RollId) : LeavesWalk k (clear r) := .of_walks_eq fun _ => rfl

theorem leavesWalk_takenFrom (r : RollId) (outcome : Except Fault (BufferId × Roll BufferId)) :
    LeavesWalk k (takenFrom r outcome) :=
  .ofExcept_bind fun _ => (leavesWalk_setRoll r _).bind fun _ => .pure _

theorem leavesWalk_copyOf (r : RollId) (i : Nat) : LeavesWalk k (copyOf r i) :=
  .roll_bind fun _ => .ofExcept_bind fun b => (leavesWalk_built b).bind fun _ => .pure _

theorem leavesWalk_movedTo (r : RollId) (outcome : Bool × Roll BufferId) :
    LeavesWalk k (movedTo r outcome) := (leavesWalk_setRoll r _).bind fun _ => .pure _

theorem leavesWalk_cursorOf (r : RollId) : LeavesWalk k (cursorOf r) := .roll_bind fun _ => .pure _

theorem leavesWalk_newRoll (capacity : Option Whole) : LeavesWalk k (newRoll capacity) := by
  refine .get_bind fun w => ?_
  split
  · exact leavesWalk_granted _
  · exact .throw _

theorem leavesWalk_newRollFor (v : Value) : LeavesWalk k (newRollFor v) := by
  unfold newRollFor
  split
  · exact leavesWalk_newRoll none
  · exact .get_bind fun _ => leavesWalk_granted _
  · exact .ofExcept_bind fun n => leavesWalk_newRoll (some n)

theorem leavesWalk_askShared (h : movesWalk k asked verb args = false) :
    LeavesWalk k (askShared asked r verb args) := by
  unfold askShared
  split
  · exact .ofExcept_bind fun _ => (leavesWalk_appendText r _).bind fun _ => .pure _
  · exact (leavesWalk_built _).bind fun _ => (leavesWalk_appendText r _).bind fun _ => .pure _
  · exact .throw _
  · exact (leavesWalk_reserveFor r _).bind fun _ => .pure _
  · exact (leavesWalk_clear r).bind fun _ => .pure _
  · exact .roll_bind fun _ => leavesWalk_takenFrom r _
  · exact .roll_bind fun _ => .ofExcept_bind fun _ => leavesWalk_takenFrom r _
  · exact .roll_bind fun _ => .ofExcept_bind fun _ => leavesWalk_copyOf r _
  · exact .roll_bind fun _ => .ofExcept_bind fun _ => .ofExcept_bind fun _ => leavesWalk_copyOf r _
  · exact (leavesWalk_textsOf r _).bind fun _ => .pure _
  · exact .roll_bind fun _ => .ofExcept_bind fun _ => (leavesWalk_setRoll r _).bind fun _ => .pure _
  · exact .roll_bind fun _ => leavesWalk_movedTo r _
  · exact .roll_bind fun _ => leavesWalk_movedTo r _
  · exact .roll_bind fun _ => (leavesWalk_setRoll r _).bind fun _ => .pure _
  · exact (leavesWalk_cursorOf r).bind fun _ => .pure _
  · exact .roll_bind fun _ => .pure _
  · exact .roll_bind fun _ => .pure _
  · exact leavesWalk_askGeneral h

theorem leavesWalk_printedRoll (form : List String → Roll BufferId → Answer) :
    LeavesWalk k (do
      let forms ← texts r
      return form forms (← roll r) : Act Answer) :=
  (leavesWalk_texts r).bind fun _ => .roll_bind fun _ => .pure _

theorem leavesWalk_askRoll (r : RollId) (verb : Verb) (args : List Value) :
    LeavesWalk k (askRoll r verb args) := by
  unfold askRoll
  split
  · exact .roll_bind fun _ => .ofExcept_bind fun _ => (leavesWalk_cursorOf r).bind fun _ => .pure _
  · exact .roll_bind fun _ => .pure _
  · exact .roll_bind fun _ => .pure _
  · exact .roll_bind fun _ => .pure _
  · exact (leavesWalk_newRollFor _).bind fun _ => .pure _
  · exact leavesWalk_printedRoll _
  · exact leavesWalk_printedRoll _
  · exact leavesWalk_askShared rfl

theorem leavesWalk_askGuarded (mark : Mark) (depth : Nat) (r : RollId) (verb : Verb)
    (args : List Value) : LeavesWalk k (askGuarded mark depth r verb args) := by
  unfold askGuarded
  split
  · exact leavesWalk_printedRoll _
  · exact leavesWalk_printedRoll _
  · exact leavesWalk_askShared rfl

theorem leavesWalk_askBuffer {b : BufferId} (h : movesWalk k (.buffer b) verb args = false) :
    LeavesWalk k (askBuffer b verb args) := by
  unfold askBuffer
  split
  · exact .ofExcept_bind fun _ => (leavesWalk_editBuffer b _).bind fun _ => .pure _
  · exact (leavesWalk_editBuffer b _).bind fun _ => .pure _
  · exact .ofExcept_bind fun _ => (leavesWalk_editBuffer b _).bind fun _ => .pure _
  · refine (leavesWalk_elements fun k' hv => ?_).bind fun _ => .ofExcept_bind fun _ =>
      (leavesWalk_editBuffer b _).bind fun _ => .pure _
    subst hv
    simpa [movesWalk] using h
  · exact (leavesWalk_built b).bind fun _ => .pure _
  · exact (leavesWalk_editBuffer b _).bind fun _ => .pure _
  · exact (leavesWalk_built b).bind fun _ => .pure _
  · exact .get_bind fun _ => .pure _
  · exact (leavesWalk_built b).bind fun _ => .pure _
  · exact (leavesWalk_textOf b).bind fun _ => .pure _
  · exact leavesWalk_askGeneral h

theorem leavesWalk_follow (m : Bookmark) : LeavesWalk k (follow m) :=
  .roll_bind fun _ => .get_bind fun _ =>
    .ite (.ofExcept_bind fun _ => .ofExcept _) (.throw _)

theorem leavesWalk_followTo (m : Bookmark) (wanted : String) :
    LeavesWalk k (followTo m wanted) := by
  refine (leavesWalk_follow m).bind fun found => ?_
  cases found with
  | some b => exact .pure _
  | none => exact .throw _

theorem leavesWalk_askBookmark (mark : Mark) (m : Bookmark) (verb : Verb) (args : List Value) :
    LeavesWalk k (askBookmark mark m verb args) := by
  unfold askBookmark
  split
  · exact .pure _
  · exact .get_bind fun _ => .pure _
  · refine (leavesWalk_follow m).bind fun found => ?_
    cases found <;> exact .pure _
  · exact (leavesWalk_followTo m _).bind fun b => .ofExcept_bind fun _ =>
      (leavesWalk_editBuffer b _).bind fun _ => .pure _
  · exact (leavesWalk_followTo m _).bind fun b => (leavesWalk_editBuffer b _).bind fun _ => .pure _
  · exact (leavesWalk_followTo m _).bind fun b => (leavesWalk_built b).bind fun _ => .pure _
  · exact leavesWalk_askGeneral rfl

theorem leavesWalk_askPolicy (p : Policy) (verb : Verb) (args : List Value) :
    LeavesWalk k (askPolicy p verb args) := by
  unfold askPolicy
  split
  · exact .pure _
  · exact .pure _
  · exact .pure _
  · exact .pure _
  · exact .ofExcept_bind fun _ => .pure _
  · exact leavesWalk_askGeneral rfl

theorem leavesWalk_tell (t : TallyId) (before after : Value) :
    LeavesWalk k (tell t before after) := by
  refine .of_walks_eq fun w => ?_
  rw [run_tell]
  cases (Tally.record t before after).run (w.tally t) <;> rfl

theorem leavesWalk_askTally (t : TallyId) (start : List Value) (verb : Verb)
    (args : List Value) : LeavesWalk k (askTally t start verb args) := by
  unfold askTally
  split
  · exact (leavesWalk_tell t _ _).bind fun _ => .pure _
  · exact .get_bind fun _ => .pure _
  · exact .pure _
  · exact .get_bind fun _ => .pure _
  · exact .get_bind fun _ => .pure _
  · exact .get_bind fun _ => .pure _
  · exact leavesWalk_askGeneral rfl

/-- **Every request leaves a walk where it is,** unless it is one of those that move it on. -/
theorem leavesWalk_ask (h : movesWalk k asked verb args = false) :
    LeavesWalk k (ask asked verb args) := by
  cases asked with
  | buffer b => exact leavesWalk_askBuffer h
  | roll r => exact leavesWalk_askRoll r verb args
  | guarded mark depth r => exact leavesWalk_askGuarded mark depth r verb args
  | bookmark mark m => exact leavesWalk_askBookmark mark m verb args
  | policy p => exact leavesWalk_askPolicy p verb args
  | tally t start => exact leavesWalk_askTally t start verb args
  | null | bool | int | real | text | bytes | list | record | growths | growth | walk =>
    exact leavesWalk_askGeneral h

/-- **The library itself** moves no walk on. -/
theorem leavesWalk_serve (service : Service) (args : List Value) :
    LeavesWalk k (serve service args) := by
  unfold serve
  split
  · exact .pure _
  · exact .ofExcept_bind fun _ => .pure _
  · exact (leavesWalk_newRoll none).bind fun _ => .pure _
  · exact (leavesWalk_newRollFor _).bind fun _ => .pure _
  · exact (leavesWalk_newRoll none).bind fun _ => .pure _
  · exact (leavesWalk_newRoll none).bind fun _ => .pure _
  · exact .pure _
  · exact .pure _
  · exact .throw _
  · exact .pure _
  · exact .throw _
  · exact .pure _
  · exact .get_bind fun _ => .pure _
  · exact LeavesWalk.bind (.modify fun _ => World.leavesWalk_of_walks_eq rfl) fun _ => .pure _
  · exact LeavesWalk.bind (.modify fun _ => World.leavesWalk_of_walks_eq rfl) fun _ => .pure _
  · exact .get_bind fun _ => .pure _
  · exact (leavesWalk_equal _ _).bind fun _ => .pure _
  · exact (leavesWalk_equal _ _).bind fun _ => .pure _
  · exact .get_bind fun _ => .throw _
  · exact .throw _

end Act

end TextRoll
