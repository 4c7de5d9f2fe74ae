/-
TextRoll/Proofs/Act/Observing.lean

Requests that only observe.

`Act.Observes n A act` says that in a sound world with `n` buffers the act leaves a world that is
alike in every respect, whether or not it succeeds: it may have joined the pieces of buffers that
have a place, and nothing else.  An answer satisfies `A`.

Every verb that reads (`Verb.IsRead`) only observes, whatever is asked and with whatever arguments
(`observes_ask`).  There is one exception: walking to the end of a walk moves the walk on.
-/
import TextRoll.Proofs.Act.AgreeingRequests

namespace TextRoll

namespace Act

variable {α β : Type} {n : Nat} {A : α → Prop} {B : β → Prop} {v u : Value} {r : RollId}

/-- The act leaves a world like the one it found, and its answer satisfies `A`. -/
def Observes (n : Nat) (A : α → Prop) (act : Act α) : Prop :=
  ∀ w : World, w.Sound View.full → w.buffers.size = n →
    match act.run w with
    | .ok a w' => A a ∧ w.Alike View.full w'
    | .error _ w' => w.Alike View.full w'

/-- Nothing is asked of an answer. -/
def Anything : α → Prop := fun _ => True

namespace Observes

theorem pure {a : α} (ha : A a) : Observes n A (Pure.pure a : Act α) :=
  fun w _ _ => ⟨ha, .refl _ w⟩

theorem done (a : α) : Observes n Anything (Pure.pure a : Act α) := pure trivial

theorem throw (fault : Fault) : Observes n A (MonadExcept.throw fault : Act α) :=
  fun w _ _ => .refl _ w

theorem ofExcept_of {outcome : Except Fault α} (hA : ∀ a, outcome = .ok a → A a) :
    Observes n A (MonadExcept.ofExcept outcome : Act α) := by
  cases outcome with
  | error fault => exact throw fault
  | ok a => exact pure (hA a rfl)

theorem ofExcept (outcome : Except Fault α) :
    Observes n Anything (MonadExcept.ofExcept outcome : Act α) := ofExcept_of fun _ _ => trivial

theorem bind {x : Act β} {f : β → Act α} (hx : Observes n B x)
    (hf : ∀ b, B b → Observes n A (f b)) : Observes n A (x >>= f) := by
  intro w hw hsize
  have hfirst := hx w hw hsize
  rw [EStateM.run_bind]
  cases hrun : x.run w with
  | error fault v =>
    rw [hrun] at hfirst
    exact hfirst
  | ok b v =>
    rw [hrun] at hfirst
    -- the first part left a world that is as sound and has as many buffers
    have hrest := hf b hfirst.1 v (hfirst.2.sound hw) (hfirst.2.size_eq.trans hsize)
    dsimp only
    cases hrun' : (f b).run v with
    | error fault' v' =>
      rw [hrun'] at hrest
      exact hfirst.2.trans hrest
    | ok a v' =>
      rw [hrun'] at hrest
      exact ⟨hrest.1, hfirst.2.trans hrest.2⟩

/-- What is read of the world is read of a sound one. -/
theorem get_bind {f : World → Act α}
    (hf : ∀ w : World, w.Sound View.full → w.buffers.size = n → Observes n A (f w)) :
    Observes n A (get >>= f) := fun w hw hsize => hf w hw hsize w hw hsize

/-- All that a roll holds has a place. -/
theorem roll_bind {f : Roll BufferId → Act α}
    (hf : ∀ l : Roll BufferId, (∀ b, some b ∈ l.slots → b.index < n) → Observes n A (f l)) :
    Observes n A (Act.roll r >>= f) :=
  get_bind (f := fun w => f (w.roll r)) fun w hw hsize =>
    hf (w.roll r) fun b hb => hsize ▸ hw.issued r b hb

theorem ite {c : Prop} [Decidable c] {x y : Act α} (hx : Observes n A x) (hy : Observes n A y) :
    Observes n A (if c then x else y) := by
  split
  · exact hx
  · exact hy

theorem mapM {f : β → Act α} {xs : List β} (hf : ∀ x ∈ xs, Observes n Anything (f x)) :
    Observes n Anything (xs.mapM f) := by
  induction xs with
  | nil => exact done _
  | cons x xs ih =>
    rw [List.mapM_cons]
    exact (hf x List.mem_cons_self).bind fun _ _ =>
      (ih fun y hy => hf y (List.mem_cons_of_mem _ hy)).bind fun _ _ => done _

end Observes

/-! ### Reading texts -/

/-- Joining the pieces of a buffer that has a place does not show. -/
theorem observes_built {b : BufferId} (hb : b.index < n) : Observes n Anything (built b) := by
  rintro w - rfl
  exact ⟨trivial, .of_setBuffer hb (.collapse _)⟩

theorem observes_textOf {b : BufferId} (hb : b.index < n) : Observes n Anything (textOf b) :=
  (observes_built hb).bind fun _ _ => .done _

theorem observes_textsOf (r : RollId) (wanted : String) :
    Observes n Anything (textsOf r wanted) :=
  .roll_bind fun _ hl => .mapM fun _ _ =>
    Observes.bind (.ofExcept_of fun _ hb => hl _ (Roll.mem_of_stored hb)) fun _ hb =>
      observes_built hb

theorem observes_texts (r : RollId) : Observes n Anything (texts r) :=
  (observes_textsOf r "build").bind fun _ _ => .done _

/-! ### Comparing -/

theorem observes_offer (hv : v.Within View.full n) (hu : u.Within View.full n) :
    Observes n Anything (offer v u) := by
  unfold offer
  split
  · unfold Value.Within at hv hu
    exact (observes_textOf hv).bind fun _ _ => (observes_textOf hu).bind fun _ _ => .done _
  · unfold Value.Within at hv
    exact (observes_textOf hv).bind fun _ _ => .done _
  · exact .done _
  · exact .done _
  · exact (observes_texts _).bind fun _ _ => (observes_texts _).bind fun _ _ => .done _
  · exact (observes_texts _).bind fun _ _ => (observes_texts _).bind fun _ _ => .done _
  · exact (observes_texts _).bind fun _ _ => (observes_texts _).bind fun _ _ => .done _
  · exact .get_bind fun _ _ _ => .done _
  · exact .get_bind fun _ _ _ => .done _
  · exact .get_bind fun _ _ _ => .done _
  · exact .get_bind fun _ _ _ => .done _
  · exact .done _

theorem observes_agreeByOffer (hv : v.Within View.full n) (hu : u.Within View.full n) :
    Observes n Anything (agreeByOffer v u) := by
  refine (observes_offer hv hu).bind fun mine _ => ?_
  cases mine with
  | some answer => exact .done _
  | none =>
    refine (observes_offer hu hv).bind fun theirs _ => ?_
    cases theirs with
    | some answer => exact .done _
    | none =>
      dsimp only
      split <;> exact .done _

theorem comparedBy_observes :
    ComparedBy (Value.Within View.full n) (Observes n Anything) where
  parts := Value.partsAre_within
  done := .done
  andThen hx hy := hx.bind fun _ _ => .ite hy (.done _)
  byOffer := observes_agreeByOffer
  tallies _ _ _ hf := .get_bind fun _ _ _ => .get_bind fun _ _ _ => hf _ _

theorem observes_agree (v u : Value) (hv : v.Within View.full n) (hu : u.Within View.full n) :
    Observes n Anything (agree v u) := comparedBy_observes.agree v u hv hu

theorem observes_equal (hv : v.Within View.full n) (hu : u.Within View.full n) :
    Observes n Anything (equal v u) := by
  unfold equal
  split
  · exact .done _
  · exact observes_agree v u hv hu

/-! ### Elements and membership -/

theorem observes_rollContains (r : RollId) (hv : v.Within View.full n) :
    Observes n Anything (rollContains r v) := by
  unfold rollContains
  split
  · unfold Value.Within at hv
    exact (observes_textOf hv).bind fun _ _ => (observes_texts r).bind fun _ _ => .done _
  · exact (observes_texts r).bind fun _ _ => .done _
  · exact .done _

theorem observes_anyAgrees (hv : v.Within View.full n) {us : List Value}
    (hus : Value.AllWithin View.full n us) : Observes n Anything (anyAgrees v us) := by
  induction us with
  | nil => exact .done _
  | cons u us ih =>
    unfold Value.AllWithin at hus
    exact (observes_agree u v hus.1 hv).bind fun _ _ => .ite (.done _) (ih hus.2)

/-- Looking for a value in anything but a walk. -/
theorem observes_contains (hv : v.Within View.full n) (hu : u.Within View.full n)
    (hwalk : ∀ k, u ≠ .walk k) : Observes n Anything (contains v u) := by
  unfold contains
  split
  · exact observes_rollContains _ hv
  · exact observes_rollContains _ hv
  · exact (hwalk _ rfl).elim
  · exact .ofExcept _
  · exact .ofExcept _
  · exact .ofExcept _
  · refine .get_bind fun w _ _ => ?_
    split
    · next subject items hparts => exact observes_anyAgrees hv (parts?_within hu hparts)
    · exact .throw _

/-- The elements of anything but a walk. -/
theorem observes_elements (hwalk : ∀ k, v ≠ .walk k) : Observes n Anything (elements v) := by
  unfold elements
  split
  · exact (observes_textsOf _ _).bind fun _ _ => .done _
  · exact (observes_textsOf _ _).bind fun _ _ => .done _
  · exact (hwalk _ rfl).elim
  · refine .get_bind fun w _ _ => ?_
    split
    · exact .done _
    · exact .throw _

theorem observes_startWalk (v : Value) : Observes n Anything (startWalk v) := by
  unfold startWalk
  split
  · exact .done _
  · exact (observes_textsOf _ _).bind fun _ _ => .done _
  · exact .done _
  · exact .done _
  · refine .get_bind fun w _ _ => ?_
    split
    · exact .done _
    · exact .throw _

end Act

/-- Whether a verb only reads what it is asked of. -/
def Verb.isRead : Verb → Bool
  | .length | .truth | .written | .printed | .hash | .elements | .contains | .walk => true
  | .build | .copy => true
  | .current | .bookmark | .get | .texts | .cursor | .capacity => true
  | .generation | .reallocations | .policy => true
  | .index | .isCurrent => true
  | .defaultCapacity | .growthFactor | .maxCapacity | .releaseOnClear => true
  | .summary | .events | .slotsAllocated | .peakCapacity => true
  | _ => false

/-- Whether a verb would move a walk on to its end. -/
def Verb.Drains (verb : Verb) (asked : Value) : Prop :=
  (verb = .elements ∨ verb = .contains) ∧ ∃ k, asked = .walk k

namespace Act

variable {n : Nat} {r : RollId} {asked : Value} {verb : Verb} {args : List Value}

/-! ### Requests -/

theorem observes_formOf (form : World → Value → String) (v : Value) :
    Observes n Anything (formOf form v) :=
  .get_bind fun _ _ _ => .ite (.done _) (.throw _)

/-- **The verbs that make sense for values of many kinds:** only walking moves anything. -/
theorem observes_askGeneral (hasked : asked.Within View.full n)
    (hargs : Value.AllWithin View.full n args) (hverb : verb.isRead = true)
    (hdrains : ¬verb.Drains asked) : Observes n Anything (askGeneral asked verb args) := by
  unfold askGeneral
  split
  · exact .get_bind fun _ _ _ => (Observes.ofExcept _).bind fun _ _ => .done _
  · unfold truthOf
    split
    · exact .done _
    · exact .get_bind fun _ _ _ => .done _
  · unfold writtenOf
    split
    · exact .done _
    · exact observes_formOf _ _
  · exact observes_formOf _ _
  · exact .throw _
  · exact (observes_elements fun k hk => hdrains ⟨.inl rfl, k, hk⟩).bind fun _ _ => .done _
  · unfold Value.AllWithin at hargs
    exact (observes_contains hargs.1 hasked fun k hk => hdrains ⟨.inr rfl, k, hk⟩).bind
      fun _ _ => .done _
  · exact observes_startWalk _
  · cases hverb
  · cases hverb
  · exact .throw _

theorem observes_copyOf (r : RollId) (i : Nat) : Observes n Anything (copyOf r i) :=
  .roll_bind fun _ hl =>
    Observes.bind (.ofExcept_of fun _ hb => hl _ (Roll.mem_of_stored hb)) fun _ hb =>
      (observes_built hb).bind fun _ _ => .done _

theorem observes_cursorOf (r : RollId) : Observes n Anything (cursorOf r) :=
  .roll_bind fun _ _ => .done _

theorem observes_askShared (hasked : asked.Within View.full n)
    (hargs : Value.AllWithin View.full n args) (hverb : verb.isRead = true)
    (hdrains : ¬verb.Drains asked) : Observes n Anything (askShared asked r verb args) := by
  unfold askShared
  split
  · cases hverb
  · cases hverb
  · cases hverb
  · cases hverb
  · cases hverb
  · cases hverb
  · cases hverb
  · exact .roll_bind fun _ _ => (Observes.ofExcept _).bind fun i _ => observes_copyOf r i
  · exact .roll_bind fun _ _ => (Observes.ofExcept _).bind fun _ _ =>
      (Observes.ofExcept _).bind fun i _ => observes_copyOf r i
  · exact (observes_textsOf r "build").bind fun _ _ => .done _
  · cases hverb
  · cases hverb
  · cases hverb
  · cases hverb
  · exact (observes_cursorOf r).bind fun _ _ => .done _
  · exact .roll_bind fun _ _ => .done _
  · exact .roll_bind fun _ _ => .done _
  · exact observes_askGeneral hasked hargs hverb hdrains

theorem observes_printedRoll (form : List String → Roll BufferId → Answer) :
    Observes n Anything (do
      let forms ← texts r
      return form forms (← roll r)) :=
  (observes_texts r).bind fun _ _ => .roll_bind fun _ _ => .done _

/-- **Requests to plain rolls** that read only observe. -/
theorem observes_askRoll (hargs : Value.AllWithin View.full n args)
    (hverb : verb.isRead = true) : Observes n Anything (askRoll r verb args) := by
  have hroll : (Value.roll r).Within View.full n := by
    unfold Value.Within
    trivial
  unfold askRoll
  split
  · exact .roll_bind fun _ _ => (Observes.ofExcept _).bind fun _ _ =>
      (observes_cursorOf r).bind fun _ _ => .done _
  · exact .roll_bind fun _ _ => .done _
  · exact .roll_bind fun _ _ => .done _
  · exact .roll_bind fun _ _ => .done _
  · cases hverb
  · exact observes_printedRoll _
  · exact observes_printedRoll _
  · exact observes_askShared hroll hargs hverb fun ⟨_, _, hwalk⟩ => nomatch hwalk

/-- **Requests to guarded rolls** that read only observe. -/
theorem observes_askGuarded (hargs : Value.AllWithin View.full n args) (mark : Mark) (depth : Nat)
    (hverb : verb.isRead = true) :
    Observes n Anything (askGuarded mark depth r verb args) := by
  have hguarded : (Value.guarded mark depth r).Within View.full n := by
    unfold Value.Within
    trivial
  unfold askGuarded
  split
  · exact observes_printedRoll _
  · exact observes_printedRoll _
  · exact observes_askShared hguarded hargs hverb fun ⟨_, _, hwalk⟩ => nomatch hwalk

/-- What a bookmark points at has a place. -/
theorem observes_follow (m : Bookmark) :
    Observes n (fun found => ∀ b, found = some b → b.index < n) (follow m) := by
  refine .roll_bind fun l hl => .get_bind fun w _ _ => .ite ?_ (.throw _)
  refine (Observes.ofExcept _).bind fun i _ => .ofExcept_of fun found hfound b hb => ?_
  exact hl b (Roll.mem_of_slotAt (hb ▸ hfound))

/-- **Requests to bookmarks** that read only observe. -/
theorem observes_askBookmark {mark : Mark} {m : Bookmark}
    (hm : (Value.bookmark mark m).Within View.full n) (hargs : Value.AllWithin View.full n args)
    (hverb : verb.isRead = true) : Observes n Anything (askBookmark mark m verb args) := by
  unfold askBookmark
  split
  · exact .done _
  · exact .get_bind fun _ _ _ => .done _
  · refine (observes_follow m).bind fun found _ => ?_
    split
    · exact .done _
    · exact .done _
  · cases hverb
  · cases hverb
  · have hfollowTo : Observes n (fun b => b.index < n) (followTo m "build") := by
      refine (observes_follow m).bind fun found hfound => ?_
      split
      · next b => exact .pure (hfound b rfl)
      · exact .throw _
    exact hfollowTo.bind fun _ hb => (observes_built hb).bind fun _ _ => .done _
  · exact observes_askGeneral hm hargs hverb fun ⟨_, _, hwalk⟩ => nomatch hwalk

/-- **Requests to buffers** that read only observe. -/
theorem observes_askBuffer {b : BufferId} (hb : b.index < n)
    (hargs : Value.AllWithin View.full n args) (hverb : verb.isRead = true) :
    Observes n Anything (askBuffer b verb args) := by
  have hbuffer : (Value.buffer b).Within View.full n := by
    unfold Value.Within
    exact hb
  unfold askBuffer
  split
  · cases hverb
  · cases hverb
  · cases hverb
  · cases hverb
  · exact (observes_built hb).bind fun _ _ => .done _
  · cases hverb
  · exact (observes_built hb).bind fun _ _ => .done _
  · exact .get_bind fun _ _ _ => .done _
  · exact (observes_built hb).bind fun _ _ => .done _
  · exact (observes_textOf hb).bind fun _ _ => .done _
  · exact observes_askGeneral hbuffer hargs hverb fun ⟨_, _, hwalk⟩ => nomatch hwalk

theorem observes_askPolicy {p : Policy} (hp : (Value.policy p).Within View.full n)
    (hargs : Value.AllWithin View.full n args) (hverb : verb.isRead = true) :
    Observes n Anything (askPolicy p verb args) := by
  unfold askPolicy
  split
  · exact .done _
  · exact .done _
  · exact .done _
  · exact .done _
  · cases hverb
  · exact observes_askGeneral hp hargs hverb fun ⟨_, _, hwalk⟩ => nomatch hwalk

theorem observes_askTally {t : TallyId} {start : List Value}
    (ht : (Value.tally t start).Within View.full n) (hargs : Value.AllWithin View.full n args)
    (hverb : verb.isRead = true) : Observes n Anything (askTally t start verb args) := by
  unfold askTally
  split
  · cases hverb
  · exact .get_bind fun _ _ _ => .done _
  · exact .done _
  · exact .get_bind fun _ _ _ => .done _
  · exact .get_bind fun _ _ _ => .done _
  · exact .get_bind fun _ _ _ => .done _
  · exact observes_askGeneral ht hargs hverb fun ⟨_, _, hwalk⟩ => nomatch hwalk

/-- **Every request that reads only observes,** unless it moves a walk on to its end. -/
theorem observes_ask (hasked : asked.Within View.full n)
    (hargs : Value.AllWithin View.full n args) (hverb : verb.isRead = true)
    (hdrains : ¬verb.Drains asked) : Observes n Anything (ask asked verb args) := by
  unfold ask
  split
  · unfold Value.Within at hasked
    exact observes_askBuffer hasked hargs hverb
  · exact observes_askRoll hargs hverb
  · exact observes_askGuarded hargs _ _ hverb
  · exact observes_askBookmark hasked hargs hverb
  · exact observes_askPolicy hasked hargs hverb
  · exact observes_askTally hasked hargs hverb
  · exact observes_askGeneral hasked hargs hverb hdrains

end Act

/-- Whether the library only reads to answer. -/
def Service.isRead : Service → Bool
  | .equal | .unequal | .activePolicy | .activeTally => true
  | _ => false

/-- **Comparing values, and telling what is in force,** only observes. -/
theorem Act.observes_serve {n : Nat} {service : Service} {args : List Value}
    (hargs : Value.AllWithin View.full n args) (hservice : service.isRead = true) :
    Observes n Anything (serve service args) := by
  unfold serve
  split
  all_goals first | cases hservice | skip
  · exact .get_bind fun _ _ _ => .done _
  · exact .get_bind fun _ _ _ => .done _
  · unfold Value.AllWithin Value.AllWithin at hargs
    exact (observes_equal hargs.1 hargs.2.1).bind fun _ _ => .done _
  · unfold Value.AllWithin Value.AllWithin at hargs
    exact (observes_equal hargs.1 hargs.2.1).bind fun _ _ => .done _
  · exact .throw _

end TextRoll
