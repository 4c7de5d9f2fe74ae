/-
TextRoll/Proofs/Act/Posting.lean

What requests leave in the books.

`Act.Posts q act` says that `act`, run in any well-formed world, leaves one posting for which `q`
holds, whether or not it fails.  Acts that only read leave nothing (`Reads.posts`), and
reading first makes no difference (`Posts.after`).

The main statements cover every request (`posts_ask`, `posts_serve`): only adding to a roll and
making room in it can let it grow, only a tally can be told something by hand, and only the
library itself puts a policy in force.
-/
import TextRoll.Proofs.Act.Sparing
import TextRoll.Proofs.World.Books

namespace TextRoll

namespace Act

variable {α β : Type} {q q' : Posting → Prop} {P : Fault → Prop} {w : World} {r : RollId}

/-- Run in this world, the act leaves one posting of a certain kind, whether or not it fails. -/
def PostsFrom (act : Act α) (w : World) (q : Posting → Prop) : Prop :=
  match act.run w with
  | .ok _ w' | .error _ w' => ∃ p, q p ∧ w.Posts p w'

/-- The same in every well-formed world. -/
def Posts (q : Posting → Prop) (act : Act α) : Prop :=
  ∀ w : World, w.WellFormed → act.PostsFrom w q

/-! ### Putting acts together -/

namespace PostsFrom

variable {act : Act α} {w' : World} {a : α} {fault : Fault} {p : Posting}

theorem of_ok (hrun : act.run w = .ok a w') (hq : q p) (h : w.Posts p w') :
    act.PostsFrom w q := by
  unfold PostsFrom
  rw [hrun]
  exact ⟨p, hq, h⟩

theorem of_error (hrun : act.run w = .error fault w') (hq : q p) (h : w.Posts p w') :
    act.PostsFrom w q := by
  unfold PostsFrom
  rw [hrun]
  exact ⟨p, hq, h⟩

/-- What an act that succeeds has posted. -/
theorem ok (h : act.PostsFrom w q) (hrun : act.run w = .ok a w') : ∃ p, q p ∧ w.Posts p w' := by
  unfold PostsFrom at h
  rwa [hrun] at h

/-- What an act that fails has posted. -/
theorem error (h : act.PostsFrom w q) (hrun : act.run w = .error fault w') :
    ∃ p, q p ∧ w.Posts p w' := by
  unfold PostsFrom at h
  rwa [hrun] at h

theorem mono (h : act.PostsFrom w q) (hq : ∀ p, q p → q' p) : act.PostsFrom w q' := by
  cases hrun : act.run w with
  | ok a w' =>
    obtain ⟨p, hp, hposts⟩ := h.ok hrun
    exact .of_ok hrun (hq p hp) hposts
  | error fault w' =>
    obtain ⟨p, hp, hposts⟩ := h.error hrun
    exact .of_error hrun (hq p hp) hposts

theorem throw (hq : q .nothing) (fault : Fault) :
    PostsFrom (MonadExcept.throw fault : Act α) w q :=
  of_error rfl hq (World.Undisturbed.refl w).posts

end PostsFrom

namespace Posts

theorem mono {act : Act α} (h : Posts q act) (hq : ∀ p, q p → q' p) : Posts q' act :=
  fun w hw => (h w hw).mono hq

theorem throw (hq : q .nothing) (fault : Fault) : Posts q (MonadExcept.throw fault : Act α) :=
  fun _ _ => .throw hq fault

/-- Reading first makes no difference. -/
theorem after {x : Act β} {f : β → Act α} (hq : q .nothing) (hx : Reads P x)
    (hf : ∀ b, Posts q (f b)) : Posts q (x >>= f) := by
  intro w hw
  cases hrun : (x >>= f).run w with
  | ok a w'' =>
    obtain ⟨b, w', hfirst, hrest⟩ := bind_eq_ok hrun
    have hread := (hx w hw).ok hfirst
    obtain ⟨p, hp, hposts⟩ := (hf b w' (hread.wellFormed hw)).ok hrest
    exact .of_ok hrun hp (hread.posts_of hposts)
  | error fault w'' =>
    obtain hfirst | ⟨b, w', hfirst, hrest⟩ := bind_eq_error hrun
    · exact .of_error hrun hq ((hx w hw).error hfirst).1.posts
    · have hread := (hx w hw).ok hfirst
      obtain ⟨p, hp, hposts⟩ := (hf b w' (hread.wellFormed hw)).error hrest
      exact .of_error hrun hp (hread.posts_of hposts)

/-- It makes no difference what is handed back. -/
theorem map {x : Act β} {f : β → α} (hx : Posts q x) :
    Posts q (x >>= fun b => Pure.pure (f b)) := by
  intro w hw
  cases hrun : x.run w with
  | ok b w' =>
    obtain ⟨p, hp, hposts⟩ := (hx w hw).ok hrun
    exact .of_ok (run_bind_ok _ hrun) hp hposts
  | error fault w' =>
    obtain ⟨p, hp, hposts⟩ := (hx w hw).error hrun
    exact .of_error (run_bind_error _ hrun) hp hposts

theorem get_bind {f : World → Act α} (hf : ∀ w, w.WellFormed → (f w).PostsFrom w q) :
    Posts q (get >>= f) := hf

theorem roll_bind {f : Roll BufferId → Act α}
    (hf : ∀ w : World, w.WellFormed → (f (w.roll r)).PostsFrom w q) :
    Posts q (Act.roll r >>= f) := hf

theorem ofExcept_bind {outcome : Except Fault β} {f : β → Act α} (hq : q .nothing)
    (hf : ∀ b, Posts q (f b)) : Posts q (MonadExcept.ofExcept outcome >>= f) :=
  after (P := Any) hq (.ofExcept fun _ _ => trivial) hf

end Posts

/-- Reading leaves nothing in the books. -/
theorem Reads.posts {act : Act α} (h : Reads P act) (hq : q .nothing) : Posts q act := by
  intro w hw
  cases hrun : act.run w with
  | ok a w' => exact .of_ok hrun hq ((h w hw).ok hrun).posts
  | error fault w' => exact .of_error hrun hq ((h w hw).error hrun).1.posts

/-! ### The acts that are posted -/

theorem postsFrom_granted {outcome : Except Fault α} (hq : q .nothing)
    (hnoted : ∀ n, q (.noted n)) : (granted outcome).PostsFrom w q := by
  have hrun := run_granted outcome w
  cases outcome with
  | ok a => exact .of_ok hrun hq (World.Undisturbed.refl w).posts
  | error fault =>
    obtain ⟨p, rfl | ⟨n, rfl⟩, hposts⟩ := w.posts_refused fault
    · exact .of_error hrun hq hposts
    · exact .of_error hrun (hnoted n) hposts

/-- The postings that a request for storage can leave. -/
def MayGrow (r : RollId) : Posting → Prop
  | .nothing | .noted _ => True
  | .grew r' _ => r' = r
  | .told .. | .chose _ => False

theorem postsFrom_refused {act : Act α} {fault : Fault}
    (hrun : act.run w = .error fault (w.refused fault)) : act.PostsFrom w (MayGrow r) := by
  obtain ⟨p, hp, hposts⟩ := w.posts_refused fault
  refine .of_error hrun ?_ hposts
  rcases hp with rfl | ⟨n, rfl⟩ <;> trivial

theorem posts_appendText (r : RollId) (text : Text) : Posts (MayGrow r) (appendText r text) := by
  intro w hw
  have hrun := run_appendText r text w
  cases happend : (w.roll r).append w.freeBuffer with
  | error fault =>
    rw [happend] at hrun
    exact postsFrom_refused hrun
  | ok outcome =>
    obtain ⟨l, growth⟩ := outcome
    rw [happend] at hrun
    rcases Roll.append_eq_ok happend with ⟨-, rfl, rfl⟩ | ⟨wanted, -, hlt, hallowed, rfl, rfl⟩
    · refine .of_ok (p := .nothing) hrun trivial (World.posts_nothing rfl rfl rfl fun r' => ?_)
      by_cases hr : r' = r
      · subst hr
        rw [World.roll_put_self rfl]
        rfl
      · rw [World.roll_put_of_ne rfl hr]
        rfl
    · refine .of_ok (p := .grew r _) hrun rfl
        (World.posts_grew (l := ((w.roll r).grown wanted).place w.freeBuffer) rfl ?_ rfl ?_ rfl ?_
          hlt rfl)
      · exact w.ambient_recordGrowth _
      · exact congrArg (Arena.put · _ _) (w.rolls_recorded (some _))
      · rw [Roll.capacity_place, Roll.capacity_grown hlt]
        rfl

theorem posts_reserve (r : RollId) (capacity : Whole) (mark : Mark) :
    Posts (MayGrow r) (reserve r capacity mark) := by
  intro w hw
  have hrun := run_reserve r capacity mark w
  cases hreserve : (w.roll r).reserve capacity mark with
  | error fault =>
    rw [hreserve] at hrun
    exact postsFrom_refused hrun
  | ok outcome =>
    obtain ⟨l, growth⟩ := outcome
    rw [hreserve] at hrun
    rcases Roll.reserve_eq_ok hreserve with ⟨-, rfl, rfl⟩ | ⟨hlt, -, rfl, rfl⟩
    · exact .of_ok (p := .nothing) hrun trivial (World.posts_setRoll rfl)
    · replace hrun := hrun.trans (congrArg (EStateM.Result.ok ()) (w.recordGrowth_setRoll r _ _))
      refine .of_ok (p := .grew r ⟨(w.roll r).capacity, capacity, mark⟩) hrun rfl
        (World.posts_grew (l := (w.roll r).grown capacity.toNat) rfl ?_ rfl ?_ rfl ?_ hlt rfl)
      · exact w.ambient_recordGrowth _
      · exact congrArg (Arena.put · _ _) (w.rolls_recorded (some _))
      · exact (Roll.capacity_grown hlt).symm

theorem posts_reserveFor (r : RollId) (v : Value) : Posts (MayGrow r) (reserveFor r v) := by
  unfold reserveFor
  split
  · exact .roll_bind fun w hw => postsFrom_granted trivial (fun _ => trivial)
  · exact .ofExcept_bind trivial fun n => posts_reserve r n _

theorem posts_clear (r : RollId) : Posts (∃ n, · = .noted n) (clear r) := by
  intro w hw
  have hquiet : w.Posts .nothing (w.setRoll r (clearedRoll w r)) := World.posts_setRoll rfl
  exact .of_ok (run_clear r w) ⟨_, rfl⟩ (hquiet.note rfl)

/-- Taking an element out is not posted. -/
theorem postsFrom_takenFrom {outcome : Except Fault (BufferId × Roll BufferId)}
    (hq : q .nothing)
    (h : ∀ b l, outcome = .ok (b, l) → l.reallocations = (w.roll r).reallocations) :
    (takenFrom r outcome).PostsFrom w q := by
  have hrun := run_takenFrom r outcome w
  cases outcome with
  | error fault => exact .of_error hrun hq (World.Undisturbed.refl w).posts
  | ok taken => exact .of_ok hrun hq (World.posts_setRoll (h _ _ rfl))

theorem posts_remove (hq : q .nothing) (r : RollId) :
    Posts q (do takenFrom r (← roll r).remove) := by
  refine .roll_bind fun w hw => postsFrom_takenFrom hq fun b l h => ?_
  rcases (hw r).remove_cases with ⟨hi, hremove⟩ | ⟨-, hremove⟩
  · cases hremove.symm.trans h
    rfl
  · cases hremove.symm.trans h

theorem posts_removeAt (hq : q .nothing) (r : RollId) (v : Value) :
    Posts q (do
      let l ← roll r
      takenFrom r (l.removeAt (← ofExcept (v.asIndex l.length)))) := by
  refine .roll_bind fun w hw => ?_
  cases v.asIndex (w.roll r).length with
  | error fault => exact .throw hq fault
  | ok i =>
    show (takenFrom r ((w.roll r).removeAt i)).PostsFrom w q
    refine postsFrom_takenFrom hq fun b l h => ?_
    rcases (hw r).removeAt_cases i with ⟨hi, -, hremove⟩ | ⟨-, hremove⟩
    · cases hremove.symm.trans h
      rfl
    · cases hremove.symm.trans h

theorem posts_seek (hq : q .nothing) (r : RollId) (v : Value) :
    Posts q (do
      let l ← roll r
      setRoll r (← ofExcept (l.seek (v.asIndex l.length) v.mark))
      return Answer.nothing : Act Answer) := by
  refine .roll_bind fun w hw => ?_
  let index := v.asIndex (w.roll r).length
  show PostsFrom (MonadExcept.ofExcept ((w.roll r).seek index v.mark) >>= fun l => do
    setRoll r l; return Answer.nothing) w _
  rcases (w.roll r).seek_cases index v.mark with
    ⟨n, -, -, -, hseek⟩ | ⟨-, hseek⟩ | ⟨-, fault, -, hseek⟩ | ⟨-, n, -, -, hseek⟩
  · rw [hseek]
    exact ⟨.nothing, hq, World.posts_setRoll rfl⟩
  · rw [hseek]
    exact .throw hq _
  · rw [hseek]
    exact .throw hq _
  · rw [hseek]
    exact .throw hq _

theorem posts_advance (hq : q .nothing) (r : RollId) :
    Posts q (do movedTo r (← roll r).advance) := by
  refine .roll_bind fun w hw => ⟨.nothing, hq, World.posts_setRoll ?_⟩
  unfold Roll.advance
  split <;> rfl

theorem posts_retreat (hq : q .nothing) (r : RollId) :
    Posts q (do movedTo r (← roll r).retreat) := by
  refine .roll_bind fun w hw => ⟨.nothing, hq, World.posts_setRoll ?_⟩
  unfold Roll.retreat
  split <;> rfl

theorem posts_rewind (hq : q .nothing) (r : RollId) :
    Posts q (do setRoll r (← roll r).rewind; return Answer.nothing : Act Answer) :=
  .roll_bind fun _ _ => ⟨.nothing, hq, World.posts_setRoll rfl⟩

theorem posts_editBuffer (hq : q .nothing) (b : BufferId) (f : Buffer → Buffer) :
    Posts q (editBuffer b f) :=
  fun _ _ => ⟨.nothing, hq, World.posts_nothing rfl rfl rfl fun _ => rfl⟩

/-- A roll that is made and has no place yet is not posted, but a refusal to make it is. -/
theorem posts_newRoll (hq : q .nothing) (hnoted : ∀ n, q (.noted n)) (capacity : Option Whole) :
    Posts q (newRoll capacity) := by
  refine .get_bind fun w hw => ?_
  split
  · exact postsFrom_granted hq hnoted
  · exact .throw hq _

theorem posts_newRollFor (hq : q .nothing) (hnoted : ∀ n, q (.noted n)) (v : Value) :
    Posts q (newRollFor v) := by
  unfold newRollFor
  split
  · exact posts_newRoll hq hnoted none
  · exact .get_bind fun w hw => postsFrom_granted hq hnoted
  · exact .ofExcept_bind hq fun n => posts_newRoll hq hnoted (some n)

/-- A tally that is told something by hand. -/
theorem posts_tell (t : TallyId) (before after : Value) :
    Posts (· = .told t before after) (tell t before after) := by
  intro w hw
  have hrun := run_tell t before after w
  have hposts := w.posts_told t before after
  unfold Tally.afterRecord at hposts
  cases hrecord : (Tally.record t before after).run (w.tally t) with
  | ok _ tally =>
    rw [hrecord] at hrun hposts
    exact .of_ok hrun rfl hposts
  | error fault tally =>
    rw [hrecord] at hrun hposts
    exact .of_error hrun rfl hposts

theorem posts_setPolicy (v : Value) : Posts (· = .chose v) (setPolicy v) := by
  intro w hw
  refine ⟨.chose v, rfl, ?_⟩
  exact {
    log_eq := (List.append_nil _).symm
    ambient_eq := rfl
    tally_eq := fun _ _ => rfl
    tallies_le := Nat.le_refl _
    reallocations_eq := fun _ => rfl
    noted := nofun
    grew := nofun }

end Act

/-! ### All requests -/

namespace Posting

/-- A posting that a request can leave: only adding to a roll and making room in it can let it
grow, and only a tally can be told something. -/
def Fits (asked : Value) (verb : Verb) (args : List Value) : Posting → Prop
  | nothing | noted _ => True
  | grew r _ => asked.rollId? = some r ∧ verb ∈ [.add, .addBuffer, .reserve]
  | told t before after =>
    (∃ start, asked = .tally t start) ∧ verb = .recordGrowth ∧ args = [before, after]
  | chose _ => False

variable {asked : Value} {verb : Verb} {args : List Value} {r : RollId} {p : Posting}

theorem fits_of_mayGrow (hasked : asked.rollId? = some r)
    (hverb : verb ∈ [.add, .addBuffer, .reserve]) (h : Act.MayGrow r p) :
    p.Fits asked verb args := by
  cases p with
  | nothing | noted => trivial
  | grew r' g => exact ⟨h ▸ hasked, hverb⟩
  | told | chose => exact h.elim

end Posting

/-- The policy that the library is asked to put in force. -/
def Service.policy? : Service → List Value → Option Value
  | .usePolicy, [v] => some v
  | .resetPolicy, [] => some (.policy Policy.standard)
  | _, _ => none

theorem Service.policy?_cases (service : Service) (args : List Value) :
    service.policy? args = none ∨ (∃ v, service = .usePolicy ∧ args = [v]) ∨
      (service = .resetPolicy ∧ args = []) := by
  unfold policy?
  split
  · next v => exact .inr (.inl ⟨v, rfl, rfl⟩)
  · exact .inr (.inr ⟨rfl, rfl⟩)
  · exact .inl rfl

/-- A posting that asking the library itself can leave. -/
def Posting.Serves (service : Service) (args : List Value) : Posting → Prop
  | nothing | noted _ => service.policy? args = none
  | chose v => service.policy? args = some v
  | grew .. | told .. => False

namespace Act

variable {q : Posting → Prop} {w : World} {r : RollId}

/-- What every value can be asked leaves nothing in the books. -/
theorem posts_askGeneral (hq : q .nothing) (asked : Value) (verb : Verb) (args : List Value) :
    Posts q (askGeneral asked verb args) := by
  have hany : ∀ fault : Fault, fault.IsRegular → Any fault := fun _ _ => trivial
  have hwalk : ∀ k, asked = .walk k → ∀ fault, Any fault := fun _ _ _ => trivial
  unfold askGeneral
  split
  · refine Reads.posts (P := Any) (.get_bind fun v hv => ?_) hq
    exact (Reads.bind (.ofExcept fun _ _ => trivial) fun _ => .pure _) v hv
  · refine Reads.posts (P := Any) ?_ hq
    unfold truthOf
    split
    · exact .pure _
    · exact .get_bind fun _ _ => .pure _
  · refine Reads.posts (P := Any) ?_ hq
    unfold writtenOf
    split
    · exact .pure _
    · exact reads_formOf hany _
  · exact (reads_formOf hany _).posts hq
  · exact .throw hq _
  · exact ((reads_elements hany hwalk).bind fun _ => .pure _).posts hq
  · exact ((reads_contains hany hwalk _).bind fun _ => .pure _).posts hq
  · exact (reads_startWalk hany _).posts hq
  · exact (reads_nextOf hany hwalk).posts hq
  · exact .throw hq _
  · exact .throw hq _

theorem posts_askShared {asked : Value} (hasked : asked.rollId? = some r) (verb : Verb)
    (args : List Value) : Posts (Posting.Fits asked verb args) (askShared asked r verb args) := by
  unfold askShared
  split
  · -- `add`
    refine .ofExcept_bind trivial fun t => ?_
    exact (posts_appendText r t).map.mono fun p => Posting.fits_of_mayGrow hasked (by simp)
  · -- `addBuffer`
    refine .after (P := Any) trivial (reads_built _) fun t => ?_
    exact (posts_appendText r t).map.mono fun p => Posting.fits_of_mayGrow hasked (by simp)
  · exact .throw trivial _
  · -- `reserve`
    exact (posts_reserveFor r _).map.mono fun p => Posting.fits_of_mayGrow hasked (by simp)
  · -- `clear`
    refine (posts_clear r).map.mono fun p hp => ?_
    obtain ⟨n, rfl⟩ := hp
    trivial
  · exact posts_remove trivial r
  · exact posts_removeAt trivial r _
  · exact (reads_current r).posts trivial
  · exact (reads_get r _).posts trivial
  · exact Reads.posts (P := Any) ((reads_textsOf r _).bind fun _ => .pure _) trivial
  · exact posts_seek trivial r _
  · exact posts_advance trivial r
  · exact posts_retreat trivial r
  · exact posts_rewind trivial r
  · exact Reads.posts (P := Any) ((reads_cursorOf r).bind fun _ => .pure _) trivial
  · exact Reads.posts (P := Any) (.roll_bind fun _ => .pure _) trivial
  · exact Reads.posts (P := Any) (.roll_bind fun _ => .pure _) trivial
  · exact posts_askGeneral trivial _ _ _

theorem posts_askRoll (r : RollId) (verb : Verb) (args : List Value) :
    Posts (Posting.Fits (.roll r) verb args) (askRoll r verb args) := by
  unfold askRoll
  split
  · refine Reads.posts (P := Any) ?_ trivial
    exact .roll_bind fun l => Reads.bind (.ofExcept fun _ _ => trivial) fun _ =>
      (reads_cursorOf r).bind fun _ => .pure _
  · exact Reads.posts (P := Any) (.roll_bind fun _ => .pure _) trivial
  · exact Reads.posts (P := Any) (.roll_bind fun _ => .pure _) trivial
  · exact Reads.posts (P := Any) (.roll_bind fun _ => .pure _) trivial
  · exact (posts_newRollFor trivial (fun _ => trivial) _).map
  · exact Reads.posts (P := Any) ((reads_texts r).bind fun _ => .roll_bind fun _ => .pure _) trivial
  · exact Reads.posts (P := Any) ((reads_texts r).bind fun _ => .roll_bind fun _ => .pure _) trivial
  · exact posts_askShared rfl _ _

theorem posts_askGuarded (mark : Mark) (depth : Nat) (r : RollId) (verb : Verb)
    (args : List Value) :
    Posts (Posting.Fits (.guarded mark depth r) verb args)
      (askGuarded mark depth r verb args) := by
  unfold askGuarded
  split
  · exact Reads.posts (P := Any) ((reads_texts r).bind fun _ => .roll_bind fun _ => .pure _) trivial
  · exact Reads.posts (P := Any) ((reads_texts r).bind fun _ => .roll_bind fun _ => .pure _) trivial
  · exact posts_askShared rfl _ _

theorem posts_askBuffer (hq : q .nothing) (b : BufferId) (verb : Verb) (args : List Value) :
    Posts q (askBuffer b verb args) := by
  have hany : ∀ fault : Fault, fault.IsRegular → Any fault := fun _ _ => trivial
  unfold askBuffer
  split
  · exact .ofExcept_bind hq fun t => (posts_editBuffer hq b _).map
  · exact (posts_editBuffer hq b _).map
  · exact .ofExcept_bind hq fun t => (posts_editBuffer hq b _).map
  · refine .after hq (reads_elements hany fun _ _ _ => trivial) fun items => ?_
    exact .ofExcept_bind hq fun pieces => (posts_editBuffer hq b _).map
  · exact Reads.posts (P := Any) ((reads_built b).bind fun _ => .pure _) hq
  · exact (posts_editBuffer hq b _).map
  · exact Reads.posts (P := Any) ((reads_built b).bind fun _ => .pure _) hq
  · exact Reads.posts (P := Any) (.get_bind fun _ _ => .pure _) hq
  · exact Reads.posts (P := Any) ((reads_built b).bind fun _ => .pure _) hq
  · exact Reads.posts (P := Any) ((reads_textOf b).bind fun _ => .pure _) hq
  · exact posts_askGeneral hq _ _ _

theorem posts_askBookmark (hq : q .nothing) (mark : Mark) (m : Bookmark) (verb : Verb)
    (args : List Value) : Posts q (askBookmark mark m verb args) := by
  unfold askBookmark
  split
  · exact Reads.posts (P := Any) (.pure _) hq
  · exact Reads.posts (P := Any) (.get_bind fun _ _ => .pure _) hq
  · refine Reads.posts ((reads_follow m).bind fun found => ?_) hq
    cases found <;> exact .pure _
  · refine .after hq (reads_followTo m _) fun b => ?_
    exact .ofExcept_bind hq fun t => (posts_editBuffer hq b _).map
  · exact .after hq (reads_followTo m _) fun b => (posts_editBuffer hq b _).map
  · refine Reads.posts ((reads_followTo m _).bind fun b => ?_) hq
    exact (reads_built b).bind fun _ => .pure _
  · exact posts_askGeneral hq _ _ _

theorem posts_askPolicy (hq : q .nothing) (p : Policy) (verb : Verb) (args : List Value) :
    Posts q (askPolicy p verb args) := by
  unfold askPolicy
  split
  · exact Reads.posts (P := Any) (.pure _) hq
  · exact Reads.posts (P := Any) (.pure _) hq
  · exact Reads.posts (P := Any) (.pure _) hq
  · exact Reads.posts (P := Any) (.pure _) hq
  · exact .ofExcept_bind hq fun _ => Reads.posts (P := Any) (.pure _) hq
  · exact posts_askGeneral hq _ _ _

theorem posts_askTally (t : TallyId) (start : List Value) (verb : Verb) (args : List Value) :
    Posts (Posting.Fits (.tally t start) verb args) (askTally t start verb args) := by
  unfold askTally
  split
  · refine (posts_tell t _ _).map.mono fun p hp => ?_
    subst hp
    exact ⟨⟨start, rfl⟩, rfl, rfl⟩
  · exact Reads.posts (P := Any) (.get_bind fun _ _ => .pure _) trivial
  · exact Reads.posts (P := Any) (.pure _) trivial
  · exact Reads.posts (P := Any) (.get_bind fun _ _ => .pure _) trivial
  · exact Reads.posts (P := Any) (.get_bind fun _ _ => .pure _) trivial
  · exact Reads.posts (P := Any) (.get_bind fun _ _ => .pure _) trivial
  · exact posts_askGeneral trivial _ _ _

/-- **What a request leaves in the books.** -/
theorem posts_ask (asked : Value) (verb : Verb) (args : List Value) :
    Posts (Posting.Fits asked verb args) (ask asked verb args) := by
  cases asked with
  | buffer b => exact posts_askBuffer trivial b verb args
  | roll r => exact posts_askRoll r verb args
  | guarded mark depth r => exact posts_askGuarded mark depth r verb args
  | bookmark mark m => exact posts_askBookmark trivial mark m verb args
  | policy p => exact posts_askPolicy trivial p verb args
  | tally t start => exact posts_askTally t start verb args
  | null | bool | int | real | text | bytes | list | record | growths | growth | walk =>
    exact posts_askGeneral trivial _ _ _

/-- **What the library itself leaves in the books:** the policy that it is asked to put in force,
and beside that at most the record of a roll that could not be made. -/
theorem posts_serve (service : Service) (args : List Value) :
    Posts (Posting.Serves service args) (serve service args) := by
  unfold serve
  split
  · exact Reads.posts (P := Any) (.pure _) rfl
  · exact .ofExcept_bind rfl fun _ => Reads.posts (P := Any) (.pure _) rfl
  · exact (posts_newRoll (q := Posting.Serves .makeRoll []) rfl (fun _ => rfl) none).map
  · exact (posts_newRollFor (q := Posting.Serves .makeRoll [_]) rfl (fun _ => rfl) _).map
  · exact (posts_newRoll (q := Posting.Serves .makeGuard []) rfl (fun _ => rfl) none).map
  · exact (posts_newRoll (q := Posting.Serves .makeGuard [.null]) rfl (fun _ => rfl) none).map
  · exact Reads.posts (P := Any) (.pure _) rfl
  · exact Reads.posts (P := Any) (.pure _) rfl
  · exact .throw (q := Posting.Serves .makeGuard [_]) rfl _
  · exact Reads.posts (P := Any) (.pure _) rfl
  · exact .throw (q := Posting.Serves .makeBookmark [_, _, _]) rfl _
  · exact Reads.posts (P := Any) (.pure _) rfl
  · exact Reads.posts (P := Any) (.get_bind fun _ _ => .pure _) rfl
  · exact (posts_setPolicy _).map.mono fun p hp => hp ▸ rfl
  · exact (posts_setPolicy _).map.mono fun p hp => hp ▸ rfl
  · exact Reads.posts (P := Any) (.get_bind fun _ _ => .pure _) rfl
  · exact Reads.posts (P := Any) ((reads_equal _ _).bind fun _ => .pure _) rfl
  · exact Reads.posts (P := Any) ((reads_equal _ _).bind fun _ => .pure _) rfl
  · exact Reads.posts (P := Any) (.get_bind fun _ _ => .throw trivial) rfl
  · next huse hreset _ _ _ _ =>
    rcases service.policy?_cases args with hnone | ⟨v, hservice, hargs⟩ | ⟨hservice, hargs⟩
    · exact .throw (q := Posting.Serves service args) hnone _
    · exact (huse v hservice hargs).elim
    · exact (hreset hservice hargs).elim

end Act

end TextRoll
