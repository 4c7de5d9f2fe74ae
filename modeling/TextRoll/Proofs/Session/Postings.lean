/-
TextRoll/Proofs/Session/Postings.lean

What a move of a session leaves in the books of its world.

Every move leaves one posting (`accounts_move`).  A call leaves that of its request and nothing for
keeping the answer, since what is kept only gets a place that was free (`adds_adopt`).  The
beginning and the end of a block, and the register that it fills, leave nothing; what they do to
the surroundings is the subject of `TextRoll.Proofs.Session.Scopes`.
-/
import TextRoll.Proofs.Act.Posting
import TextRoll.Proofs.Session.Events

namespace TextRoll

namespace World

variable {w w' w'' : World} {p : Posting}

/-! ### Keeping answers -/

/-- New rolls and tallies may have got places, and all others are as they were. -/
structure Adds (w w' : World) : Prop where
  log_eq : w'.log = w.log
  tally_eq : ∀ t : TallyId, t.index < w.tallies.size → w'.tally t = w.tally t
  tallies_le : w.tallies.size ≤ w'.tallies.size
  roll_eq : ∀ r : RollId, r.index < w.rolls.size → w'.roll r = w.roll r
  rolls_le : w.rolls.size ≤ w'.rolls.size
  reallocations_eq : ∀ r, (w'.roll r).reallocations = (w.roll r).reallocations

/-- Where no roll and no tally was added. -/
theorem adds_of_same (hlog : w'.log = w.log) (htallies : w'.tallies = w.tallies)
    (hrolls : w'.rolls = w.rolls) : w.Adds w' where
  log_eq := hlog
  tally_eq t _ := by
    unfold tally
    rw [htallies]
  tallies_le := Nat.le_of_eq (congrArg Arena.size htallies.symm)
  roll_eq r _ := roll_of_rolls_eq hrolls r
  rolls_le := Nat.le_of_eq (congrArg Arena.size hrolls.symm)
  reallocations_eq r := by rw [roll_of_rolls_eq hrolls r]

theorem adds_addTally (w : World) (t : Tally) : w.Adds (w.addTally t).2 where
  log_eq := rfl
  tally_eq _ hother := w.tallies.get_issue_of_ne t (Nat.ne_of_lt hother)
  tallies_le := Nat.le_trans (Nat.le_succ _) (Nat.le_of_eq (w.tallies.size_issue t).symm)
  roll_eq _ _ := rfl
  rolls_le := Nat.le_refl _
  reallocations_eq _ := rfl

/-- A roll that is unused when it is added has not grown, and neither has a place without one. -/
theorem adds_addRoll {l : Roll BufferId} (h : l.Unused) (w : World) : w.Adds (w.addRoll l).2 where
  log_eq := rfl
  tally_eq _ _ := rfl
  tallies_le := Nat.le_refl _
  roll_eq r hr := roll_issue_of_ne rfl (Nat.ne_of_lt hr)
  rolls_le := Nat.le_trans (Nat.le_succ _) (Nat.le_of_eq (w.rolls.size_issue l).symm)
  reallocations_eq r := by
    by_cases hr : r.index = w.rolls.size
    · have hnone := unused_of_size_le (w := w) (Nat.le_of_eq hr.symm)
      rw [roll_issue_self rfl hr, h.reallocations_eq, hnone.reallocations_eq]
    · rw [roll_issue_of_ne rfl hr]

theorem adoptItems_same (xs : List Item) (w : World) :
    (w.adoptItems xs).2.log = w.log ∧ (w.adoptItems xs).2.tallies = w.tallies ∧
      (w.adoptItems xs).2.rolls = w.rolls ∧ (w.adoptItems xs).2.ambient = w.ambient := by
  induction xs generalizing w with
  | nil => exact ⟨rfl, rfl, rfl, rfl⟩
  | cons x xs ih =>
    obtain ⟨hlog, htallies, hrolls, hambient⟩ := ih (w.adoptItem x).2
    cases x <;> exact ⟨hlog, htallies, hrolls, hambient⟩

/-- **Keeping an answer only adds to what there is.** -/
theorem adds_adopt {answer : Answer} (h : answer.MakesUnused) (asked : Value) (w : World) :
    w.Adds (w.adopt asked answer).2 := by
  cases answer with
  | itself => exact adds_of_same rfl rfl rfl
  | item x => cases x <;> exact adds_of_same rfl rfl rfl
  | items xs =>
    obtain ⟨hlog, htallies, hrolls, -⟩ := adoptItems_same xs w
    exact adds_of_same hlog htallies hrolls
  | draft d =>
    cases d with
    | roll l => exact adds_addRoll (h l rfl) w
    | guardedRoll l =>
      have hadds := adds_addRoll (h l rfl) w
      exact ⟨hadds.log_eq, hadds.tally_eq, hadds.tallies_le, hadds.roll_eq, hadds.rolls_le,
        hadds.reallocations_eq⟩
    | tally start => exact adds_addTally w _
    | walk k => exact adds_of_same rfl rfl rfl

/-- Keeping an answer leaves the surroundings. -/
@[simp] theorem ambient_adopt (w : World) (asked : Value) (answer : Answer) :
    (w.adopt asked answer).2.ambient = w.ambient := by
  cases answer with
  | itself => rfl
  | item x => cases x <;> rfl
  | items xs => exact (adoptItems_same xs w).2.2.2
  | draft d => cases d <;> rfl

/-- What is added later is not posted. -/
theorem Accounts.adds (h : w.Accounts p w') (hadds : w'.Adds w'') : w.Accounts p w'' where
  log_eq := hadds.log_eq.trans h.log_eq
  tally_eq t ht :=
    (hadds.tally_eq t (Nat.lt_of_lt_of_le ht h.tallies_le)).trans (h.tally_eq t ht)
  tallies_le := Nat.le_trans h.tallies_le hadds.tallies_le
  reallocations_eq r := (hadds.reallocations_eq r).trans (h.reallocations_eq r)
  noted := h.noted
  grew r g hp := by
    obtain ⟨hissued, hbefore, hafter, hlt⟩ := h.grew r g hp
    refine ⟨Nat.lt_of_lt_of_le hissued hadds.rolls_le, hbefore, ?_, hlt⟩
    rw [hadds.roll_eq r hissued, hafter]

theorem Adds.accounts (h : w.Adds w') : w.Accounts .nothing w' :=
  (Undisturbed.refl w).posts.toAccounts.adds h

end World

/-! ### Calls -/

/-- The policy that a call puts in force, if it puts one in force. -/
def Call.policy? (s : Session) : Call → Option Value
  | .serve service args => (s.resolveItems args).toOption.bind service.policy?
  | .ask .. | .identify .. | .configure .. => none

/-- A posting that a call can leave. -/
structure Posting.Suits (s : Session) (c : Call) (p : Posting) : Prop where
  policy?_eq : p.policy? = c.policy? s
  grew : ∀ r g, p = .grew r g → ∃ asked verb args, c.request? s = some (asked, verb, args) ∧
    asked.rollId? = some r ∧ verb ∈ [.add, .addBuffer, .reserve]
  told : ∀ t before after, p = .told t before after →
    ∃ start, c.request? s = some (.tally t start, .recordGrowth, [before, after])

namespace Session

variable {s : Session} {c : Call}

theorem suits_nothing (h : c.policy? s = none) : Posting.Suits s c .nothing :=
  ⟨h.symm, nofun, nofun⟩

theorem suits_of_fits {target : String} {args : List Operand} {asked : Value} {verb : Verb}
    {vs : List Value} {p : Posting}
    (hrequest : (Call.ask target verb args).request? s = some (asked, verb, vs))
    (h : p.Fits asked verb vs) : p.Suits s (.ask target verb args) := by
  cases p with
  | nothing | noted => exact ⟨rfl, nofun, nofun⟩
  | grew r g =>
    refine ⟨rfl, ?_, nofun⟩
    rintro r' g' ⟨⟩
    exact ⟨asked, verb, vs, hrequest, h⟩
  | told t before after =>
    refine ⟨rfl, nofun, ?_⟩
    rintro t' before' after' ⟨⟩
    obtain ⟨⟨start, rfl⟩, rfl, rfl⟩ := h
    exact ⟨start, hrequest⟩
  | chose v => exact h.elim

theorem suits_of_serves {service : Service} {args : List Operand} {vs : List Value} {p : Posting}
    (hargs : s.resolveItems args = .ok vs) (h : p.Serves service vs) :
    p.Suits s (.serve service args) := by
  have hpolicy : (Call.serve service args).policy? s = service.policy? vs := by
    show (s.resolveItems args).toOption.bind service.policy? = _
    rw [hargs]
    rfl
  cases p with
  | nothing | noted | chose => exact ⟨(hpolicy.trans h).symm, nofun, nofun⟩
  | grew | told => exact h.elim

/-- **What carrying out a call leaves in the books.** -/
theorem posts_perform (s : Session) (c : Call) : Act.Posts (Posting.Suits s c) (c.perform s) := by
  cases c with
  | ask target verb args =>
    show Act.Posts _ (MonadExcept.ofExcept (s.register target) >>= fun asked =>
      MonadExcept.ofExcept (s.resolveItems args) >>= fun vs =>
        Act.ask asked verb vs >>= fun answer => pure (asked, answer))
    cases htarget : s.register target with
    | error fault => exact .throw (suits_nothing rfl) _
    | ok asked =>
      cases hargs : s.resolveItems args with
      | error fault => exact .throw (suits_nothing rfl) _
      | ok vs =>
        exact (Act.posts_ask asked verb vs).map.mono
          fun p => suits_of_fits (request?_ask htarget hargs)
  | serve service args =>
    show Act.Posts _ (MonadExcept.ofExcept (s.resolveItems args) >>= fun vs =>
      Act.serve service vs >>= fun answer => pure (Value.null, answer))
    cases hargs : s.resolveItems args with
    | error fault =>
      refine .throw (suits_nothing ?_) _
      show (s.resolveItems args).toOption.bind service.policy? = _
      rw [hargs]
      rfl
    | ok vs => exact (Act.posts_serve service vs).map.mono fun p => suits_of_serves hargs
  | identify x y =>
    exact .ofExcept_bind (suits_nothing rfl) fun v => .ofExcept_bind (suits_nothing rfl) fun u =>
      Act.Reads.posts (P := Act.Any) (.pure _) (suits_nothing rfl)
  | configure lenient fields =>
    exact .ofExcept_bind (suits_nothing rfl) fun v => .ofExcept_bind (suits_nothing rfl) fun u =>
      Act.Reads.posts (P := Act.Any) (.pure _) (suits_nothing rfl)

/-- A call leaves what carrying it out leaves, whether or not its answer is kept. -/
theorem posts_call (hw : s.world.WellFormed) (c : Call) (keep : Option String) :
    ∃ p, Posting.Suits s c p ∧ s.world.Posts p (s.move (.call c keep)).world := by
  have hposts := posts_perform s c s.world hw
  rw [world_move_call]
  cases hrun : (c.perform s).run s.world with
  | error fault w => exact hposts.error hrun
  | ok result w =>
    obtain ⟨p, hp, hw'⟩ := hposts.ok hrun
    cases keep with
    | none => exact ⟨p, hp, hw'⟩
    | some name =>
      have hadds := World.adds_adopt (yields_perform s c _ _ _ hrun) result.1 w
      refine ⟨p, hp, hw'.toAccounts.adds hadds, ?_⟩
      exact (w.ambient_adopt result.1 result.2).trans hw'.ambient_eq

/-! ### Moves -/

/-- The beginning of a block adds a tally at most. -/
theorem adds_enter {scope : Scope} {keep : Option String} {inside : Session}
    (hw : s.world.WellFormed) (h : s.enter scope keep = .ok inside) :
    s.world.Adds inside.world := by
  replace h := enter_eq_ok h
  cases scope with
  | policy v =>
    obtain ⟨v', -, rfl⟩ := h
    exact World.adds_of_same rfl rfl rfl
  | profiled =>
    obtain rfl : inside = _ := h
    have hadds := s.world.adds_addTally Tally.zero
    cases keep <;>
      exact ⟨hadds.log_eq, hadds.tally_eq, hadds.tallies_le, hadds.roll_eq, hadds.rolls_le,
        hadds.reallocations_eq⟩
  | separate =>
    obtain rfl : inside = _ := h
    exact World.adds_of_same rfl rfl rfl
  | editing target =>
    obtain ⟨mark, r, b, w, -, hrun, rfl⟩ := h
    have hread := (reads_currentBuffer r s.world hw).ok hrun
    rw [world_keep]
    exact World.adds_of_same hread.log_eq hread.tallies_eq hread.rolls_eq

/-- A posting that a move can leave. -/
structure Follows (s : Session) (m : Move) (p : Posting) : Prop where
  grew : ∀ r g, p = .grew r g → ∃ asked verb args, s.request? m = some (asked, verb, args) ∧
    asked.rollId? = some r ∧ verb ∈ [.add, .addBuffer, .reserve]
  told : ∀ t before after, p = .told t before after →
    ∃ start, s.request? m = some (.tally t start, .recordGrowth, [before, after])

/-- **What a move leaves in the books.** -/
theorem accounts_move (hw : s.world.WellFormed) (m : Move) :
    ∃ p, s.Follows m p ∧ s.world.Accounts p (s.move m).world := by
  cases m with
  | call c keep =>
    obtain ⟨p, hp, hposts⟩ := posts_call hw c keep
    exact ⟨p, ⟨hp.grew, hp.told⟩, hposts.toAccounts⟩
  | enter scope keep =>
    refine ⟨.nothing, ⟨nofun, nofun⟩, World.Adds.accounts ?_⟩
    cases henter : s.enter scope keep with
    | error fault =>
      rw [move_enter_error henter]
      exact World.adds_of_same rfl rfl rfl
    | ok inside =>
      rw [move_enter henter]
      exact adds_enter hw henter
  | leave scope before =>
    refine ⟨.nothing, ⟨nofun, nofun⟩, World.Adds.accounts ?_⟩
    cases scope <;> exact World.adds_of_same rfl rfl rfl
  | finish keep =>
    refine ⟨.nothing, ⟨nofun, nofun⟩, World.Adds.accounts ?_⟩
    show s.world.Adds (s.keep keep .null).world
    rw [world_keep]
    exact World.adds_of_same rfl rfl rfl

end Session

end TextRoll
