/-
TextRoll/Proofs/Session/Events.lean

What a move of a session means for its rolls and texts.

Every move causes two events (`move_events`): the request that is made causes the first,
and keeping its answer the second, which never takes anything from a roll.  So a move takes
something from a roll just when it makes a request to that roll, directly or through a
guard, that succeeds and asks to take out an element or all of them (`Session.removes`,
`Session.clears`).

Everything that events keep, moves keep: in a reachable session the elements of all rolls
are buffers of their own (`Reachable.owned`).
-/
import TextRoll.Proofs.Act.Keeping
import TextRoll.Proofs.Act.Walking
import TextRoll.Proofs.Session.Moves
import TextRoll.Proofs.World.Owned

namespace TextRoll

/-- Whether an act succeeds in a world. -/
def Act.succeeds {α : Type} (act : Act α) (w : World) : Bool :=
  match act.run w with
  | .ok .. => true
  | .error .. => false

theorem Act.succeeds_of_ok {α : Type} {act : Act α} {w w' : World} {a : α}
    (h : act.run w = .ok a w') : act.succeeds w = true := by
  unfold succeeds
  rw [h]

theorem Act.succeeds_of_error {α : Type} {act : Act α} {w w' : World} {fault : Fault}
    (h : act.run w = .error fault w') : act.succeeds w = false := by
  unfold succeeds
  rw [h]

theorem Act.exists_of_succeeds {α : Type} {act : Act α} {w : World} (h : act.succeeds w = true) :
    ∃ a w', act.run w = .ok a w' := by
  unfold succeeds at h
  cases hrun : act.run w with
  | ok a w' => exact ⟨a, w', rfl⟩
  | error fault w' =>
    rw [hrun] at h
    cases h

/-- The request that a call makes to a value, if it makes one. -/
def Call.request? (s : Session) : Call → Option (Value × Verb × List Value)
  | .ask target verb args =>
    match s.register target, s.resolveItems args with
    | .ok asked, .ok args => some (asked, verb, args)
    | _, _ => none
  | _ => none

namespace Session

variable {s : Session} {r : RollId} {m : Move}

/-! ### What a move asks -/

/-- The request that a move makes to a value, if it makes one. -/
def request? (s : Session) : Move → Option (Value × Verb × List Value)
  | .call c _ => c.request? s
  | _ => none

/-- Whether a move makes a request of some sort to a roll, directly or through a guard, and
succeeds. -/
def does (s : Session) (r : RollId) (sort : Verb → List Value → Bool) (m : Move) : Bool :=
  match s.request? m with
  | some (asked, verb, args) =>
    asked.rollId? == some r && sort verb args && (Act.ask asked verb args).succeeds s.world
  | none => false

/-- Whether a move takes an element out of a roll. -/
def removes (s : Session) (r : RollId) (m : Move) : Bool :=
  s.does r (fun verb _ => verb == .remove || verb == .removeAt) m

/-- Whether a move clears a roll, which may have been empty before. -/
def clears (s : Session) (r : RollId) (m : Move) : Bool :=
  s.does r (fun verb args => verb == .clear && args.isEmpty) m

end Session

/-! ### What a request can cause -/

/-- What an event takes from a roll is what the verb of the request takes. -/
theorem Event.Fits.takes {asked : Value} {verb : Verb} {args : List Value} {e : Event} {r : RollId}
    (h : e.Fits asked verb args) (hasked : asked.rollId? = some r) :
    verb.takes args (e.lossOn r) := by
  unfold Fits at h
  rw [hasked] at h
  cases e with
  | still => exact h
  | changed r' loss added =>
    obtain ⟨rfl, htakes⟩ := h
    rwa [lossOn_changed]
  | edited | created => exact h.elim

/-- Rolls that are not asked lose nothing. -/
theorem Event.Fits.lossOn_of_ne {asked : Value} {verb : Verb} {args : List Value} {e : Event}
    {r : RollId} (h : e.Fits asked verb args) (hasked : asked.rollId? ≠ some r) :
    e.lossOn r = .nothing := by
  unfold Fits at h
  split at h
  · next r' hr' =>
    cases e with
    | still => rfl
    | changed r'' loss added =>
      obtain ⟨rfl, -⟩ := h
      exact if_neg fun heq : r'' = r => hasked (heq ▸ hr')
    | edited | created => exact h.elim
  · exact Spares.lossOn h r

namespace Session

variable {s : Session} {r : RollId} {m : Move}

@[simp] theorem world_keep (s : Session) (register : Option String) (v : Value) :
    (s.keep register v).world = s.world := by
  cases register <;> rfl

/-- A call that fails tells why, and keeps nothing. -/
theorem run_call_error {c : Call} {fault : Fault} {w : World}
    (hrun : (c.perform s).run s.world = .error fault w) (keep : Option String) :
    c.run keep s = (.mk (.error (w.refusal fault)) ((c.asked? s).bind w.standing) none,
      { s with world := w }) := by
  unfold Call.run
  dsimp only
  rw [hrun]

/-- A call that succeeds shows its answer, and keeps it if there is a register for it. -/
theorem run_call_ok {c : Call} {asked : Value} {answer : Answer} {w : World}
    (hrun : (c.perform s).run s.world = .ok (asked, answer) w) (keep : Option String) :
    c.run keep s = (.mk (.ok (w.shownAnswer answer)) ((c.asked? s).bind w.standing) none,
      match keep with
      | none => { s with world := w }
      | some name => { s with world := (w.adopt asked answer).2 }.keep (some name)
          (w.adopt asked answer).1) := by
  unfold Call.run
  dsimp only
  rw [hrun]
  cases keep <;> rfl

/-- The world after a call, whether or not its answer is kept. -/
theorem world_move_call (s : Session) (c : Call) (keep : Option String) :
    (s.move (.call c keep)).world
      = match (c.perform s).run s.world with
        | .error _ w => w
        | .ok (asked, answer) w =>
          match keep with
          | none => w
          | some _ => (w.adopt asked answer).2 := by
  show ((c.run keep s).2).world = _
  cases hrun : (c.perform s).run s.world with
  | error fault w => rw [run_call_error hrun]
  | ok result w =>
    rw [run_call_ok hrun]
    cases keep with
    | none => rfl
    | some name => exact world_keep _ _ _

/-- The register that keeps an answer. -/
theorem register_move_call {c : Call} {name : String} {asked : Value} {answer : Answer} {w : World}
    (hrun : (c.perform s).run s.world = .ok (asked, answer) w) :
    (s.move (.call c (some name))).register name = .ok (w.adopt asked answer).1 := by
  show (c.run (some name) s).2.register name = _
  rw [run_call_ok hrun]
  unfold keep register
  simp

theorem request?_ask {target : String} {verb : Verb} {args : List Operand} {asked : Value}
    {vs : List Value} (htarget : s.register target = .ok asked)
    (hargs : s.resolveItems args = .ok vs) :
    (Call.ask target verb args).request? s = some (asked, verb, vs) := by
  show (match s.register target, s.resolveItems args with
    | .ok asked, .ok args => some (asked, verb, args)
    | _, _ => none) = _
  rw [htarget, hargs]

/-- A request that is made is that of a call whose operands all stand for something. -/
theorem request?_eq_some {c : Call} {asked : Value} {verb : Verb} {vs : List Value}
    (h : c.request? s = some (asked, verb, vs)) :
    ∃ target args, c = .ask target verb args ∧ s.register target = .ok asked ∧
      s.resolveItems args = .ok vs := by
  cases c with
  | ask target verb' args =>
    replace h : (match s.register target, s.resolveItems args with
      | .ok asked, .ok args => some (asked, verb', args)
      | _, _ => none) = some (asked, verb, vs) := h
    cases htarget : s.register target with
    | error fault => rw [htarget] at h; cases h
    | ok asked' =>
      cases hargs : s.resolveItems args with
      | error fault => rw [htarget, hargs] at h; cases h
      | ok vs' =>
        rw [htarget, hargs] at h
        cases h
        exact ⟨target, args, rfl, htarget, hargs⟩
  | serve | identify | configure => cases h

/-- A call to a value is the request to that value. -/
theorem run_perform_ask {target : String} {verb : Verb} {args : List Operand} {asked : Value}
    {vs : List Value} (htarget : s.register target = .ok asked)
    (hargs : s.resolveItems args = .ok vs) (w : World) :
    ((Call.ask target verb args).perform s).run w
      = match (Act.ask asked verb vs).run w with
        | .ok answer w' => .ok (asked, answer) w'
        | .error fault w' => .error fault w' := by
  show EStateM.run (MonadExcept.ofExcept (s.register target) >>= fun asked =>
    MonadExcept.ofExcept (s.resolveItems args) >>= fun vs =>
      Act.ask asked verb vs >>= fun answer => pure (asked, answer)) w = _
  rw [htarget, hargs]
  show EStateM.run (Act.ask asked verb vs >>= fun answer => pure (asked, answer)) w = _
  rw [EStateM.run_bind]
  cases (Act.ask asked verb vs).run w with
  | ok answer w' => rfl
  | error fault w' => rfl

/-- A call to the library is the request to the library. -/
theorem run_perform_serve {service : Service} {args : List Operand} {vs : List Value}
    (hargs : s.resolveItems args = .ok vs) (w : World) :
    ((Call.serve service args).perform s).run w
      = match (Act.serve service vs).run w with
        | .ok answer w' => .ok (.null, answer) w'
        | .error fault w' => .error fault w' := by
  show EStateM.run (MonadExcept.ofExcept (s.resolveItems args) >>= fun vs =>
    Act.serve service vs >>= fun answer => pure (Value.null, answer)) w = _
  rw [hargs]
  show EStateM.run (Act.serve service vs >>= fun answer => pure (Value.null, answer)) w = _
  rw [EStateM.run_bind]
  cases (Act.serve service vs).run w <;> rfl

/-! ### The events of a move -/

/-- The event that a call can cause: that of its request, or none at all. -/
def Suits (request : Option (Value × Verb × List Value)) (e : Event) : Prop :=
  match request with
  | some (asked, verb, args) => e.Fits asked verb args
  | none => e = .still

theorem does_perform (s : Session) (c : Call) :
    Act.Does (Suits (c.request? s)) Act.Any (c.perform s) := by
  cases c with
  | ask target verb args =>
    show Act.Does _ _ (MonadExcept.ofExcept (s.register target) >>= fun asked =>
      MonadExcept.ofExcept (s.resolveItems args) >>= fun vs =>
        Act.ask asked verb vs >>= fun answer => pure (asked, answer))
    cases htarget : s.register target with
    | error fault => exact .throw trivial
    | ok asked =>
      cases hargs : s.resolveItems args with
      | error fault => exact .throw trivial
      | ok vs =>
        rw [request?_ask htarget hargs]
        show Act.Does _ _ (Act.ask asked verb vs >>= fun answer => pure (asked, answer))
        exact (Act.does_ask asked verb vs).map
  | serve service args =>
    exact .ofExcept_bind (fun _ _ => trivial) fun vs => (Act.does_serve service vs).map
  | identify x y =>
    exact .ofExcept_bind (fun _ _ => trivial) fun v =>
      .ofExcept_bind (fun _ _ => trivial) fun u => Act.Reads.does (.pure _) rfl
  | configure lenient fields =>
    exact .ofExcept_bind (fun _ _ => trivial) fun v =>
      .ofExcept_bind (fun _ _ => trivial) fun u => Act.Reads.does (.pure _) rfl

theorem yields_perform (s : Session) (c : Call) :
    Act.Yields (fun result => result.2.MakesUnused) (c.perform s) := by
  cases c with
  | ask target verb args =>
    exact .bind fun asked => .bind fun vs =>
      .bind_of (Act.yields_ask asked verb vs) fun answer h => .pure h
  | serve service args =>
    exact .bind fun vs => .bind_of (Act.yields_serve service vs) fun answer h => .pure h
  | identify x y =>
    exact .bind fun v => .bind fun u => .pure (Act.makesUnused_of_none rfl)
  | configure lenient fields =>
    exact .bind fun v => .bind fun u => .pure (Act.makesUnused_of_none rfl)

/-- A request that is made succeeds just when the call does. -/
theorem succeeds_eq {c : Call} {asked : Value} {verb : Verb} {vs : List Value}
    (h : c.request? s = some (asked, verb, vs)) :
    (Act.ask asked verb vs).succeeds s.world = (c.perform s).succeeds s.world := by
  obtain ⟨target, args, rfl, htarget, hargs⟩ := request?_eq_some h
  unfold Act.succeeds
  rw [run_perform_ask htarget hargs]
  cases (Act.ask asked verb vs).run s.world with
  | ok answer w' => rfl
  | error fault w' => rfl

theorem does_call (s : Session) (r : RollId) (sort : Verb → List Value → Bool) (c : Call)
    (keep : Option String) :
    s.does r sort (.call c keep)
      = match c.request? s with
        | some (asked, verb, args) =>
          asked.rollId? == some r && sort verb args && (c.perform s).succeeds s.world
        | none => false := by
  show (match c.request? s with
    | some (asked, verb, args) =>
      asked.rollId? == some r && sort verb args && (Act.ask asked verb args).succeeds s.world
    | none => false) = _
  cases hrequest : c.request? s with
  | none => rfl
  | some request =>
    obtain ⟨asked, verb, vs⟩ := request
    dsimp only
    rw [succeeds_eq hrequest]

/-- What an event takes from a roll, and what the move that causes it does to that roll. -/
def Tells (s : Session) (m : Move) (r : RollId) : Roll.Loss → Prop
  | .nothing => s.removes r m = false ∧ s.clears r m = false
  | .element _ => s.removes r m = true ∧ s.clears r m = false
  | .everything => s.removes r m = false ∧ s.clears r m = true

theorem tells_of_suits {c : Call} {keep : Option String} {e : Event}
    (he : Suits (c.request? s) e) (hsucceeds : (c.perform s).succeeds s.world = true) :
    s.Tells (.call c keep) r (e.lossOn r) := by
  have hremoves : s.removes r (.call c keep) = _ := does_call s r _ c keep
  have hclears : s.clears r (.call c keep) = _ := does_call s r _ c keep
  unfold Tells
  rw [hremoves, hclears, hsucceeds]
  cases hrequest : c.request? s with
  | none =>
    rw [hrequest] at he
    subst he
    exact ⟨rfl, rfl⟩
  | some request =>
    obtain ⟨asked, verb, vs⟩ := request
    rw [hrequest] at he
    replace he : e.Fits asked verb vs := he
    by_cases hasked : asked.rollId? = some r
    · have htakes := he.takes hasked
      cases hloss : e.lossOn r with
      | nothing =>
        rw [hloss] at htakes
        obtain ⟨hremove, hremoveAt, hclear⟩ := htakes
        have hempty : verb = .clear → vs.isEmpty = false := fun hverb => by
          simpa using fun hnil => hclear ⟨hverb, hnil⟩
        simpa [hremove, hremoveAt] using fun _ => hempty
      | element i =>
        rw [hloss] at htakes
        rcases htakes with rfl | rfl <;> simp [hasked]
      | everything =>
        rw [hloss] at htakes
        obtain ⟨rfl, rfl⟩ := htakes
        simp [hasked]
    · -- what is asked of something else takes nothing from this roll
      rw [he.lossOn_of_ne hasked]
      simp [hasked]

/-- A move that makes no request takes nothing. -/
theorem tells_nothing (h : s.request? m = none) : s.Tells m r .nothing := by
  have hdoes : ∀ sort, s.does r sort m = false := by
    intro sort
    unfold does
    rw [h]
  exact ⟨hdoes _, hdoes _⟩

/-- A request that fails takes nothing. -/
theorem tells_nothing_of_fails {c : Call} {keep : Option String}
    (h : (c.perform s).succeeds s.world = false) : s.Tells (.call c keep) r .nothing := by
  have hdoes : ∀ sort, s.does r sort (.call c keep) = false := by
    intro sort
    rw [does_call, h]
    cases c.request? s with
    | none => rfl
    | some request => exact Bool.and_false _
  exact ⟨hdoes _, hdoes _⟩

/-- Lending out the current element of a roll only reads. -/
theorem reads_currentBuffer (r : RollId) : Act.Reads Act.Any (Act.currentBuffer r) :=
  .roll_bind fun _ => Act.Reads.bind (.ofExcept fun _ _ => trivial) fun _ =>
    Act.reads_followTo _ _

/-- The session after the beginning of a block that can begin. -/
theorem move_enter {scope : Scope} {keep : Option String} {inside : Session}
    (h : s.enter scope keep = .ok inside) : s.move (.enter scope keep) = inside := by
  unfold move
  dsimp only
  rw [h]

theorem move_enter_error {scope : Scope} {keep : Option String} {fault : Fault}
    (h : s.enter scope keep = .error fault) : s.move (.enter scope keep) = s := by
  unfold move
  dsimp only
  rw [h]

/-- What a block begins with. -/
theorem enter_eq_ok {scope : Scope} {keep : Option String} {inside : Session}
    (h : s.enter scope keep = .ok inside) :
    match scope with
    | .policy p => ∃ v, s.resolve p = .ok v ∧
      inside = s.withAmbient { s.world.ambient with policy := v }
    | .profiled => inside =
      ({ s with world := (s.world.addTally Tally.zero).2 }.keep keep
        (.tally ⟨s.world.tallies.size⟩ [])).withAmbient
          { s.world.ambient with tally := some ⟨s.world.tallies.size⟩ }
    | .separate => inside = s.withAmbient Ambient.initial
    | .editing target => ∃ mark r b w, s.register target = .ok (.guarded mark 0 r) ∧
      (Act.currentBuffer r).run s.world = .ok b w ∧
      inside = { s with world := w }.keep keep (.buffer b) := by
  unfold enter at h
  dsimp only at h
  cases scope with
  | policy p =>
    dsimp only at h ⊢
    cases hp : s.resolve p with
    | error fault => rw [hp] at h; cases h
    | ok v =>
      rw [hp] at h
      cases h
      exact ⟨v, rfl, rfl⟩
  | profiled =>
    cases h
    rfl
  | separate =>
    cases h
    rfl
  | editing target =>
    dsimp only at h ⊢
    split at h
    · cases h
    · cases h
    · next mark r hr =>
      split at h
      · next b w hrun =>
        cases h
        exact ⟨mark, r, b, w, hr, hrun, rfl⟩
      · cases h
    · cases h

/-- A block that begins changes the surroundings, or reads the current element of a roll. -/
theorem enter_cases {scope : Scope} {keep : Option String} {inside : Session}
    (h : s.enter scope keep = .ok inside) :
    (inside.world.rolls = s.world.rolls ∧ inside.world.buffers = s.world.buffers) ∨
      ∃ r b, (Act.currentBuffer r).run s.world = .ok b inside.world := by
  replace h := enter_eq_ok h
  cases scope with
  | policy p =>
    obtain ⟨v, -, rfl⟩ := h
    exact .inl ⟨rfl, rfl⟩
  | profiled =>
    obtain rfl : inside = _ := h
    cases keep <;> exact .inl ⟨rfl, rfl⟩
  | separate =>
    obtain rfl : inside = _ := h
    exact .inl ⟨rfl, rfl⟩
  | editing target =>
    obtain ⟨mark, r, b, w, -, hrun, rfl⟩ := h
    exact .inr ⟨r, b, by rw [world_keep]; exact hrun⟩

/-- The beginning of a block is no event. -/
theorem occurs_enter (hw : s.world.WellFormed) (scope : Scope) (keep : Option String) :
    s.world.Occurs .still (s.move (.enter scope keep)).world := by
  cases henter : s.enter scope keep with
  | error fault =>
    rw [move_enter_error henter]
    exact .still rfl (.refl _)
  | ok inside =>
    rw [move_enter henter]
    rcases enter_cases henter with ⟨hrolls, hbuffers⟩ | ⟨r, b, hrun⟩
    · exact Act.occurs_of_same hrolls hbuffers
    · exact ((reads_currentBuffer r s.world hw).ok hrun).occurs

theorem occurs_leave (s : Session) (scope : Scope) (before : Ambient) :
    s.world.Occurs .still (s.move (.leave scope before)).world := by
  cases scope <;> exact Act.occurs_of_same rfl rfl

theorem occurs_finish (s : Session) (keep : Option String) :
    s.world.Occurs .still (s.move (.finish keep)).world := by
  show s.world.Occurs .still (s.keep keep .null).world
  rw [world_keep]
  exact .still rfl (.refl _)

/-- **What a move means for the rolls.** Its request causes one event and keeping the answer causes
another, which takes nothing; what the first takes from a roll is what was asked of that roll. -/
theorem move_events (hw : s.world.WellFormed) (m : Move) :
    ∃ e e', (e' = .still ∨ e' = .created) ∧ s.world.Passes [e, e'] (s.move m).world ∧
      ∀ r, s.Tells m r (e.lossOn r) := by
  have hquiet : s.world.Occurs .still (s.move m).world → s.request? m = none →
      ∃ e e', (e' = .still ∨ e' = .created) ∧ s.world.Passes [e, e'] (s.move m).world ∧
        ∀ r, s.Tells m r (e.lossOn r) := fun hoccurs hnone =>
    ⟨.still, .still, .inl rfl, .cons hoccurs (.single (.still rfl (.refl _))),
      fun r => tells_nothing hnone⟩
  cases m with
  | enter scope keep => exact hquiet (occurs_enter hw scope keep) rfl
  | leave scope before => exact hquiet (occurs_leave s scope before) rfl
  | finish keep => exact hquiet (occurs_finish s keep) rfl
  | call c keep =>
    have hdoes := does_perform s c s.world hw
    have hyields := yields_perform s c s.world
    rw [world_move_call]
    cases hrun : (c.perform s).run s.world with
    | error fault w =>
      obtain ⟨hoccurs, -⟩ := hdoes.error hrun
      exact ⟨.still, .still, .inl rfl, .cons hoccurs (.single (.still rfl (.refl _))),
        fun r => tells_nothing_of_fails (Act.succeeds_of_error hrun)⟩
    | ok result w =>
      obtain ⟨e, he, hoccurs⟩ := hdoes.ok hrun
      have htells : ∀ r, s.Tells (.call c keep) r (e.lossOn r) :=
        fun r => tells_of_suits he (Act.succeeds_of_ok hrun)
      cases keep with
      | none => exact ⟨e, .still, .inl rfl, .cons hoccurs (.single (.still rfl (.refl _))), htells⟩
      | some name =>
        -- what is kept under a name may be a roll that was not there before
        obtain ⟨e', he', hoccurs'⟩ := World.occurs_adopt (hyields _ _ hrun) result.1 w
        exact ⟨e, e', he', .cons hoccurs (.single hoccurs'), htells⟩

/-! ### What moves keep -/

theorem owned_move (h : s.world.Owned) (m : Move) : (s.move m).world.Owned := by
  obtain ⟨e, e', -, hpasses, -⟩ := move_events h.wellFormed m
  exact hpasses.owned h

/-- **In a reachable session the elements of all rolls are buffers of their own.** -/
theorem Reachable.owned (h : s.Reachable) : s.world.Owned :=
  h.induction (p := fun s => s.world.Owned) World.owned_initial fun _ m hs => owned_move hs m

theorem owned_after (h : s.world.Owned) (ms : List Move) : (s.after ms).world.Owned := by
  induction ms generalizing s with
  | nil => exact h
  | cons m ms ih => exact ih (owned_move h m)

/-- A buffer that has a place and is no element is no element after any moves. -/
theorem loose_after (hw : s.world.Owned) {b : BufferId} (hb : s.world.Loose b) (ms : List Move) :
    (s.after ms).world.Loose b := by
  induction ms generalizing s with
  | nil => exact hb
  | cons m ms ih =>
    obtain ⟨e, e', -, hpasses, -⟩ := move_events hw.wellFormed m
    exact ih (owned_move hw m) (hpasses.loose hw.wellFormed hb)

end Session

end TextRoll
