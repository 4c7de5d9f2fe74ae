/-
TextRoll/Proofs/Session/Guards.lean

A guard makes no difference.

Several registers may lead to one roll: one holds the roll itself, others guards around it
(`Session.Opens`).  Two scripts reroute each other (`Step.Reroutes`) when they ask the same in the
same order but each request that a guard shares with its roll may go through any of these registers,
and an editing block through any of the guards.  `Step.run_rerouted` says that such scripts report
the same, up to the counters that only a plain roll reports, and lead to the very same session.

The induction is on the nesting of the blocks, so requests and editing blocks inside an editing
block are covered: whoever edits the current element may use the roll meanwhile, whichever way.  It
is different with a separate block inside an editing block.  An editing block keeps its guard to
itself, so whoever asks that guard from such a block waits for ever.  The blocks of sessions know no
waiting, and scripts with separate blocks inside editing blocks reroute no others.
-/
import TextRoll.Proofs.Act.Sharing
import TextRoll.Proofs.Session.Registers
import TextRoll.Proofs.Session.Scopes

namespace TextRoll

/-! ### Reports without counters -/

/-- The state of a roll without its counters, which a guard does not tell. -/
def World.Standing.uncounted (x : World.Standing) : World.Standing := { x with counters := none }

/-- A roll and its guards have the same state, but for the counters. -/
theorem World.uncounted_standing {v v' : Value} {r : RollId} (hv : v.rollId? = some r)
    (hv' : v'.rollId? = some r) (w : World) :
    (w.standing v).map World.Standing.uncounted = (w.standing v').map World.Standing.uncounted := by
  have hroll : ∀ u : Value, u.rollId? = some r →
      (w.standing u).map World.Standing.uncounted
        = (w.standing (.roll r)).map World.Standing.uncounted := by
    intro u hu
    cases u with
    | roll r' => cases hu; rfl
    | guarded mark depth r' => cases hu; rfl
    | null | bool | int | real | text | bytes | list | record | buffer | bookmark | policy | tally
    | growths | growth | walk => cases hu
  rw [hroll v hv, hroll v' hv']

namespace Report

mutual

/-- The report without the counters of the rolls that were asked. -/
def uncounted : Report → Report
  | mk outcome standing body =>
    mk outcome (standing.map World.Standing.uncounted) (uncountedBody body)

/-- The reports of a body without counters. -/
def uncountedBody : Option (List Report) → Option (List Report)
  | none => none
  | some reports => some (uncountedAll reports)

/-- Reports without counters. -/
def uncountedAll : List Report → List Report
  | [] => []
  | report :: rest => uncounted report :: uncountedAll rest

end

@[simp] theorem refusal?_uncounted (x : Report) : x.uncounted.refusal? = x.refusal? := by
  cases x
  rfl

theorem refusal?_eq_of_uncounted {x y : Report} (h : x.uncounted = y.uncounted) :
    x.refusal? = y.refusal? := by
  rw [← refusal?_uncounted x, h, refusal?_uncounted]

end Report

/-- The report of an outermost step without counters, with the same records. -/
def Entry.uncounted (x : Entry) : Entry := { x with report := x.report.uncounted }

/-! ### Registers that lead to one roll -/

/-- All `names` lead to a roll, and `guards` are names of guards that stand right before it. -/
structure Session.Opens (s : Session) (r : RollId) (names guards : List String) : Prop where
  names : ∀ name ∈ names, ∃ v, s.register name = .ok v ∧ v.rollId? = some r
  guards : ∀ name ∈ guards, ∃ mark, s.register name = .ok (.guarded mark 0 r)

/-- Nothing is kept under one of these names. -/
def Spared (names guards : List String) (keep : Option String) : Prop :=
  ∀ name ∈ names ++ guards, keep ≠ some name

instance (names guards : List String) (keep : Option String) :
    Decidable (Spared names guards keep) :=
  inferInstanceAs (Decidable (∀ name ∈ names ++ guards, keep ≠ some name))

theorem Session.Opens.of_register {s s' : Session} {r : RollId} {names guards : List String}
    (h : s.Opens r names guards)
    (hsame : ∀ name ∈ names ++ guards, s'.register name = s.register name) :
    s'.Opens r names guards where
  names name hname := by
    rw [hsame name (List.mem_append_left _ hname)]
    exact h.names name hname
  guards name hname := by
    rw [hsame name (List.mem_append_right _ hname)]
    exact h.guards name hname

/-- Whether a block is run separately. -/
def Scope.isSeparate : Scope → Bool
  | separate => true
  | policy _ | profiled | editing _ => false

/-- Whether a block keeps a guard to itself. -/
def Scope.isEditing : Scope → Bool
  | editing _ => true
  | policy _ | profiled | separate => false

mutual

/-- No separate block stands in the step. -/
def Step.isUndivided : Step → Bool
  | .call .. => true
  | .block scope _ _ body => !scope.isSeparate && areUndivided body
  termination_by structural step => step

/-- No separate block stands in the steps. -/
def Step.areUndivided : List Step → Bool
  | [] => true
  | step :: rest => step.isUndivided && areUndivided rest
  termination_by structural steps => steps

end

mutual

/-- The second step asks what the first one asks, perhaps through other registers. -/
inductive Step.Reroutes (names guards : List String) : Step → Step → Prop
  | call {c : Call} {keep : Option String} (hkeep : Spared names guards keep) :
      Reroutes names guards (.call c keep) (.call c keep)
  | ask {target target' : String} {verb : Verb} {args : List Operand} {keep : Option String}
      (htarget : target ∈ names) (htarget' : target' ∈ names)
      (hshared : verb ∈ Verb.shared args.length) (hkeep : Spared names guards keep) :
      Reroutes names guards (.call (.ask target verb args) keep)
        (.call (.ask target' verb args) keep)
  | block {scope : Scope} {keep : Option String} {propagate : Bool} {body body' : List Step}
      (hkeep : Spared names guards keep) (hbody : BodyReroutes names guards body body')
      (hundivided : scope.isEditing = true → areUndivided body = true) :
      Reroutes names guards (.block scope keep propagate body) (.block scope keep propagate body')
  | edit {target target' : String} {keep : Option String} {propagate : Bool}
      {body body' : List Step} (htarget : target ∈ guards) (htarget' : target' ∈ guards)
      (hkeep : Spared names guards keep) (hbody : BodyReroutes names guards body body')
      (hundivided : areUndivided body = true) :
      Reroutes names guards (.block (.editing target) keep propagate body)
        (.block (.editing target') keep propagate body')

/-- Steps that reroute each other, one by one. -/
inductive Step.BodyReroutes (names guards : List String) : List Step → List Step → Prop
  | nil : BodyReroutes names guards [] []
  | cons {step step' : Step} {rest rest' : List Step} (hstep : Reroutes names guards step step')
      (hrest : BodyReroutes names guards rest rest') :
      BodyReroutes names guards (step :: rest) (step' :: rest')

end

namespace Session

variable {s inside : Session} {r : RollId} {names guards : List String} {keep : Option String}

/-! ### Calls -/

theorem Opens.run_call (h : s.Opens r names guards) (hkeep : Spared names guards keep) (c : Call) :
    (c.run keep s).2.Opens r names guards :=
  h.of_register fun name hname => register_run_call_of_ne (hkeep name hname) c s

/-- **A shared request comes to the same through every register that leads to the roll.** -/
theorem run_ask_rerouted (h : s.Opens r names guards) {target target' : String} {verb : Verb}
    {args : List Operand} (htarget : target ∈ names) (htarget' : target' ∈ names)
    (hshared : verb ∈ Verb.shared args.length) (keep : Option String) :
    ((Call.ask target verb args).run keep s).1.uncounted
        = ((Call.ask target' verb args).run keep s).1.uncounted ∧
      ((Call.ask target verb args).run keep s).2
        = ((Call.ask target' verb args).run keep s).2 := by
  obtain ⟨v, hv, hroll⟩ := h.names target htarget
  obtain ⟨v', hv', hroll'⟩ := h.names target' htarget'
  have hstanding : ∀ w : World,
      (((Call.ask target verb args).asked? s).bind w.standing).map World.Standing.uncounted
        = (((Call.ask target' verb args).asked? s).bind w.standing).map
            World.Standing.uncounted := by
    intro w
    show (((s.register target).toOption).bind w.standing).map _
      = (((s.register target').toOption).bind w.standing).map _
    rw [hv, hv']
    exact World.uncounted_standing hroll hroll' w
  cases hargs : s.resolveItems args with
  | error fault =>
    -- an operand that stands for nothing is found out before anything is asked
    have hfails : ∀ t u, s.register t = .ok u →
        ((Call.ask t verb args).perform s).run s.world = .error fault s.world := by
      intro t u ht
      show EStateM.run (MonadExcept.ofExcept (s.register t) >>= fun asked =>
        MonadExcept.ofExcept (s.resolveItems args) >>= fun vs =>
          Act.ask asked verb vs >>= fun answer => pure (asked, answer)) s.world = _
      rw [ht, hargs]
      rfl
    rw [run_call_error (hfails target v hv), run_call_error (hfails target' v' hv')]
    exact ⟨congrArg (Report.mk _ · none) (hstanding s.world), rfl⟩
  | ok vs =>
    have hlength : verb ∈ Verb.shared vs.length := (length_resolveItems hargs).symm ▸ hshared
    -- a shared request is the same act, whichever of the two is asked
    have hask := Act.ask_eq_ask hlength hroll hroll'
    have hrun : ((Call.ask target verb args).perform s).run s.world = _ :=
      run_perform_ask hv hargs s.world
    have hrun' : ((Call.ask target' verb args).perform s).run s.world = _ :=
      run_perform_ask hv' hargs s.world
    rw [← hask] at hrun'
    cases hanswer : (Act.ask v verb vs).run s.world with
    | error fault w =>
      rw [hanswer] at hrun hrun'
      rw [run_call_error hrun, run_call_error hrun']
      exact ⟨congrArg (Report.mk _ · none) (hstanding w), rfl⟩
    | ok answer w =>
      rw [hanswer] at hrun hrun'
      -- what was asked is never handed back, or it would show which of the two it was
      have hitself : answer ≠ .itself := Act.yields_shared hlength hroll _ _ _ hanswer
      have hadopt : w.adopt v answer = w.adopt v' answer := by
        cases answer with
        | itself => exact absurd rfl hitself
        | item | items | draft => rfl
      rw [run_call_ok hrun, run_call_ok hrun', hadopt]
      exact ⟨congrArg (Report.mk _ · none) (hstanding w), rfl⟩

/-! ### Blocks -/

theorem Opens.enter (h : s.Opens r names guards) (hkeep : Spared names guards keep) {scope : Scope}
    (henter : s.enter scope keep = .ok inside) : inside.Opens r names guards :=
  h.of_register fun name hname => register_enter_of_ne (hkeep name hname) henter

theorem Opens.leave (h : s.Opens r names guards) (scope : Scope) (before : Ambient) :
    (s.leave scope before).Opens r names guards :=
  h.of_register fun name _ => register_leave s scope before name

theorem Opens.kept (h : s.Opens r names guards) (hkeep : Spared names guards keep) (v : Value) :
    (s.keep keep v).Opens r names guards :=
  h.of_register fun name hname => register_keep_of_ne (hkeep name hname) s v

/-- All guards of a roll lend out the same element. -/
theorem enter_editing_rerouted (h : s.Opens r names guards) {target target' : String}
    (htarget : target ∈ guards) (htarget' : target' ∈ guards) (keep : Option String) :
    s.enter (.editing target) keep = s.enter (.editing target') keep := by
  obtain ⟨mark, htarget⟩ := h.guards target htarget
  obtain ⟨mark', htarget'⟩ := h.guards target' htarget'
  unfold Session.enter
  dsimp only
  rw [htarget, htarget']

end Session

namespace Step

variable {r : RollId} {names guards : List String}

/-- What a block comes to, once its body has run. -/
theorem run_block_ok {s inside ended : Session} {scope : Scope} {keep : Option String}
    {propagate : Bool} {body : List Step} {reports : List Report} {failure : Option World.Refusal}
    (h : s.enter scope keep = .ok inside)
    (hran : runBody propagate body inside = (reports, failure, ended)) :
    (block scope keep propagate body).run s
      = (.mk (failure.elim (.ok .null) .error)
          ((scope.asked? s).bind (ended.leave scope s.world.ambient).world.standing) (some reports),
        failure.elim ((ended.leave scope s.world.ambient).keep (scope.keptAtEnd keep) .null)
          fun _ => ended.leave scope s.world.ambient) := by
  unfold Step.run
  rw [h]
  dsimp only
  rw [hran]
  cases failure <;> rfl

theorem run_block_error {s : Session} {scope : Scope} {keep : Option String} {fault : Fault}
    (h : s.enter scope keep = .error fault) (propagate : Bool) (body : List Step) :
    (block scope keep propagate body).run s
      = (.mk (.error (s.world.refusal fault)) ((scope.asked? s).bind s.world.standing) none,
        s) := by
  unfold Step.run
  rw [h]

/-- Two blocks that begin alike and whose bodies come to the same come to the same themselves. -/
theorem run_block_rerouted {s : Session} (h : s.Opens r names guards) {scope scope' : Scope}
    {keep : Option String} {propagate : Bool} {body body' : List Step}
    (henter : s.enter scope keep = s.enter scope' keep)
    (hstanding : ∀ w : World, ((scope.asked? s).bind w.standing).map World.Standing.uncounted
      = ((scope'.asked? s).bind w.standing).map World.Standing.uncounted)
    (hleave : ∀ ended : Session, ended.leave scope = ended.leave scope')
    (hatEnd : scope.keptAtEnd keep = scope'.keptAtEnd keep) (hkeep : Spared names guards keep)
    (hbody : ∀ inside : Session, inside.Opens r names guards →
      Report.uncountedAll (runBody propagate body inside).1
          = Report.uncountedAll (runBody propagate body' inside).1 ∧
        (runBody propagate body inside).2 = (runBody propagate body' inside).2 ∧
        (runBody propagate body inside).2.2.Opens r names guards) :
    ((block scope keep propagate body).run s).1.uncounted
        = ((block scope' keep propagate body').run s).1.uncounted ∧
      ((block scope keep propagate body).run s).2
        = ((block scope' keep propagate body').run s).2 ∧
      ((block scope keep propagate body).run s).2.Opens r names guards := by
  cases hbegin : s.enter scope keep with
  | error fault =>
    rw [run_block_error hbegin, run_block_error (henter ▸ hbegin)]
    exact ⟨congrArg (Report.mk _ · none) (hstanding s.world), rfl, h⟩
  | ok inside =>
    obtain ⟨hreports, hsame, hopens⟩ := hbody inside (h.enter hkeep hbegin)
    have hend : Spared names guards (scope.keptAtEnd keep) := by
      cases scope with
      | policy | separate => exact hkeep
      | profiled | editing => exact fun _ _ => nofun
    -- both bodies end in the same session, which both blocks leave in the same way
    rcases hran : runBody propagate body inside with ⟨reports, failure, ended⟩
    rcases hran' : runBody propagate body' inside with ⟨reports', failure', ended'⟩
    rw [hran] at hreports hsame hopens
    rw [hran'] at hreports hsame
    cases hsame
    have hleft := hopens.leave scope s.world.ambient
    rw [run_block_ok hbegin hran, run_block_ok (henter ▸ hbegin) hran', ← hleave, ← hatEnd]
    refine ⟨?_, rfl, ?_⟩
    · dsimp only at hreports ⊢
      unfold Report.uncounted Report.uncountedBody
      rw [hreports, hstanding]
    · cases failure with
      | some refusal => exact hleft
      | none => exact hleft.kept hend .null

-- The induction is on the nesting of steps; within a block it is on the list of its steps.
mutual

/-- **Rerouted steps report the same, up to counters, and lead to the same session.** -/
theorem run_rerouted : ∀ (step : Step) {step' : Step} (_ : Reroutes names guards step step')
    (s : Session), s.Opens r names guards →
    (step.run s).1.uncounted = (step'.run s).1.uncounted ∧ (step.run s).2 = (step'.run s).2 ∧
      (step.run s).2.Opens r names guards
  | .call c keep, step', hstep, s, h => by
    cases hstep with
    | call hkeep => exact ⟨rfl, rfl, h.run_call hkeep c⟩
    | ask htarget htarget' hshared hkeep =>
      obtain ⟨hreport, hsame⟩ := Session.run_ask_rerouted h htarget htarget' hshared keep
      exact ⟨hreport, hsame, h.run_call hkeep _⟩
  | .block scope keep propagate body, step', hstep, s, h => by
    cases hstep with
    | block hkeep hbody =>
      exact run_block_rerouted h rfl (fun _ => rfl) (fun _ => rfl) rfl hkeep fun inside hinside =>
        runBody_rerouted propagate body hbody inside hinside
    | @edit target target' _ _ _ body' htarget htarget' hkeep hbody =>
      refine run_block_rerouted h (Session.enter_editing_rerouted h htarget htarget' keep) ?_
        (fun _ => rfl) rfl hkeep fun inside hinside =>
        runBody_rerouted propagate body hbody inside hinside
      intro w
      obtain ⟨mark, hv⟩ := h.guards target htarget
      obtain ⟨mark', hv'⟩ := h.guards target' htarget'
      show (((s.register target).toOption).bind w.standing).map _
        = (((s.register target').toOption).bind w.standing).map _
      rw [hv, hv']
      rfl

theorem runBody_rerouted (propagate : Bool) : ∀ (steps : List Step) {steps' : List Step}
    (_ : BodyReroutes names guards steps steps') (s : Session), s.Opens r names guards →
    Report.uncountedAll (runBody propagate steps s).1
        = Report.uncountedAll (runBody propagate steps' s).1 ∧
      (runBody propagate steps s).2 = (runBody propagate steps' s).2 ∧
      (runBody propagate steps s).2.2.Opens r names guards
  | [], steps', hsteps, s, h => by
    cases hsteps
    unfold runBody
    exact ⟨rfl, rfl, h⟩
  | step :: rest, steps', hsteps, s, h => by
    cases hsteps with
    | @cons _ step' _ rest' hstep hrest =>
      obtain ⟨hreport, hsame, hopens⟩ := run_rerouted step hstep s h
      obtain ⟨hreports, hended, hfinal⟩ :=
        runBody_rerouted propagate rest hrest (step.run s).2 hopens
      have hrefusal := Report.refusal?_eq_of_uncounted hreport
      have hcons : ∀ xs ys, Report.uncountedAll xs = Report.uncountedAll ys →
          Report.uncountedAll ((step.run s).1 :: xs)
            = Report.uncountedAll ((step'.run s).1 :: ys) := by
        intro xs ys hxs
        unfold Report.uncountedAll
        rw [hreport, hxs]
      -- the step is refused in both bodies or in none, so they go on or end alike
      rw [runBody_cons, runBody_cons, ← hrefusal, ← hsame]
      cases propagate with
      | false => exact ⟨hcons _ _ hreports, hended, hfinal⟩
      | true =>
        cases (step.run s).1.refusal? with
        | none => exact ⟨hcons _ _ hreports, hended, hfinal⟩
        | some refusal => exact ⟨hcons _ _ rfl, rfl, hopens⟩

end

/-- A body that propagates ends with the first step that fails, and has done what was done by
then. -/
theorem runBody_failing {s : Session} {before : List Step} {step : Step}
    {refusal : World.Refusal} (rest : List Step) (hbefore : (runBody true before s).2.1 = none)
    (hstep : (step.run (runBody true before s).2.2).1.refusal? = some refusal) :
    (runBody true (before ++ step :: rest) s).2
      = (some refusal, (step.run (runBody true before s).2.2).2) := by
  induction before generalizing s with
  | nil =>
    replace hstep : (step.run s).1.refusal? = some refusal := hstep
    rw [List.nil_append, runBody_cons, hstep]
    rfl
  | cons first before ih =>
    rw [runBody_cons] at hbefore hstep
    rw [List.cons_append, runBody_cons, runBody_cons]
    cases hfirst : (first.run s).1.refusal? with
    | none =>
      rw [hfirst] at hbefore hstep
      exact ih hbefore hstep
    | some refusal' =>
      rw [hfirst] at hbefore
      cases hbefore

end Step

/-- **Rerouted scripts report the same, up to counters, log the same, and lead to the same
session.** -/
theorem runScript_rerouted {r : RollId} {names guards : List String} {steps steps' : List Step}
    (hsteps : Step.BodyReroutes names guards steps steps') {s : Session}
    (h : s.Opens r names guards) :
    (runScript steps s).1.map Entry.uncounted = (runScript steps' s).1.map Entry.uncounted ∧
      (runScript steps s).2 = (runScript steps' s).2 := by
  induction steps generalizing steps' s with
  | nil =>
    cases hsteps
    exact ⟨rfl, rfl⟩
  | cons step rest ih =>
    cases hsteps with
    | @cons _ step' _ rest' hstep hrest =>
      obtain ⟨hreport, hsame, hopens⟩ := Step.run_rerouted step hstep s h
      obtain ⟨hentries, hended⟩ := ih hrest hopens
      rw [hsame] at hentries hended
      unfold runScript
      dsimp only
      rw [hsame, List.map_cons, List.map_cons, hentries]
      refine ⟨congrArg (· :: _) ?_, hended⟩
      unfold Entry.uncounted
      rw [hreport]

namespace Session

variable {s : Session} {r : RollId} {names guards : List String}

theorem enter_editing_ok {target : String} {mark : Mark}
    (htarget : s.register target = .ok (.guarded mark 0 r)) (keep : Option String) {b : BufferId}
    {w : World} (hrun : (Act.currentBuffer r).run s.world = .ok b w) :
    s.enter (.editing target) keep = .ok ({ s with world := w }.keep keep (.buffer b)) := by
  unfold Session.enter
  simp only [htarget, hrun]

theorem enter_editing_error {target : String} {mark : Mark}
    (htarget : s.register target = .ok (.guarded mark 0 r)) (keep : Option String) {fault : Fault}
    {w : World} (hrun : (Act.currentBuffer r).run s.world = .error fault w) :
    s.enter (.editing target) keep = .error fault := by
  unfold Session.enter
  simp only [htarget, hrun]

/-- An editing block lends out the current element, and ends as its body does. -/
theorem run_editing (hs : s.world.Owned) {target : String} {mark : Mark}
    (htarget : s.register target = .ok (.guarded mark 0 r)) (keep : Option String)
    (propagate : Bool) (body : List Step) :
    let ran := (Step.block (.editing target) keep propagate body).run s
    let standing (w : World) := w.standing (.guarded mark 0 r)
    ((s.world.roll r).length = 0 → ran = (.mk
        (.error (s.world.refusal (.emptyRoll (.ofText "current_ref")))) (standing s.world) none,
      s)) ∧
    ∀ b, (s.world.roll r).length ≠ 0 →
      (s.world.roll r).slots[(s.world.roll r).cursor]? = some (some b) →
      let edited := Step.runBody propagate body (s.keep keep (.buffer b))
      ran = (.mk (edited.2.1.elim (.ok .null) .error) (standing edited.2.2.world) (some edited.1),
        edited.2.2) := by
  have hstanding : ∀ w : World,
      ((Scope.editing target).asked? s).bind w.standing = w.standing (.guarded mark 0 r) := by
    intro w
    show ((s.register target).toOption).bind w.standing = _
    rw [htarget]
    rfl
  refine ⟨fun hzero => ?_, fun b hne hb => ?_⟩
  · have henter := enter_editing_error htarget keep (Act.run_currentBuffer_empty hzero)
    rw [Step.run_block_error henter, hstanding]
  · have henter := enter_editing_ok htarget keep
      (Act.run_currentBuffer (hs.wellFormed r) (Nat.pos_of_ne_zero hne) hb)
    rcases hran : Step.runBody propagate body (s.keep keep (.buffer b)) with
      ⟨reports, failure, ended⟩
    dsimp only
    rw [Step.run_block_ok henter hran, hstanding]
    cases failure <;> rfl

/-- **A guard is transparent.**  Once some registers lead to one roll, through guards or not, it
makes no difference which of them is asked.

* Scripts that differ only in that report the same answers and failures, log the same records and
  lead to the same session, whatever else they do and however their blocks are nested, as long as
  no separate block waits for the guard of an editing block around it.
* The printed form of a guard is that of its roll behind one word.
* An editing block lends out what following a bookmark of the current element leads to.  If there is
  no element it fails as the bookmark does, and its body is not run; otherwise what the body does is
  all that happens, up to the step that it fails with, if it fails. -/
theorem guards_transparent (hs : s.Reachable) (hopens : s.Opens r names guards) :
    (∀ steps steps', Step.BodyReroutes names guards steps steps' →
      (runScript steps s).1.map Entry.uncounted = (runScript steps' s).1.map Entry.uncounted ∧
        (runScript steps s).2 = (runScript steps' s).2) ∧
    (∀ (mark : Mark) (verb : Verb), verb = .printed ∨ verb = .written →
      ∃ form w', (Act.ask (.roll r) verb []).run s.world = .ok (.value (.ofText form)) w' ∧
        (Act.ask (.guarded mark 0 r) verb []).run s.world
          = .ok (.value (.ofText ("Locked" ++ form))) w') ∧
    ∀ target ∈ guards, ∀ (keep : Option String) (propagate : Bool) (body : List Step),
      let ran := (Step.block (.editing target) keep propagate body).run s
      let fault : Fault := .emptyRoll (.ofText "current_ref")
      ((Act.currentByBookmark r).run s.world = .error fault s.world ∧ ran.2 = s ∧
        ran.1.outcome = .error (s.world.refusal fault) ∧ (s.world.roll r).length = 0) ∨
      ∃ b, (Act.currentByBookmark r).run s.world = .ok (.value (.buffer b)) s.world ∧
        (s.world.roll r).slots[(s.world.roll r).cursor]? = some (some b) ∧
        let inside := s.keep keep (.buffer b)
        let edited := Step.runBody propagate body inside
        ran.1.outcome = edited.2.1.elim (.ok .null) .error ∧ ran.2 = edited.2.2 ∧
        ∀ before step rest refusal, propagate = true → body = before ++ step :: rest →
          (Step.runBody true before inside).2.1 = none →
          (step.run (Step.runBody true before inside).2.2).1.refusal? = some refusal →
          ran.1.outcome = .error refusal ∧
            ran.2 = (step.run (Step.runBody true before inside).2.2).2 := by
  have howned := hs.owned
  have hr := howned.wellFormed r
  refine ⟨fun steps steps' h => runScript_rerouted h hopens,
    fun mark verb hverb => Act.run_form hr hverb mark, ?_⟩
  intro target htarget keep propagate body ran fault
  obtain ⟨mark, hguard⟩ := hopens.guards target htarget
  obtain ⟨hempty, hlent⟩ := run_editing howned hguard keep propagate body
  rcases Act.run_current_cases hr with ⟨hzero, hbookmark, -⟩ | ⟨hne, b, hb, hbookmark, -⟩
  · have hran : ran = _ := hempty hzero
    rw [hran]
    exact .inl ⟨hbookmark, rfl, rfl, hzero⟩
  · have hran : ran = _ := hlent b hne hb
    refine .inr ⟨b, hbookmark, hb, ?_⟩
    dsimp only
    rw [hran]
    refine ⟨rfl, rfl, ?_⟩
    rintro before step rest refusal rfl rfl hbefore hstep
    have hfails := Step.runBody_failing rest hbefore hstep
    rw [hfails]
    exact ⟨rfl, rfl⟩

/-- A roll with one element and its guard: asking either to add, and editing the element through the
guard while it is taken out, leads to the same session. -/
theorem guards_transparent_editing :
    let s := initial.after [.call (.serve .makeRoll []) (some "l"),
      .call (.serve .makeGuard [.register "l"]) (some "w"),
      .call (.ask "l" .add [.text 0 "x"]) none]
    let script (first second : String) : List Step :=
      [.call (.ask first .add [.text 1 "y"]) none,
        .block (.editing "w") (some "b") true
          [.call (.ask second .remove []) (some "c"), .call (.ask "b" .append [.text 2 "z"]) none]]
    s.Reachable ∧ s.Opens ⟨0⟩ ["l", "w"] ["w"] ∧
      Step.BodyReroutes ["l", "w"] ["w"] (script "l" "w") (script "w" "l") ∧
      (runScript (script "l" "w") s).2 = (runScript (script "w" "l") s).2 ∧
      (runScript (script "w" "l") s).2.world.texts ⟨0⟩ = ["y"] := by
  intro s script
  have hreachable : s.Reachable := ⟨_, rfl⟩
  have hopens : s.Opens ⟨0⟩ ["l", "w"] ["w"] := by
    constructor
    · intro name hname
      rcases List.mem_pair.mp hname with rfl | rfl
      · exact ⟨.roll ⟨0⟩, rfl, rfl⟩
      · exact ⟨.guarded (.kept 1) 0 ⟨0⟩, rfl, rfl⟩
    · intro name hname
      obtain rfl := List.mem_singleton.mp hname
      exact ⟨.kept 1, rfl⟩
  have hreroutes : Step.BodyReroutes ["l", "w"] ["w"] (script "l" "w") (script "w" "l") :=
    .cons (.ask (by decide) (by decide) (by decide) (by decide))
      (.cons (.edit (by decide) (by decide) (by decide)
        (.cons (.ask (by decide) (by decide) (by decide) (by decide))
          (.cons (.call (by decide)) .nil)) rfl) .nil)
  exact ⟨hreachable, hopens, hreroutes,
    ((guards_transparent hreachable hopens).1 _ _ hreroutes).2, by decide +kernel⟩

end Session

end TextRoll
