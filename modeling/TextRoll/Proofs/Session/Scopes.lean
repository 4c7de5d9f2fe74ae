/-
TextRoll/Proofs/Session/Scopes.lean

What blocks put in place, and what is in place when they have ended.

The policy in force and the tally in force are restored by different means: a block under a policy
puts back the policy that it found, a profiled block the tally, a separate block both, and an
editing block nothing.  In between, the steps of a block can put policies in force as they
like.  `Step.choices` lists the policies that a step puts in force and leaves there, in order,
those of its nested blocks among them unless such a block restores the policy.  The main
lemma, `Step.ambient_run`, says that this is all: after a step the last of these choices is in
force, or else the policy that was before, and the tally in force is the same as before.

The induction is on the nesting of steps.  It needs nothing of how a body ends, so it covers
bodies that fail and bodies that pass over failures alike.
-/
import TextRoll.Proofs.Session.Postings

namespace TextRoll

/-- The surroundings after some policies were put in force, the last one last. -/
def Ambient.choosing (a : Ambient) (choices : List Value) : Ambient :=
  { a with policy := choices.getLast?.getD a.policy }

namespace Ambient

@[simp] theorem choosing_nil (a : Ambient) : a.choosing [] = a := rfl

@[simp] theorem tally_choosing (a : Ambient) (choices : List Value) :
    (a.choosing choices).tally = a.tally := rfl

theorem choosing_append (a : Ambient) (choices later : List Value) :
    a.choosing (choices ++ later) = (a.choosing choices).choosing later := by
  unfold choosing
  rw [List.getLast?_append]
  cases later.getLast? <;> rfl

theorem choosing_toList (a : Ambient) (choice : Option Value) :
    a.choosing choice.toList = { a with policy := choice.getD a.policy } := by
  cases choice <;> rfl

end Ambient

/-! ### The policies that a step leaves in force -/

mutual

/-- The policies that a step puts in force and leaves there, in order. -/
def Step.choices : Step → Session → List Value
  | .call c _, s => (c.policy? s).toList
  | .block scope keep propagate body, s =>
    match scope, s.enter scope keep with
    | .profiled, .ok inside | .editing _, .ok inside => Step.bodyChoices propagate body inside
    | _, _ => []
  termination_by structural step => step

/-- The policies that the steps of a block put in force and leave there, in order. -/
def Step.bodyChoices (propagate : Bool) : List Step → Session → List Value
  | [], _ => []
  | step :: rest, s =>
    step.choices s ++
      match propagate, (step.run s).1.refusal? with
      | true, some _ => []
      | _, _ => Step.bodyChoices propagate rest (step.run s).2
  termination_by structural steps => steps

end

namespace Session

variable {s inside : Session} {scope : Scope} {keep : Option String}

/-! ### Beginning and ending a block -/

@[simp] theorem world_withAmbient (s : Session) (a : Ambient) :
    (s.withAmbient a).world = { s.world with ambient := a } := rfl

/-- The surroundings that a block begins in. -/
theorem ambient_enter (hs : s.world.WellFormed) (h : s.enter scope keep = .ok inside) :
    match scope with
    | .policy p => ∃ v, s.resolve p = .ok v ∧
      inside.world.ambient = { s.world.ambient with policy := v }
    | .profiled =>
      inside.world.ambient = { s.world.ambient with tally := some ⟨s.world.tallies.size⟩ }
    | .separate => inside.world.ambient = Ambient.initial
    | .editing _ => inside.world.ambient = s.world.ambient := by
  replace h := enter_eq_ok h
  cases scope with
  | policy p =>
    obtain ⟨v, hv, rfl⟩ := h
    exact ⟨v, hv, rfl⟩
  | profiled =>
    obtain rfl : inside = _ := h
    rfl
  | separate =>
    obtain rfl : inside = _ := h
    rfl
  | editing target =>
    obtain ⟨mark, r, b, w, -, hrun, rfl⟩ := h
    rw [world_keep]
    exact ((reads_currentBuffer r s.world hs).ok hrun).ambient_eq

/-- A profiled block begins with a tally of nothing at the next free place. -/
theorem tally_enter_profiled {inside : Session} {keep : Option String}
    (h : s.enter .profiled keep = .ok inside) :
    s.world.tallies.size < inside.world.tallies.size ∧
      inside.world.tally ⟨s.world.tallies.size⟩ = Tally.zero := by
  have htallies : inside.world.tallies = s.world.tallies.issue Tally.zero := by
    obtain rfl : inside = _ := enter_eq_ok h
    show (Session.keep _ _ _).world.tallies = _
    rw [world_keep]
    rfl
  constructor
  · rw [htallies, Arena.size_issue]
    exact Nat.lt_succ_self _
  · show inside.world.tallies.get _ = _
    rw [htallies]
    exact s.world.tallies.get_issue_self Tally.zero

/-- The surroundings that a block leaves when it ends, whatever its body did to the policy. -/
theorem ambient_leave (hs : s.world.WellFormed) (h : s.enter scope keep = .ok inside)
    {ended : Session} {choices : List Value}
    (hended : ended.world.ambient = inside.world.ambient.choosing choices) :
    (ended.leave scope s.world.ambient).world.ambient
      = match scope with
        | .policy _ | .separate => s.world.ambient
        | .profiled | .editing _ => s.world.ambient.choosing choices := by
  have hinside := ambient_enter hs h
  cases scope with
  | policy p =>
    obtain ⟨v, -, hinside⟩ := hinside
    show { ended.world.ambient with policy := s.world.ambient.policy } = s.world.ambient
    rw [hended, hinside]
    rfl
  | profiled =>
    show { ended.world.ambient with tally := s.world.ambient.tally } = _
    rw [hended, hinside]
    rfl
  | separate => rfl
  | editing target =>
    show ended.world.ambient = _
    rw [hended, hinside]

end Session

/-! ### Running blocks -/

namespace Step

variable {s inside : Session} {scope : Scope} {keep : Option String} {propagate : Bool}
  {body : List Step}

/-- A block that has begun leaves the world as its body left it, but for its scope. -/
theorem world_run_block (h : s.enter scope keep = .ok inside) :
    ((block scope keep propagate body).run s).2.world
      = ((runBody propagate body inside).2.2.leave scope s.world.ambient).world := by
  unfold Step.run
  rw [h]
  dsimp only
  rcases runBody propagate body inside with ⟨reports, failure, ended⟩
  cases failure with
  | some refusal => rfl
  | none => exact Session.world_keep _ _ _

/-- A block that has begun fails as its body does. -/
theorem refusal?_run_block (h : s.enter scope keep = .ok inside) :
    ((block scope keep propagate body).run s).1.refusal? = (runBody propagate body inside).2.1 := by
  unfold Step.run
  rw [h]
  dsimp only
  rcases runBody propagate body inside with ⟨reports, failure, ended⟩
  cases failure <;> rfl

/-- A body goes on after a step unless it propagates and the step has failed. -/
theorem runBody_cons (propagate : Bool) (step : Step) (rest : List Step) (s : Session) :
    runBody propagate (step :: rest) s
      = match propagate, (step.run s).1.refusal? with
        | true, some refusal => ([(step.run s).1], some refusal, (step.run s).2)
        | _, _ =>
          let later := runBody propagate rest (step.run s).2
          ((step.run s).1 :: later.1, later.2.1, later.2.2) := rfl

/-- **How a body fails.** One that propagates fails like its first failing step, and any other does
not fail. -/
theorem failure_runBody (propagate : Bool) (steps : List Step) (s : Session) :
    (runBody propagate steps s).2.1
      = if propagate then (runBody propagate steps s).1.findSome? Report.refusal? else none := by
  induction steps generalizing s with
  | nil =>
    unfold runBody
    cases propagate <;> rfl
  | cons step rest ih =>
    have hrest := ih (step.run s).2
    rw [runBody_cons]
    cases propagate with
    | false => exact hrest
    | true =>
      cases hrefusal : (step.run s).1.refusal? with
      | none => simpa [List.findSome?_cons, hrefusal] using hrest
      | some refusal => simp [hrefusal]

end Step

/-! ### The surroundings after a step -/

theorem Session.owned_run {s : Session} (hs : s.world.Owned) (step : Step) :
    (step.run s).2.world.Owned := by
  rw [Step.run_eq_after]
  exact Session.owned_after hs _

theorem Session.owned_enter {s inside : Session} {scope : Scope} {keep : Option String}
    (hs : s.world.Owned) (h : s.enter scope keep = .ok inside) : inside.world.Owned :=
  Session.move_enter h ▸ Session.owned_move hs (.enter scope keep)

-- The induction is on the nesting of steps; within a block it is on the list of its steps.
mutual

/-- **The surroundings after a step:** the last policy that it chose is in force, and the tally that
was in force before. -/
theorem Step.ambient_run : ∀ (step : Step) (s : Session), s.world.Owned →
    (step.run s).2.world.ambient = s.world.ambient.choosing (step.choices s)
  | .call c keep, s, hs => by
    obtain ⟨p, hp, hposts⟩ := Session.posts_call hs.wellFormed c keep
    unfold Step.choices
    rw [Ambient.choosing_toList, ← hp.policy?_eq, ← hposts.ambient_eq]
    unfold Step.run
    rfl
  | .block scope keep propagate body, s, hs => by
    unfold Step.choices
    cases henter : s.enter scope keep with
    | error fault =>
      unfold Step.run
      rw [henter]
      cases scope <;> rfl
    | ok inside =>
      have hbody := Step.ambient_runBody propagate body inside (Session.owned_enter hs henter)
      rw [Step.world_run_block henter, Session.ambient_leave hs.wellFormed henter hbody]
      cases scope <;> rfl

theorem Step.ambient_runBody (propagate : Bool) : ∀ (steps : List Step) (s : Session),
    s.world.Owned → (Step.runBody propagate steps s).2.2.world.ambient
      = s.world.ambient.choosing (Step.bodyChoices propagate steps s)
  | [], s, _ => by
    unfold Step.runBody Step.bodyChoices
    rfl
  | step :: rest, s, hs => by
    have hstep := Step.ambient_run step s hs
    have hrest := Step.ambient_runBody propagate rest (step.run s).2 (Session.owned_run hs step)
    unfold Step.bodyChoices
    rw [Ambient.choosing_append, ← hstep, Step.runBody_cons]
    cases propagate with
    | false => exact hrest
    | true =>
      cases (step.run s).1.refusal? with
      | none => exact hrest
      | some refusal => rfl

end

/-! ### What is in force -/

/-- Asked for the policy in force, the library hands out that of the surroundings. -/
theorem Act.run_activePolicy (w : World) :
    (serve .activePolicy []).run w = .ok (.value w.ambient.policy) w := rfl

/-- Asked for the tally in force, it hands out that of the surroundings. -/
theorem Act.run_activeTally (w : World) :
    (serve .activeTally []).run w
      = .ok (.value (match w.ambient.tally with
          | some t => .tally t []
          | none => .null)) w := rfl

namespace Session

/-- **Blocks put in place what they say and take it away again,** however their bodies end.

* Under a policy, that policy is in force when the body begins, and when it has ended the
  surroundings are exactly those before.
* In a profiled block a tally of nothing is in force that was not there before.  When it has ended
  the tally before is in force again, and the last policy that the body chose stays.
* A separate block begins with the standard policy and no tally, and leaves its opener what it had.
* At every point of a body the tally is the one that it began with, and so is the policy as
  long as the body has chosen none.
* What the first failing step of a propagating body fails with, the block fails with.

What is in force is what the library hands out to whoever asks for it. -/
theorem blocks_scoped {s inside : Session} (hs : s.Reachable) {scope : Scope}
    {keep : Option String} (henter : s.enter scope keep = .ok inside) (propagate : Bool)
    (body : List Step) :
    let before := s.world.ambient
    let ran := (Step.block scope keep propagate body).run s
    let after := ran.2.world.ambient
    let choices := Step.bodyChoices propagate body inside
    (match scope with
      | .policy p => ∃ v, s.resolve p = .ok v ∧
          inside.world.ambient = ⟨v, before.tally⟩ ∧ after = before
      | .profiled =>
          inside.world.ambient = ⟨before.policy, some ⟨s.world.tallies.size⟩⟩ ∧
          inside.world.tally ⟨s.world.tallies.size⟩ = Tally.zero ∧
          after = ⟨choices.getLast?.getD before.policy, before.tally⟩
      | .separate =>
          inside.world.ambient = ⟨.policy Policy.standard, none⟩ ∧ after = before
      | .editing _ =>
          inside.world.ambient = before ∧
          after = ⟨choices.getLast?.getD before.policy, before.tally⟩) ∧
    (∀ n, (Step.runBody propagate (body.take n) inside).2.2.world.ambient
      = inside.world.ambient.choosing (Step.bodyChoices propagate (body.take n) inside)) ∧
    (ran.1.refusal? = if propagate then
        (Step.runBody propagate body inside).1.findSome? Report.refusal?
      else none) ∧
    ∀ w : World, (Act.serve .activePolicy []).run w = .ok (.value w.ambient.policy) w ∧
      (Act.serve .activeTally []).run w = .ok (.value (match w.ambient.tally with
        | some t => .tally t []
        | none => .null)) w := by
  have howned := hs.owned
  have hinside := owned_enter howned henter
  have hbegin := ambient_enter howned.wellFormed henter
  have hend := ambient_leave howned.wellFormed henter
    (Step.ambient_runBody propagate body inside hinside)
  rw [← @Step.world_run_block _ _ _ keep _ _ henter] at hend
  refine ⟨?_, fun n => Step.ambient_runBody propagate (body.take n) inside hinside, ?_,
    fun w => ⟨Act.run_activePolicy w, Act.run_activeTally w⟩⟩
  · cases scope with
    | policy p =>
      obtain ⟨v, hv, hbegin⟩ := hbegin
      exact ⟨v, hv, hbegin, hend⟩
    | profiled => exact ⟨hbegin, (tally_enter_profiled henter).2, hend⟩
    | separate => exact ⟨hbegin, hend⟩
    | editing target => exact ⟨hbegin, hend⟩
  · rw [Step.refusal?_run_block henter, Step.failure_runBody]

/-- A profiled block whose body puts a policy in force and then fails: the policy stays, the tally
is taken away, and the failure is passed on. -/
theorem blocks_scoped_raised :
    let body : List Step := [.call (.serve .usePolicy [.null]) none,
      .call (.serve .raise [.text 0 "stop"]) none, .call (.serve .resetPolicy []) none]
    let ran := (Step.block .profiled none true body).run initial
    ran.2.world.ambient = ⟨.null, none⟩ ∧
      ran.1.refusal?.map (·.fault) = some (.raised "stop") := by
  intro body
  obtain ⟨⟨-, -, hafter⟩, -, hrefusal, -⟩ :=
    @blocks_scoped initial _ reachable_initial .profiled none rfl true body
  exact ⟨hafter.trans rfl, (congrArg (Option.map (·.fault)) hrefusal).trans rfl⟩

end Session

end TextRoll
