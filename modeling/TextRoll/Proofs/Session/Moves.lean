/-
TextRoll/Proofs/Session/Moves.lean

Sessions as runs of moves.

Running a script is nested: blocks hold steps, which may be blocks.  What happens to the
session is not: it makes one move after the other, a call, the beginning of a block or
its end.  `Step.moves` lists the moves of a step in order, and `run_eq_after` says that
running the step and making its moves lead to the same session; the same holds for the
body of a block and for a whole script (`runScript_eq_after`).  So what every move keeps
holds in every session that any script leads to, and at every moment in between
(`Session.Reachable`).

Moves are not restricted to the order in which blocks begin and end.  There are more
runs of moves than there are scripts, and all that is proved of runs holds of them all.
-/
import TextRoll.Run

namespace TextRoll

/-- One thing that happens to a session. -/
inductive Move
  | call (c : Call) (keep : Option String)
  /-- A block begins. -/
  | enter (scope : Scope) (keep : Option String)
  /-- The scope of a block is taken away; `before` is what was in place before it. -/
  | leave (scope : Scope) (before : Ambient)
  /-- A block that ran well fills its register. -/
  | finish (keep : Option String)

namespace Session

/-- The session after a move. -/
def move (s : Session) : Move → Session
  | .call c keep => (c.run keep s).2
  | .enter scope keep =>
    match s.enter scope keep with
    | .ok inside => inside
    | .error _ => s
  | .leave scope before => s.leave scope before
  | .finish keep => s.keep keep .null

/-- The session after some moves, the first one first. -/
def after (s : Session) (ms : List Move) : Session := ms.foldl move s

/-- A session that some moves lead to from the beginning. -/
def Reachable (s : Session) : Prop := ∃ ms, s = initial.after ms

@[simp] theorem after_nil (s : Session) : s.after [] = s := rfl

@[simp] theorem after_cons (s : Session) (m : Move) (ms : List Move) :
    s.after (m :: ms) = (s.move m).after ms := rfl

@[simp] theorem after_append (s : Session) (ms ms' : List Move) :
    s.after (ms ++ ms') = (s.after ms).after ms' := List.foldl_append

theorem Reachable.after {s : Session} (h : s.Reachable) (ms : List Move) :
    (s.after ms).Reachable := by
  obtain ⟨before, rfl⟩ := h
  exact ⟨before ++ ms, (after_append _ _ _).symm⟩

theorem Reachable.move {s : Session} (h : s.Reachable) (m : Move) : (s.move m).Reachable :=
  h.after [m]

theorem reachable_initial : initial.Reachable := ⟨[], rfl⟩

/-- What holds at first and is kept by every move holds in every reachable session. -/
theorem Reachable.induction {p : Session → Prop} {s : Session} (h : s.Reachable)
    (hinitial : p initial) (hmove : ∀ s m, p s → p (s.move m)) : p s := by
  obtain ⟨ms, rfl⟩ := h
  have hrun : ∀ (ms : List Move) (s : Session), p s → p (s.after ms) := by
    intro ms
    induction ms with
    | nil => exact fun s hs => hs
    | cons m ms ih => exact fun s hs => ih (s.move m) (hmove s m hs)
  exact hrun ms initial hinitial

end Session

/-! ### The moves of a script -/

mutual

/-- The moves of a step. -/
def Step.moves : Step → Session → List Move
  | .call c keep, _ => [.call c keep]
  | .block scope keep propagate body, s =>
    match s.enter scope keep with
    | .error _ => []
    | .ok inside =>
      .enter scope keep :: (Step.bodyMoves propagate body inside ++
        .leave scope s.world.ambient ::
          match (Step.runBody propagate body inside).2.1 with
          | some _ => []
          | none => [.finish (scope.keptAtEnd keep)])
  termination_by structural step => step

/-- The moves of the steps of a block. -/
def Step.bodyMoves (propagate : Bool) : List Step → Session → List Move
  | [], _ => []
  | step :: rest, s =>
    step.moves s ++
      match propagate, (step.run s).1.refusal? with
      | true, some _ => []
      | _, _ => Step.bodyMoves propagate rest (step.run s).2
  termination_by structural steps => steps

end

/-- The moves of a script. -/
def scriptMoves : List Step → Session → List Move
  | [], _ => []
  | step :: rest, s => step.moves s ++ scriptMoves rest (step.run s).2

-- The induction is on the nesting of steps; within a block it is on the list of its steps.
mutual

/-- **Running a step is making its moves.** -/
theorem Step.run_eq_after : ∀ (step : Step) (s : Session), (step.run s).2 = s.after (step.moves s)
  | .call c keep, s => by
    unfold Step.run Step.moves
    rfl
  | .block scope keep propagate body, s => by
    unfold Step.run Step.moves
    cases henter : s.enter scope keep with
    | error fault => rfl
    | ok inside =>
      have hinside : s.move (.enter scope keep) = inside := by
        show (match s.enter scope keep with
          | .ok inside => inside
          | .error _ => s) = inside
        rw [henter]
      have hbody := Step.runBody_eq_after propagate body inside
      dsimp only
      rw [Session.after_cons, hinside, Session.after_append, ← hbody]
      rcases Step.runBody propagate body inside with ⟨reports, failure, ended⟩
      cases failure with
      | some refusal => rfl
      | none => rfl

theorem Step.runBody_eq_after (propagate : Bool) : ∀ (steps : List Step) (s : Session),
    (Step.runBody propagate steps s).2.2 = s.after (Step.bodyMoves propagate steps s)
  | [], s => by
    unfold Step.runBody Step.bodyMoves
    rfl
  | step :: rest, s => by
    have hstep := Step.run_eq_after step s
    have hrest := Step.runBody_eq_after propagate rest (step.run s).2
    unfold Step.runBody Step.bodyMoves
    rw [Session.after_append, ← hstep]
    rcases hrun : step.run s with ⟨report, next⟩
    rw [hrun] at hrest
    dsimp only at hrest ⊢
    rcases propagate with - | - <;> rcases report.refusal? with - | refusal
    · exact hrest
    · exact hrest
    · exact hrest
    · rfl

end

/-- **Running a script is making its moves.** -/
theorem runScript_eq_after (steps : List Step) (s : Session) :
    (runScript steps s).2 = s.after (scriptMoves steps s) := by
  induction steps generalizing s with
  | nil => rfl
  | cons step rest ih =>
    show (runScript rest (step.run s).2).2 = _
    rw [ih, scriptMoves, Session.after_append, Step.run_eq_after]

end TextRoll
