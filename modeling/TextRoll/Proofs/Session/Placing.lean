/-
TextRoll/Proofs/Session/Placing.lean

The moves of a script, and the profiled blocks that they are made in.

A move of a script is made in some session and somewhere in the nesting of blocks.
`Step.placed` lists the moves of a step with both: with the session, and with the tally of the
innermost profiled block around the move, which is read off the nesting alone.  A profiled block
brings a tally of its own for its body, a separate block none, and the other blocks leave the
one that is around them.

`Session.Runs s xs s'` says that the placed moves `xs` lead from `s` to `s'`, each made in the
session that those before it lead to, and that the tally in force was always the innermost one.
The main statement is that the placed moves of a script are such a run (`runs_scriptPlaced`).
-/
import TextRoll.Proofs.Session.Scopes
import TextRoll.Proofs.World.Counting

namespace TextRoll

/-- A move of a script where it is made. -/
structure Placed where
  /-- The session that the move is made in. -/
  session : Session
  move : Move
  /-- The tally of the innermost profiled block around the move. -/
  innermost : Option TallyId

/-- The session after the move. -/
def Placed.after (x : Placed) : Session := x.session.move x.move

/-- The tally of the innermost profiled block around the steps of a block that begins in `s`, where
`outer` is that around the block itself. -/
def Scope.innermost (scope : Scope) (s : Session) (outer : Option TallyId) : Option TallyId :=
  match scope with
  | .profiled => some ⟨s.world.tallies.size⟩
  | .separate => none
  | .policy _ | .editing _ => outer

mutual

/-- The moves of a step, where `t` is the tally of the innermost profiled block around it. -/
def Step.placed : Step → Session → Option TallyId → List Placed
  | .call c keep, s, t => [⟨s, .call c keep, t⟩]
  | .block scope keep propagate body, s, t =>
    match s.enter scope keep with
    | .error _ => []
    | .ok inside =>
      let inner := scope.innermost s t
      let ran := Step.runBody propagate body inside
      ⟨s, .enter scope keep, t⟩ :: (Step.bodyPlaced propagate body inside inner ++
        ⟨ran.2.2, .leave scope s.world.ambient, inner⟩ ::
          match ran.2.1 with
          | some _ => []
          | none => [⟨ran.2.2.leave scope s.world.ambient, .finish (scope.keptAtEnd keep), t⟩])
  termination_by structural step => step

/-- The moves of the steps of a block. -/
def Step.bodyPlaced (propagate : Bool) : List Step → Session → Option TallyId → List Placed
  | [], _, _ => []
  | step :: rest, s, t =>
    step.placed s t ++
      match propagate, (step.run s).1.refusal? with
      | true, some _ => []
      | _, _ => Step.bodyPlaced propagate rest (step.run s).2 t
  termination_by structural steps => steps

end

/-- The moves of a script, around which there is no block. -/
def scriptPlaced : List Step → Session → List Placed
  | [], _ => []
  | step :: rest, s => step.placed s none ++ scriptPlaced rest (step.run s).2

namespace Session

variable {s s' s'' : Session} {m : Move} {t : Option TallyId} {xs ys : List Placed}

/-! ### Tallies of profiled blocks -/

/-- The tally has its place, and all its figures are numbers. -/
def Profiles (s : Session) (t : Option TallyId) : Prop :=
  ∀ place, t = some place →
    place.index < s.world.tallies.size ∧ (s.world.tally place).Counts

/-- A tally of numbers remains one, whatever is posted to it. -/
theorem counts_tallied {x : Tally} (h : x.Counts) (inForce : Option TallyId) (place : TallyId)
    (p : Posting) : (p.tallied inForce place x).Counts := by
  cases p with
  | nothing | noted | chose => exact h
  | grew r g =>
    show (if inForce = some place then _ else x).Counts
    split
    · exact h.afterRecord _ _ _
    · exact h
  | told place' before after =>
    show (if place' = place then _ else x).Counts
    split
    · exact h.afterRecord _ _ _
    · exact h

theorem profiles_move (hs : s.world.WellFormed) (h : s.Profiles t) (m : Move) :
    (s.move m).Profiles t := by
  rintro place rfl
  obtain ⟨hissued, hcounts⟩ := h place rfl
  obtain ⟨p, -, haccounts⟩ := accounts_move hs m
  refine ⟨Nat.lt_of_lt_of_le hissued haccounts.tallies_le, ?_⟩
  rw [haccounts.tally_eq place hissued]
  exact counts_tallied hcounts _ _ _

theorem profiles_after (hs : s.world.Owned) (h : s.Profiles t) (ms : List Move) :
    (s.after ms).Profiles t := by
  induction ms generalizing s with
  | nil => exact h
  | cons m ms ih => exact ih (owned_move hs m) (profiles_move hs.wellFormed h m)

/-- The tally that is innermost in a block is in force when the block begins, and has nothing but
numbers in it. -/
theorem profiles_enter {inside : Session} {scope : Scope} {keep : Option String}
    (hs : s.world.Owned) (hforce : s.world.ambient.tally = t) (h : s.Profiles t)
    (henter : s.enter scope keep = .ok inside) :
    inside.world.ambient.tally = scope.innermost s t ∧ inside.Profiles (scope.innermost s t) := by
  have hkept : inside.Profiles t := move_enter henter ▸ profiles_move hs.wellFormed h _
  have hambient := ambient_enter hs.wellFormed henter
  cases scope with
  | policy p =>
    obtain ⟨v, -, hambient⟩ := hambient
    exact ⟨(congrArg Ambient.tally hambient).trans hforce, hkept⟩
  | profiled =>
    refine ⟨congrArg Ambient.tally hambient, ?_⟩
    rintro place ⟨⟩
    obtain ⟨hissued, hzero⟩ := tally_enter_profiled henter
    exact ⟨hissued, hzero ▸ Tally.counts_zero⟩
  | separate => exact ⟨congrArg Ambient.tally hambient, nofun⟩
  | editing target => exact ⟨(congrArg Ambient.tally hambient).trans hforce, hkept⟩

/-! ### Runs of placed moves -/

/-- These placed moves lead from one session to the other, and the tally in force is always that of
the innermost profiled block. -/
inductive Runs : Session → List Placed → Session → Prop
  | nil (s : Session) : Runs s [] s
  | cons {s s' : Session} {m : Move} {t : Option TallyId} {xs : List Placed}
      (hforce : s.world.ambient.tally = t) (hprofiles : s.Profiles t)
      (hrest : Runs (s.move m) xs s') : Runs s (⟨s, m, t⟩ :: xs) s'

namespace Runs

theorem append (h : s.Runs xs s') (h' : s'.Runs ys s'') : s.Runs (xs ++ ys) s'' := by
  induction h with
  | nil => exact h'
  | cons hforce hprofiles _ ih => exact .cons hforce hprofiles (ih h')

/-- A run can be stopped anywhere. -/
theorem split (h : s.Runs (xs ++ ys) s'') : ∃ s', s.Runs xs s' ∧ s'.Runs ys s'' := by
  induction xs generalizing s with
  | nil => exact ⟨s, .nil s, h⟩
  | cons x xs ih =>
    obtain _ | ⟨hforce, hprofiles, hrest⟩ := h
    obtain ⟨s', hxs, hys⟩ := ih hrest
    exact ⟨s', .cons hforce hprofiles hxs, hys⟩

/-- A run of placed moves leads to where the moves lead. -/
theorem eq_after (h : s.Runs xs s') : s' = s.after (xs.map Placed.move) := by
  induction h with
  | nil => rfl
  | cons _ _ _ ih => exact ih

theorem owned (h : s.Runs xs s') (hs : s.world.Owned) : s'.world.Owned :=
  h.eq_after ▸ owned_after hs _

theorem profiles (h : s.Runs xs s') (hs : s.world.Owned) (hprofiles : s.Profiles t) :
    s'.Profiles t := h.eq_after ▸ profiles_after hs hprofiles _

end Runs

end Session

/-! ### Scripts are runs -/

theorem Step.tally_run {s : Session} (hs : s.world.Owned) (step : Step) :
    (step.run s).2.world.ambient.tally = s.world.ambient.tally := by
  rw [Step.ambient_run step s hs, Ambient.tally_choosing]

-- The induction is on the nesting of steps; within a block it is on the list of its steps.
mutual

/-- **The placed moves of a step are a run,** from before the step to after it. -/
theorem Step.runs_placed : ∀ (step : Step) (s : Session) (t : Option TallyId), s.world.Owned →
    s.world.ambient.tally = t → s.Profiles t → s.Runs (step.placed s t) (step.run s).2
  | .call c keep, s, t, _, hforce, hprofiles => by
    unfold Step.placed Step.run
    exact .cons hforce hprofiles (.nil _)
  | .block scope keep propagate body, s, t, hs, hforce, hprofiles => by
    have htally := Step.tally_run hs (.block scope keep propagate body)
    unfold Step.placed
    unfold Step.run at htally ⊢
    cases henter : s.enter scope keep with
    | error fault => exact .nil s
    | ok inside =>
      obtain ⟨hinner, hinside⟩ := Session.profiles_enter hs hforce hprofiles henter
      have howned := Session.owned_enter hs henter
      have hbody := Step.runs_bodyPlaced propagate body inside _ howned hinner hinside
      have hended : (Step.runBody propagate body inside).2.2.world.ambient.tally
          = scope.innermost s t := by
        rw [Step.ambient_runBody propagate body inside howned, Ambient.tally_choosing, hinner]
      have hleave : ((Step.runBody propagate body inside).2.2.leave scope s.world.ambient).Profiles
          t :=
        Session.profiles_move (hbody.owned howned).wellFormed
          (hbody.profiles howned (Session.move_enter henter ▸
            Session.profiles_move hs.wellFormed hprofiles _)) (.leave scope s.world.ambient)
      rw [henter] at htally
      dsimp only at htally ⊢
      refine .cons hforce hprofiles ?_
      rw [Session.move_enter henter]
      refine hbody.append (.cons hended (hbody.profiles howned hinside) ?_)
      rcases hran : Step.runBody propagate body inside with ⟨reports, failure, ended⟩
      rw [hran] at htally hleave
      cases failure with
      | some refusal => exact .nil _
      | none =>
        dsimp only at htally hleave ⊢
        rw [Session.world_keep] at htally
        exact .cons (htally.trans hforce) hleave (.nil _)

theorem Step.runs_bodyPlaced (propagate : Bool) : ∀ (steps : List Step) (s : Session)
    (t : Option TallyId), s.world.Owned → s.world.ambient.tally = t → s.Profiles t →
    s.Runs (Step.bodyPlaced propagate steps s t) (Step.runBody propagate steps s).2.2
  | [], s, t, _, _, _ => by
    unfold Step.bodyPlaced Step.runBody
    exact .nil s
  | step :: rest, s, t, hs, hforce, hprofiles => by
    have hstep := Step.runs_placed step s t hs hforce hprofiles
    have hrest := Step.runs_bodyPlaced propagate rest (step.run s).2 t (hstep.owned hs)
      ((Step.tally_run hs step).trans hforce) (hstep.profiles hs hprofiles)
    unfold Step.bodyPlaced
    rw [Step.runBody_cons]
    cases propagate with
    | false => exact hstep.append hrest
    | true =>
      cases (step.run s).1.refusal? with
      | none => exact hstep.append hrest
      | some refusal => exact hstep.append (.nil _)

end

/-- **The placed moves of a script are a run.** -/
theorem runs_scriptPlaced {s : Session} (steps : List Step) (hs : s.world.Owned)
    (hforce : s.world.ambient.tally = none) :
    s.Runs (scriptPlaced steps s) (runScript steps s).2 := by
  induction steps generalizing s with
  | nil => exact .nil s
  | cons step rest ih =>
    have hstep := Step.runs_placed step s none hs hforce nofun
    exact hstep.append (ih (hstep.owned hs) ((Step.tally_run hs step).trans hforce))

end TextRoll
