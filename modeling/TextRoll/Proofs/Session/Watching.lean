/-
TextRoll/Proofs/Session/Watching.lean

Runs in which something else happens between the moves.

A run is a list of stages: its own moves, which are watched, and moves made aside from it, which are
not.  If a relation between sessions is kept by the own moves, made in both, and by the moves aside,
made in one alone, then what is watched is the same with the moves aside as without them
(`watch_eq_trace`).

A run is orderly when whatever is put back in force was in force before (`Session.Orderly`).  That
is so in every script, since a block gives back what it found (`orderly_scriptMoves`).  From the
beginning on, such a run names only what has a place: it fits the view of everything (`along_fits`).
-/
import Mathlib.Data.List.Induction
import TextRoll.Proofs.Session.Turnover
import TextRoll.Proofs.Session.TwoRuns

namespace TextRoll

/-! ### Stages -/

/-- A move in a run: one of its own, or one that is made aside from it. -/
inductive Stage
  | own (m : Move)
  | aside (m : Move)

namespace Stage

/-- The move that is made. -/
def move : Stage → Move
  | own m | aside m => m

/-- The move if it is one of the run's own. -/
def own? : Stage → Option Move
  | own m => some m
  | aside _ => none

end Stage

/-- The own moves of a run. -/
def ownMoves (stages : List Stage) : List Move := stages.filterMap Stage.own?

namespace Session

variable {α : Type} {observe : Session → Move → α}

/-- The session after all stages. -/
def through (s : Session) (stages : List Stage) : Session := s.after (stages.map Stage.move)

/-- What is observed of the own moves of a run. -/
def watch (observe : Session → Move → α) (s : Session) : List Stage → List α
  | [] => []
  | .own m :: rest => observe s m :: watch observe (s.move m) rest
  | .aside m :: rest => watch observe (s.move m) rest

/-- What is observed of some moves. -/
def trace (observe : Session → Move → α) (s : Session) : List Move → List α
  | [] => []
  | m :: rest => observe s m :: trace observe (s.move m) rest

/-- Every move is made where it may be made. -/
def Along (may : Session → Move → Prop) (s : Session) : List Move → Prop
  | [] => True
  | m :: rest => may s m ∧ Along may (s.move m) rest

instance decidableAlong {may : Session → Move → Prop} [∀ s m, Decidable (may s m)] :
    (s : Session) → (ms : List Move) → Decidable (s.Along may ms)
  | _, [] => isTrue trivial
  | s, m :: ms =>
    have : Decidable (Along may (s.move m) ms) := decidableAlong (s.move m) ms
    inferInstanceAs (Decidable (may s m ∧ Along may (s.move m) ms))

/-- Every move aside is made where it may be made. -/
def Asides (may : Session → Move → Prop) (s : Session) : List Stage → Prop
  | [] => True
  | .own m :: rest => Asides may (s.move m) rest
  | .aside m :: rest => may s m ∧ Asides may (s.move m) rest

/-- **Moves aside do not show.** The relation holds between the run without them and the run with
them; it is kept by an own move made in both and by a move aside made in the second alone. -/
theorem watch_eq_trace {related : Session → Session → Prop} {own aside : Session → Move → Prop}
    (hown : ∀ s s' m, related s s' → own s m →
      observe s' m = observe s m ∧ related (s.move m) (s'.move m))
    (haside : ∀ s s' m, related s s' → aside s' m → related s (s'.move m)) (stages : List Stage) :
    ∀ s s', related s s' → s.Along own (ownMoves stages) → s'.Asides aside stages →
      s'.watch observe stages = s.trace observe (ownMoves stages) ∧
        related (s.after (ownMoves stages)) (s'.through stages) := by
  -- the induction is on the stages; a move aside moves the second run on, and the first waits
  induction stages with
  | nil => exact fun s s' h _ _ => ⟨rfl, h⟩
  | cons stage rest ih =>
    intro s s' h hmay hmayAside
    cases stage with
    | own m =>
      obtain ⟨hsame, hmoved⟩ := hown s s' m h hmay.1
      obtain ⟨hwatch, hend⟩ := ih _ _ hmoved hmay.2 hmayAside
      exact ⟨List.cons_eq_cons.mpr ⟨hsame, hwatch⟩, hend⟩
    | aside m => exact ih _ _ (haside s s' m h hmayAside.1) hmay hmayAside.2

/-- What may be made at every moment may be made along the run. -/
theorem along_of_prefixes {may : Session → Move → Prop} {ms : List Move} :
    ∀ {s : Session}, (∀ made m later, ms = made ++ m :: later → may (s.after made) m) →
      s.Along may ms := by
  induction ms with
  | nil => exact fun _ => trivial
  | cons m rest ih =>
    intro s h
    refine ⟨h [] m rest rfl, ih fun made m' later hrest => h (m :: made) m' later ?_⟩
    rw [hrest]
    rfl

theorem along_append {may : Session → Move → Prop} {s : Session} {ms ms' : List Move} :
    s.Along may (ms ++ ms') ↔ s.Along may ms ∧ (s.after ms).Along may ms' := by
  induction ms generalizing s with
  | nil => simp [Along]
  | cons m ms ih => simp [Along, ih, and_assoc]

/-- What may be made along a run may be observed along it. -/
theorem along_mono {may may' : Session → Move → Prop} {s : Session} {ms : List Move}
    (h : ∀ s m, may s m → may' s m) (hms : s.Along may ms) : s.Along may' ms := by
  induction ms generalizing s with
  | nil => trivial
  | cons m ms ih => exact ⟨h s m hms.1, ih hms.2⟩

theorem along_and {may may' : Session → Move → Prop} {s : Session} {ms : List Move}
    (h : s.Along may ms) (h' : s.Along may' ms) : s.Along (fun s m => may s m ∧ may' s m) ms := by
  induction ms generalizing s with
  | nil => trivial
  | cons m ms ih => exact ⟨⟨h.1, h'.1⟩, ih h.2 h'.2⟩

/-- **What every move keeps** where it may be made is kept by the run. -/
theorem along_induction {may : Session → Move → Prop} {p : Session → Prop} {s : Session}
    {ms : List Move} (hms : s.Along may ms) (hs : p s)
    (hmove : ∀ s m, p s → may s m → p (s.move m)) : p (s.after ms) := by
  induction ms generalizing s with
  | nil => exact hs
  | cons m ms ih => exact ih hms.2 (hmove s m hs hms.1)

/-! ### Orderly runs -/

/-- Whatever a move puts back in force was in force at an earlier moment. -/
def Orderly (s : Session) (ms : List Move) : Prop :=
  ∀ made scope before later, ms = made ++ .leave scope before :: later →
    ∃ earlier, earlier <+: made ∧ (s.after earlier).world.ambient = before

/-- Moves that give nothing back are orderly. -/
theorem orderly_of_forall {s : Session} {ms : List Move}
    (h : ∀ m ∈ ms, ∀ scope before, m ≠ .leave scope before) : s.Orderly ms := by
  intro made scope before later hmoves
  exact (h _ (hmoves ▸ List.mem_append_right _ List.mem_cons_self) scope before rfl).elim

theorem orderly_nil (s : Session) : s.Orderly [] := orderly_of_forall nofun

/-- A moment of one run after another is a moment of the first or of the second. -/
theorem moment_append {ms ms' made later : List Move} {m : Move}
    (h : ms ++ ms' = made ++ m :: later) :
    (∃ between, ms = made ++ m :: between) ∨
      ∃ between, made = ms ++ between ∧ ms' = between ++ m :: later := by
  rcases List.append_eq_append_iff.mp h with ⟨between, hmade, hrest⟩ | ⟨between, hms, hrest⟩
  · exact .inr ⟨between, hmade, hrest⟩
  · cases between with
    | nil => exact .inr ⟨[], by rw [hms, List.append_nil, List.append_nil], hrest.symm⟩
    | cons m' between =>
      rw [List.cons_append, List.cons.injEq] at hrest
      exact .inl ⟨between, hrest.1 ▸ hms⟩

/-- One orderly run after another is orderly. -/
theorem Orderly.append {s : Session} {ms ms' : List Move} (h : s.Orderly ms)
    (h' : (s.after ms).Orderly ms') : s.Orderly (ms ++ ms') := by
  intro made scope before later hmoves
  rcases moment_append hmoves with ⟨between, hms⟩ | ⟨between, rfl, hrest⟩
  · exact h made scope before between hms
  · obtain ⟨earlier, hprefix, hambient⟩ := h' between scope before later hrest
    exact ⟨ms ++ earlier, (List.prefix_append_right_inj ms).mpr hprefix, by
      rw [after_append, hambient]⟩

/-- A move that gives nothing back may come next. -/
theorem Orderly.concat {s : Session} {ms : List Move} (h : s.Orderly ms) {m : Move}
    (hm : ∀ scope before, m ≠ .leave scope before) : s.Orderly (ms ++ [m]) :=
  h.append (orderly_of_forall fun _ hm' => List.mem_singleton.mp hm' ▸ hm)

/-- What was in force at the beginning may be given back. -/
theorem Orderly.concat_leave {s : Session} {ms : List Move} (h : s.Orderly ms) (scope : Scope) :
    s.Orderly (ms ++ [.leave scope s.world.ambient]) := by
  intro made scope' before later hmoves
  rcases moment_append hmoves with ⟨between, hms⟩ | ⟨between, rfl, hrest⟩
  · exact h made scope' before between hms
  · cases between with
    | nil =>
      cases hrest
      exact ⟨[], List.nil_prefix, rfl⟩
    | cons m between => cases between <;> cases hrest

end Session

-- The induction is on the nesting of steps; within a block it is on the list of its steps.
mutual

/-- **The moves of a step are orderly:** a block gives back what was in force when it began. -/
theorem Step.orderly_moves : ∀ (step : Step) (s : Session), s.Orderly (step.moves s)
  | .call c keep, s => by
    unfold Step.moves
    exact (Session.orderly_nil s).concat nofun
  | .block scope keep propagate body, s => by
    unfold Step.moves
    cases henter : s.enter scope keep with
    | error fault => exact Session.orderly_nil s
    | ok inside =>
      have hinside : s.after ([] ++ [.enter scope keep]) = inside := Session.move_enter henter
      have hbody := Step.orderly_bodyMoves propagate body inside
      rw [← hinside] at hbody
      have hbegun : s.Orderly ([] ++ [.enter scope keep]) := (Session.orderly_nil s).concat nofun
      -- what the block gives back was in force when it began
      have hleft := (hbegun.append hbody).concat_leave scope
      rw [hinside] at hleft
      dsimp only
      split
      · simpa using hleft
      · simpa using hleft.concat (m := .finish (scope.keptAtEnd keep)) nofun

/-- The moves of the steps of a block are orderly. -/
theorem Step.orderly_bodyMoves (propagate : Bool) : ∀ (steps : List Step) (s : Session),
    s.Orderly (Step.bodyMoves propagate steps s)
  | [], s => by
    unfold Step.bodyMoves
    exact Session.orderly_nil s
  | step :: rest, s => by
    have hstep := Step.orderly_moves step s
    have hrest := Step.orderly_bodyMoves propagate rest (step.run s).2
    unfold Step.bodyMoves
    rw [Step.run_eq_after] at hrest
    refine hstep.append ?_
    split
    · exact Session.orderly_nil _
    · rw [Step.run_eq_after]
      exact hrest

end

/-- **Every script is orderly.** -/
theorem orderly_scriptMoves : ∀ (steps : List Step) (s : Session),
    s.Orderly (scriptMoves steps s) := by
  intro steps
  induction steps with
  | nil => exact Session.orderly_nil
  | cons step rest ih =>
    intro s
    have hrest := ih (step.run s).2
    unfold scriptMoves
    refine (step.orderly_moves s).append ?_
    rw [← Step.run_eq_after]
    exact hrest

/-! ### The view of everything -/

theorem Call.fits_full (s : Session) (c : Call) : c.Fits View.full [] s := by
  refine ⟨c.avoids_nil, ?_⟩
  cases c with
  | ask => exact ⟨fun _ => trivial, fun _ _ _ _ => trivial⟩
  | serve => exact fun _ _ _ => trivial
  | identify | configure => trivial

/-- Every move fits the view of everything, provided that what is given back names only buffers that
have a place. -/
theorem Move.fits_full {s : Session} {m : Move} (hleave : ∀ scope before, m = .leave scope before →
    before.policy.Within View.full s.world.buffers.size) : m.Fits View.full [] s := by
  have hkeep : ∀ keep, KeepsVisibly [] keep := fun _ _ _ => List.not_mem_nil
  cases m with
  | call c keep => exact ⟨c.fits_full s, hkeep keep⟩
  | enter scope keep =>
    cases scope with
    | policy p => exact ⟨trivial, p.avoids_nil⟩
    | profiled => exact ⟨trivial, hkeep keep⟩
    | separate => trivial
    | editing target => exact ⟨List.not_mem_nil, hkeep keep⟩
  | leave scope before =>
    cases scope with
    | editing target => trivial
    | policy | profiled | separate => exact ⟨trivial, hleave _ before rfl⟩
  | finish keep => exact hkeep keep

namespace Session

variable {ms : List Move}

theorem matches_initial : Matches View.full [] initial initial where
  world :=
    { toAlike := .refl _ _
      sound :=
        { issued := fun r b hb => absurd hb
            ((World.unused_of_size_le (w := World.initial) (Nat.zero_le r.index)).not_mem b)
          release := fun r _ => by
            rw [show (initial.world.roll r) = default from
              (initial.world.rolls.get_of_size_le (Nat.zero_le _))]
            trivial
          walks := fun k _ => by
            rw [show (initial.world.walk k) = default from
              (initial.world.walks.get_of_size_le (Nat.zero_le _))]
            exact trivial
          fresh := fun _ _ => trivial
          growths := fun hbooks => (hbooks trivial).elim
          policy := fun _ => Value.within_policy.mpr trivial }
      size_le := Nat.le_refl _ }
  registers_eq := rfl
  within := nofun

/-- What is put back in force names only buffers that have a place, if all earlier sessions do. -/
theorem Orderly.within_before (h : initial.Orderly ms) {made later : List Move} {scope : Scope}
    {before : Ambient} (hms : ms = made ++ .leave scope before :: later)
    (hpast : ∀ earlier, earlier <+: made →
      Matches View.full [] (initial.after earlier) (initial.after earlier)) :
    before.policy.Within View.full (initial.after made).world.buffers.size := by
  obtain ⟨earlier, ⟨between, rfl⟩, rfl⟩ := h made scope before later hms
  have hle := size_le_after (reachable_initial.after earlier).owned between
  rw [← after_append] at hle
  exact ((hpast earlier (List.prefix_append _ _)).world.sound.policy trivial).mono hle

/-- **Every session of an orderly run names only what has a place,** in its registers and wherever
else the view of everything looks. -/
theorem Orderly.matches_self (h : initial.Orderly ms) : ∀ made, made <+: ms →
    ∀ earlier, earlier <+: made →
      Matches View.full [] (initial.after earlier) (initial.after earlier) := by
  intro made
  -- a move that gives something back is covered by the earlier sessions, hence by the induction
  induction made using List.reverseRecOn with
  | nil =>
    intro _ earlier hearlier
    obtain rfl := List.prefix_nil.mp hearlier
    exact matches_initial
  | append_singleton made m ih =>
    intro hmade earlier hearlier
    have hpast := ih ((List.prefix_append made [m]).trans hmade)
    rcases List.prefix_concat_iff.mp hearlier with rfl | hearlier
    · obtain ⟨later, hms⟩ := hmade
      rw [after_append]
      refine (hpast made List.prefix_rfl).move (Move.fits_full fun scope before hm => ?_)
      have hsplit : ms = made ++ .leave scope before :: later := by
        rw [← hms, hm, List.append_assoc]
        rfl
      exact h.within_before hsplit hpast
    · exact hpast earlier hearlier

/-- **Every move of an orderly run fits the view of everything.** -/
theorem Orderly.along_fits (h : initial.Orderly ms) :
    initial.Along (Move.Fits View.full []) ms := by
  refine along_of_prefixes fun made m later hms => Move.fits_full fun scope before hm => ?_
  exact h.within_before (hm ▸ hms) (h.matches_self made ⟨m :: later, hms.symm⟩)

end Session

end TextRoll
