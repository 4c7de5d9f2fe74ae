/-
TextRoll/Proofs/Session/Generations.lean

What moves the generation of a roll on.

Three things move a generation on: storage that grows, an element that is taken out, and
a clear.  `generation_move` keeps the account of a single move, and `generation_after`
that of a run: over any moves the generation goes up by the storage that was reallocated,
the elements that were taken out and the clears, and by nothing else.

A move that does none of the three leaves every element in its slot, and one that does moves
the generation on (`move_fate`).  Hence a slot can be trusted exactly as long as the
generation has not moved: `stands_iff` says so of any moves after the slot was read.
-/
import TextRoll.Proofs.Session.Events

namespace TextRoll

namespace World

variable {w w' : World} {e : Event}

/-- The account of one event. -/
theorem Occurs.generation_eq (h : w.Occurs e w') (hw : w.WellFormed) (r : RollId) :
    (w'.roll r).generation + (w.roll r).reallocations
      = (w.roll r).generation + (w'.roll r).reallocations
        + (if e.lossOn r = .nothing then 0 else 1) := by
  rcases h.fate hw r with ⟨hloss, hretains⟩ | ⟨hloss, hsheds⟩ | ⟨rfl, hold, hnew⟩
  · rw [if_pos hloss]
    exact hretains.generation_eq
  · rw [if_neg hloss, hsheds.generation_eq, hsheds.reallocations_eq]
    omega
  · rw [hold.generation_eq, hold.reallocations_eq, hnew.generation_eq, hnew.reallocations_eq]
    rfl

theorem Occurs.reallocations_le (h : w.Occurs e w') (hw : w.WellFormed) (r : RollId) :
    (w.roll r).reallocations ≤ (w'.roll r).reallocations := by
  rcases h.fate hw r with ⟨-, hretains⟩ | ⟨-, hsheds⟩ | ⟨-, hold, -⟩
  · exact hretains.reallocations_le
  · exact Nat.le_of_eq hsheds.reallocations_eq.symm
  · rw [hold.reallocations_eq]
    exact Nat.zero_le _

end World

namespace Session

variable {s : Session} {r : RollId} {m : Move} {ms ms' : List Move}

/-! ### The account of a run -/

/-- How many of some moves are of a kind, each judged in the session it is made in. -/
def count (p : Session → Move → Bool) : Session → List Move → Nat
  | _, [] => 0
  | s, m :: ms => (p s m).toNat + count p (s.move m) ms

/-- The account of one move. -/
theorem generation_move (hw : s.world.WellFormed) (m : Move) (r : RollId) :
    ((s.move m).world.roll r).generation + (s.world.roll r).reallocations
      = (s.world.roll r).generation + ((s.move m).world.roll r).reallocations
        + ((s.removes r m).toNat + (s.clears r m).toNat) := by
  obtain ⟨e, e', he', hpasses, htells⟩ := move_events hw m
  obtain _ | ⟨hfirst, _ | ⟨hsecond, hnil⟩⟩ := hpasses
  cases hnil
  have hone := hfirst.generation_eq hw r
  have htwo := hsecond.generation_eq (hfirst.wellFormed hw) r
  -- only the first event can take something
  have hnothing : e'.lossOn r = .nothing := by
    rcases he' with rfl | rfl <;> rfl
  rw [if_pos hnothing] at htwo
  have htold := htells r
  cases hloss : e.lossOn r with
  | nothing =>
    rw [hloss] at htold
    rw [if_pos hloss] at hone
    simp only [htold.1, htold.2, Bool.toNat_false]
    omega
  | element i =>
    rw [hloss] at htold
    rw [if_neg (by rw [hloss]; nofun)] at hone
    simp only [htold.1, htold.2, Bool.toNat_false, Bool.toNat_true]
    omega
  | everything =>
    rw [hloss] at htold
    rw [if_neg (by rw [hloss]; nofun)] at hone
    simp only [htold.1, htold.2, Bool.toNat_false, Bool.toNat_true]
    omega

/-- The storage of a roll is never forgotten to have grown. -/
theorem reallocations_le_move (hw : s.world.WellFormed) (m : Move) (r : RollId) :
    (s.world.roll r).reallocations ≤ ((s.move m).world.roll r).reallocations := by
  obtain ⟨e, e', -, hpasses, -⟩ := move_events hw m
  obtain _ | ⟨hfirst, _ | ⟨hsecond, hnil⟩⟩ := hpasses
  cases hnil
  exact Nat.le_trans (hfirst.reallocations_le hw r)
    (hsecond.reallocations_le (hfirst.wellFormed hw) r)

/-- **The account of a run.** -/
theorem generation_after (hw : s.world.Owned) (ms : List Move) (r : RollId) :
    ((s.after ms).world.roll r).generation + (s.world.roll r).reallocations
      = (s.world.roll r).generation + ((s.after ms).world.roll r).reallocations
        + (count (removes · r) s ms + count (clears · r) s ms) := by
  induction ms generalizing s with
  | nil => rfl
  | cons m ms ih =>
    have hmove := generation_move hw.wellFormed m r
    have hrest := ih (owned_move hw m)
    simp only [after_cons, count]
    omega

/-- Generations never go back. -/
theorem generation_le_after (hw : s.world.Owned) (ms : List Move) (r : RollId) :
    (s.world.roll r).generation ≤ ((s.after ms).world.roll r).generation := by
  have hle : (s.world.roll r).reallocations ≤ ((s.after ms).world.roll r).reallocations := by
    induction ms generalizing s with
    | nil => exact Nat.le_refl _
    | cons m ms ih =>
      exact Nat.le_trans (reallocations_le_move hw.wellFormed m r) (ih (owned_move hw m))
  have := generation_after hw ms r
  omega

/-! ### What disturbs the slots of a roll -/

/-- Whether the storage of a roll grows in a move. -/
def grows (s : Session) (r : RollId) (m : Move) : Bool :=
  (s.world.roll r).capacity < ((s.move m).world.roll r).capacity

/-- Whether a move grows the storage of a roll, takes an element out of it or clears it. -/
def disturbs (s : Session) (r : RollId) (m : Move) : Bool :=
  s.grows r m || s.removes r m || s.clears r m

/-- None of some moves disturbs a roll. -/
def Leaves (s : Session) (r : RollId) (ms : List Move) : Prop :=
  ∀ before m later, ms = before ++ m :: later → (s.after before).disturbs r m = false

theorem leaves_nil : s.Leaves r [] := by
  intro before m later h
  simp at h

theorem leaves_cons : s.Leaves r (m :: ms) ↔ s.disturbs r m = false ∧ (s.move m).Leaves r ms := by
  constructor
  · intro h
    refine ⟨h [] m ms rfl, ?_⟩
    rintro before m' later rfl
    exact h (m :: before) m' later rfl
  · rintro ⟨hm, hms⟩ before m' later heq
    cases before with
    | nil =>
      injection heq with hhead htail
      exact hhead ▸ hm
    | cons m'' before =>
      injection heq with hhead htail
      subst hhead
      exact hms before m' later htail

/-- A move that takes nothing from a roll with elements leaves every element in its slot, even if
storage grows. -/
theorem move_retains (hw : s.world.WellFormed) (hpos : 0 < (s.world.roll r).length)
    (hremoves : s.removes r m = false) (hclears : s.clears r m = false) :
    (s.world.roll r).Retains ((s.move m).world.roll r) := by
  obtain ⟨e, e', he', hpasses, htells⟩ := move_events hw m
  obtain _ | ⟨hfirst, _ | ⟨hsecond, hnil⟩⟩ := hpasses
  cases hnil
  have hnothing : e.lossOn r = .nothing := by
    have htold := htells r
    cases hloss : e.lossOn r with
    | nothing => rfl
    | element i =>
      rw [hloss] at htold
      exact absurd (hremoves.symm.trans htold.1) nofun
    | everything =>
      rw [hloss] at htold
      exact absurd (hclears.symm.trans htold.2) nofun
  have hnothing' : e'.lossOn r = .nothing := by
    rcases he' with rfl | rfl <;> rfl
  -- a roll with elements is not made again
  rcases hfirst.fate hw r with ⟨-, hretains⟩ | ⟨hloss, -⟩ | ⟨-, hunused, -⟩
  · rcases hsecond.fate (hfirst.wellFormed hw) r with ⟨-, hretains'⟩ | ⟨hloss, -⟩ | ⟨-, hunused, -⟩
    · exact hretains.trans hretains'
    · exact absurd hnothing' hloss
    · have := hretains.length_le
      have := hunused.length_eq
      omega
  · exact absurd hnothing hloss
  · have := hunused.length_eq
    omega

/-- A move that does not disturb a roll with elements leaves every element in its slot, and one that
does moves the generation on. -/
theorem move_fate (hw : s.world.WellFormed) (m : Move) (hpos : 0 < (s.world.roll r).length) :
    (s.disturbs r m = false ∧ (s.world.roll r).Retains ((s.move m).world.roll r) ∧
        ((s.move m).world.roll r).generation = (s.world.roll r).generation) ∨
      (s.disturbs r m = true ∧
        (s.world.roll r).generation < ((s.move m).world.roll r).generation) := by
  have haccount := generation_move hw m r
  have hmore := reallocations_le_move hw m r
  unfold disturbs grows
  cases hremoves : s.removes r m with
  | true =>
    rw [hremoves, Bool.toNat_true] at haccount
    exact .inr ⟨by simp, by omega⟩
  | false =>
    cases hclears : s.clears r m with
    | true =>
      rw [hclears, Bool.toNat_true] at haccount
      exact .inr ⟨by simp, by omega⟩
    | false =>
      have hretains := move_retains hw hpos hremoves hclears
      have hgrew := hretains.grew_iff
      rw [hremoves, hclears, Bool.toNat_false] at haccount
      simp only [Bool.or_false, decide_eq_false_iff_not, decide_eq_true_eq]
      -- nothing was taken, so the generation counts how often the storage grew
      by_cases hgrows : (s.world.roll r).capacity < ((s.move m).world.roll r).capacity
      · have := hgrew.mpr hgrows
        exact .inr ⟨hgrows, by omega⟩
      · have : ¬(s.world.roll r).reallocations < ((s.move m).world.roll r).reallocations :=
          fun h => hgrows (hgrew.mp h)
        exact .inl ⟨hgrows, hretains, by omega⟩

/-- **A slot can be trusted exactly as long as the roll is left alone.** What is in it stays there
and the generation does not move; with the first move that disturbs the roll it moves for good. -/
theorem stands_iff (hw : s.world.Owned) {i : Nat} (hi : i < (s.world.roll r).length)
    (ms : List Move) :
    (((s.after ms).world.roll r).generation = (s.world.roll r).generation ↔ s.Leaves r ms) ∧
      (s.Leaves r ms → i < ((s.after ms).world.roll r).length ∧
        ((s.after ms).world.roll r).slots[i]? = (s.world.roll r).slots[i]?) := by
  induction ms generalizing s with
  | nil => exact ⟨⟨fun _ => leaves_nil, fun _ => rfl⟩, fun _ => ⟨hi, rfl⟩⟩
  | cons m ms ih =>
    rw [after_cons, leaves_cons]
    have hw' := owned_move hw m
    rcases move_fate hw.wellFormed m (Nat.lt_of_le_of_lt (Nat.zero_le i) hi) with
      ⟨hleft, hretains, hsame⟩ | ⟨hdisturbs, hlt⟩
    · have hi' := Nat.lt_of_lt_of_le hi hretains.length_le
      obtain ⟨hiff, hslot⟩ := ih hw' hi'
      refine ⟨⟨fun h => ⟨hleft, hiff.mp (h.trans hsame.symm)⟩,
        fun h => (hiff.mpr h.2).trans hsame⟩, fun h => ?_⟩
      obtain ⟨hlt, heq⟩ := hslot h.2
      exact ⟨hlt, heq.trans (hretains.slot_eq i hi)⟩
    · -- once it has moved the generation never comes back
      have hgone : ¬(s.disturbs r m = false ∧ (s.move m).Leaves r ms) := by
        rintro ⟨hleft, -⟩
        rw [hdisturbs] at hleft
        cases hleft
      have hle := generation_le_after hw' ms r
      exact ⟨⟨fun h => by omega, fun h => absurd h hgone⟩, fun h => absurd h hgone⟩

end Session

end TextRoll
