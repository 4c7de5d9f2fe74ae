/-
TextRoll/Proofs/Act/OfRoll.lean

What the acts behind the requests to rolls do, exactly.

For every act that requests to rolls are made of there is one equation for its run
(`run_appendText`, `run_reserve`, `run_clear`, `run_takenFrom`, `run_movedTo`, `run_copyOf`).
What else is said about requests to rolls is read off these, so that no proof
but the ones here opens an act.

Recording a growth and noting a refusal touch neither buffers nor rolls.
-/
import TextRoll.Proofs.Act.Reading
import TextRoll.Proofs.World.Event
import TextRoll.Request.OfRoll

namespace TextRoll

namespace World

/-- The cursor of a roll as a value. -/
def cursorValue (w : World) (r : RollId) : Value :=
  (w.roll r).shownCursor.valueAs (match (w.roll r).cursorOrigin with
    | .given mark => mark
    | .counted | .truth => .count r (w.roll r).moves "cursor")

/-- The world after a growth was counted and logged, if there was one. -/
def recorded (w : World) : Option Growth → World
  | some g => w.recordGrowth g
  | none => w

/-- The world after a refusal was logged, if it leaves a record. -/
def refused (w : World) (fault : Fault) : World :=
  match fault.notice? with
  | some n => w.note n
  | none => w

@[simp] theorem buffers_recorded (w : World) (growth : Option Growth) :
    (w.recorded growth).buffers = w.buffers := by
  cases growth with
  | none => rfl
  | some g =>
    show (w.recordGrowth g).buffers = _
    unfold recordGrowth
    split <;> rfl

@[simp] theorem rolls_recorded (w : World) (growth : Option Growth) :
    (w.recorded growth).rolls = w.rolls := by
  cases growth with
  | none => rfl
  | some g =>
    show (w.recordGrowth g).rolls = _
    unfold recordGrowth
    split <;> rfl

@[simp] theorem buffers_refused (w : World) (fault : Fault) :
    (w.refused fault).buffers = w.buffers := by
  unfold refused
  split <;> rfl

@[simp] theorem rolls_refused (w : World) (fault : Fault) : (w.refused fault).rolls = w.rolls := by
  unfold refused
  split <;> rfl

end World

namespace Act

variable {α : Type} {w : World} {r : RollId}

/-! ### Storage -/

theorem run_granted (outcome : Except Fault α) (w : World) :
    (granted outcome).run w
      = match outcome with
        | .ok a => .ok a w
        | .error fault => .error fault (w.refused fault) := by
  cases outcome with
  | ok a => rfl
  | error fault =>
    unfold granted World.refused
    dsimp only
    cases fault.notice? with
    | none => rfl
    | some n => rfl

theorem run_recordGrowth (growth : Option Growth) (w : World) :
    (recordGrowth growth).run w = .ok () (w.recorded growth) := by
  cases growth <;> rfl

/-- An append puts a new buffer into the roll, or is refused storage. -/
theorem run_appendText (r : RollId) (text : Text) (w : World) :
    (appendText r text).run w
      = match (w.roll r).append w.freeBuffer with
        | .ok (l, growth) =>
          .ok () (((w.recorded growth).addBuffer (Buffer.ofText text)).setRoll r l)
        | .error fault => .error fault (w.refused fault) := by
  unfold appendText
  show EStateM.run (granted ((w.roll r).append w.freeBuffer) >>= _) w = _
  rw [EStateM.run_bind, run_granted]
  cases (w.roll r).append w.freeBuffer with
  | error fault => rfl
  | ok outcome =>
    show EStateM.run (recordGrowth outcome.2 >>= _) w = _
    rw [EStateM.run_bind, run_recordGrowth]
    rfl

/-- What an append that succeeds leaves: the roll with one more element, which has the next free
place. -/
theorem appendText_eq_ok {text : Text} {w' : World} {u : Unit}
    (h : (appendText r text).run w = .ok u w') :
    ∃ l growth, (w.roll r).append w.freeBuffer = .ok (l, growth) ∧
      w'.rolls = w.rolls.put r.index l ∧
      w'.buffers = w.buffers.issue (Buffer.ofText text) := by
  rw [run_appendText] at h
  cases happend : (w.roll r).append w.freeBuffer with
  | error fault => rw [happend] at h; cases h
  | ok outcome =>
    obtain ⟨l, growth⟩ := outcome
    rw [happend] at h
    cases h
    refine ⟨l, growth, rfl, ?_, ?_⟩
    · rw [← w.rolls_recorded growth]
      rfl
    · rw [← w.buffers_recorded growth]
      rfl

/-- What an append that fails leaves: storage was refused, and that is logged. -/
theorem appendText_eq_error {text : Text} {w' : World} {fault : Fault}
    (h : (appendText r text).run w = .error fault w') :
    (w.roll r).append w.freeBuffer = .error fault ∧ w' = w.refused fault := by
  rw [run_appendText] at h
  cases happend : (w.roll r).append w.freeBuffer with
  | ok outcome => rw [happend] at h; cases h
  | error fault' =>
    rw [happend] at h
    cases h
    exact ⟨rfl, rfl⟩

/-- Making room changes the roll, or is refused storage. -/
theorem run_reserve (r : RollId) (capacity : Whole) (mark : Mark) (w : World) :
    (reserve r capacity mark).run w
      = match (w.roll r).reserve capacity mark with
        | .ok (l, growth) => .ok () ((w.setRoll r l).recorded growth)
        | .error fault => .error fault (w.refused fault) := by
  unfold reserve
  show EStateM.run (granted ((w.roll r).reserve capacity mark) >>= _) w = _
  rw [EStateM.run_bind, run_granted]
  cases (w.roll r).reserve capacity mark with
  | error fault => rfl
  | ok outcome => exact run_recordGrowth outcome.2 (w.setRoll r outcome.1)

/-- Slots in a number with a point may be there already, or else are refused. -/
theorem run_reserveFor_real (r : RollId) (mark : Mark) (x : Binary64) (w : World) :
    (reserveFor r (.real mark x)).run w
      = match (w.roll r).reserveReal x with
        | .ok _ => .ok () w
        | .error fault => .error fault (w.refused fault) := by
  show EStateM.run (granted ((w.roll r).reserveReal x)) w = _
  rw [run_granted]
  cases (w.roll r).reserveReal x <;> rfl

/-! ### Removal, copies and moves -/

/-- The roll after it was cleared; whether storage is given back is up to its policy. -/
def clearedRoll (w : World) (r : RollId) : Roll BufferId :=
  (w.roll r).clear (w.truth (w.roll r).policy.releaseOnClear)

theorem run_clear (r : RollId) (w : World) :
    (clear r).run w
      = .ok () ((w.setRoll r (clearedRoll w r)).note (.cleared (w.roll r).length)) := rfl

theorem run_takenFrom (r : RollId) (outcome : Except Fault (BufferId × Roll BufferId))
    (w : World) :
    (takenFrom r outcome).run w
      = match outcome with
        | .ok (b, l) => .ok (.value (.buffer b)) (w.setRoll r l)
        | .error fault => .error fault w := by
  cases outcome <;> rfl

theorem run_movedTo (r : RollId) (outcome : Bool × Roll BufferId) (w : World) :
    (movedTo r outcome).run w = .ok (.value (.bool outcome.1)) (w.setRoll r outcome.2) := rfl

/-- An element can always be copied. -/
theorem run_copyOf (hr : (w.roll r).WellFormed) {i : Nat} (hi : i < (w.elements r).length) :
    (copyOf r i).run w
      = .ok (.copy (w.built (w.elements r)[i])) (w.collapse (w.elements r)[i]) := by
  unfold copyOf
  show EStateM.run (MonadExcept.ofExcept ((w.roll r).stored "copy" i) >>= _) w = _
  rw [hr.layout.stored_eq "copy" hi]
  rfl

end Act

end TextRoll
