/-
TextRoll/Proofs/Session/Holding.lean

Clients that hold a roll.

A client holds a roll if a register holds it, or a guard around it.  Such a client can ask the roll
something without operands and without keeping the answer (`Move.ask`).  When such a request is
answered, `Session.Answers` tells all that comes of it: what the client hears, what is handed out,
and the session afterwards, in which only the world may be another.  There is one statement for
each of the requests that clients use to walk along a roll and to take elements out.
-/
import TextRoll.Proofs.Session.Askings
import TextRoll.Proofs.Session.Registers
import TextRoll.Proofs.Session.Removals

namespace TextRoll

/-- A request without operands to what a register holds; the answer is not kept. -/
def Move.ask (name : String) (verb : Verb) : Move := .call (.ask name verb []) none

/-- The buffer that an answer hands out, if it is one. -/
def Answer.handedOut : Answer → List BufferId
  | .item (.value (.buffer b)) => [b]
  | _ => []

namespace Act

variable {w : World} {asked : Value} {r : RollId} {b : BufferId}

/-- The current element is handed out, the buffer itself. -/
theorem run_ask_remove (hasked : asked.rollId? = some r) (hr : (w.roll r).WellFormed)
    (hb : (w.elements r)[(w.roll r).cursor]? = some b) :
    (ask asked .remove []).run w
      = .ok (.value (.buffer b)) (w.setRoll r ((w.roll r).without (w.roll r).cursor)) := by
  obtain ⟨hi, rfl⟩ := List.getElem?_eq_some_iff.mp hb
  have hremove : (w.roll r).remove
      = .ok ((w.elements r)[(w.roll r).cursor], (w.roll r).without (w.roll r).cursor) := by
    rcases hr.remove_cases with ⟨hcursor, hremove⟩ | ⟨hzero, -⟩
    · exact hremove
    · rw [← hr.length_elements] at hzero
      exact absurd (Nat.lt_of_lt_of_eq hi hzero) (Nat.not_lt_zero _)
  rw [ask_remove hasked, run_takenFrom, hremove]

/-- Without elements there is none to hand out. -/
theorem run_ask_remove_empty (hasked : asked.rollId? = some r) (hzero : (w.roll r).length = 0) :
    (ask asked .remove []).run w = .error (.emptyRoll (.ofText "remove")) w := by
  have hremove : (w.roll r).remove = .error (.emptyRoll (.ofText "remove")) := by
    have hindex : (w.roll r).currentIndex "remove" = .error (.emptyRoll (.ofText "remove")) :=
      if_pos hzero
    show (w.roll r).currentIndex "remove" >>= (w.roll r).takeSlot = _
    rw [hindex]
    rfl
  rw [ask_remove hasked, run_takenFrom, hremove]

end Act

namespace Session

variable {s : Session} {name : String} {r : RollId} {b : BufferId}

/-- A register holds a roll, or a guard around it. -/
def Holds (s : Session) (name : String) (r : RollId) : Prop :=
  ∃ asked, s.register name = .ok asked ∧ asked.rollId? = some r

/-- Whoever holds a roll still holds it after asking something. -/
theorem Holds.ask (h : s.Holds name r) (other : String) (verb : Verb) :
    (s.move (.ask other verb)).Holds name r := by
  obtain ⟨asked, hregister, hasked⟩ := h
  have hnone : (none : Option String) ≠ some name := nofun
  exact ⟨asked, (register_run_call_of_ne hnone _ s).trans hregister, hasked⟩

/-- A move is answered, and all that it changes is the world. -/
structure Answers (s : Session) (m : Move) (answer : Answer) (w : World) : Prop where
  hears_eq : s.hears m = some (.ok (w.shownAnswer answer))
  handedOut_eq : s.handedOut m = answer.handedOut
  move_eq : s.move m = { s with world := w }

/-- What a move hands out is read off its answer. -/
theorem handedOut_of_ok {c : Call} {asked : Value} {answer : Answer} {w : World}
    (hperform : (c.perform s).run s.world = .ok (asked, answer) w) (keep : Option String) :
    s.handedOut (.call c keep) = answer.handedOut := by
  unfold handedOut
  simp only [hperform]
  cases answer with
  | item x =>
    cases x with
    | value v => cases v <;> rfl
    | copy text => rfl
  | itself | items | draft => rfl

/-- A request that a roll answers, directly and through guards, is answered to whoever holds it. -/
theorem Holds.answers (h : s.Holds name r) {verb : Verb} {answer : Answer} {w : World}
    (hrun : ∀ asked : Value, asked.rollId? = some r →
      (Act.ask asked verb []).run s.world = .ok answer w) :
    s.Answers (.ask name verb) answer w := by
  obtain ⟨asked, hregister, hasked⟩ := h
  have hperform : ((Call.ask name verb []).perform s).run s.world = .ok (asked, answer) w := by
    rw [run_perform_ask hregister rfl, hrun asked hasked]
  refine ⟨hears_of_ok hperform, handedOut_of_ok hperform none, ?_⟩
  show ((Call.ask name verb []).run none s).2 = _
  rw [run_call_ok hperform]

/-! ### What rolls answer -/

theorem Holds.answers_truth (h : s.Holds name r) :
    s.Answers (.ask name .truth) (.value (.bool ((s.world.roll r).length != 0))) s.world := by
  refine h.answers fun asked hasked => ?_
  cases asked <;> cases hasked <;> rfl

/-- The current element is copied, which leaves its buffer collapsed. -/
theorem Holds.answers_current (h : s.Holds name r) (hs : s.world.WellFormed)
    (hb : (s.world.elements r)[(s.world.roll r).cursor]? = some b) :
    s.Answers (.ask name .current) (.copy (s.world.built b)) (s.world.collapse b) := by
  obtain ⟨hi, rfl⟩ := List.getElem?_eq_some_iff.mp hb
  have hlength : (s.world.elements r).length = (s.world.roll r).length := (hs r).length_elements
  refine h.answers fun asked hasked => ?_
  have hask : (Act.ask asked .current []).run s.world
      = EStateM.run (MonadExcept.ofExcept ((s.world.roll r).currentIndex "current")
          >>= Act.copyOf r) s.world := by
    cases asked <;> cases hasked <;> rfl
  have hindex : (s.world.roll r).currentIndex "current" = .ok (s.world.roll r).cursor :=
    if_neg (by omega)
  rw [hask, hindex]
  exact Act.run_copyOf (hs r) hi

theorem Holds.answers_advance (h : s.Holds name r) :
    s.Answers (.ask name .advance) (.value (.bool (s.world.roll r).advance.1))
      (s.world.setRoll r (s.world.roll r).advance.2) := by
  refine h.answers fun asked hasked => ?_
  cases asked <;> cases hasked <;> rfl

theorem Holds.answers_rewind (h : s.Holds name r) :
    s.Answers (.ask name .rewind) .nothing (s.world.setRoll r (s.world.roll r).rewind) := by
  refine h.answers fun asked hasked => ?_
  cases asked <;> cases hasked <;> rfl

theorem Holds.answers_remove (h : s.Holds name r) (hs : s.world.WellFormed)
    (hb : (s.world.elements r)[(s.world.roll r).cursor]? = some b) :
    s.Answers (.ask name .remove) (.value (.buffer b))
      (s.world.setRoll r ((s.world.roll r).without (s.world.roll r).cursor)) :=
  h.answers fun _ hasked => Act.run_ask_remove hasked (hs r) hb

end Session

end TextRoll
