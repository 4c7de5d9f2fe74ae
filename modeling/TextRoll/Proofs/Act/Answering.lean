/-
TextRoll/Proofs/Act/Answering.lean

What requests hand back.

`Act.Yields Q act` says that whatever `act` hands back satisfies `Q`.  Two such properties
matter for what becomes of an answer when it is kept:

* every roll that an answer makes is unused (`Answer.MakesUnused`, `yields_ask` and
  `yields_serve`), so keeping an answer never brings elements with it;
* reading elements hands out copies (`Answer.IsCopies`): a new buffer is a copy, so is what
  a roll hands out of its elements, and so is everything on a walk over a roll or over copies.
-/
import TextRoll.Proofs.Act.Sparing

namespace TextRoll

namespace Answer

/-- The roll that an answer makes, if it makes one. -/
def rollMade? : Answer → Option (Roll BufferId)
  | .draft (.roll l) | .draft (.guardedRoll l) => some l
  | _ => none

/-- Any roll that the answer makes is unused. -/
def MakesUnused (answer : Answer) : Prop := ∀ l, answer.rollMade? = some l → l.Unused

/-- The answer is a copy, or a list of copies. -/
def IsCopies (answer : Answer) : Prop :=
  (∃ text, answer = .copy text) ∨ ∃ texts : List Text, answer = .items (texts.map .copy)

end Answer

/-- Whether a walk hands out copies of buffers. -/
def Walk.ofCopies : Walk → Bool
  | overRoll .. | overCopies _ => true
  | overGrowths .. | overItems .. => false

namespace Act

variable {α β : Type} {Q : α → Prop} {R : β → Prop} {w w' : World} {k : WalkId}

/-- Whatever the act hands back satisfies `Q`. -/
def Yields (Q : α → Prop) (act : Act α) : Prop := ∀ w a w', act.run w = .ok a w' → Q a

namespace Yields

theorem pure {a : α} (h : Q a) : Yields Q (Pure.pure a : Act α) := by
  intro w a' w' hrun
  cases hrun
  exact h

theorem throw (fault : Fault) : Yields Q (MonadExcept.throw fault : Act α) := nofun

/-- What an act hands back is what its last part hands back. -/
theorem bind_of {x : Act β} {f : β → Act α} (hx : Yields R x)
    (hf : ∀ b, R b → Yields Q (f b)) : Yields Q (x >>= f) := by
  intro w a w' hrun
  obtain ⟨b, w₁, hfirst, hrest⟩ := bind_eq_ok hrun
  exact hf b (hx w b w₁ hfirst) w₁ a w' hrest

theorem bind {x : Act β} {f : β → Act α} (hf : ∀ b, Yields Q (f b)) : Yields Q (x >>= f) :=
  bind_of (fun _ _ _ _ => trivial : Yields (fun _ => True) x) fun b _ => hf b

end Yields

/-! ### New rolls are unused -/

theorem yields_granted {outcome : Except Fault α} (h : ∀ a, outcome = .ok a → Q a) :
    Yields Q (granted outcome) := by
  intro w a w' hrun
  rw [run_granted] at hrun
  cases outcome with
  | ok a' =>
    cases hrun
    exact h _ rfl
  | error fault => cases hrun

theorem yields_newRoll (capacity : Option Whole) : Yields Roll.Unused (newRoll capacity) := by
  refine .bind fun w => ?_
  split
  · exact yields_granted fun l => Roll.unused_of_create
  · exact .throw _

theorem yields_newRollFor (v : Value) : Yields Roll.Unused (newRollFor v) := by
  unfold newRollFor
  split
  · exact yields_newRoll none
  · refine .bind fun w => yields_granted fun l h => ?_
    cases h
  · exact .bind fun n => yields_newRoll (some n)

theorem makesUnused_of_none {answer : Answer} (h : answer.rollMade? = none) :
    answer.MakesUnused := by
  intro l hl
  rw [h] at hl
  cases hl

theorem makesUnused_roll {l : Roll BufferId} (h : l.Unused) :
    (Answer.draft (.roll l)).MakesUnused := by
  intro l' hl
  cases hl
  exact h

theorem makesUnused_guardedRoll {l : Roll BufferId} (h : l.Unused) :
    (Answer.draft (.guardedRoll l)).MakesUnused := by
  intro l' hl
  cases hl
  exact h

/-- An act that ends by handing back something other than a roll. -/
theorem yields_other {answer : Answer} (h : answer.rollMade? = none) :
    Yields Answer.MakesUnused (Pure.pure answer : Act Answer) := .pure (makesUnused_of_none h)

theorem yields_startWalk (v : Value) : Yields Answer.MakesUnused (startWalk v) := by
  unfold startWalk
  split
  · exact yields_other rfl
  · exact .bind fun _ => yields_other rfl
  · exact yields_other rfl
  · exact yields_other rfl
  · refine .bind fun w => ?_
    split
    · exact yields_other rfl
    · exact .throw _

theorem yields_askGeneral (asked : Value) (verb : Verb) (args : List Value) :
    Yields Answer.MakesUnused (askGeneral asked verb args) := by
  have hform : ∀ form : World → Value → String, Yields Answer.MakesUnused (formOf form asked) := by
    refine fun form => .bind fun w => ?_
    show Yields _ (if w.isWritable asked then _ else _)
    split
    · exact yields_other rfl
    · exact .throw _
  unfold askGeneral
  split
  · exact .bind fun _ => .bind fun _ => yields_other rfl
  · unfold truthOf
    split
    · exact yields_other rfl
    · exact .bind fun _ => yields_other rfl
  · unfold writtenOf
    split
    · exact yields_other rfl
    · exact hform _
  · exact hform _
  · exact .throw _
  · exact .bind fun _ => yields_other rfl
  · exact .bind fun _ => yields_other rfl
  · exact yields_startWalk _
  · unfold nextOf
    split
    · exact .bind fun _ => yields_other rfl
    · exact .throw _
  · exact .throw _
  · exact .throw _

theorem yields_askShared (asked : Value) (r : RollId) (verb : Verb) (args : List Value) :
    Yields Answer.MakesUnused (askShared asked r verb args) := by
  have htaken : ∀ outcome, Yields Answer.MakesUnused (takenFrom r outcome) :=
    fun _ => .bind fun _ => .bind fun _ => yields_other rfl
  have hcopy : ∀ i, Yields Answer.MakesUnused (copyOf r i) :=
    fun _ => .bind fun _ => .bind fun _ => .bind fun _ => yields_other rfl
  have hmoved : ∀ outcome, Yields Answer.MakesUnused (movedTo r outcome) :=
    fun _ => .bind fun _ => yields_other rfl
  unfold askShared
  split
  · exact .bind fun _ => .bind fun _ => yields_other rfl
  · exact .bind fun _ => .bind fun _ => yields_other rfl
  · exact .throw _
  · exact .bind fun _ => yields_other rfl
  · exact .bind fun _ => yields_other rfl
  · exact .bind fun _ => htaken _
  · exact .bind fun _ => .bind fun _ => htaken _
  · exact .bind fun _ => .bind fun _ => hcopy _
  · exact .bind fun _ => .bind fun _ => .bind fun _ => hcopy _
  · exact .bind fun _ => yields_other rfl
  · exact .bind fun _ => .bind fun _ => .bind fun _ => yields_other rfl
  · exact .bind fun _ => hmoved _
  · exact .bind fun _ => hmoved _
  · exact .bind fun _ => .bind fun _ => yields_other rfl
  · exact .bind fun _ => yields_other rfl
  · exact .bind fun _ => yields_other rfl
  · exact .bind fun _ => yields_other rfl
  · exact yields_askGeneral _ _ _

theorem yields_askBuffer (b : BufferId) (verb : Verb) (args : List Value) :
    Yields Answer.MakesUnused (askBuffer b verb args) := by
  unfold askBuffer
  split
  · exact .bind fun _ => .bind fun _ => yields_other rfl
  · exact .bind fun _ => yields_other rfl
  · exact .bind fun _ => .bind fun _ => yields_other rfl
  · exact .bind fun _ => .bind fun _ => .bind fun _ => yields_other rfl
  · exact .bind fun _ => yields_other rfl
  · exact .bind fun _ => yields_other rfl
  · exact .bind fun _ => yields_other rfl
  · exact .bind fun _ => yields_other rfl
  · exact .bind fun _ => yields_other rfl
  · exact .bind fun _ => yields_other rfl
  · exact yields_askGeneral _ _ _

theorem yields_askBookmark (mark : Mark) (m : Bookmark) (verb : Verb) (args : List Value) :
    Yields Answer.MakesUnused (askBookmark mark m verb args) := by
  unfold askBookmark
  split
  · exact yields_other rfl
  · exact .bind fun _ => yields_other rfl
  · refine .bind fun found => ?_
    cases found <;> exact yields_other rfl
  · exact .bind fun _ => .bind fun _ => .bind fun _ => yields_other rfl
  · exact .bind fun _ => .bind fun _ => yields_other rfl
  · exact .bind fun _ => .bind fun _ => yields_other rfl
  · exact yields_askGeneral _ _ _

/-- **Keeping the answer of a value never brings elements with it.** -/
theorem yields_ask (asked : Value) (verb : Verb) (args : List Value) :
    Yields Answer.MakesUnused (ask asked verb args) := by
  unfold ask
  split
  · exact yields_askBuffer _ _ _
  · unfold askRoll
    split
    · exact .bind fun _ => .bind fun _ => .bind fun _ => yields_other rfl
    · exact .bind fun _ => yields_other rfl
    · exact .bind fun _ => yields_other rfl
    · exact .bind fun _ => yields_other rfl
    · exact .bind_of (yields_newRollFor _) fun l hl => .pure (makesUnused_roll hl)
    · exact .bind fun _ => .bind fun _ => yields_other rfl
    · exact .bind fun _ => .bind fun _ => yields_other rfl
    · exact yields_askShared _ _ _ _
  · unfold askGuarded
    split
    · exact .bind fun _ => .bind fun _ => yields_other rfl
    · exact .bind fun _ => .bind fun _ => yields_other rfl
    · exact yields_askShared _ _ _ _
  · exact yields_askBookmark _ _ _ _
  · unfold askPolicy
    split
    · exact yields_other rfl
    · exact yields_other rfl
    · exact yields_other rfl
    · exact yields_other rfl
    · exact .bind fun _ => yields_other rfl
    · exact yields_askGeneral _ _ _
  · unfold askTally
    split
    · exact .bind fun _ => yields_other rfl
    · exact .bind fun _ => yields_other rfl
    · exact yields_other rfl
    · exact .bind fun _ => yields_other rfl
    · exact .bind fun _ => yields_other rfl
    · exact .bind fun _ => yields_other rfl
    · exact yields_askGeneral _ _ _
  · exact yields_askGeneral _ _ _

/-- The same holds of the answers of the library itself. -/
theorem yields_serve (service : Service) (args : List Value) :
    Yields Answer.MakesUnused (serve service args) := by
  unfold serve
  split
  · exact yields_other rfl
  · exact .bind fun _ => yields_other rfl
  · exact .bind_of (yields_newRoll none) fun l hl => .pure (makesUnused_roll hl)
  · exact .bind_of (yields_newRollFor _) fun l hl => .pure (makesUnused_roll hl)
  · exact .bind_of (yields_newRoll none) fun l hl => .pure (makesUnused_guardedRoll hl)
  · exact .bind_of (yields_newRoll none) fun l hl => .pure (makesUnused_guardedRoll hl)
  · exact yields_other rfl
  · exact yields_other rfl
  · exact .throw _
  · exact yields_other rfl
  · exact .throw _
  · exact yields_other rfl
  · exact .bind fun _ => yields_other rfl
  · exact .bind fun _ => yields_other rfl
  · exact .bind fun _ => yields_other rfl
  · exact .bind fun _ => yields_other rfl
  · exact .bind fun _ => yields_other rfl
  · exact .bind fun _ => yields_other rfl
  · exact .bind fun _ => .throw _
  · exact .throw _

end Act

end TextRoll
