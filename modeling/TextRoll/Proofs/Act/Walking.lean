/-
TextRoll/Proofs/Act/Walking.lean

Walks over rolls, and other requests for copies.

`run_takeTurn` says exactly what one turn of a lazy walk does: past the last turn the walk
is finished, otherwise it hands out a copy of what is in the slot whose turn it is.

Whatever happens to the roll, a walk over a roll or over copies hands out copies and
nothing else (`next_copies`, `drainCount_copies`), and so does every request for copies
(`ask_copies`).
-/
import TextRoll.Proofs.Act.Answering

namespace TextRoll

namespace World

variable {w : World} {k : WalkId}

@[simp] theorem walk_setWalk (w : World) (k : WalkId) (x : Walk) : (w.setWalk k x).walk k = x :=
  w.walks.get_put_self k.index x

end World

namespace Act

variable {w w' : World} {k : WalkId} {r : RollId}

/-! ### One turn -/

/-- The world in which a walk over a roll is finished. -/
def finishedRollWalk (w : World) (k : WalkId) (r : RollId) : World :=
  w.setWalk k (.overRoll r .finished)

theorem run_takeTurn_exhausted {turn bound : Nat} (h : bound ≤ turn) (w : World) :
    (takeTurn k r turn bound).run w = .error .exhausted (finishedRollWalk w k r) := by
  unfold takeTurn
  rw [if_pos h]
  rfl

theorem run_takeTurn_error {turn bound : Nat} {fault : Fault} (h : turn < bound)
    (hslot : (w.roll r).stored "copy" turn = .error fault) :
    (takeTurn k r turn bound).run w = .error fault (finishedRollWalk w k r) := by
  unfold takeTurn
  rw [if_neg (Nat.not_le_of_lt h)]
  show EStateM.run (MonadExcept.ofExcept ((w.roll r).stored "copy" turn) >>= _)
    (finishedRollWalk w k r) = _
  rw [hslot]
  rfl

theorem run_takeTurn {turn bound : Nat} {b : BufferId} (h : turn < bound)
    (hslot : (w.roll r).stored "copy" turn = .ok b) :
    (takeTurn k r turn bound).run w
      = .ok (.copy (w.built b))
          (((finishedRollWalk w k r).collapse b).setWalk k
            (.overRoll r (.running (turn + 1) bound))) := by
  unfold takeTurn
  rw [if_neg (Nat.not_le_of_lt h)]
  show EStateM.run (MonadExcept.ofExcept ((w.roll r).stored "copy" turn) >>= _)
    (finishedRollWalk w k r) = _
  rw [hslot]
  rfl

theorem run_next_copies {text : Text} {rest : List Text}
    (h : w.walk k = .overCopies (text :: rest)) :
    (next k).run w = .ok (.copy text) (w.setWalk k (.overCopies rest)) := by
  unfold next
  rw [EStateM.run_bind, EStateM.run_get]
  dsimp only
  rw [h]
  rfl

/-- A walk over copies does not even note that it is over. -/
theorem run_next_copies_nil (h : w.walk k = .overCopies []) :
    (next k).run w = .error .exhausted w := by
  unfold next
  rw [EStateM.run_bind, EStateM.run_get]
  dsimp only
  rw [h]
  rfl

theorem run_next_items {subject : WalkKind} {v : Value} {rest : List Value}
    (h : w.walk k = .overItems subject (v :: rest)) :
    (next k).run w = .ok (.value v) (w.setWalk k (.overItems subject rest)) := by
  unfold next
  rw [EStateM.run_bind, EStateM.run_get]
  dsimp only
  rw [h]
  rfl

/-- A walk over growths looks at the events of the moment. -/
theorem run_next_growths {t : TallyId} {turn : Nat}
    (h : w.walk k = .overGrowths t (some turn)) :
    (next k).run w
      = if turn < (w.tally t).events.length then
          .ok (.value (.growth t turn)) (w.setWalk k (.overGrowths t (some (turn + 1))))
        else .error .exhausted (w.setWalk k (.overGrowths t none)) := by
  have htake : (next k).run w = (takeGrowth k t turn).run w := by
    unfold next
    rw [EStateM.run_bind, EStateM.run_get]
    dsimp only
    rw [h]
  rw [htake]
  unfold takeGrowth
  rw [EStateM.run_bind, EStateM.run_get]
  dsimp only
  split <;> rfl

/-! ### Copies and nothing else -/

theorem takeTurn_copies {turn bound : Nat} {x : Item}
    (h : (takeTurn k r turn bound).run w = .ok x w') :
    (∃ text, x = .copy text) ∧ (w'.walk k).ofCopies := by
  by_cases hlt : turn < bound
  · cases hslot : (w.roll r).stored "copy" turn with
    | error fault =>
      rw [run_takeTurn_error hlt hslot] at h
      cases h
    | ok b =>
      rw [run_takeTurn hlt hslot] at h
      cases h
      exact ⟨⟨_, rfl⟩, by rw [World.walk_setWalk]; rfl⟩
  · rw [run_takeTurn_exhausted (Nat.le_of_not_lt hlt)] at h
    cases h

/-- A walk over a roll or over copies hands out a copy, and goes on to be one. -/
theorem next_copies {x : Item} (hcopies : (w.walk k).ofCopies)
    (h : (next k).run w = .ok x w') : (∃ text, x = .copy text) ∧ (w'.walk k).ofCopies := by
  unfold next at h
  rw [EStateM.run_bind, EStateM.run_get] at h
  dsimp only at h
  split at h
  · exact takeTurn_copies h
  · exact takeTurn_copies h
  · cases h
  · next hwalk => rw [hwalk] at hcopies; cases hcopies
  · cases h
  · cases h
  · cases h
    exact ⟨⟨_, rfl⟩, by rw [World.walk_setWalk]; rfl⟩
  · cases h
  · next hwalk => rw [hwalk] at hcopies; cases hcopies

theorem drainCount_copies {count : Nat} {xs : List Item} (hcopies : (w.walk k).ofCopies)
    (h : (drainCount k count).run w = .ok xs w') : ∃ texts : List Text, xs = texts.map .copy := by
  induction count generalizing w xs with
  | zero =>
    cases h
    exact ⟨[], rfl⟩
  | succ count ih =>
    obtain ⟨x, w₁, hnext, hlater⟩ := bind_eq_ok h
    obtain ⟨⟨text, rfl⟩, hcopies₁⟩ := next_copies hcopies hnext
    obtain ⟨ys, w₂, hrest, hdone⟩ := bind_eq_ok hlater
    cases hdone
    obtain ⟨texts, rfl⟩ := ih hcopies₁ hrest
    exact ⟨text :: texts, rfl⟩

end Act

/-- Whether a value is asked for copies: a buffer for one of itself, a roll for one or all of its
elements, a walk that hands out copies for what is left of it. -/
def World.asksForCopies (w : World) : Value → Verb → Bool
  | .buffer _, .copy => true
  | .roll _, .current | .roll _, .get | .roll _, .elements => true
  | .guarded .., .current | .guarded .., .get | .guarded .., .elements => true
  | .walk k, .next | .walk k, .elements => (w.walk k).ofCopies
  | _, _ => false

namespace Act

variable {α : Type} {w w' : World} {answer : Answer}

theorem yields_copyOf (r : RollId) (i : Nat) : Yields Answer.IsCopies (copyOf r i) :=
  .bind fun _ => .bind fun _ => .bind fun _ => .pure (.inl ⟨_, rfl⟩)

theorem yields_elements_roll {asked : Value} {r : RollId} (hasked : asked.rollId? = some r) :
    Yields (fun xs => ∃ texts : List Text, xs = texts.map Item.copy) (elements asked) := by
  have helements : elements asked = do return (← textsOf r "copy").map .copy := by
    cases asked <;> cases hasked <;> rfl
  rw [helements]
  exact .bind fun texts => .pure ⟨texts, rfl⟩

theorem isCopies_items {xs : List Item} (h : ∃ texts : List Text, xs = texts.map Item.copy) :
    (Answer.items xs).IsCopies := by
  obtain ⟨texts, rfl⟩ := h
  exact .inr ⟨texts, rfl⟩

/-- What plain and guarded rolls hand out of their elements are copies. -/
theorem yields_askShared_copies {asked : Value} {r : RollId} (hasked : asked.rollId? = some r)
    {verb : Verb} (hverb : verb = .current ∨ verb = .get ∨ verb = .elements)
    (args : List Value) : Yields Answer.IsCopies (askShared asked r verb args) := by
  rcases hverb with rfl | rfl | rfl
  · cases args with
    | nil => exact .bind fun _ => .bind fun _ => yields_copyOf r _
    | cons => exact .throw _
  · rcases args with - | ⟨v, - | _⟩
    · exact .throw _
    · exact .bind fun _ => .bind fun _ => .bind fun _ => yields_copyOf r _
    · exact .throw _
  · cases args with
    | nil => exact .bind_of (yields_elements_roll hasked) fun xs hxs => .pure (isCopies_items hxs)
    | cons => exact .throw _

/-- **What is asked for copies hands out copies.** -/
theorem ask_copies {asked : Value} {verb : Verb} {args : List Value}
    (hcopies : w.asksForCopies asked verb) (h : (ask asked verb args).run w = .ok answer w') :
    answer.IsCopies := by
  have hof : Yields Answer.IsCopies (ask asked verb args) → answer.IsCopies := fun hy => hy w _ _ h
  unfold World.asksForCopies at hcopies
  split at hcopies
  · -- a buffer
    apply hof
    cases args with
    | nil => exact .bind fun _ => .pure (.inl ⟨_, rfl⟩)
    | cons => exact .throw _
  · exact hof (yields_askShared_copies rfl (.inl rfl) args)
  · exact hof (yields_askShared_copies rfl (.inr (.inl rfl)) args)
  · exact hof (yields_askShared_copies rfl (.inr (.inr rfl)) args)
  · exact hof (yields_askShared_copies rfl (.inl rfl) args)
  · exact hof (yields_askShared_copies rfl (.inr (.inl rfl)) args)
  · exact hof (yields_askShared_copies rfl (.inr (.inr rfl)) args)
  · -- the next element of a walk
    next k =>
    cases args with
    | cons => cases h
    | nil =>
      obtain ⟨x, w₁, hnext, hdone⟩ := bind_eq_ok (x := next k) h
      obtain ⟨⟨text, rfl⟩, -⟩ := next_copies hcopies hnext
      cases hdone
      exact .inl ⟨text, rfl⟩
  · -- all elements of a walk
    next k =>
    cases args with
    | cons => cases h
    | nil =>
      obtain ⟨xs, w₁, hdrain, hdone⟩ := bind_eq_ok (x := drainCount k (w.remaining k)) h
      cases hdone
      exact isCopies_items (drainCount_copies hcopies hdrain)
  · cases hcopies

/-- A new buffer is a copy of a text. -/
theorem yields_makeBuffer (args : List Value) :
    Yields Answer.IsCopies (serve .makeBuffer args) := by
  rcases args with - | ⟨v, - | _⟩
  · exact .pure (.inl ⟨_, rfl⟩)
  · exact .bind fun _ => .pure (.inl ⟨_, rfl⟩)
  · exact .throw _

end Act

end TextRoll
