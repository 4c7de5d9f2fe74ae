/-
TextRoll/Proofs/Act/Sharing.lean

What a roll and its guards have in common.

A guard answers the verbs of `Verb.isShared` as its roll does: it is not that the answers agree,
the act is one and the same (`Act.ask_eq_ask`).  Its printed form is that of the roll behind one
more word, and its current element is lent out exactly as a bookmark of the roll would do it.
-/
import TextRoll.Proofs.Act.Answering
import TextRoll.Proofs.Content.Editing

namespace TextRoll

/-- The verbs that a roll and its guards answer alike, by the number of arguments. -/
def Verb.shared : Nat → List Verb
  | 0 => [.clear, .remove, .current, .texts, .advance, .retreat, .rewind, .cursor, .capacity,
      .length, .truth, .elements]
  | 1 => [.add, .addBuffer, .reserve, .removeAt, .get, .seek, .contains]
  | _ => []

namespace Act

variable {w : World} {r : RollId} {asked asked' : Value} {verb : Verb} {args : List Value}

/-- A guard passes on what it shares with its roll. -/
theorem ask_guarded_eq (hshared : verb ∈ Verb.shared args.length) (mark : Mark) (depth : Nat) :
    ask (.guarded mark depth r) verb args = ask (.roll r) verb args := by
  rcases args with - | ⟨x, - | _⟩
  · simp only [Verb.shared, List.length_nil, List.mem_cons, List.not_mem_nil, or_false] at hshared
    rcases hshared with rfl | rfl | rfl | rfl | rfl | rfl | rfl | rfl | rfl | rfl | rfl | rfl <;>
      rfl
  · simp only [Verb.shared, List.length_singleton, List.mem_cons, List.not_mem_nil, or_false]
      at hshared
    rcases hshared with rfl | rfl | rfl | rfl | rfl | rfl | rfl
    case inr.inl => cases x <;> rfl
    all_goals rfl
  · cases hshared

/-- **It makes no difference whether a roll is asked itself or through a guard.** -/
theorem ask_eq_ask (hshared : verb ∈ Verb.shared args.length) (hasked : asked.rollId? = some r)
    (hasked' : asked'.rollId? = some r) : ask asked verb args = ask asked' verb args := by
  have hroll : ∀ v : Value, v.rollId? = some r → ask v verb args = ask (.roll r) verb args := by
    intro v hv
    cases v with
    | roll r' => cases hv; rfl
    | guarded mark depth r' => cases hv; exact ask_guarded_eq hshared mark depth
    | null | bool | int | real | text | bytes | list | record | buffer | bookmark | policy | tally
    | growths | growth | walk => cases hv
  rw [hroll asked hasked, hroll asked' hasked']

/-- What is shared is never answered by handing back what was asked. -/
theorem yields_shared (hshared : verb ∈ Verb.shared args.length)
    (hasked : asked.rollId? = some r) : Yields (· ≠ .itself) (ask asked verb args) := by
  have htaken : ∀ outcome, Yields (· ≠ Answer.itself) (takenFrom r outcome) := fun _ =>
    .bind fun _ => .bind fun _ => .pure nofun
  have hmoved : ∀ outcome, Yields (· ≠ Answer.itself) (movedTo r outcome) := fun _ =>
    .bind fun _ => .pure nofun
  have hcopy : ∀ i, Yields (· ≠ Answer.itself) (copyOf r i) := fun _ =>
    .bind fun _ => .bind fun _ => .bind fun _ => .pure nofun
  rw [ask_eq_ask hshared hasked (show (Value.roll r).rollId? = some r from rfl)]
  rcases args with - | ⟨x, - | _⟩
  · -- the verbs in the order in which they are listed
    simp only [Verb.shared, List.length_nil, List.mem_cons, List.not_mem_nil, or_false] at hshared
    rcases hshared with rfl | rfl | rfl | rfl | rfl | rfl | rfl | rfl | rfl | rfl | rfl | rfl
    · exact .bind fun _ => .pure nofun
    · exact .bind fun _ => htaken _
    · exact .bind fun _ => .bind fun _ => hcopy _
    · exact .bind fun _ => .pure nofun
    · exact .bind fun _ => hmoved _
    · exact .bind fun _ => hmoved _
    · exact .bind fun _ => .bind fun _ => .pure nofun
    · exact .bind fun _ => .pure nofun
    · exact .bind fun _ => .pure nofun
    · exact .bind fun _ => .pure nofun
    · exact .bind fun _ => .pure nofun
    · exact .bind fun _ => .pure nofun
  · simp only [Verb.shared, List.length_singleton, List.mem_cons, List.not_mem_nil, or_false]
      at hshared
    rcases hshared with rfl | rfl | rfl | rfl | rfl | rfl | rfl
    · exact .bind fun _ => .bind fun _ => .pure nofun
    · cases x with
      | buffer b => exact .bind fun _ => .bind fun _ => .pure nofun
      | null | bool | int | real | text | bytes | list | record | roll | guarded | bookmark | policy
      | tally | growths | growth | walk => exact .throw _
    · exact .bind fun _ => .pure nofun
    · exact .bind fun _ => .bind fun _ => htaken _
    · exact .bind fun _ => .bind fun _ => .bind fun _ => hcopy _
    · exact .bind fun _ => .bind fun _ => .bind fun _ => .pure nofun
    · exact .bind fun _ => .pure nofun
  · cases hshared

/-! ### The printed form -/

/-- Asked for its printed form, a guard says one word and then what its roll says. -/
theorem run_form (hr : (w.roll r).WellFormed) (hverb : verb = .printed ∨ verb = .written)
    (mark : Mark) :
    ∃ form w', (ask (.roll r) verb []).run w = .ok (.value (.ofText form)) w' ∧
      (ask (.guarded mark 0 r) verb []).run w = .ok (.value (.ofText ("Locked" ++ form))) w' := by
  have hroll : ask (.roll r) verb [] = texts r >>= fun forms => roll r >>= fun l =>
      pure (.value (.ofText (Printed.roll isUnprintable forms l.shownCursor))) := by
    rcases hverb with rfl | rfl <;> rfl
  have hguarded : ask (.guarded mark 0 r) verb [] = texts r >>= fun forms => roll r >>= fun l =>
      pure (.value (.ofText (Printed.guarded isUnprintable 0 forms l.shownCursor))) := by
    rcases hverb with rfl | rfl <;> rfl
  rw [hroll, hguarded]
  exact ⟨_, _, run_bind_ok _ (run_texts hr), run_bind_ok _ (run_texts hr)⟩

/-! ### The current element -/

/-- Takes a bookmark of the current element of a roll and follows it at once. -/
def currentByBookmark (r : RollId) : Act Answer := do
  match ← ask (.roll r) .bookmark [] with
  | .item (.value m) => ask m .get []
  | answer => return answer

/-- **What is lent out is what a bookmark leads to,** and nothing changes. -/
theorem run_current_cases (hr : (w.roll r).WellFormed) :
    ((w.roll r).length = 0 ∧
      (currentByBookmark r).run w = .error (.emptyRoll (.ofText "current_ref")) w ∧
      (currentBuffer r).run w = .error (.emptyRoll (.ofText "current_ref")) w) ∨
    ((w.roll r).length ≠ 0 ∧ ∃ b, (w.roll r).slots[(w.roll r).cursor]? = some (some b) ∧
      (currentByBookmark r).run w = .ok (.value (.buffer b)) w ∧
      (currentBuffer r).run w = .ok b w) := by
  have hbookmark := run_bookmark r w
  by_cases hzero : (w.roll r).length = 0
  · rw [if_pos hzero] at hbookmark
    exact .inl ⟨hzero, run_bind_error _ hbookmark, run_currentBuffer_empty hzero⟩
  · rw [if_neg hzero] at hbookmark
    obtain ⟨b, hb, -⟩ := exists_currentElement hr hzero
    have hlt := hr.cursor_lt (Nat.pos_of_ne_zero hzero)
    -- the bookmark is followed at once, so it is still current
    have hfollow : (follow (w.bookmarkAt r)).run w = .ok (some b) w :=
      run_follow ((World.isCurrent_bookmarkAt w w r).mpr rfl) rfl (Roll.toInt_shownCursor _)
        (Roll.slotAt_eq hr hlt hb)
    exact .inr ⟨hzero, b, hb, (run_bind_ok _ hbookmark).trans (run_ask_get _ hfollow),
      run_currentBuffer hr (Nat.pos_of_ne_zero hzero) hb⟩

end Act

end TextRoll
