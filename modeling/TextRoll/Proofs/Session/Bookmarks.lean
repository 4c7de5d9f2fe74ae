/-
TextRoll/Proofs/Session/Bookmarks.lean

Bookmarks are good exactly as long as their roll is left alone.

A bookmark notes the index of the current element and the generation of the roll.  Since
generations only go up (`generation_le_after`), the bookmark is current exactly as long as
the generation has not moved, and that is as long as no storage grew, nothing was taken
out and nothing was cleared (`stands_iff`).  The main statement, `bookmark_exact`, follows
any bookmark that a roll hands out through any moves:

* it is current if and only if none of the moves disturbed the roll;
* while it is current it stands for the very buffer it was taken at, which is still in
  its slot;
* once it is not, it never is again, and every use of it is refused with both generations
  and changes nothing.
-/
import TextRoll.Proofs.Act.Following
import TextRoll.Proofs.Session.Generations

namespace TextRoll

namespace Session

/-- **A bookmark is current exactly as long as its roll is left alone,** and the generation of a
roll is an account of its whole past.  This holds of all rolls in every session, of every bookmark
that a roll hands out there, and of whatever moves come after; a register that keeps the
bookmark may give it a mark. -/
theorem bookmark_exact (past future : List Move) (r : RollId) :
    let s := initial.after past
    let now := (s.after future).world
    (now.roll r).generation = (now.roll r).reallocations
      + (count (removes · r) initial (past ++ future)
        + count (clears · r) initial (past ++ future)) ∧
    ∀ (taken kept : Mark) (m : Bookmark) (w : World),
      (Act.ask (.roll r) .bookmark []).run s.world = .ok (.value (.bookmark taken m)) w →
      -- taking it changes nothing, and asking it whether it is current tells
      w = s.world ∧
      (Act.ask (.bookmark kept m) .isCurrent []).run now
        = .ok (.value (.bool (now.isCurrent m))) now ∧
      -- it is current if and only if no move has disturbed the roll
      (now.isCurrent m = true ↔ s.Leaves r future) ∧
      -- while it is, it stands for the buffer it was taken at, which is still in its slot
      (now.isCurrent m = true → ∃ b : BufferId,
        (s.world.roll r).slots[(s.world.roll r).cursor]? = some (some b) ∧
        (Act.ask (.bookmark kept m) .get []).run now = .ok (.value (.buffer b)) now ∧
        (Act.ask (.bookmark kept m) .index []).run now = .ok (.value m.index) now ∧
        m.index.toInt? = some ((s.world.roll r).cursor : Int) ∧
        (s.world.roll r).cursor < (now.roll r).length ∧
        (now.roll r).slots[(s.world.roll r).cursor]? = some (some b)) ∧
      -- once it is not, it never is again, and whoever uses it is refused and changes nothing
      (now.isCurrent m = false →
        (∀ later, ((s.after future).after later).world.isCurrent m = false) ∧
        m.generation.toInt? = some ((s.world.roll r).generation : Int) ∧
        ∀ (verb : Verb) (args : List Value), verb.UsesBookmark args →
          (Act.ask (.bookmark kept m) verb args).run now
            = .error (.staleBookmark m.generation (.ofInt (now.roll r).generation)) now) := by
  intro s now
  have hinitial : initial.world.Owned := World.owned_initial
  have hs : s.world.Owned := owned_after hinitial past
  have hnow : now.Owned := owned_after hs future
  constructor
  · have haccount := generation_after hinitial (past ++ future) r
    rw [after_append] at haccount
    replace haccount : (now.roll r).generation + 0 = 0 + (now.roll r).reallocations + _ := haccount
    omega
  intro taken kept m w htaken
  rw [Act.run_bookmark] at htaken
  split at htaken
  · cases htaken
  next hne =>
  cases htaken
  have hcursor : (s.world.roll r).cursor < (s.world.roll r).length :=
    (hs.wellFormed r).cursor_lt (Nat.pos_of_ne_zero hne)
  obtain ⟨b, hb⟩ := (hs.wellFormed r).occupied _ hcursor
  obtain ⟨hiff, hstands⟩ := stands_iff hs hcursor future
  have hcurrent := (World.isCurrent_bookmarkAt s.world now r).trans hiff
  refine ⟨rfl, rfl, hcurrent, fun h => ?_, fun h => ?_⟩
  · obtain ⟨hlt, hslot⟩ := hstands (hcurrent.mp h)
    rw [hb] at hslot
    have hfollow : (Act.follow (s.world.bookmarkAt r)).run now = .ok (some b) now :=
      Act.run_follow h rfl (Roll.toInt_shownCursor _)
        (Roll.slotAt_eq (hnow.wellFormed r) hlt hslot)
    refine ⟨b, hb, Act.run_ask_get kept hfollow, rfl, ?_, hlt, hslot⟩
    show (Whole.valueAs _ _).toInt? = _
    rw [Value.toInt?_valueAs, Roll.toInt_shownCursor]
  · refine ⟨fun later => ?_, rfl, fun verb args hverb => Act.run_ask_stale kept h hverb⟩
    have hle := generation_le_after hs future r
    have hle' := generation_le_after hnow later r
    have hmoved : (now.roll r).generation ≠ (s.world.roll r).generation := fun hsame => by
      rw [(World.isCurrent_bookmarkAt s.world now r).mpr hsame] at h
      cases h
    refine Bool.eq_false_iff.mpr fun hagain => ?_
    have hback := (World.isCurrent_bookmarkAt s.world _ r).mp hagain
    replace hle : (s.world.roll r).generation ≤ (now.roll r).generation := hle
    replace hle' : (now.roll r).generation ≤ _ := hle'
    omega

/-- A roll is made and gets an element, a bookmark is taken, and the roll is cleared: the bookmark
is of no use any more. -/
theorem bookmark_exact_cleared :
    let past : List Move :=
      [.call (.serve .makeRoll []) (some "a"), .call (.ask "a" .add [.text 0 "x"]) none]
    let s := initial.after past
    let m := s.world.bookmarkAt ⟨0⟩
    let now := (s.move (.call (.ask "a" .clear []) none)).world
    (Act.ask (.roll ⟨0⟩) .bookmark []).run s.world = .ok (.value (.bookmark .fresh m)) s.world ∧
      now.isCurrent m = false ∧
      (Act.ask (.bookmark .fresh m) .append [.null]).run now
        = .error (.staleBookmark m.generation (.ofInt (now.roll ⟨0⟩).generation)) now := by
  intro past s m now
  have htaken : (Act.ask (.roll ⟨0⟩) .bookmark []).run s.world
      = .ok (.value (.bookmark .fresh m)) s.world := by
    rw [Act.run_bookmark]
    rfl
  have hstale : now.isCurrent m = false := rfl
  obtain ⟨-, -, -, -, hrefused⟩ :=
    (bookmark_exact past [.call (.ask "a" .clear []) none] ⟨0⟩).2 .fresh .fresh m s.world htaken
  exact ⟨htaken, hstale, (hrefused hstale).2.2 .append [.null] (.inr (.inl ⟨.null, rfl, rfl⟩))⟩

end Session

end TextRoll
