/-
TextRoll/Proofs/Session/Slots.lean

No element of a roll is ever missing.

In every reachable session the slots of every roll hold its elements first and nothing
behind them, there are no more of them than the policy of the roll allows, and the cursor is
at an element if there is one.  That is what `Roll.WellFormed` says; `slots_sound` spells
it out and draws the consequence: whoever asks a roll anything, directly or through a
guard, compares it, or follows a bookmark that it handed out, never meets an empty or a
missing slot.

For bookmarks this needs more than the state of the roll.  A bookmark that is current
still points at an element, however many moves ago it was taken, because its slot can be
trusted that long (`stands_iff`).
-/
import TextRoll.Proofs.Session.Bookmarks

namespace TextRoll

namespace Act

variable {w : World} {m : Bookmark}

/-- A bookmark that can be followed leads to a buffer or is refused for being out of date. -/
theorem readsFrom_follow_cases {b : BufferId}
    (h : (follow m).run w = .ok (some b) w ∨
      ∃ created current, (follow m).run w = .error (.staleBookmark created current) w) :
    (follow m).ReadsFrom w Fault.IsRegular ∧
      ∀ wanted, (followTo m wanted).ReadsFrom w Fault.IsRegular := by
  have hundisturbed := World.Undisturbed.refl w
  rcases h with h | ⟨created, current, h⟩
  · exact ⟨.of_ok h hundisturbed, fun wanted => .of_ok (run_followTo h wanted) hundisturbed⟩
  · exact ⟨.of_error h hundisturbed rfl,
      fun wanted => .of_error (run_followTo_error h wanted) hundisturbed rfl⟩

end Act

namespace Session

variable {s : Session} {r : RollId}

/-- However late it is followed, a bookmark leads to the buffer it was taken at or is refused. -/
theorem run_follow_after (hs : s.world.Owned) (hpos : 0 < (s.world.roll r).length)
    (future : List Move) :
    ∃ b, (Act.follow (s.world.bookmarkAt r)).run (s.after future).world
        = .ok (some b) (s.after future).world ∨
      ∃ created current, (Act.follow (s.world.bookmarkAt r)).run (s.after future).world
        = .error (.staleBookmark created current) (s.after future).world := by
  have hcursor := (hs.wellFormed r).cursor_lt hpos
  obtain ⟨b, hb⟩ := (hs.wellFormed r).occupied _ hcursor
  obtain ⟨hiff, hstands⟩ := stands_iff hs hcursor future
  refine ⟨b, ?_⟩
  cases hcurrent : (s.after future).world.isCurrent (s.world.bookmarkAt r) with
  | false => exact .inr ⟨_, _, Act.run_follow_stale hcurrent⟩
  | true =>
    have hleaves := hiff.mp ((World.isCurrent_bookmarkAt _ _ r).mp hcurrent)
    obtain ⟨hlt, hslot⟩ := hstands hleaves
    rw [hb] at hslot
    exact .inl (Act.run_follow hcurrent rfl (Roll.toInt_shownCursor _)
      (Roll.slotAt_eq ((owned_after hs future).wellFormed r) hlt hslot))

/-- **No element of a roll is ever missing.** In every reachable session every roll has its elements
in its first slots and nothing behind them, no more slots than its policy allows and its cursor at
an element; and nobody who asks it, compares it, edits its current element or follows a bookmark
that it handed out meets a slot that is empty or not there. -/
theorem slots_sound (hs : s.Reachable) (r : RollId) :
    let l := s.world.roll r
    (l.length ≤ l.capacity ∧
      (∀ limit, l.policy.maxCapacity = some limit → l.capacity ≤ limit) ∧
      (∀ i, i < l.length → ∃ b, l.slots[i]? = some (some b)) ∧
      (∀ i, l.length ≤ i → i < l.capacity → l.slots[i]? = some none) ∧
      (0 < l.length → l.cursor < l.length) ∧ (l.length = 0 → l.cursor = 0)) ∧
    (∀ (asked : Value) (verb : Verb) (args : List Value) (fault : Fault) (w : World),
      asked.rollId? = some r → (Act.ask asked verb args).run s.world = .error fault w →
      fault.isBareSlot = false) ∧
    (∀ (v u : Value) (fault : Fault) (w : World),
      (Act.equal v u).run s.world ≠ .error fault w) ∧
    (∀ (fault : Fault) (w : World), (Act.currentBuffer r).run s.world = .error fault w →
      fault.isBareSlot = false) ∧
    (∀ (taken : Mark) (m : Bookmark) (w : World),
      (Act.ask (.roll r) .bookmark []).run s.world = .ok (.value (.bookmark taken m)) w →
      ∀ (future : List Move) (kept : Mark) (verb : Verb) (args : List Value) (fault : Fault)
        (w' : World), (Act.ask (.bookmark kept m) verb args).run (s.after future).world
          = .error fault w' → fault.isBareSlot = false) := by
  have howned := hs.owned
  have hl := howned.wellFormed r
  intro l
  refine ⟨⟨hl.length_le, hl.allowed.le_limit, hl.occupied, hl.vacant, hl.cursor_lt,
    hl.cursor_eq_zero⟩, ?_, ?_, ?_, ?_⟩
  · intro asked verb args fault w hasked hrun
    exact ((Act.does_ask_roll hasked verb args s.world howned.wellFormed).error hrun).2
  · -- comparing never fails at all
    intro v u fault w hrun
    have hnever : Act.Reads (fun _ => False) (Act.equal v u) := Act.reads_equal v u
    exact ((hnever s.world howned.wellFormed).error hrun).2
  · intro fault w hrun
    rcases Nat.eq_zero_or_pos l.length with hzero | hpos
    · rw [Act.run_currentBuffer_empty hzero] at hrun
      cases hrun
      rfl
    · obtain ⟨b, hb⟩ := hl.occupied _ (hl.cursor_lt hpos)
      rw [Act.run_currentBuffer hl hpos hb] at hrun
      cases hrun
  · intro taken m w htaken future kept verb args fault w' hrun
    rw [Act.run_bookmark] at htaken
    split at htaken
    · cases htaken
    · -- whatever happened since, the bookmark finds its buffer or says that it is stale
      next hne =>
      cases htaken
      obtain ⟨b, hfollow⟩ := run_follow_after howned (Nat.pos_of_ne_zero hne) future
      obtain ⟨hreads, hto⟩ := Act.readsFrom_follow_cases hfollow
      have hw := (owned_after howned future).wellFormed
      exact ((Act.doesFrom_askBookmark hw (fun _ => id) hreads hto kept verb args).error hrun).2

/-- A roll with room for two elements that has got one, and has refused to look for a third. -/
theorem slots_sound_one :
    let s := initial.after
      [.call (.serve .makeRoll [.int 0 2]) (some "a"), .call (.ask "a" .add [.text 1 "x"]) none,
        .call (.ask "a" .get [.int 2 2]) none]
    s.Reachable ∧ (s.world.roll ⟨0⟩).slots[0]? = some (some ⟨0⟩) ∧
      (s.world.roll ⟨0⟩).slots[1]? = some none ∧ (s.world.roll ⟨0⟩).cursor < 1 := by
  intro s
  have hreachable : s.Reachable := ⟨_, rfl⟩
  obtain ⟨⟨-, -, -, hvacant, hcursor, -⟩, -⟩ := slots_sound hreachable ⟨0⟩
  exact ⟨hreachable, rfl, hvacant 1 (by decide) (by decide), hcursor (by decide)⟩

end Session

end TextRoll
