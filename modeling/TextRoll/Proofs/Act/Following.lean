/-
TextRoll/Proofs/Act/Following.lean

Following bookmarks.

A bookmark is current as long as the generation of its roll has not moved
(`isCurrent_bookmarkAt`).  While it is, following it leads to what is in its slot
(`run_follow`), and once it is not, every use of it is refused (`run_ask_stale`).  An
editing block lends out the current element as a bookmark taken on the spot would
(`run_currentBuffer`).
-/
import TextRoll.Proofs.Act.OfRoll
import TextRoll.Session

namespace TextRoll

/-- The uses of a bookmark that need what it stands for: `get`, `clear` and `build`, which take
nothing, and `append`, whatever it is given. -/
def Verb.UsesBookmark (verb : Verb) (args : List Value) : Prop :=
  (verb = .get ∧ args = []) ∨ (∃ v, verb = .append ∧ args = [v]) ∨
    (verb = .clear ∧ args = []) ∨ (verb = .build ∧ args = [])

namespace Roll

variable {l : Roll BufferId}

/-- What is found in a slot by its number. -/
theorem slotAt_eq (hl : l.WellFormed) {i : Nat} {slot : Option BufferId} (hi : i < l.length)
    (hslot : l.slots[i]? = some slot) : l.slotAt (i : Int) = .ok slot := by
  have hlt : i < uncountableSlots := by
    have := hl.length_le
    have := hl.allowed.lt_unaffordable
    have : unaffordableSlots ≤ uncountableSlots := by decide
    omega
  unfold slotAt
  rw [if_neg (by omega)]
  dsimp only
  rw [if_neg (by omega), if_neg (by omega), Int.toNat_natCast, hslot]

end Roll

namespace Value

/-- A whole number that was given is itself, in either spelling. -/
theorem asWhole_valueAs (refused : Kind → Fault) (mark : Mark) (n : Whole) :
    (n.valueAs mark).asWhole refused = .ok n := by
  cases n <;> rfl

theorem toInt?_valueAs (mark : Mark) (n : Whole) : (n.valueAs mark).toInt? = some n.toInt := by
  cases n <;> rfl

end Value

namespace World

variable {w w' : World} {r : RollId}

/-- The bookmark that a roll hands out. -/
def bookmarkAt (w : World) (r : RollId) : Bookmark :=
  ⟨r, w.cursorValue r, Act.countOf r "generation" (w.roll r).generation⟩

/-- A bookmark is current as long as the generation of its roll has not moved. -/
theorem isCurrent_bookmarkAt (w w' : World) (r : RollId) :
    w'.isCurrent (w.bookmarkAt r) = true ↔ (w'.roll r).generation = (w.roll r).generation := by
  show (((w.roll r).generation : Int) == ((w'.roll r).generation : Int)) = true ↔ _
  rw [beq_iff_eq]
  omega

end World

namespace Act

variable {w w' : World} {r : RollId} {m : Bookmark}

/-- **A roll hands out a bookmark** whenever it has an element, and nothing changes. -/
theorem run_bookmark (r : RollId) (w : World) :
    (ask (.roll r) .bookmark []).run w
      = if (w.roll r).length = 0 then .error (.emptyRoll (.ofText "current_ref")) w
        else .ok (.value (.bookmark .fresh (w.bookmarkAt r))) w := by
  show EStateM.run
    (MonadExcept.ofExcept ((w.roll r).currentIndex "current_ref") >>= fun _ => _) w = _
  unfold Roll.currentIndex
  split
  · rfl
  · rfl

/-- What following a bookmark comes to, once the world is looked at. -/
theorem run_follow_eq (m : Bookmark) (w : World) :
    (follow m).run w
      = EStateM.run (if w.isCurrent m then
          MonadExcept.ofExcept (m.index.asWhole .indexExpected) >>= fun i =>
            MonadExcept.ofExcept ((w.roll m.roll).slotAt i.toInt)
        else MonadExcept.throw
          (.staleBookmark m.generation (.ofInt (w.roll m.roll).generation)) : Act _) w := rfl

/-- A bookmark that is not current is refused. -/
theorem run_follow_stale (h : w.isCurrent m = false) :
    (follow m).run w
      = .error (.staleBookmark m.generation (.ofInt (w.roll m.roll).generation)) w := by
  rw [run_follow_eq, h]
  rfl

/-- A current bookmark stands for what is in its slot. -/
theorem run_follow {i : Nat} {n : Whole} {mark : Mark} {slot : Option BufferId}
    (h : w.isCurrent m = true) (hindex : m.index = n.valueAs mark) (hn : n.toInt = i)
    (hslot : (w.roll m.roll).slotAt (i : Int) = .ok slot) : (follow m).run w = .ok slot w := by
  rw [run_follow_eq, h, if_pos rfl, hindex, Value.asWhole_valueAs]
  show EStateM.run (MonadExcept.ofExcept ((w.roll m.roll).slotAt n.toInt)) w = _
  rw [hn, hslot]
  rfl

/-- What a bookmark stands for, for something that needs a buffer. -/
theorem run_followTo {b : BufferId} (h : (follow m).run w = .ok (some b) w') (wanted : String) :
    (followTo m wanted).run w = .ok b w' :=
  run_bind_ok _ h

theorem run_followTo_error {fault : Fault} (h : (follow m).run w = .error fault w')
    (wanted : String) : (followTo m wanted).run w = .error fault w' :=
  run_bind_error _ h

/-- Every use of a bookmark that is not current is refused, whatever it is given. -/
theorem run_ask_stale (mark : Mark) (h : w.isCurrent m = false) {verb : Verb} {args : List Value}
    (hverb : verb.UsesBookmark args) :
    (ask (.bookmark mark m) verb args).run w
      = .error (.staleBookmark m.generation (.ofInt (w.roll m.roll).generation)) w := by
  have hfollow := run_follow_stale h
  rcases hverb with ⟨rfl, rfl⟩ | ⟨v, rfl, rfl⟩ | ⟨rfl, rfl⟩ | ⟨rfl, rfl⟩
  · exact run_bind_error _ hfollow
  · exact run_bind_error _ (run_followTo_error hfollow _)
  · exact run_bind_error _ (run_followTo_error hfollow _)
  · exact run_bind_error _ (run_followTo_error hfollow _)

/-- A current bookmark hands out the buffer it stands for. -/
theorem run_ask_get (mark : Mark) {b : BufferId} (h : (follow m).run w = .ok (some b) w) :
    (ask (.bookmark mark m) .get []).run w = .ok (.value (.buffer b)) w :=
  run_bind_ok _ h

/-- The current element of a roll, the buffer itself, can be lent out whenever there is one. -/
theorem run_currentBuffer {b : BufferId} (hr : (w.roll r).WellFormed)
    (hpos : 0 < (w.roll r).length)
    (hb : (w.roll r).slots[(w.roll r).cursor]? = some (some b)) :
    (currentBuffer r).run w = .ok b w := by
  have hcurrent : w.isCurrent
      ⟨r, .ofInt (w.roll r).cursor, .ofInt (w.roll r).generation⟩ = true := beq_self_eq_true _
  have hfollow : (follow ⟨r, .ofInt (w.roll r).cursor, .ofInt (w.roll r).generation⟩).run w
      = .ok (some b) w :=
    run_follow (n := .numeral (w.roll r).cursor) hcurrent rfl rfl
      (Roll.slotAt_eq hr (hr.cursor_lt hpos) hb)
  show EStateM.run (MonadExcept.ofExcept ((w.roll r).currentIndex "current_ref") >>= fun i =>
    followTo ⟨r, .ofInt i, .ofInt (w.roll r).generation⟩ "append") w = _
  rcases (w.roll r).currentIndex_cases "current_ref" with ⟨-, hok⟩ | ⟨hzero, -⟩
  · rw [hok]
    exact run_followTo hfollow "append"
  · omega

theorem run_currentBuffer_empty (h : (w.roll r).length = 0) :
    (currentBuffer r).run w = .error (.emptyRoll (.ofText "current_ref")) w := by
  show EStateM.run (MonadExcept.ofExcept ((w.roll r).currentIndex "current_ref") >>= _) w = _
  unfold Roll.currentIndex
  rw [if_pos h]
  rfl

end Act

end TextRoll
