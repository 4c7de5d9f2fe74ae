/-
TextRoll/Proofs/World/Showing.lean

Worlds that cannot be told apart show the same.

The truth of a value, its printed form and what a report shows of it depend on the texts of buffers,
on rolls, and on tallies.  So they are the same in worlds that are alike, as long as the value is
within the view.  The induction is on the nesting of the value each time.
-/
import TextRoll.Proofs.Content.Wording
import TextRoll.Proofs.World.Alike
import TextRoll.Shown

namespace TextRoll

/-- All values that a fault mentions or carries are within the view. -/
def Fault.Within (view : View) (n : Nat) (fault : Fault) : Prop :=
  ∀ v ∈ fault.mentioned ++ fault.facts, v.Within view n

/-- The item is within the view; a copy names nothing. -/
def Item.Within (view : View) (n : Nat) : Item → Prop
  | .value v => v.Within view n
  | .copy _ => True

/-- What is new is within the view. -/
def Draft.Within (view : View) (n : Nat) : Draft → Prop
  | .roll l | .guardedRoll l => l.Within view n
  | .tally start => view.books ∧ Value.AllWithin view n start
  | .walk k => k.Within view n

/-- What is handed back is within the view. -/
def Answer.Within (view : View) (n : Nat) : Answer → Prop
  | .itself => True
  | .item x => x.Within view n
  | .items xs => ∀ x ∈ xs, x.Within view n
  | .draft d => d.Within view n

namespace World

variable {view : View} {w w' : World} {n : Nat} {v : Value}

theorem truth_eq_of_alike (h : w.Alike view w') (hv : v.Within view n) :
    w'.truth v = w.truth v := by
  cases v with
  | buffer b =>
    show (!(w'.buffer b).isEmpty) = !(w.buffer b).isEmpty
    rw [(h.buffer_alike b).isEmpty_eq]
  | roll r | guarded mark depth r =>
    show ((w'.roll r).length != 0) = ((w.roll r).length != 0)
    rw [h.roll_eq]
  | growths t =>
    show (!(w'.tally t).events.isEmpty) = !(w.tally t).events.isEmpty
    rw [h.tally_eq (by simpa [Value.Within] using hv)]
  | null | bool | int | real | text | bytes | list | record | bookmark | policy | tally | growth
  | walk => rfl

theorem bare_eq_of_alike (h : w.Alike view w') (form : String) (v : Value) :
    Printed.bare w' form v = Printed.bare w form v := by
  cases v with
  | buffer b => exact h.text_eq b
  | null | bool | int | real | text | bytes | list | record | roll | guarded | bookmark | policy
  | tally | growths | growth | walk => rfl

/-! ### Printed forms -/

-- The induction is on the nesting of values, here and below.
mutual

theorem printed_eq_of_alike (h : w.Alike view w') : ∀ v : Value, v.Within view n →
    w'.printed v = w.printed v
  | .list _ items, hv => by
    unfold Value.Within at hv
    unfold printed
    rw [printedItems_eq_of_alike h items hv]
  | .record _ entries, hv => by
    unfold Value.Within at hv
    unfold printed
    rw [printedEntries_eq_of_alike h entries hv]
  | .buffer b, _ => by
    unfold printed
    rw [h.text_eq]
  | .roll r, _ | .guarded _ _ r, _ => by
    unfold printed
    rw [h.texts_eq, h.roll_eq]
  | .bookmark _ ⟨r, index, generation⟩, hv => by
    unfold Value.Within at hv
    unfold printed
    rw [printed_eq_of_alike h index hv.1, printed_eq_of_alike h generation hv.2,
      bare_eq_of_alike h, bare_eq_of_alike h, h.isCurrent_eq]
  | .policy ⟨_, _, _, _, _, release, _⟩, hv => by
    unfold Value.Within at hv
    unfold printed
    rw [printed_eq_of_alike h release hv]
  | .tally t start, hv => by
    unfold Value.Within at hv
    unfold printed
    rw [h.tally_eq hv.1, printedItems_eq_of_alike h start hv.2]
  | .growths t, hv => by
    unfold Value.Within at hv
    unfold printed
    rw [h.tally_eq hv]
  | .growth t place, hv => by
    unfold Value.Within at hv
    unfold printed
    rw [h.growth_eq hv]
  | .null, _ | .bool _, _ | .int .., _ | .real .., _ | .text _, _ | .bytes .., _ | .walk _, _ => by
    unfold printed
    rfl

theorem printedItems_eq_of_alike (h : w.Alike view w') : ∀ xs : List Value,
    Value.AllWithin view n xs → w'.printedItems xs = w.printedItems xs
  | [], _ => by
    unfold printedItems
    rfl
  | x :: xs, hxs => by
    unfold Value.AllWithin at hxs
    unfold printedItems
    rw [printed_eq_of_alike h x hxs.1, printedItems_eq_of_alike h xs hxs.2]

theorem printedEntries_eq_of_alike (h : w.Alike view w') : ∀ xs : List (String × Value),
    Value.EntriesWithin view n xs → w'.printedEntries xs = w.printedEntries xs
  | [], _ => by
    unfold printedEntries
    rfl
  | (name, x) :: xs, hxs => by
    unfold Value.EntriesWithin at hxs
    unfold printedEntries
    rw [printed_eq_of_alike h x hxs.1, printedEntries_eq_of_alike h xs hxs.2]

end

theorem written_eq_of_alike (h : w.Alike view w') (hv : v.Within view n) :
    w'.written v = w.written v := by
  unfold written
  rw [printed_eq_of_alike h v hv, bare_eq_of_alike h]

/-! ### What can be written out -/

mutual

theorem isWritable_eq_of_alike (h : w.Alike view w') : ∀ v : Value, v.Within view n →
    w'.isWritable v = w.isWritable v
  | .list _ items, hv => by
    unfold Value.Within at hv
    unfold isWritable
    rw [writableItems_eq_of_alike h items hv]
  | .record _ entries, hv => by
    unfold Value.Within at hv
    unfold isWritable
    rw [areWritableEntries_eq_of_alike h entries hv]
  | .bookmark _ ⟨_, index, generation⟩, hv => by
    unfold Value.Within at hv
    unfold isWritable
    rw [isWritable_eq_of_alike h index hv.1, isWritable_eq_of_alike h generation hv.2]
  | .policy ⟨_, _, _, _, _, release, _⟩, hv => by
    unfold Value.Within at hv
    unfold isWritable
    rw [isWritable_eq_of_alike h release hv]
  | .tally t start, hv => by
    unfold Value.Within at hv
    unfold isWritable
    rw [h.tally_eq hv.1, writableItems_eq_of_alike h start hv.2]
  | .growths t, hv => by
    unfold Value.Within at hv
    unfold isWritable
    rw [h.tally_eq hv]
  | .growth t place, hv => by
    unfold Value.Within at hv
    unfold isWritable
    rw [h.growth_eq hv]
  | .null, _ | .bool _, _ | .int .., _ | .real .., _ | .text _, _ | .bytes .., _ | .buffer _, _
  | .roll _, _ | .guarded .., _ | .walk _, _ => by
    unfold isWritable
    rfl

theorem writableItems_eq_of_alike (h : w.Alike view w') : ∀ xs : List Value,
    Value.AllWithin view n xs → w'.writableItems xs = w.writableItems xs
  | [], _ => by
    unfold writableItems
    rfl
  | x :: xs, hxs => by
    unfold Value.AllWithin at hxs
    unfold writableItems
    rw [isWritable_eq_of_alike h x hxs.1, writableItems_eq_of_alike h xs hxs.2]

theorem areWritableEntries_eq_of_alike (h : w.Alike view w') : ∀ xs : List (String × Value),
    Value.EntriesWithin view n xs → w'.areWritableEntries xs = w.areWritableEntries xs
  | [], _ => by
    unfold areWritableEntries
    rfl
  | (_, x) :: xs, hxs => by
    unfold Value.EntriesWithin at hxs
    unfold areWritableEntries
    rw [isWritable_eq_of_alike h x hxs.1, areWritableEntries_eq_of_alike h xs hxs.2]

end

/-! ### What reports show -/

mutual

theorem shown_eq_of_alike (h : w.Alike view w') : ∀ v : Value, v.Within view n →
    w'.shown v = w.shown v
  | .list _ items, hv => by
    unfold Value.Within at hv
    unfold shown
    rw [shownItems_eq_of_alike h items hv]
  | .record _ entries, hv => by
    unfold Value.Within at hv
    unfold shown
    rw [shownEntries_eq_of_alike h entries hv]
  | .buffer b, _ => by
    unfold shown
    rw [h.text_eq]
  | .roll r, _ | .guarded _ _ r, _ => by
    unfold shown
    rw [h.texts_eq]
  | .bookmark mark m, hv => by
    unfold shown
    rw [printed_eq_of_alike h _ hv]
  | .policy ⟨_, _, _, _, _, release, _⟩, hv => by
    unfold Value.Within at hv
    unfold shown
    rw [shown_eq_of_alike h release hv]
  | .tally t start, hv => by
    unfold Value.Within at hv
    unfold shown
    rw [h.tally_eq hv.1, shownItems_eq_of_alike h start hv.2]
  | .growths t, hv => by
    unfold Value.Within at hv
    unfold shown
    rw [h.tally_eq hv]
  | .growth t place, hv => by
    unfold Value.Within at hv
    unfold shown
    rw [h.growth_eq hv]
  | .null, _ | .bool _, _ | .int .., _ | .real .., _ | .text _, _ | .bytes .., _ | .walk _, _ => by
    unfold shown
    rfl

theorem shownItems_eq_of_alike (h : w.Alike view w') : ∀ xs : List Value,
    Value.AllWithin view n xs → w'.shownItems xs = w.shownItems xs
  | [], _ => by
    unfold shownItems
    rfl
  | x :: xs, hxs => by
    unfold Value.AllWithin at hxs
    unfold shownItems
    rw [shown_eq_of_alike h x hxs.1, shownItems_eq_of_alike h xs hxs.2]

theorem shownEntries_eq_of_alike (h : w.Alike view w') : ∀ xs : List (String × Value),
    Value.EntriesWithin view n xs → w'.shownEntries xs = w.shownEntries xs
  | [], _ => by
    unfold shownEntries
    rfl
  | (name, x) :: xs, hxs => by
    unfold Value.EntriesWithin at hxs
    unfold shownEntries
    rw [shown_eq_of_alike h x hxs.1, shownEntries_eq_of_alike h xs hxs.2]

end

theorem shownItem_eq_of_alike (h : w.Alike view w') {x : Item} (hx : x.Within view n) :
    w'.shownItem x = w.shownItem x := by
  cases x with
  | value v => exact shown_eq_of_alike h v hx
  | copy text => rfl

/-- **What is shown of an answer is the same.** -/
theorem shownAnswer_eq_of_alike (h : w.Alike view w') {answer : Answer}
    (hanswer : answer.Within view n) : w'.shownAnswer answer = w.shownAnswer answer := by
  cases answer with
  | itself => rfl
  | item x => exact shownItem_eq_of_alike h hanswer
  | items xs =>
    show Shown.list (xs.map w'.shownItem) = .list (xs.map w.shownItem)
    rw [List.map_congr_left fun x hx => shownItem_eq_of_alike h (hanswer x hx)]
  | draft d =>
    cases d with
    | roll | guardedRoll | walk => rfl
    | tally start =>
      show Shown.ofTally _ (w'.shownItems start) = .ofTally _ (w.shownItems start)
      rw [shownItems_eq_of_alike h start hanswer.2]

/-- **What is shown of a failure is the same.** -/
theorem refusal_eq_of_alike (h : w.Alike view w') {fault : Fault} (hfault : fault.Within view n) :
    w'.refusal fault = w.refusal fault := by
  -- a fault has its own words only if all that it mentions can be written
  have hwritable : fault.mentioned.all w'.isWritable = fault.mentioned.all w.isWritable := by
    rw [Bool.eq_iff_iff, List.all_eq_true, List.all_eq_true]
    refine forall₂_congr fun v hv => ?_
    rw [isWritable_eq_of_alike h v (hfault v (List.mem_append_left _ hv))]
  have hmessage : fault.message w'.written = fault.message w.written :=
    Fault.message_congr fun v hv =>
      written_eq_of_alike h (hfault v (List.mem_append_left _ hv))
  have hfacts : fault.facts.map w'.shown = fault.facts.map w.shown :=
    List.map_congr_left fun v hv => shown_eq_of_alike h v (hfault v (List.mem_append_right _ hv))
  unfold refusal
  rw [hwritable]
  cases fault.mentioned.all w.isWritable with
  | true =>
    show Refusal.mk fault (fault.message w'.written) (fault.facts.map w'.shown) = _
    rw [hmessage, hfacts]
    rfl
  | false => rfl

/-- The state of a roll is the same. -/
theorem standing_eq_of_alike (h : w.Alike view w') (v : Value) : w'.standing v = w.standing v := by
  cases v with
  | roll r | guarded mark depth r => simp only [standing, h.roll_eq]
  | null | bool | int | real | text | bytes | list | record | buffer | bookmark | policy | tally
  | growths | growth | walk => rfl

end World

end TextRoll
