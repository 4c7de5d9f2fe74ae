/-
TextRoll/Proofs/Content/Editing.lean

Edits of elements, seen from the content of their roll.

What happens elsewhere leaves the content of a roll (`Occurs.content_other`), and an edit of
an element rewrites its text and nothing else (`Occurs.content_edited`).  So a request to
anything but the roll changes its content only if what is asked stands for an element
(`content_ask_other`).

There are two ways to come by the current element itself: a bookmark, and the block that
lends it out.  Whatever is asked of either rewrites at most the text at the cursor
(`rewrites_of_bookmark`, `lent_cases`).
-/
import TextRoll.Proofs.Act.Following
import TextRoll.Proofs.Content.Reading

namespace TextRoll

/-! ### Events and content -/

namespace World

variable {w w' : World} {e : Event} {r : RollId} {b : BufferId}

theorem content_of_unused (h : (w.roll r).Unused) : w.content r = ⟨[], .numeral 0⟩ :=
  content_eq rfl (congrArg (List.map w.text) (elements_of_unused h)) h.shownCursor_eq

/-- What happens elsewhere leaves the content of a roll. -/
theorem Occurs.content_other (h : w.Occurs e w') (hw : w.Owned)
    (hchanged : ∀ loss added, e ≠ .changed r loss added)
    (hedited : ∀ b edit, e = .edited b edit → b ∉ w.elements r) :
    w'.content r = w.content r := by
  cases h with
  | still hrolls htexts => exact content_of_same hw (roll_of_rolls_eq hrolls r) htexts
  | @edited _ b edit hrolls hsize hself hothers =>
    refine content_eq (roll_of_rolls_eq hrolls r) ?_ rfl
    refine List.map_congr_left fun b' hb' => hothers b' ?_
    rintro rfl
    exact hedited b' edit rfl hb'
  | @changed _ r' loss bs l hchange hrolls htexts hnew =>
    by_cases hr : r = r'
    · subst hr
      exact absurd rfl (hchanged loss _)
    · exact content_of_same hw (roll_put_of_ne hrolls hr) htexts
  | created hunused hrolls htexts =>
    by_cases hr : r.index = w.rolls.size
    · rw [content_of_unused (unused_of_size_le (Nat.le_of_eq hr.symm)),
        content_of_unused (roll_issue_self hrolls hr ▸ hunused)]
    · exact content_of_same hw (roll_issue_of_ne hrolls hr) htexts

/-- What is edited is rewritten in its place, and nothing else happens to the content. -/
theorem Occurs.content_edited (h : w.Occurs e w') (hw : w.Owned) (he : e.EditsOnly b) {i : Nat}
    (hi : (w.elements r)[i]? = some b) : w'.content r = (w.content r).rewritten i (w'.text b) := by
  obtain ⟨hrolls, hothers⟩ := h.edited_cases he
  have helements : ∀ b' ∈ w.elements r, b' ≠ b → w'.text b' = w.text b' :=
    fun b' hb' hne => hothers b' (hw.issued r b' hb') hne
  have htexts := texts_edited_self hrolls helements hw hi
  unfold content Content.rewritten
  rw [htexts, roll_of_rolls_eq hrolls r]

end World

namespace Act

variable {w : World} {r : RollId} {asked : Value}

/-- A request to another roll changes that roll at most. -/
theorem ask_otherRoll (hw : w.WellFormed) {r' : RollId} (hother : asked.rollId? = some r')
    (verb : Verb) (args : List Value) :
    ∃ e, (e = .still ∨ ∃ loss added, e = .changed r' loss added) ∧
      w.Occurs e ((ask asked verb args).worldAfter w) := by
  have hdoes := does_ask_roll hother verb args w hw
  refine (hdoes.mono (fun e he => ?_) fun _ => id).occurs (.inl rfl)
  cases e with
  | still => exact .inl rfl
  | changed r'' loss added =>
    obtain ⟨rfl, -⟩ := he
    exact .inr ⟨loss, added, rfl⟩
  | edited | created => exact he.elim

/-- A request to anything else does not change a roll, and edits what was asked at most. -/
theorem ask_other (hw : w.WellFormed) (hasked : asked.rollId? ≠ some r) (verb : Verb)
    (args : List Value) :
    ∃ e, w.Occurs e ((ask asked verb args).worldAfter w) ∧
      (∀ loss added, e ≠ .changed r loss added) ∧
      (∀ b edit, e = .edited b edit → w.standsFor? asked = some b) ∧
      ∀ b, w.standsFor? asked = some b → e.EditsOnly b := by
  cases hother : asked.rollId? with
  | none =>
    have hdoes := doesFrom_ask_other hw hother verb args
    obtain ⟨e, he, hoccurs⟩ := hdoes.occurs (Event.EditsAtMost.of_still _)
    refine ⟨e, hoccurs, ?_, ?_, ?_⟩
    · rintro loss added rfl
      exact he.spares
    · rintro b edit rfl
      cases hfound : w.standsFor? asked with
      | none =>
        rw [hfound] at he
        cases he
      | some b' =>
        rw [hfound] at he
        obtain rfl : b = b' := he
        rfl
    · intro b hb
      rw [hb] at he
      exact he
  | some r' =>
    -- another roll may change, and a roll stands for no buffer
    have hne : r' ≠ r := fun heq => hasked (heq ▸ hother)
    have hstands : w.standsFor? asked = none := by cases asked <;> cases hother <;> rfl
    obtain ⟨e, he, hoccurs⟩ := ask_otherRoll hw hother verb args
    refine ⟨e, hoccurs, ?_, ?_, fun b hb => ?_⟩
    · rintro loss added rfl
      rcases he with he | ⟨loss', added', he⟩
      · cases he
      · injection he with hr
        exact hne hr.symm
    · rintro b edit rfl
      rcases he with he | ⟨loss', added', he⟩ <;> cases he
    · rw [hstands] at hb
      cases hb

/-- A request to anything else leaves the content of a roll, but for an element that it edits. -/
theorem content_ask_other (hw : w.Owned) (hasked : asked.rollId? ≠ some r) (verb : Verb)
    (args : List Value) :
    (∀ b i, w.standsFor? asked = some b → (w.elements r)[i]? = some b →
        ((ask asked verb args).worldAfter w).content r
          = (w.content r).rewritten i (((ask asked verb args).worldAfter w).text b)) ∧
      ((∀ b, w.standsFor? asked = some b → b ∉ w.elements r) →
        ((ask asked verb args).worldAfter w).content r = w.content r) := by
  obtain ⟨e, hoccurs, hchanged, hedited, honly⟩ := ask_other hw.wellFormed hasked verb args
  constructor
  · intro b i hb hi
    exact hoccurs.content_edited hw (honly b hb) hi
  · intro hnone
    exact hoccurs.content_other hw hchanged fun b edit he => hnone b (hedited b edit he)

/-! ### The current element -/

end Act

namespace World

/-- Whatever is asked of a value, the text at one place of a roll is all that can change: a text
that is appended goes behind it, and clearing empties it. -/
structure Rewrites (w : World) (r : RollId) (v : Value) (i : Nat) : Prop where
  only : ∀ (verb : Verb) (args : List Value), ∃ text : String,
    ((Act.ask v verb args).worldAfter w).content r = (w.content r).rewritten i text
  append : ∀ t : Text, (Act.ask v .append [.text t]).told w = .ok .itself ∧
    ((Act.ask v .append [.text t]).worldAfter w).content r
      = (w.content r).rewritten i ((w.content r).item i ++ t.content)
  clear : (Act.ask v .clear []).told w = .ok .itself ∧
    ((Act.ask v .clear []).worldAfter w).content r = (w.content r).rewritten i ""

variable {w : World} {r : RollId} {v : Value} {b : BufferId} {i : Nat}

/-- Another buffer in the place of an element rewrites its text. -/
theorem content_setBuffer (hw : w.Owned) (hi : (w.elements r)[i]? = some b) (x : Buffer) :
    (w.setBuffer b x).content r = (w.content r).rewritten i x.text := by
  have hothers : ∀ b' ∈ w.elements r, b' ≠ b → (w.setBuffer b x).text b' = w.text b' := by
    intro b' _ hne
    unfold text
    rw [buffer_setBuffer_of_ne w x hne]
  have hrolls : (w.setBuffer b x).rolls = w.rolls := rfl
  have htexts := texts_edited_self hrolls hothers hw hi
  have htext : (w.setBuffer b x).text b = x.text :=
    congrArg Buffer.text (w.buffer_setBuffer_self b x)
  rw [htext] at htexts
  unfold content Content.rewritten
  rw [htexts]
  rfl

/-- What stands for an element and edits it as a buffer does rewrites its text. -/
theorem rewrites_of_standsFor (hw : w.Owned) (hi : (w.elements r)[i]? = some b)
    (hasked : v.rollId? ≠ some r) (hstands : w.standsFor? v = some b)
    (happend : ∀ t, (Act.ask v .append [.text t]).run w
      = .ok .itself (w.setBuffer b ((w.buffer b).append t)))
    (hclear : (Act.ask v .clear []).run w = .ok .itself (w.setBuffer b (w.buffer b).clear)) :
    w.Rewrites r v i where
  only verb args := ⟨_, (Act.content_ask_other hw hasked verb args).1 b i hstands hi⟩
  append t := by
    refine ⟨Act.told_of_ok (happend t), ?_⟩
    obtain ⟨hlt, hget⟩ := List.getElem?_eq_some_iff.mp hi
    have hitem : (w.content r).item i = (w.buffer b).text := by
      rw [item_content hlt, hget]
      rfl
    rw [Act.worldAfter_of_ok (happend t), content_setBuffer hw hi, Buffer.text_append, hitem]
  clear := by
    refine ⟨Act.told_of_ok hclear, ?_⟩
    rw [Act.worldAfter_of_ok hclear, content_setBuffer hw hi, Buffer.text_clear]

/-- **A buffer that is an element** rewrites the text in its place. -/
theorem rewrites_buffer (hw : w.Owned) (hi : (w.elements r)[i]? = some b) :
    w.Rewrites r (.buffer b) i := by
  refine rewrites_of_standsFor hw hi nofun rfl (fun t => ?_) rfl
  rfl

/-- **A bookmark that leads to an element** rewrites the text in its place. -/
theorem rewrites_bookmark (hw : w.Owned) (hi : (w.elements r)[i]? = some b) (mark : Mark)
    {m : Bookmark} (hfollow : (Act.follow m).run w = .ok (some b) w) :
    w.Rewrites r (.bookmark mark m) i := by
  have hto := Act.run_followTo hfollow
  refine rewrites_of_standsFor hw hi nofun (Act.standsFor_of_followTo (hto "append") mark)
    (fun t => ?_) ?_
  · show EStateM.run (Act.followTo m "append" >>= fun b => _) w = _
    rw [EStateM.run_bind, hto]
    rfl
  · show EStateM.run (Act.followTo m "clear" >>= fun b => _) w = _
    rw [EStateM.run_bind, hto]
    rfl

end World

namespace Act

variable {w w' : World} {r : RollId}

/-- The current element, as it is found in its slot and among the elements. -/
theorem exists_currentElement (hr : (w.roll r).WellFormed) (hne : (w.roll r).length ≠ 0) :
    ∃ b, (w.roll r).slots[(w.roll r).cursor]? = some (some b) ∧
      (w.elements r)[(w.content r).index]? = some b := by
  obtain ⟨b, hb⟩ := hr.occupied _ (hr.cursor_lt (Nat.pos_of_ne_zero hne))
  refine ⟨b, hb, ?_⟩
  rw [World.index_content]
  exact hr.layout.slot_iff.mp hb

/-- **A bookmark that a roll has just handed out** rewrites the text at the cursor. -/
theorem rewrites_of_bookmark (hw : w.Owned) {taken : Mark} {m : Bookmark}
    (h : (ask (.roll r) .bookmark []).run w = .ok (.value (.bookmark taken m)) w') (kept : Mark) :
    w' = w ∧ w.Rewrites r (.bookmark kept m) (w.content r).index := by
  have hr := hw.wellFormed r
  rw [run_bookmark] at h
  split at h
  · cases h
  · next hne =>
    cases h
    obtain ⟨b, hb, hi⟩ := exists_currentElement hr hne
    have hcurrent : w.isCurrent (w.bookmarkAt r) = true :=
      (World.isCurrent_bookmarkAt w w r).mpr rfl
    have hslot := Roll.slotAt_eq hr (hr.cursor_lt (Nat.pos_of_ne_zero hne)) hb
    have hfollow : (follow (w.bookmarkAt r)).run w = .ok (some b) w :=
      run_follow hcurrent rfl (Roll.toInt_shownCursor _) hslot
    exact ⟨rfl, World.rewrites_bookmark hw hi kept hfollow⟩

/-- **An editing block lends out the current element,** which rewrites the text at the cursor,
unless there is none. -/
theorem lent_cases (hw : w.Owned) (r : RollId) :
    ((w.content r).texts = [] ∧
        (currentBuffer r).run w = .error (.emptyRoll (.ofText "current_ref")) w) ∨
      ∃ b, (currentBuffer r).run w = .ok b w ∧
        w.Rewrites r (.buffer b) (w.content r).index := by
  have hr := hw.wellFormed r
  by_cases hzero : (w.roll r).length = 0
  · refine .inl ⟨?_, run_currentBuffer_empty hzero⟩
    apply List.eq_nil_of_length_eq_zero
    exact (World.length_texts hr).trans hzero
  · obtain ⟨b, hb, hi⟩ := exists_currentElement hr hzero
    have hlent := run_currentBuffer hr (Nat.pos_of_ne_zero hzero) hb
    exact .inr ⟨b, hlent, World.rewrites_buffer hw hi⟩

end Act

end TextRoll
