/-
TextRoll/Proofs/Content/OfWorld.lean

The content of a roll, and the order that a request to it is.

`World.content w r` forgets all of a roll but the texts of its elements and its cursor, and
`World.order` forgets all that a request says about the world but the texts of the buffers
it names.  What the machine finds by an index or by its cursor, the roll finds
(`content_currentIndex`, `content_checkIndex`), and for each way in which a roll changes
there is one equation for the cursor that it shows afterwards.
-/
import TextRoll.Proofs.Content.Machine
import TextRoll.Proofs.World.Owned

namespace TextRoll

/-! ### The cursor that a roll shows -/

namespace Roll

variable {α : Type} {l l' : Roll α}

theorem toNat_shownCursor (l : Roll α) : l.shownCursor.toNat = l.cursor := by
  show l.shownCursor.toInt.toNat = l.cursor
  rw [toInt_shownCursor]
  exact Int.toNat_natCast _

theorem shownCursor_append {a : α} {growth : Option Growth} (h : l.append a = .ok (l', growth)) :
    l'.shownCursor = l.shownCursor := by
  rcases append_eq_ok h with ⟨-, rfl, -⟩ | ⟨wanted, -, -, -, rfl, -⟩ <;> rfl

theorem shownCursor_reserve {capacity : Whole} {mark : Mark} {growth : Option Growth}
    (h : l.reserve capacity mark = .ok (l', growth)) : l'.shownCursor = l.shownCursor := by
  rcases reserve_eq_ok h with ⟨-, rfl, -⟩ | ⟨-, -, rfl, -⟩ <;> rfl

/-- An index that was given is shown as it was given. -/
theorem shownCursor_given (l : Roll α) {n : Whole} (hn : 0 ≤ n.toInt) (mark : Mark) :
    ({ l with
        cursor := n.toNat
        cursorOrigin := if n.isTruth then .truth else .given mark } : Roll α).shownCursor = n := by
  cases n with
  | numeral k =>
    show Whole.numeral (k.toNat : Int) = .numeral k
    exact congrArg Whole.numeral (Int.toNat_of_nonneg hn)
  | truth b => cases b <;> rfl

/-- The cursor after a removal moves down with its element, and is left where it is if it can be. -/
theorem shownCursor_without (l : Roll α) (i : Nat) :
    (l.without i).shownCursor
      = let moved : Whole := if i < l.cursor then .numeral (l.cursor - 1 : Nat) else l.shownCursor
        if l.length - 1 ≤ moved.toNat then .numeral (l.length - 1 - 1 : Nat) else moved := by
  have hstays : (l.without i).shownCursor
      = if cursorStays l.cursor i (l.length - 1) then l.shownCursor
        else .numeral (cursorAfterRemoval l.cursor i (l.length - 1)) := by
    unfold shownCursor without cursorAfterRemoval cursorStays
    dsimp only
    by_cases hle : l.cursor ≤ i <;> by_cases hlt : l.cursor < l.length - 1
    · simp [hle, hlt, Nat.not_lt_of_le hle, Nat.not_le_of_lt hlt]
    · simp [hlt]
    · simp [hle]
    · simp [hle]
  rw [hstays]
  unfold cursorStays cursorAfterRemoval
  dsimp only
  by_cases hlt : i < l.cursor
  · have hle : ¬l.cursor ≤ i := Nat.not_le_of_lt hlt
    simp only [hle, hlt, decide_false, Bool.false_and, Bool.false_eq_true, if_false, if_true,
      Whole.toNat_numeral]
    split <;> rfl
  · have hle : l.cursor ≤ i := Nat.le_of_not_lt hlt
    simp only [hle, hlt, decide_true, Bool.true_and, if_false, toNat_shownCursor,
      decide_eq_true_eq]
    by_cases hleft : l.cursor < l.length - 1
    · rw [if_pos hleft, if_neg (Nat.not_le_of_lt hleft)]
    · rw [if_neg hleft, if_pos (Nat.le_of_not_lt hleft), if_pos (Nat.le_of_not_lt hleft)]

end Roll

/-! ### Requests as orders -/

/-- How a roll is asked by a value that is one or guards one. -/
def Value.access : Value → Access
  | .guarded _ depth _ => .guarded depth
  | _ => .direct

namespace World

/-- What a value gives a roll to work with. -/
def argument (w : World) : Value → Argument
  | .text t => .text t.content
  | .buffer b => .buffer (w.text b)
  | .int _ n => .whole (.numeral n)
  | .bool b => .whole (.truth b)
  | .real _ x => .real x
  | v => .other v.kind

/-- The order that a request to a roll is. -/
def order (w : World) : Verb → List Value → Order
  | .add, [v] => .add (w.argument v)
  | .addBuffer, [v] => .addBuffer (w.argument v)
  | .reserve, [v] => .reserve (w.argument v)
  | .clear, [] => .clear
  | .remove, [] => .remove
  | .removeAt, [v] => .removeAt (w.argument v)
  | .seek, [v] => .seek (w.argument v)
  | .advance, [] => .advance
  | .retreat, [] => .retreat
  | .rewind, [] => .rewind
  | .length, [] => .length
  | .truth, [] => .truth
  | .cursor, [] => .cursor
  | .current, [] => .current
  | .get, [v] => .get (w.argument v)
  | .texts, [] => .texts
  | .elements, [] => .elements
  | .contains, [v] => .contains (w.argument v)
  | .printed, [] | .written, [] => .form
  | .walk, [] => .walk
  | .capacity, [] => .capacity
  | .bookmark, [] => .bookmark
  | .generation, [] => .figure .generation
  | .reallocations, [] => .figure .reallocations
  | .policy, [] => .figure .policy
  | .withCapacity, [_] => .figure .withCapacity
  | .hash, [] => .hash
  | .next, [] => .next
  | .assign, [name, _] => .assign (w.argument name)
  | verb, _ => .unknown verb

/-- The content of a roll. -/
def content (w : World) (r : RollId) : Content := ⟨w.texts r, (w.roll r).shownCursor⟩

variable {w w' : World} {r : RollId}

theorem asText_argument (w : World) (operation : String) (v : Value) :
    (w.argument v).asText operation = (v.asText operation).map Text.content := by
  cases v <;> rfl

theorem asIndex_argument (w : World) (length : Nat) (v : Value) :
    (w.argument v).asIndex length = v.asIndex length := by
  cases v <;> rfl

/-! ### What the content tells of a roll -/

theorem length_texts (hr : (w.roll r).WellFormed) : (w.texts r).length = (w.roll r).length := by
  show ((w.elements r).map w.text).length = _
  rw [List.length_map]
  exact hr.length_elements

theorem index_content (w : World) (r : RollId) : (w.content r).index = (w.roll r).cursor :=
  Roll.toNat_shownCursor _

theorem content_currentIndex (hr : (w.roll r).WellFormed) (operation : String) :
    (w.content r).currentIndex operation = (w.roll r).currentIndex operation := by
  unfold Content.currentIndex Roll.currentIndex
  rw [index_content]
  show (if (w.texts r).length = 0 then _ else _) = _
  rw [length_texts hr]

theorem content_checkIndex (hr : (w.roll r).WellFormed) (i : Whole) :
    (w.content r).checkIndex i = (w.roll r).checkIndex i := by
  show (if 0 ≤ i.toInt ∧ i.toInt < (w.texts r).length then Except.ok i.toNat
    else .error (Fault.outOfRange i.value (.ofInt (w.texts r).length))) = _
  rw [length_texts hr]
  rfl

theorem item_content {i : Nat} (hi : i < (w.elements r).length) :
    (w.content r).item i = w.text (w.elements r)[i] := by
  show ((w.elements r).map w.text).getD i "" = _
  simp [hi]

/-- The content of a roll in a world where that roll has its elements from somewhere. -/
theorem content_eq {l : Roll BufferId} {texts : List String} {cursor : Whole}
    (hroll : w.roll r = l) (htexts : l.elements.map w.text = texts)
    (hcursor : l.shownCursor = cursor) : w.content r = ⟨texts, cursor⟩ := by
  subst hroll htexts hcursor
  rfl

/-- Elements that have a place keep their texts. -/
theorem KeepsTexts.map_text (h : w.KeepsTexts w') (hw : w.Owned) (r : RollId) :
    (w.elements r).map w'.text = w.texts r :=
  List.map_congr_left fun b hb => h.text_eq b (hw.issued r b hb)

theorem Undisturbed.content_eq (h : w.Undisturbed w') (r : RollId) :
    w'.content r = w.content r := by
  unfold content
  rw [h.texts_eq, h.roll_eq]

/-- What touches neither a roll nor the texts of its elements leaves its content. -/
theorem content_of_same (hw : w.Owned) (hroll : w'.roll r = w.roll r) (htexts : w.KeepsTexts w') :
    w'.content r = w.content r :=
  content_eq hroll (htexts.map_text hw r) rfl

/-- **The content after a change**: what is left of the texts, what was added, and the new
cursor. -/
theorem content_changed (hw : w.Owned) {loss : Roll.Loss} {bs : List BufferId} {l : Roll BufferId}
    (hchange : (w.roll r).Change loss bs l) (hrolls : w'.rolls = w.rolls.put r.index l)
    (htexts : w.KeepsTexts w') :
    w'.content r = ⟨loss.rest (w.texts r) ++ bs.map w'.text, l.shownCursor⟩ := by
  refine content_eq (roll_put_self hrolls) ?_ rfl
  rw [hchange.elements_eq (hw.wellFormed r), List.map_append, Roll.Loss.map_rest]
  exact congrArg (fun texts => loss.rest texts ++ bs.map w'.text) (htexts.map_text hw r)

end World

end TextRoll
