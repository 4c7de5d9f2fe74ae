/-
TextRoll/Proofs/World/Alike.lean

Worlds that cannot be told apart.

Two buffers are alike (`Buffer.Alike`) when they differ only in the pieces that their text is kept
in: whoever asks for the text, its mark or its length gets the same, and edits keep them alike.

Two worlds are alike in a view (`World.Alike`) when their buffers are and all else is the same,
rolls, walks and serial numbers.  The books, which are the tallies, the surroundings and the log,
are compared only if the view says so.  A view also says which rolls and which walks are looked at
closely, and which growths are known although the books are not compared: a growth that was counted
stays as it is, whatever else is counted.  `Value.Within` collects what a value may name so that
alike worlds answer alike for it, and `World.Sound` says that what these rolls and walks hold is
within the view as well.
-/
import TextRoll.Proofs.World.Books
import TextRoll.Answer

namespace TextRoll

/-! ### Buffers -/

namespace Buffer

/-- The buffers have the same text with the same mark and were edited as often. -/
structure Alike (x y : Buffer) : Prop where
  text_eq : y.text = x.text
  mark_eq : y.mark = x.mark
  edits_eq : y.edits = x.edits

/-- There are no pieces exactly if there is no text. -/
theorem isEmpty_eq (x : Buffer) : x.isEmpty = decide (x.text = "") := by
  unfold isEmpty
  cases hparts : x.parts with
  | nil => simp [text, hparts]
  | cons part rest =>
    have hpieces : x.parts ≠ [] := hparts ▸ List.cons_ne_nil part rest
    have hne : x.text ≠ "" := join_ne_empty x.parts_ne_empty hpieces
    simp [hne]

/-- The length is that of the text. -/
theorem length_eq (x : Buffer) : x.length = x.text.length := by
  have hsum : ∀ (parts : List String) (n : Nat),
      parts.foldl (fun n piece => n + piece.length) n = n + (String.join parts).length := by
    intro parts
    induction parts with
    | nil => exact fun n => rfl
    | cons part rest ih =>
      intro n
      rw [List.foldl_cons, ih, String.join_cons, String.length_append, Nat.add_assoc]
  exact (hsum x.parts 0).trans (Nat.zero_add _)

namespace Alike

variable {x y z : Buffer}

theorem refl (x : Buffer) : x.Alike x := ⟨rfl, rfl, rfl⟩

theorem symm (h : x.Alike y) : y.Alike x := ⟨h.1.symm, h.2.symm, h.3.symm⟩

theorem trans (h : x.Alike y) (h' : y.Alike z) : x.Alike z :=
  ⟨h'.1.trans h.1, h'.2.trans h.2, h'.3.trans h.3⟩

theorem isEmpty_eq (h : x.Alike y) : y.isEmpty = x.isEmpty := by
  rw [Buffer.isEmpty_eq, Buffer.isEmpty_eq, h.text_eq]

theorem length_eq (h : x.Alike y) : y.length = x.length := by
  rw [Buffer.length_eq, Buffer.length_eq, h.text_eq]

theorem built_eq (h : x.Alike y) (place : BufferId) : y.built place = x.built place := by
  unfold built
  rw [h.text_eq, h.mark_eq, h.edits_eq]

/-- Joining the pieces makes no difference. -/
theorem collapse (x : Buffer) : x.Alike x.collapse := by
  refine ⟨text_collapse x, ?_, ?_⟩ <;>
  · unfold Buffer.collapse
    split <;> rfl

theorem append (h : x.Alike y) (t : Text) : (x.append t).Alike (y.append t) := by
  have hempty : y.parts.isEmpty = x.parts.isEmpty := h.isEmpty_eq
  refine ⟨by rw [text_append, text_append, h.text_eq], ?_, ?_⟩
  · unfold Buffer.append
    split
    · exact h.mark_eq
    · rw [hempty]
  · unfold Buffer.append
    split
    · exact h.edits_eq
    · exact congrArg (· + 1) h.edits_eq

theorem appendLine (h : x.Alike y) (t : Text) : (x.appendLine t).Alike (y.appendLine t) :=
  (h.append t).append _

theorem extend (h : x.Alike y) (pieces : List Text) :
    (x.extend pieces).Alike (y.extend pieces) := by
  induction pieces generalizing x y with
  | nil => simpa using h
  | cons t rest ih =>
    rw [extend_cons, extend_cons]
    exact ih (h.append t)

theorem clear (h : x.Alike y) : x.clear.Alike y.clear := ⟨rfl, rfl, congrArg (· + 1) h.edits_eq⟩

end Alike

end Buffer

/-! ### What two worlds are compared in -/

/-- What two worlds are compared in. -/
structure View where
  /-- Whether the books are compared: the tallies, the surroundings and the log. -/
  books : Prop
  /-- The rolls that are asked. -/
  rolls : RollId → Prop
  /-- The walks that are moved on. -/
  walks : WalkId → Prop
  /-- The growths that are known without the books, as they were counted before. -/
  growths : TallyId → Nat → Prop

/-- The view of everything. -/
def View.full : View := ⟨True, fun _ => True, fun _ => True, fun _ _ => True⟩

/-- Whether the growth is compared with the books or known without them. -/
def View.knows (view : View) (t : TallyId) (place : Nat) : Prop := view.books ∨ view.growths t place

mutual

/-- All buffers that the value names are among the first `n`, all walks are in the view and all
growths are known to it, and the value names a tally only if the books are in the view. -/
def Value.Within (view : View) (n : Nat) : Value → Prop
  | .list _ items => Value.AllWithin view n items
  | .record _ entries => Value.EntriesWithin view n entries
  | .buffer b => b.index < n
  | .bookmark _ ⟨_, index, generation⟩ => Value.Within view n index ∧ Value.Within view n generation
  | .policy ⟨_, _, _, _, _, release, _⟩ => Value.Within view n release
  | .tally _ start => view.books ∧ Value.AllWithin view n start
  | .growths _ => view.books
  | .growth t place => view.knows t place
  | .walk k => view.walks k
  | .null | .bool _ | .int .. | .real .. | .text _ | .bytes .. | .roll _ | .guarded .. => True

/-- All of some values are within the view. -/
def Value.AllWithin (view : View) (n : Nat) : List Value → Prop
  | [] => True
  | x :: xs => Value.Within view n x ∧ Value.AllWithin view n xs

/-- All of some named values are within the view. -/
def Value.EntriesWithin (view : View) (n : Nat) : List (String × Value) → Prop
  | [] => True
  | (_, x) :: xs => Value.Within view n x ∧ Value.EntriesWithin view n xs

end

/-- What a walk has still to hand out is within the view. -/
def Walk.Within (view : View) (n : Nat) : Walk → Prop
  | overRoll .. | overCopies _ => True
  | overGrowths .. => view.books
  | overItems _ rest => Value.AllWithin view n rest

namespace Value

variable {view : View} {m n : Nat} {v : Value}

theorem allWithin_iff {xs : List Value} :
    AllWithin view n xs ↔ ∀ x ∈ xs, Within view n x := by
  induction xs with
  | nil => simp [AllWithin]
  | cons x xs ih => simp [AllWithin, ih]

theorem entriesWithin_iff {entries : List (String × Value)} :
    EntriesWithin view n entries ↔ ∀ x ∈ entries, Within view n x.2 := by
  induction entries with
  | nil => simp [EntriesWithin]
  | cons x xs ih => simp [EntriesWithin, ih]

theorem within_policy {p : Policy} :
    Within view n (.policy p) ↔ Within view n p.releaseOnClear := by
  cases p
  simp [Within]

theorem within_bookmark {mark : Mark} {b : Bookmark} :
    Within view n (.bookmark mark b) ↔ Within view n b.index ∧ Within view n b.generation := by
  cases b
  simp [Within]

theorem within_valueAs (mark : Mark) (x : Whole) : Within view n (x.valueAs mark) := by
  cases x <;> simp [Whole.valueAs, Within]

theorem within_number (x : Number) : Within view n x.value := by
  cases x with
  | whole mark x => exact within_valueAs mark x
  | real mark x => simp [Number.value, Within]

-- The induction is on the nesting of values.
mutual

/-- What is among the first buffers is among more of them. -/
theorem Within.mono (hle : m ≤ n) : ∀ v : Value, Within view m v → Within view n v
  | .list _ items, h => by
    unfold Within at h ⊢
    exact AllWithin.mono hle items h
  | .record _ entries, h => by
    unfold Within at h ⊢
    exact EntriesWithin.mono hle entries h
  | .buffer b, h => by
    unfold Within at h ⊢
    exact Nat.lt_of_lt_of_le h hle
  | .bookmark _ ⟨_, index, generation⟩, h => by
    unfold Within at h ⊢
    exact ⟨Within.mono hle index h.1, Within.mono hle generation h.2⟩
  | .policy ⟨_, _, _, _, _, release, _⟩, h => by
    unfold Within at h ⊢
    exact Within.mono hle release h
  | .tally _ start, h => by
    unfold Within at h ⊢
    exact ⟨h.1, AllWithin.mono hle start h.2⟩
  | .growths _, h | .growth .., h | .walk _, h | .null, h | .bool _, h | .int .., h | .real .., h
  | .text _, h | .bytes .., h | .roll _, h | .guarded .., h => by
    unfold Within at h ⊢
    exact h

theorem AllWithin.mono (hle : m ≤ n) : ∀ xs : List Value, AllWithin view m xs → AllWithin view n xs
  | [], _ => by
    unfold AllWithin
    trivial
  | x :: xs, h => by
    unfold AllWithin at h ⊢
    exact ⟨Within.mono hle x h.1, AllWithin.mono hle xs h.2⟩

theorem EntriesWithin.mono (hle : m ≤ n) : ∀ xs : List (String × Value),
    EntriesWithin view m xs → EntriesWithin view n xs
  | [], _ => by
    unfold EntriesWithin
    trivial
  | (_, x) :: xs, h => by
    unfold EntriesWithin at h ⊢
    exact ⟨Within.mono hle x h.1, EntriesWithin.mono hle xs h.2⟩

end

-- Which buffers have a place does not depend on what else is looked at.
mutual

/-- What is within the view wherever buffers end, and whose buffers have a place, is within the
view. -/
theorem Within.of_full : ∀ v : Value, Within view m v → Within View.full n v → Within view n v
  | .list _ items, h, hfull => by
    unfold Within at h hfull ⊢
    exact AllWithin.of_full items h hfull
  | .record _ entries, h, hfull => by
    unfold Within at h hfull ⊢
    exact EntriesWithin.of_full entries h hfull
  | .buffer b, _, hfull => by
    unfold Within at hfull ⊢
    exact hfull
  | .bookmark _ ⟨_, index, generation⟩, h, hfull => by
    unfold Within at h hfull ⊢
    exact ⟨Within.of_full index h.1 hfull.1, Within.of_full generation h.2 hfull.2⟩
  | .policy ⟨_, _, _, _, _, release, _⟩, h, hfull => by
    unfold Within at h hfull ⊢
    exact Within.of_full release h hfull
  | .tally _ start, h, hfull => by
    unfold Within at h hfull ⊢
    exact ⟨h.1, AllWithin.of_full start h.2 hfull.2⟩
  | .growths _, h, _ | .growth .., h, _ | .walk _, h, _ | .null, h, _ | .bool _, h, _
  | .int .., h, _ | .real .., h, _ | .text _, h, _ | .bytes .., h, _ | .roll _, h, _
  | .guarded .., h, _ => by
    unfold Within at h ⊢
    exact h

theorem AllWithin.of_full : ∀ xs : List Value,
    AllWithin view m xs → AllWithin View.full n xs → AllWithin view n xs
  | [], _, _ => by
    unfold AllWithin
    trivial
  | x :: xs, h, hfull => by
    unfold AllWithin at h hfull ⊢
    exact ⟨Within.of_full x h.1 hfull.1, AllWithin.of_full xs h.2 hfull.2⟩

theorem EntriesWithin.of_full : ∀ xs : List (String × Value),
    EntriesWithin view m xs → EntriesWithin View.full n xs → EntriesWithin view n xs
  | [], _, _ => by
    unfold EntriesWithin
    trivial
  | (_, x) :: xs, h, hfull => by
    unfold EntriesWithin at h hfull ⊢
    exact ⟨Within.of_full x h.1 hfull.1, EntriesWithin.of_full xs h.2 hfull.2⟩

end

end Value

theorem Walk.Within.mono {view : View} {m n : Nat} (hle : m ≤ n) {k : Walk}
    (h : k.Within view m) : k.Within view n := by
  cases k with
  | overRoll | overCopies => trivial
  | overGrowths => exact h
  | overItems subject rest => exact Value.AllWithin.mono hle rest h

theorem Walk.Within.of_full {view : View} {m n : Nat} {k : Walk} (h : k.Within view m)
    (hfull : k.Within View.full n) : k.Within view n := by
  cases k with
  | overRoll | overCopies => trivial
  | overGrowths => exact h
  | overItems subject rest => exact Value.AllWithin.of_full rest h hfull

/-- What a roll holds has a place, and its policy is within the view. -/
def Roll.Within (view : View) (n : Nat) (l : Roll BufferId) : Prop :=
  (∀ b, some b ∈ l.slots → b.index < n) ∧ l.policy.releaseOnClear.Within view n

theorem Roll.Within.mono {view : View} {m n : Nat} {l : Roll BufferId} (h : l.Within view m)
    (hle : m ≤ n) : l.Within view n :=
  ⟨fun b hb => Nat.lt_of_lt_of_le (h.1 b hb) hle, h.2.mono hle⟩

namespace World

variable {view : View} {w w' w'' : World} {m n : Nat}

/-! ### Worlds that hold only what is within the view -/

/-- What is stored has a place, what the view looks at holds only what is within the view, and the
view looks at every walk that is still to come. -/
structure Sound (view : View) (w : World) : Prop where
  issued : ∀ r b, some b ∈ (w.roll r).slots → b.index < w.buffers.size
  release : ∀ r, view.rolls r →
    (w.roll r).policy.releaseOnClear.Within view w.buffers.size
  walks : ∀ k, view.walks k → (w.walk k).Within view w.buffers.size
  fresh : ∀ k : WalkId, w.walks.size ≤ k.index → view.walks k
  growths : ¬view.books → ∀ t place, view.growths t place → place < (w.tally t).events.length
  policy : view.books → w.ambient.policy.Within view w.buffers.size

namespace Sound

/-- Giving buffers places and writing to them does no harm. -/
theorem of_le (h : w.Sound view) (hrolls : w'.rolls = w.rolls) (hwalks : w'.walks = w.walks)
    (hambient : view.books → w'.ambient = w.ambient)
    (hgrowths : ¬view.books → ∀ t place, view.growths t place →
      place < (w'.tally t).events.length)
    (hle : w.buffers.size ≤ w'.buffers.size) : w'.Sound view where
  issued r b hb := by
    unfold roll at hb
    rw [hrolls] at hb
    exact Nat.lt_of_lt_of_le (h.issued r b hb) hle
  release r hr := by
    unfold roll
    rw [hrolls]
    exact (h.release r hr).mono hle
  walks k hk := by
    unfold walk
    rw [hwalks]
    exact (h.walks k hk).mono hle
  fresh k hk := h.fresh k (hwalks ▸ hk)
  growths := hgrowths
  policy hbooks := by
    rw [hambient hbooks]
    exact (h.policy hbooks).mono hle

theorem setRoll (h : w.Sound view) {r : RollId} {l : Roll BufferId}
    (hslots : ∀ b, some b ∈ l.slots → b.index < w.buffers.size)
    (hpolicy : l.policy = (w.roll r).policy) : (w.setRoll r l).Sound view := by
  have hroll : ∀ r', (w.setRoll r l).roll r' = l ∧ r' = r ∨
      (w.setRoll r l).roll r' = w.roll r' := by
    intro r'
    by_cases hr : r' = r
    · subst hr
      exact .inl ⟨w.rolls.get_put_self _ l, rfl⟩
    · exact .inr (w.rolls.get_put_of_ne l fun hindex => hr (congrArg RollId.mk hindex))
  refine ⟨fun r' b hb => ?_, fun r' hr' => ?_, h.walks, h.fresh, h.growths, h.policy⟩
  · rcases hroll r' with ⟨heq, rfl⟩ | heq <;> rw [heq] at hb
    · exact hslots b hb
    · exact h.issued r' b hb
  · rcases hroll r' with ⟨heq, rfl⟩ | heq <;> rw [heq]
    · rw [hpolicy]
      exact h.release r' hr'
    · exact h.release r' hr'

theorem setWalk (h : w.Sound view) (k : WalkId) {x : Walk} (hx : x.Within view w.buffers.size) :
    (w.setWalk k x).Sound view := by
  have hle : w.walks.size ≤ (w.setWalk k x).walks.size := by
    show _ ≤ (w.walks.put k.index x).size
    rw [Arena.size_put_eq_max]
    exact Nat.le_max_left _ _
  refine ⟨h.issued, h.release, fun k' hk' => ?_, fun k' hk' => h.fresh k' (Nat.le_trans hle hk'),
    h.growths, h.policy⟩
  by_cases hk : k'.index = k.index
  · rw [show (w.setWalk k x).walk k' = x by
      unfold walk World.setWalk
      rw [hk]
      exact w.walks.get_put_self _ x]
    exact hx
  · rw [show (w.setWalk k x).walk k' = w.walk k' from w.walks.get_put_of_ne x hk]
    exact h.walks k' hk'

theorem addRoll (h : w.Sound view) {l : Roll BufferId} (hl : l.Within view w.buffers.size) :
    (w.addRoll l).2.Sound view := by
  have hroll : ∀ r, (w.addRoll l).2.roll r = l ∨ (w.addRoll l).2.roll r = w.roll r := by
    intro r
    by_cases hr : r.index = w.rolls.size
    · refine .inl ?_
      unfold roll World.addRoll
      rw [hr]
      exact w.rolls.get_issue_self l
    · exact .inr (w.rolls.get_issue_of_ne l hr)
  refine ⟨fun r b hb => ?_, fun r hr => ?_, h.walks, h.fresh, h.growths, h.policy⟩
  · rcases hroll r with heq | heq <;> rw [heq] at hb
    · exact hl.1 b hb
    · exact h.issued r b hb
  · rcases hroll r with heq | heq <;> rw [heq]
    · exact hl.2
    · exact h.release r hr

theorem addWalk (h : w.Sound view) {x : Walk} (hx : x.Within view w.buffers.size) :
    (w.addWalk x).2.Sound view := by
  have hle : w.walks.size ≤ (w.addWalk x).2.walks.size := by
    show _ ≤ (w.walks.issue x).size
    rw [Arena.size_issue]
    exact Nat.le_succ _
  refine ⟨h.issued, h.release, fun k hk => ?_, fun k hk => h.fresh k (Nat.le_trans hle hk),
    h.growths, h.policy⟩
  by_cases hindex : k.index = w.walks.size
  · rw [show (w.addWalk x).2.walk k = x by
      unfold walk World.addWalk
      rw [hindex]
      exact w.walks.get_issue_self x]
    exact hx
  · rw [show (w.addWalk x).2.walk k = w.walk k from w.walks.get_issue_of_ne x hindex]
    exact h.walks k hk

end Sound

/-! ### Worlds that cannot be told apart -/

/-- The worlds differ in nothing that the view compares, except in the pieces that buffers keep
their texts in. -/
structure Alike (view : View) (w w' : World) : Prop where
  buffer_alike : ∀ b, (w.buffer b).Alike (w'.buffer b)
  size_eq : w'.buffers.size = w.buffers.size
  rolls_eq : w'.rolls = w.rolls
  walks_eq : w'.walks = w.walks
  serial_eq : w'.serial = w.serial
  tallies_eq : view.books → w'.tallies = w.tallies
  ambient_eq : view.books → w'.ambient = w.ambient
  log_eq : view.books → w'.log = w.log
  growths_eq : ¬view.books → ∀ t place, view.growths t place →
    (w'.tally t).events[place]? = (w.tally t).events[place]?

namespace Alike

theorem refl (view : View) (w : World) : w.Alike view w :=
  ⟨fun _ => .refl _, rfl, rfl, rfl, rfl, fun _ => rfl, fun _ => rfl, fun _ => rfl,
    fun _ _ _ _ => rfl⟩

theorem symm (h : w.Alike view w') : w'.Alike view w where
  buffer_alike b := (h.buffer_alike b).symm
  size_eq := h.size_eq.symm
  rolls_eq := h.rolls_eq.symm
  walks_eq := h.walks_eq.symm
  serial_eq := h.serial_eq.symm
  tallies_eq hbooks := (h.tallies_eq hbooks).symm
  ambient_eq hbooks := (h.ambient_eq hbooks).symm
  log_eq hbooks := (h.log_eq hbooks).symm
  growths_eq hbooks t place hgrowth := (h.growths_eq hbooks t place hgrowth).symm

theorem trans (h : w.Alike view w') (h' : w'.Alike view w'') : w.Alike view w'' where
  buffer_alike b := (h.buffer_alike b).trans (h'.buffer_alike b)
  size_eq := h'.size_eq.trans h.size_eq
  rolls_eq := h'.rolls_eq.trans h.rolls_eq
  walks_eq := h'.walks_eq.trans h.walks_eq
  serial_eq := h'.serial_eq.trans h.serial_eq
  tallies_eq hbooks := (h'.tallies_eq hbooks).trans (h.tallies_eq hbooks)
  ambient_eq hbooks := (h'.ambient_eq hbooks).trans (h.ambient_eq hbooks)
  log_eq hbooks := (h'.log_eq hbooks).trans (h.log_eq hbooks)
  growths_eq hbooks t place hgrowth :=
    (h'.growths_eq hbooks t place hgrowth).trans (h.growths_eq hbooks t place hgrowth)

theorem text_eq (h : w.Alike view w') (b : BufferId) : w'.text b = w.text b :=
  (h.buffer_alike b).text_eq

theorem built_eq (h : w.Alike view w') (b : BufferId) : w'.built b = w.built b :=
  (h.buffer_alike b).built_eq b

theorem roll_eq (h : w.Alike view w') (r : RollId) : w'.roll r = w.roll r := by
  unfold roll
  rw [h.rolls_eq]

theorem walk_eq (h : w.Alike view w') (k : WalkId) : w'.walk k = w.walk k := by
  unfold walk
  rw [h.walks_eq]

/-- A growth that is known is the same in both worlds. -/
theorem growth_eq (h : w.Alike view w') {t : TallyId} {place : Nat} (hknown : view.knows t place) :
    w'.growth t place = w.growth t place := by
  unfold growth
  by_cases hbooks : view.books
  · unfold tally
    rw [h.tallies_eq hbooks]
  · rw [List.getD_eq_getElem?_getD, List.getD_eq_getElem?_getD,
      h.growths_eq hbooks t place (hknown.resolve_left hbooks)]

theorem tally_eq (h : w.Alike view w') (hbooks : view.books) (t : TallyId) :
    w'.tally t = w.tally t := by
  unfold tally
  rw [h.tallies_eq hbooks]

theorem freeBuffer_eq (h : w.Alike view w') : w'.freeBuffer = w.freeBuffer :=
  congrArg BufferId.mk h.size_eq

theorem elements_eq (h : w.Alike view w') (r : RollId) : w'.elements r = w.elements r := by
  unfold elements
  rw [h.roll_eq]

theorem texts_eq (h : w.Alike view w') (r : RollId) : w'.texts r = w.texts r := by
  unfold texts
  rw [h.elements_eq, funext h.text_eq]

theorem isCurrent_eq (h : w.Alike view w') (b : Bookmark) : w'.isCurrent b = w.isCurrent b := by
  unfold isCurrent
  rw [h.roll_eq]

/-- A growth that is known in one world is there in the other. -/
theorem lt_events (h : w.Alike view w') (hw : w.Sound view) (hbooks : ¬view.books) (t : TallyId)
    (place : Nat) (hgrowth : view.growths t place) : place < (w'.tally t).events.length := by
  have hthere := List.getElem?_eq_getElem (hw.growths hbooks t place hgrowth)
  rw [← h.growths_eq hbooks t place hgrowth] at hthere
  exact (List.getElem?_eq_some_iff.mp hthere).1

/-- Of two worlds that are alike both are sound or neither. -/
theorem sound (h : w.Alike view w') (hw : w.Sound view) : w'.Sound view :=
  hw.of_le h.rolls_eq h.walks_eq h.ambient_eq (h.lt_events hw) (Nat.le_of_eq h.size_eq.symm)

theorem setBuffer (h : w.Alike view w') (b : BufferId) {x y : Buffer} (hxy : x.Alike y) :
    (w.setBuffer b x).Alike view (w'.setBuffer b y) where
  buffer_alike b' := by
    by_cases hb : b' = b
    · subst hb
      rw [buffer_setBuffer_self, buffer_setBuffer_self]
      exact hxy
    · rw [buffer_setBuffer_of_ne w x hb, buffer_setBuffer_of_ne w' y hb]
      exact h.buffer_alike b'
  size_eq := by
    show (w'.buffers.put b.index y).size = (w.buffers.put b.index x).size
    rw [Arena.size_put_eq_max, Arena.size_put_eq_max, h.size_eq]
  rolls_eq := h.rolls_eq
  walks_eq := h.walks_eq
  serial_eq := h.serial_eq
  tallies_eq := h.tallies_eq
  ambient_eq := h.ambient_eq
  log_eq := h.log_eq
  growths_eq := h.growths_eq

/-- Writing to a buffer that has a place what is like it makes no difference. -/
theorem of_setBuffer {b : BufferId} (hb : b.index < w.buffers.size) {x : Buffer}
    (hx : (w.buffer b).Alike x) : w.Alike view (w.setBuffer b x) where
  buffer_alike b' := by
    by_cases hb' : b' = b
    · subst hb'
      rw [buffer_setBuffer_self]
      exact hx
    · rw [buffer_setBuffer_of_ne w x hb']
      exact .refl _
  size_eq := w.buffers.size_put x hb
  rolls_eq := rfl
  walks_eq := rfl
  serial_eq := rfl
  tallies_eq _ := rfl
  ambient_eq _ := rfl
  log_eq _ := rfl
  growths_eq _ _ _ _ := rfl

theorem addBuffer (h : w.Alike view w') (x : Buffer) :
    (w.addBuffer x).Alike view (w'.addBuffer x) where
  buffer_alike b := by
    by_cases hb : b.index = w.buffers.size
    · -- both worlds give the new buffer the same place
      have hnew : ∀ v : World, b.index = v.buffers.size → (v.addBuffer x).buffer b = x := by
        intro v hv
        unfold buffer World.addBuffer
        rw [hv]
        exact v.buffers.get_issue_self x
      rw [hnew w hb, hnew w' (hb.trans h.size_eq.symm)]
      exact .refl x
    · have hold : ∀ v : World, b.index ≠ v.buffers.size →
          (v.addBuffer x).buffer b = v.buffer b := fun v hv => v.buffers.get_issue_of_ne x hv
      rw [hold w hb, hold w' (h.size_eq ▸ hb)]
      exact h.buffer_alike b
  size_eq := by
    show (w'.buffers.issue x).size = (w.buffers.issue x).size
    rw [Arena.size_issue, Arena.size_issue, h.size_eq]
  rolls_eq := h.rolls_eq
  walks_eq := h.walks_eq
  serial_eq := h.serial_eq
  tallies_eq := h.tallies_eq
  ambient_eq := h.ambient_eq
  log_eq := h.log_eq
  growths_eq := h.growths_eq

/-- What is done to the other parts alike leaves the worlds alike. -/
theorem of_parts (h : w.Alike view w') {v v' : World} (hbuffers : v.buffers = w.buffers)
    (hbuffers' : v'.buffers = w'.buffers) (hrolls : v'.rolls = v.rolls)
    (hwalks : v'.walks = v.walks) (hserial : v'.serial = v.serial)
    (hbooks : view.books → v'.tallies = v.tallies ∧ v'.ambient = v.ambient ∧ v'.log = v.log)
    (hgrowths : ¬view.books → ∀ t place, view.growths t place →
      (v'.tally t).events[place]? = (v.tally t).events[place]?) : v.Alike view v' where
  buffer_alike b := by
    unfold buffer
    rw [hbuffers, hbuffers']
    exact h.buffer_alike b
  size_eq := by rw [hbuffers, hbuffers', h.size_eq]
  rolls_eq := hrolls
  walks_eq := hwalks
  serial_eq := hserial
  tallies_eq := fun hview => (hbooks hview).1
  ambient_eq := fun hview => (hbooks hview).2.1
  log_eq := fun hview => (hbooks hview).2.2
  growths_eq := hgrowths

end Alike

/-! ### Matching worlds -/

/-- The worlds are alike and sound, and have places for at least `n` buffers. -/
structure Matches (view : View) (n : Nat) (w w' : World) : Prop extends w.Alike view w' where
  sound : w.Sound view
  size_le : n ≤ w.buffers.size

namespace Matches

theorem mono (h : w.Matches view n w') (hle : m ≤ n) : w.Matches view m w' :=
  ⟨h.toAlike, h.sound, Nat.le_trans hle h.size_le⟩

/-- They have places for all buffers they have. -/
theorem full (h : w.Matches view n w') : w.Matches view w.buffers.size w' :=
  ⟨h.toAlike, h.sound, Nat.le_refl _⟩

theorem setBuffer (h : w.Matches view n w') (b : BufferId) {x y : Buffer} (hxy : x.Alike y) :
    (w.setBuffer b x).Matches view n (w'.setBuffer b y) where
  toAlike := h.toAlike.setBuffer b hxy
  sound := h.sound.of_le rfl rfl (fun _ => rfl) h.sound.growths (w.size_le_setBuffer b x)
  size_le := Nat.le_trans h.size_le (w.size_le_setBuffer b x)

theorem addBuffer (h : w.Matches view n w') (x : Buffer) :
    (w.addBuffer x).Matches view n (w'.addBuffer x) := by
  have hle : w.buffers.size ≤ (w.addBuffer x).buffers.size := by
    show _ ≤ (w.buffers.issue x).size
    rw [Arena.size_issue]
    exact Nat.le_succ _
  exact ⟨h.toAlike.addBuffer x, h.sound.of_le rfl rfl (fun _ => rfl) h.sound.growths hle,
    Nat.le_trans h.size_le hle⟩

theorem setRoll (h : w.Matches view n w') {r : RollId} {l : Roll BufferId}
    (hslots : ∀ b, some b ∈ l.slots → b.index < w.buffers.size)
    (hpolicy : l.policy = (w.roll r).policy) :
    (w.setRoll r l).Matches view n (w'.setRoll r l) where
  toAlike := h.toAlike.of_parts rfl rfl (congrArg (·.put r.index l) h.rolls_eq) h.walks_eq
    h.serial_eq (fun hbooks => ⟨h.tallies_eq hbooks, h.ambient_eq hbooks, h.log_eq hbooks⟩)
    h.growths_eq
  sound := h.sound.setRoll hslots hpolicy
  size_le := h.size_le

theorem setWalk (h : w.Matches view n w') (k : WalkId) {x : Walk}
    (hx : x.Within view w.buffers.size) :
    (w.setWalk k x).Matches view n (w'.setWalk k x) where
  toAlike := h.toAlike.of_parts rfl rfl h.rolls_eq (congrArg (·.put k.index x) h.walks_eq)
    h.serial_eq (fun hbooks => ⟨h.tallies_eq hbooks, h.ambient_eq hbooks, h.log_eq hbooks⟩)
    h.growths_eq
  sound := h.sound.setWalk k hx
  size_le := h.size_le

/-- What is done to the books alone leaves worlds that match; where they are not compared, what was
counted must be remembered. -/
theorem of_books (h : w.Matches view n w') {v v' : World} (hbuffers : v.buffers = w.buffers)
    (hbuffers' : v'.buffers = w'.buffers) (hrolls : v.rolls = w.rolls)
    (hrolls' : v'.rolls = w'.rolls)
    (hwalks : v.walks = w.walks) (hwalks' : v'.walks = w'.walks) (hserial : v.serial = w.serial)
    (hserial' : v'.serial = w'.serial)
    (hbooks : view.books → v'.tallies = v.tallies ∧ v'.ambient = v.ambient ∧ v'.log = v.log)
    (hpolicy : view.books → v.ambient.policy.Within view w.buffers.size)
    (hpast : ¬view.books → w.Remembers v ∧ w'.Remembers v') : v.Matches view n v' where
  toAlike := h.toAlike.of_parts hbuffers hbuffers' (by rw [hrolls, hrolls', h.rolls_eq])
    (by rw [hwalks, hwalks', h.walks_eq]) (by rw [hserial, hserial', h.serial_eq]) hbooks
    fun hview t place hgrowth => by
      -- a growth that is known was counted before, and is where it was in both worlds
      obtain ⟨hv, hv'⟩ := hpast hview
      rw [hv.growth?_eq (h.sound.growths hview t place hgrowth),
        hv'.growth?_eq (h.lt_events h.sound hview t place hgrowth),
        h.growths_eq hview t place hgrowth]
  sound := by
    have hbooksOnly : World.Sound view { v with ambient := w.ambient } :=
      h.sound.of_le hrolls hwalks (fun _ => rfl)
        (fun hview t place hgrowth => Nat.lt_of_lt_of_le (h.sound.growths hview t place hgrowth)
          ((hpast hview).1 t).length_le)
        (Nat.le_of_eq (congrArg Arena.size hbuffers.symm))
    exact ⟨hbooksOnly.issued, hbooksOnly.release, hbooksOnly.walks, hbooksOnly.fresh,
      hbooksOnly.growths, fun hview => hbuffers ▸ hpolicy hview⟩
  size_le := by
    rw [hbuffers]
    exact h.size_le

theorem note (h : w.Matches view n w') (x : Notice) : (w.note x).Matches view n (w'.note x) :=
  h.of_books rfl rfl rfl rfl rfl rfl rfl rfl
    (fun hbooks => ⟨h.tallies_eq hbooks, h.ambient_eq hbooks,
      congrArg (· ++ [x]) (h.log_eq hbooks)⟩) h.sound.policy
    fun _ => ⟨remembers_of_tallies_eq rfl, remembers_of_tallies_eq rfl⟩

/-- A growth shows in the books alone. -/
theorem recordGrowth (h : w.Matches view n w') (g : Growth) :
    (w.recordGrowth g).Matches view n (w'.recordGrowth g) := by
  have hparts : ∀ v : World, (v.recordGrowth g).buffers = v.buffers ∧
      (v.recordGrowth g).rolls = v.rolls ∧ (v.recordGrowth g).walks = v.walks ∧
      (v.recordGrowth g).serial = v.serial ∧ (v.recordGrowth g).ambient = v.ambient := by
    intro v
    unfold World.recordGrowth
    cases v.ambient.tally <;> exact ⟨rfl, rfl, rfl, rfl, rfl⟩
  obtain ⟨hbuffers, hrolls, hwalks, hserial, hambient⟩ := hparts w
  obtain ⟨hbuffers', hrolls', hwalks', hserial', hambient'⟩ := hparts w'
  refine h.of_books hbuffers hbuffers' hrolls hrolls' hwalks hwalks' hserial hserial'
    (fun hbooks => ⟨?_, ?_, ?_⟩) (fun hbooks => hambient ▸ h.sound.policy hbooks)
    fun _ => ⟨w.remembers_recordGrowth g, w'.remembers_recordGrowth g⟩
  · -- where the books are compared, it is the same tally that counts the growth
    unfold World.recordGrowth
    rw [h.ambient_eq hbooks]
    cases w.ambient.tally with
    | none => exact h.tallies_eq hbooks
    | some t =>
      show w'.tallies.put _ _ = w.tallies.put _ _
      rw [h.tallies_eq hbooks, h.tally_eq hbooks]
  · rw [hambient, hambient', h.ambient_eq hbooks]
  · unfold World.recordGrowth
    rw [h.ambient_eq hbooks]
    cases w.ambient.tally <;> exact congrArg (· ++ _) (h.log_eq hbooks)

theorem setTally (h : w.Matches view n w') (hbooks : view.books) (t : TallyId) (x : Tally) :
    (w.setTally t x).Matches view n (w'.setTally t x) :=
  h.of_books rfl rfl rfl rfl rfl rfl rfl rfl
    (fun _ => ⟨congrArg (·.put t.index x) (h.tallies_eq hbooks), h.ambient_eq hbooks,
      h.log_eq hbooks⟩) h.sound.policy fun hview => (hview hbooks).elim

theorem setPolicy (h : w.Matches view n w') {v : Value} (hv : v.Within view n) :
    { w with ambient := { w.ambient with policy := v } }.Matches view n
      { w' with ambient := { w'.ambient with policy := v } } :=
  h.of_books rfl rfl rfl rfl rfl rfl rfl rfl
    (fun hbooks => ⟨h.tallies_eq hbooks, by rw [h.ambient_eq hbooks], h.log_eq hbooks⟩)
    (fun _ => hv.mono h.size_le)
    fun _ => ⟨remembers_of_tallies_eq rfl, remembers_of_tallies_eq rfl⟩

theorem nextSerial (h : w.Matches view n w') :
    w'.nextSerial.1 = w.nextSerial.1 ∧ w.nextSerial.2.Matches view n w'.nextSerial.2 where
  left := h.serial_eq
  right :=
    { toAlike := h.toAlike.of_parts rfl rfl h.rolls_eq h.walks_eq (congrArg (· + 1) h.serial_eq)
        (fun hbooks => ⟨h.tallies_eq hbooks, h.ambient_eq hbooks, h.log_eq hbooks⟩) h.growths_eq
      sound := h.sound.of_le rfl rfl (fun _ => rfl) h.sound.growths (Nat.le_refl _)
      size_le := h.size_le }

theorem addRoll (h : w.Matches view n w') {l : Roll BufferId}
    (hl : l.Within view w.buffers.size) :
    (w'.addRoll l).1 = (w.addRoll l).1 ∧ (w.addRoll l).2.Matches view n (w'.addRoll l).2 where
  left := congrArg (fun rolls : Arena _ => RollId.mk rolls.size) h.rolls_eq
  right :=
    { toAlike := h.toAlike.of_parts rfl rfl (congrArg (·.issue l) h.rolls_eq) h.walks_eq
        h.serial_eq (fun hbooks => ⟨h.tallies_eq hbooks, h.ambient_eq hbooks, h.log_eq hbooks⟩)
        h.growths_eq
      sound := h.sound.addRoll hl
      size_le := h.size_le }

theorem addWalk (h : w.Matches view n w') {x : Walk} (hx : x.Within view w.buffers.size) :
    (w'.addWalk x).1 = (w.addWalk x).1 ∧ (w.addWalk x).2.Matches view n (w'.addWalk x).2 where
  left := congrArg (fun walks : Arena _ => WalkId.mk walks.size x.kind) h.walks_eq
  right :=
    { toAlike := h.toAlike.of_parts rfl rfl h.rolls_eq (congrArg (·.issue x) h.walks_eq)
        h.serial_eq (fun hbooks => ⟨h.tallies_eq hbooks, h.ambient_eq hbooks, h.log_eq hbooks⟩)
        h.growths_eq
      sound := h.sound.addWalk hx
      size_le := h.size_le }

theorem addTally (h : w.Matches view n w') (hbooks : view.books) (t : Tally) :
    (w'.addTally t).1 = (w.addTally t).1 ∧ (w.addTally t).2.Matches view n (w'.addTally t).2 where
  left := congrArg (fun tallies : Arena _ => TallyId.mk tallies.size) (h.tallies_eq hbooks)
  right := h.of_books rfl rfl rfl rfl rfl rfl rfl rfl
    (fun _ => ⟨congrArg (·.issue t) (h.tallies_eq hbooks), h.ambient_eq hbooks, h.log_eq hbooks⟩)
    h.sound.policy fun hview => (hview hbooks).elim

end Matches

end World

end TextRoll
