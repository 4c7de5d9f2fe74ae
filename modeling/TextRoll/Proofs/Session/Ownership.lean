/-
TextRoll/Proofs/Session/Ownership.lean

Rolls own their elements.

What a roll stores is a buffer of its own: it is no element of another roll and none twice of
the same one, and it is not what the roll was given to add.  What is handed out of a roll
is never stored in any roll again: copies live at new places, and a buffer that is taken
out or cleared away has lost its place for good.  `elements_owned` puts this together for every
reachable session and for whatever moves come after.

It follows that an edit of a buffer shows in one slot at most, the one that stores it,
and that no edit shows in the length, the capacity, the cursor or the counters of a roll.
-/
import TextRoll.Proofs.Act.HandingOut
import TextRoll.Proofs.Session.Generations

namespace TextRoll

/-- Whether a call asks for copies: for a new buffer, for a copy of one, or for copies of the
elements of a roll, one, all, or one after the other. -/
def Call.asksForCopies (s : Session) (c : Call) : Bool :=
  match c with
  | .serve .makeBuffer _ => true
  | c =>
    match c.request? s with
    | some (asked, verb, _) => s.world.asksForCopies asked verb
    | none => false

namespace Session

variable {s : Session} {r : RollId} {b : BufferId} {c : Call} {keep : Option String}

/-- The buffer is in no slot of any roll, now or after any moves. -/
def NeverStored (s : Session) (b : BufferId) : Prop :=
  ∀ (later : List Move) (r : RollId) (i : Nat),
    ((s.after later).world.roll r).slots[i]? ≠ some (some b)

/-! ### Elements and slots -/

theorem slot_iff (hs : s.world.Owned) {i : Nat} :
    (s.world.roll r).slots[i]? = some (some b) ↔ (s.world.elements r)[i]? = some b :=
  (hs.wellFormed r).layout.slot_iff

theorem mem_of_slot (hs : s.world.Owned) {i : Nat}
    (h : (s.world.roll r).slots[i]? = some (some b)) : b ∈ s.world.elements r :=
  List.mem_of_getElem? ((slot_iff hs).mp h)

/-- What has a place and is no element is never stored again. -/
theorem neverStored_of_loose (hs : s.world.Owned) (hb : s.world.Loose b) : s.NeverStored b := by
  intro later r i hslot
  exact (loose_after hs hb later).not_mem r (mem_of_slot (owned_after hs later) hslot)

/-- A buffer is stored in one slot at most. -/
theorem slot_unique (hs : s.world.Owned) {r' : RollId} {i i' : Nat}
    (h : (s.world.roll r).slots[i]? = some (some b))
    (h' : (s.world.roll r').slots[i']? = some (some b)) : r = r' ∧ i = i' := by
  obtain rfl := hs.apart r r' b (mem_of_slot hs h) (mem_of_slot hs h')
  refine ⟨rfl, ?_⟩
  obtain ⟨hi, hget⟩ := List.getElem?_eq_some_iff.mp ((slot_iff hs).mp h)
  obtain ⟨hi', hget'⟩ := List.getElem?_eq_some_iff.mp ((slot_iff hs).mp h')
  exact (List.Nodup.getElem_inj_iff (hs.nodup r)).mp (hget.trans hget'.symm)

/-! ### What moves hand out -/

/-- Keeping the answer of a call does not store anything. -/
theorem loose_move_call (hs : s.world.Owned) {result : Value × Answer} {w : World}
    (hrun : (c.perform s).run s.world = .ok result w) (hb : w.Loose b) :
    (s.move (.call c keep)).world.Loose b := by
  rw [world_move_call, hrun]
  cases keep with
  | none => exact hb
  | some name =>
    have hdoes := does_perform s c s.world hs.wellFormed
    obtain ⟨e, -, hoccurs⟩ := hdoes.ok hrun
    obtain ⟨e', -, hadopt⟩ := World.occurs_adopt (yields_perform s c _ _ _ hrun) result.1 w
    exact hadopt.loose (hoccurs.wellFormed hs.wellFormed) hb

/-- What a call that asks for copies hands out are copies. -/
theorem perform_copies (hcopies : c.asksForCopies s = true) {asked : Value} {answer : Answer}
    {w : World} (hrun : (c.perform s).run s.world = .ok (asked, answer) w) :
    answer.IsCopies := by
  unfold Call.asksForCopies at hcopies
  split at hcopies
  · next args =>
    have hyields : Act.Yields (fun result => result.2.IsCopies)
        ((Call.serve .makeBuffer args).perform s) :=
      .bind fun vs => .bind_of (Act.yields_makeBuffer vs) fun answer h => .pure h
    exact hyields _ _ _ hrun
  · split at hcopies
    · next asked' verb vs hrequest =>
      obtain ⟨target, args, rfl, htarget, hargs⟩ := request?_eq_some hrequest
      rw [run_perform_ask htarget hargs] at hrun
      cases hask : (Act.ask asked' verb vs).run s.world with
      | error fault w' => rw [hask] at hrun; cases hrun
      | ok answer' w' =>
        rw [hask] at hrun
        cases hrun
        exact Act.ask_copies hcopies hask
    · cases hcopies

/-- The buffer that is given to add is not the one that is stored for it. -/
theorem addBuffer_stores_another (hs : s.world.Owned) {m : Move} {asked : Value}
    (hrequest : s.request? m = some (asked, .addBuffer, [.buffer b]))
    (hasked : asked.rollId? = some r)
    (hsucceeds : (Act.ask asked .addBuffer [.buffer b]).succeeds s.world = true) :
    ∃ stored, (s.move m).world.elements r = s.world.elements r ++ [stored] ∧ stored ≠ b ∧
      (s.move m).world.text stored = s.world.text b := by
  cases m with
  | enter | leave | finish => cases hrequest
  | call c keep =>
    obtain ⟨target, args, rfl, htarget, hargs⟩ := request?_eq_some hrequest
    rw [world_move_call, run_perform_ask htarget hargs]
    obtain ⟨answer, w, hask⟩ := Act.exists_of_succeeds hsucceeds
    obtain ⟨rfl, hstored⟩ := Act.addBuffer_stores hasked hs.wellFormed hask
    rw [hask]
    cases keep with
    | none => exact hstored
    | some name => exact hstored

/-- What a call that asks for copies hands out is never stored. -/
theorem copies_neverStored (hs : s.world.Owned) (hcopies : c.asksForCopies s = true)
    (hsucceeds : (c.perform s).succeeds s.world = true) (name : String) :
    ∃ v bs, (s.move (.call c (some name))).register name = .ok v ∧ v.NamesBuffers bs ∧
      ∀ b ∈ bs, (s.move (.call c (some name))).NeverStored b := by
  obtain ⟨⟨asked, answer⟩, w, hrun⟩ := Act.exists_of_succeeds hsucceeds
  obtain ⟨hrolls, bs, hnames, hnew⟩ := World.adopt_copies (perform_copies hcopies hrun) asked w
  refine ⟨_, bs, register_move_call hrun, hnames, fun b hb => ?_⟩
  apply neverStored_of_loose (owned_move hs _)
  obtain ⟨e, -, hoccurs⟩ := (does_perform s c s.world hs.wellFormed).ok hrun
  rw [world_move_call, hrun]
  exact World.loose_of_new (hoccurs.owned hs) hrolls (hnew b hb).1 (hnew b hb).2

/-- What is taken out of a roll was stored there, is handed out, and is never stored again. -/
theorem removed_neverStored (hs : s.world.Owned) (hremoves : s.removes r (.call c keep) = true) :
    ∃ asked b w, (c.perform s).run s.world = .ok (asked, .value (.buffer b)) w ∧
      b ∈ s.world.elements r ∧ (s.move (.call c keep)).NeverStored b := by
  unfold removes does at hremoves
  split at hremoves
  · next asked verb vs hrequest =>
    simp only [Bool.and_eq_true, Bool.or_eq_true, beq_iff_eq] at hremoves
    obtain ⟨⟨hasked, hverb⟩, hsucceeds⟩ := hremoves
    obtain ⟨target, args, rfl, htarget, hargs⟩ := request?_eq_some hrequest
    obtain ⟨answer, w, hask⟩ := Act.exists_of_succeeds hsucceeds
    obtain ⟨b, rfl, hmem, hloose⟩ := Act.remove_hands_out hasked hverb hs hask
    have hrun : ((Call.ask target verb args).perform s).run s.world = _ :=
      run_perform_ask htarget hargs s.world
    rw [hask] at hrun
    exact ⟨asked, b, w, hrun, hmem,
      neverStored_of_loose (owned_move hs _) (loose_move_call hs hrun hloose)⟩
  · cases hremoves

/-- What is cleared away is never stored again. -/
theorem cleared_neverStored (hs : s.world.Owned) {m : Move} (hclears : s.clears r m = true)
    (hb : b ∈ s.world.elements r) : (s.move m).NeverStored b := by
  obtain ⟨e, e', -, hpasses, htells⟩ := move_events hs.wellFormed m
  obtain _ | ⟨hfirst, hrest⟩ := hpasses
  have hloss : e.lossOn r = .everything := by
    have htold := htells r
    cases hloss : e.lossOn r with
    | everything => rfl
    | nothing =>
      rw [hloss] at htold
      exact absurd (hclears.symm.trans htold.2) nofun
    | element i =>
      rw [hloss] at htold
      exact absurd (hclears.symm.trans htold.2) nofun
  have hne : e.lossOn r ≠ .nothing := by
    rw [hloss]
    nofun
  refine neverStored_of_loose (owned_move hs m)
    (hrest.loose (hfirst.wellFormed hs.wellFormed) (hfirst.loose_of_lost hs hb ?_))
  rw [hfirst.elements_of_loss hs.wellFormed hne, hloss]
  exact List.not_mem_nil

/-- What was stored and is stored no more is never stored again. -/
theorem gone_neverStored (hs : s.world.Owned) (ms : List Move) (hb : b ∈ s.world.elements r)
    (hgone : b ∉ (s.after ms).world.elements r) : (s.after ms).NeverStored b := by
  refine neverStored_of_loose (owned_after hs ms) ?_
  induction ms generalizing s with
  | nil => exact absurd hb hgone
  | cons m ms ih =>
    obtain ⟨e, e', -, hpasses, -⟩ := move_events hs.wellFormed m
    rcases hpasses.mem_or_loose hs hb with hmem | hloose
    · exact ih (owned_move hs m) hmem hgone
    · exact loose_after (owned_move hs m) hloose ms

/-- A move that neither takes from a roll nor clears it leaves what is stored in its slot. -/
theorem stays_stored (hs : s.world.Owned) {m : Move} {i : Nat}
    (hremoves : s.removes r m = false) (hclears : s.clears r m = false)
    (h : (s.world.roll r).slots[i]? = some (some b)) :
    ((s.move m).world.roll r).slots[i]? = some (some b) := by
  have hi : i < (s.world.roll r).length := by
    rw [← (hs.wellFormed r).length_elements]
    exact (List.getElem?_eq_some_iff.mp ((slot_iff hs).mp h)).1
  have hpos : 0 < (s.world.roll r).length := Nat.lt_of_le_of_lt (Nat.zero_le i) hi
  have hretains := move_retains hs.wellFormed hpos hremoves hclears
  exact (hretains.slot_eq i hi).trans h

/-! ### Editing what is held -/

/-- An edit of a buffer touches no other buffer and no roll. -/
theorem edit_cases (hs : s.world.Owned) {m : Move} {verb : Verb} {args : List Value}
    (hrequest : s.request? m = some (.buffer b, verb, args))
    (hverb : verb ∈ [.append, .appendLine, .extend, .clear]) :
    (s.move m).world.rolls = s.world.rolls ∧
      ∀ b', b'.index < s.world.buffers.size → b' ≠ b →
        (s.move m).world.text b' = s.world.text b' := by
  cases m with
  | enter | leave | finish => cases hrequest
  | call c keep =>
    obtain ⟨target, operands, rfl, htarget, hargs⟩ := request?_eq_some hrequest
    have hdoes := Act.does_askBuffer b verb args s.world hs.wellFormed
    have hyields := Act.yields_edit hverb b args s.world
    rw [world_move_call, run_perform_ask htarget hargs]
    have hask : Act.ask (.buffer b) verb args = Act.askBuffer b verb args := rfl
    rw [hask] at hyields ⊢
    cases hrun : (Act.askBuffer b verb args).run s.world with
    | error fault w =>
      obtain ⟨hoccurs, -⟩ := hdoes.error hrun
      exact hoccurs.edited_cases trivial
    | ok answer w =>
      obtain rfl := hyields answer w hrun
      obtain ⟨e, he, hoccurs⟩ := hdoes.ok hrun
      have hquiet := hoccurs.edited_cases he
      -- what is handed out is the buffer itself, so keeping it changes nothing
      cases keep with
      | none => exact hquiet
      | some name => exact hquiet

/-- **An edit shows in one slot at most,** the one that stores the buffer, and no roll changes. -/
theorem edit_shows_once (hs : s.world.Owned) {m : Move} {verb : Verb} {args : List Value}
    (hrequest : s.request? m = some (.buffer b, verb, args))
    (hverb : verb ∈ [.append, .appendLine, .extend, .clear]) (r : RollId) :
    (s.move m).world.roll r = s.world.roll r ∧
      (∀ i : Nat, (s.world.roll r).slots[i]? = some (some b) →
        (s.move m).world.texts r = (s.world.texts r).set i ((s.move m).world.text b)) ∧
      ((∀ i : Nat, (s.world.roll r).slots[i]? ≠ some (some b)) →
        (s.move m).world.texts r = s.world.texts r) := by
  obtain ⟨hrolls, hothers⟩ := edit_cases hs hrequest hverb
  have helements : ∀ b' ∈ s.world.elements r, b' ≠ b →
      (s.move m).world.text b' = s.world.text b' :=
    fun b' hb' hne => hothers b' (hs.issued r b' hb') hne
  refine ⟨World.roll_of_rolls_eq hrolls r, fun i hi => ?_, fun hnone => ?_⟩
  · exact World.texts_edited_self hrolls helements hs ((slot_iff hs).mp hi)
  · refine World.texts_edited_other hrolls helements fun hb => ?_
    obtain ⟨i, hi⟩ := List.mem_iff_getElem?.mp hb
    exact hnone i ((slot_iff hs).mpr hi)

/-- **Rolls own their elements.** In every reachable session this holds of all rolls and of every
buffer that anyone holds, and of whatever moves come after. -/
theorem elements_owned (hs : s.Reachable) :
    -- a buffer is stored in one slot at most, of one roll
    (∀ (r r' : RollId) (i i' : Nat) (b : BufferId),
      (s.world.roll r).slots[i]? = some (some b) →
      (s.world.roll r').slots[i']? = some (some b) → r = r' ∧ i = i') ∧
    -- what is stored for a buffer that is given to add is another buffer
    (∀ (m : Move) (asked : Value) (r : RollId) (b : BufferId),
      s.request? m = some (asked, .addBuffer, [.buffer b]) → asked.rollId? = some r →
      (Act.ask asked .addBuffer [.buffer b]).succeeds s.world = true →
      ∃ stored, (s.move m).world.elements r = s.world.elements r ++ [stored] ∧ stored ≠ b ∧
        (s.move m).world.text stored = s.world.text b) ∧
    -- what is handed out as a copy is never stored
    (∀ (c : Call) (name : String), c.asksForCopies s = true →
      (c.perform s).succeeds s.world = true →
      ∃ v bs, (s.move (.call c (some name))).register name = .ok v ∧ v.NamesBuffers bs ∧
        ∀ b ∈ bs, (s.move (.call c (some name))).NeverStored b) ∧
    -- what is taken out is the buffer that was stored, and is never stored again
    (∀ (c : Call) (keep : Option String) (r : RollId), s.removes r (.call c keep) = true →
      ∃ asked b w, (c.perform s).run s.world = .ok (asked, .value (.buffer b)) w ∧
        b ∈ s.world.elements r ∧ (s.move (.call c keep)).NeverStored b) ∧
    -- neither is what is cleared away, nor anything else that a roll has lost
    (∀ (m : Move) (r : RollId), s.clears r m = true →
      ∀ b ∈ s.world.elements r, (s.move m).NeverStored b) ∧
    (∀ (ms : List Move) (r : RollId), ∀ b ∈ s.world.elements r,
      b ∉ (s.after ms).world.elements r → (s.after ms).NeverStored b) ∧
    -- every other move leaves what is stored in its slot
    (∀ (m : Move) (r : RollId) (i : Nat) (b : BufferId),
      s.removes r m = false → s.clears r m = false →
      (s.world.roll r).slots[i]? = some (some b) →
      ((s.move m).world.roll r).slots[i]? = some (some b)) ∧
    -- an edit shows in the slot that stores the buffer, if there is one, and nowhere else
    (∀ (m : Move) (b : BufferId) (verb : Verb) (args : List Value),
      s.request? m = some (.buffer b, verb, args) →
      verb ∈ [.append, .appendLine, .extend, .clear] → ∀ r : RollId,
      (s.move m).world.roll r = s.world.roll r ∧
        (∀ i : Nat, (s.world.roll r).slots[i]? = some (some b) →
          (s.move m).world.texts r = (s.world.texts r).set i ((s.move m).world.text b)) ∧
        ((∀ i : Nat, (s.world.roll r).slots[i]? ≠ some (some b)) →
          (s.move m).world.texts r = s.world.texts r)) := by
  have howned := hs.owned
  refine ⟨?_, ?_, ?_, ?_, ?_, ?_, ?_, ?_⟩
  · intro r r' i i' b h h'
    exact slot_unique howned h h'
  · intro m asked r b hrequest hasked hsucceeds
    exact addBuffer_stores_another howned hrequest hasked hsucceeds
  · intro c name hcopies hsucceeds
    exact copies_neverStored howned hcopies hsucceeds name
  · intro c keep r hremoves
    exact removed_neverStored howned hremoves
  · intro m r hclears b hb
    exact cleared_neverStored howned hclears hb
  · intro ms r b hb hgone
    exact gone_neverStored howned ms hb hgone
  · intro m r i b hremoves hclears h
    exact stays_stored howned hremoves hclears h
  · intro m b verb args hrequest hverb r
    exact edit_shows_once howned hrequest hverb r

/-- The only element of a roll is taken out and kept; it will never be an element again, and an edit
of it does not show in the roll. -/
theorem elements_owned_removed :
    let s := initial.after
      [.call (.serve .makeRoll []) (some "a"), .call (.ask "a" .add [.text 0 "x"]) none]
    let removal : Move := .call (.ask "a" .remove []) (some "b")
    let edit : Move := .call (.ask "b" .append [.text 1 "y"]) none
    s.Reachable ∧ s.world.elements ⟨0⟩ = [⟨0⟩] ∧ (s.move removal).NeverStored ⟨0⟩ ∧
      ((s.move removal).move edit).world.text ⟨0⟩ = "xy" ∧
      ((s.move removal).move edit).world.texts ⟨0⟩ = [] := by
  intro s removal edit
  have hreachable : s.Reachable := ⟨_, rfl⟩
  obtain ⟨-, -, -, hremoved, -⟩ := elements_owned hreachable
  obtain ⟨asked, b, w, -, hmem, hnever⟩ := hremoved (.ask "a" .remove []) (some "b") ⟨0⟩ rfl
  obtain rfl : b = ⟨0⟩ := List.mem_singleton.mp hmem
  obtain ⟨-, -, -, -, -, -, -, hedits⟩ := elements_owned (hreachable.move removal)
  have hquiet := (hedits edit ⟨0⟩ .append [.text ⟨"y", .word⟩] rfl (by decide) ⟨0⟩).2.2
    fun i => hnever [] ⟨0⟩ i
  exact ⟨hreachable, rfl, hnever, rfl, hquiet⟩

end Session

end TextRoll
