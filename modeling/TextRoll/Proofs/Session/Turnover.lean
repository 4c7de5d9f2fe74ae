/-
TextRoll/Proofs/Session/Turnover.lean

Elements come, stay and go, and none is lost on the way.

A move can add one element to a roll (`Session.added`), take one out and hand it out
(`Session.taken`), or drop all that there are (`Session.dropped`).  `turns_move` says that what is
in the roll after a move is what was there, without what the move took or dropped and with what
it added behind the rest; what is added is always new.

Moves may be made by any number of clients in any order, so a run is a list of moves each with
the name of its client, and `Session.ledger` collects what a run adds, takes or drops under
these names.  By induction over the run the books balance at every moment (`elements_conserved`):
every element that was ever added is in one slot, or was handed out once, or was dropped once,
and those that are left are in the order in which they were added.
-/
import TextRoll.Proofs.Session.Ownership
import TextRoll.Proofs.Session.Refinement

namespace TextRoll

namespace Content

variable {c : Content} {access : Access} {order : Order}

/-- Only an order to add something adds a text. -/
theorem length_obey_le (hadd : ∀ x, order ≠ .add x) (haddBuffer : ∀ x, order ≠ .addBuffer x) :
    (c.obey access order).2.texts.length ≤ c.texts.length := by
  cases houtcome : c.outcome access order with
  | error fault =>
    exact Nat.le_of_eq (by rw [obey_of_error houtcome])
  | ok done =>
    rw [obey_of_ok houtcome]
    cases order with
    | add x => exact absurd rfl (hadd x)
    | addBuffer x => exact absurd rfl (haddBuffer x)
    | capacity | bookmark | figure =>
      exact Nat.le_of_eq (by rw [same_of_outcome houtcome rfl])
    | hash | next | unknown => cases houtcome
    | assign name => cases name <;> cases houtcome
    | clear =>
      cases houtcome
      exact Nat.zero_le _
    | advance | retreat =>
      cases houtcome
      unfold stepping
      split <;> exact Nat.le_refl _
    | rewind | length | truth | cursor | texts | elements | contains | form | walk =>
      cases houtcome
      exact Nat.le_refl _
    | reserve | current | get =>
      obtain ⟨a, rfl⟩ := exists_of_map houtcome
      exact Nat.le_refl _
    | remove | removeAt =>
      obtain ⟨i, rfl⟩ := exists_of_map houtcome
      exact (List.eraseIdx_sublist _ i).length_le
    | seek i =>
      -- seeking may fail in three ways before the cursor moves
      replace houtcome : (c.currentIndex "seek").bind (fun _ =>
        (i.asIndex c.texts.length).bind fun n =>
          (c.checkIndex n).map fun _ => (Reply.shows .null, { c with cursor := n })) = .ok done :=
        houtcome
      cases hcurrent : c.currentIndex "seek" with
      | error fault => rw [hcurrent] at houtcome; cases houtcome
      | ok j =>
        cases hi : i.asIndex c.texts.length with
        | error fault => rw [hcurrent, hi] at houtcome; cases houtcome
        | ok n =>
          rw [hcurrent, hi] at houtcome
          obtain ⟨a, rfl⟩ := exists_of_map houtcome
          exact Nat.le_refl _

/-- An order to add something adds one text, or fails. -/
theorem obey_adding (c : Content) (access : Access)
    (h : (∃ x, order = .add x ∨ order = .addBuffer x) ∨ ∃ verb, order = .unknown verb) :
    (∃ s, c.obey access order = (.shows .null, c.added s)) ∨
      ∃ fault, c.obey access order = (.fails fault, c) := by
  cases houtcome : c.outcome access order with
  | error fault => exact .inr ⟨fault, obey_of_error houtcome⟩
  | ok done =>
    refine .inl ?_
    rw [obey_of_ok houtcome]
    rcases h with ⟨x, rfl | rfl⟩ | ⟨verb, rfl⟩
    · obtain ⟨s, rfl⟩ := exists_of_map houtcome
      exact ⟨s, rfl⟩
    · obtain ⟨s, rfl⟩ := exists_of_map houtcome
      exact ⟨s, rfl⟩
    · cases houtcome

end Content

namespace World

/-- A request to add something is an order to add it, unless it comes with too few or too many
arguments. -/
theorem order_adding {verb : Verb} (h : verb = .add ∨ verb = .addBuffer) (w : World)
    (args : List Value) :
    (∃ x, w.order verb args = .add x ∨ w.order verb args = .addBuffer x) ∨
      ∃ verb', w.order verb args = .unknown verb' := by
  rcases h with rfl | rfl <;> rcases args with - | ⟨v, - | _⟩
  · exact .inr ⟨_, rfl⟩
  · exact .inl ⟨_, .inl rfl⟩
  · exact .inr ⟨_, rfl⟩
  · exact .inr ⟨_, rfl⟩
  · exact .inl ⟨_, .inr rfl⟩
  · exact .inr ⟨_, rfl⟩

/-- No other request is an order to add something. -/
theorem order_not_adding {verb : Verb} (hadd : verb ≠ .add) (haddBuffer : verb ≠ .addBuffer)
    (w : World) (args : List Value) (x : Argument) :
    w.order verb args ≠ .add x ∧ w.order verb args ≠ .addBuffer x := by
  unfold order
  split <;> first | exact absurd rfl hadd | exact absurd rfl haddBuffer | exact ⟨nofun, nofun⟩

end World

namespace World

variable {w w' : World} {e : Event} {r : RollId}

/-- What is left of the elements stays in order, and at most one new element comes behind it. -/
theorem Occurs.elements_eq (h : w.Occurs e w') (hw : w.WellFormed) (r : RollId) :
    w'.elements r = (e.lossOn r).rest (w.elements r) ∨
      e.lossOn r = .nothing ∧ ∃ b, w'.elements r = w.elements r ++ [b] ∧
        w.buffers.size ≤ b.index ∧ b.index < w'.buffers.size := by
  rcases h.roll_cases r with ⟨hsame, hloss⟩ | ⟨loss, bs, rfl, hchange, hnew⟩ | ⟨rfl, hunused, hmade⟩
  · rw [Event.lossOn_of_ne hloss]
    exact .inl (elements_of_roll_eq hsame)
  · rw [Event.lossOn_changed]
    have helements := hchange.elements_eq (hw r)
    rcases hchange.added_cases with rfl | ⟨rfl, b, rfl⟩
    · exact .inl (helements.trans (List.append_nil _))
    · exact .inr ⟨rfl, b, helements, hnew b List.mem_cons_self⟩
  · exact .inl ((elements_of_unused hmade).trans (elements_of_unused hunused).symm)

/-- Making another roll brings no elements. -/
theorem Occurs.elements_of_quiet (h : w.Occurs e w') (he : e = .still ∨ e = .created)
    (r : RollId) : w'.elements r = w.elements r := by
  rcases h.roll_cases r with ⟨hsame, -⟩ | ⟨loss, bs, heq, -⟩ | ⟨-, hunused, hmade⟩
  · exact elements_of_roll_eq hsame
  · rcases he with rfl | rfl <;> cases heq
  · exact (elements_of_unused hmade).trans (elements_of_unused hunused).symm

end World

namespace Act

variable {w : World} {r : RollId} {asked : Value}

theorem succeeds_of_told {act : Act Answer} {x : Shown} (h : act.told w = .ok x) :
    act.succeeds w = true := by
  cases hrun : act.run w with
  | ok answer w' => exact succeeds_of_ok hrun
  | error fault w' =>
    rw [told_of_error hrun] at h
    cases h

theorem not_succeeds_of_told {act : Act Answer} {fault : Fault} (h : act.told w = .error fault) :
    ¬act.succeeds w = true := by
  cases hrun : act.run w with
  | ok answer w' =>
    rw [told_of_ok hrun] at h
    cases h
  | error fault' w' =>
    rw [succeeds_of_error hrun]
    nofun

/-- A request to a roll adds a text exactly if it succeeds and asks to add one. -/
theorem length_texts_ask (hw : w.Owned) (hasked : asked.rollId? = some r) (verb : Verb)
    (args : List Value) :
    if (verb = .add ∨ verb = .addBuffer) ∧ (ask asked verb args).succeeds w = true then
      (((ask asked verb args).worldAfter w).content r).texts.length
        = (w.content r).texts.length + 1
    else (((ask asked verb args).worldAfter w).content r).texts.length
      ≤ (w.content r).texts.length := by
  rcases given_cases hw hasked verb args with ⟨-, hobeys⟩ | ⟨fault, -, hrefused⟩
  · -- the order is carried out as on plain content; there, only adding makes it longer
    rw [hobeys.content_eq]
    by_cases hverb : verb = .add ∨ verb = .addBuffer
    · have htells := hobeys.tells
      rcases Content.obey_adding (w.content r) asked.access
        (World.order_adding hverb w args) with ⟨text, hobey⟩ | ⟨fault, hobey⟩
      · rw [hobey] at htells ⊢
        rw [if_pos ⟨hverb, succeeds_of_told htells⟩]
        exact List.length_append
      · rw [hobey] at htells ⊢
        exact (if_neg fun h => not_succeeds_of_told htells h.2).mpr (Nat.le_refl _)
    · rw [if_neg fun h => hverb h.1]
      obtain ⟨hadd, haddBuffer⟩ := not_or.mp hverb
      have horder := World.order_not_adding hadd haddBuffer w args
      exact Content.length_obey_le (fun x => (horder x).1) fun x => (horder x).2
  · rw [if_neg fun h => not_succeeds_of_told hrefused.told_eq h.2]
    exact Nat.le_of_eq (by rw [hrefused.content_eq])

end Act

namespace Session

variable {s : Session} {r : RollId} {m : Move}

/-! ### What a move adds, takes and drops -/

/-- Whether a move adds an element to a roll. -/
def adds (s : Session) (r : RollId) (m : Move) : Bool :=
  s.does r (fun verb _ => verb == .add || verb == .addBuffer) m

/-- The element that a move adds to a roll: the last one there is afterwards. -/
def added (s : Session) (r : RollId) (m : Move) : List BufferId :=
  if s.adds r m then ((s.move m).world.elements r).getLast?.toList else []

/-- The buffer that a move hands out, if it hands out one. -/
def handedOut (s : Session) : Move → List BufferId
  | .call c _ =>
    match (c.perform s).run s.world with
    | .ok (_, .item (.value (.buffer b))) _ => [b]
    | _ => []
  | .enter .. | .leave .. | .finish _ => []

/-- The element that a move takes out of a roll: what it hands out. -/
def taken (s : Session) (r : RollId) (m : Move) : List BufferId :=
  if s.removes r m then s.handedOut m else []

/-- The elements that a move drops from a roll: all that there are. -/
def dropped (s : Session) (r : RollId) (m : Move) : List BufferId :=
  if s.clears r m then s.world.elements r else []

theorem nodup_added (s : Session) (r : RollId) (m : Move) : (s.added r m).Nodup := by
  unfold added
  split
  · exact Option.toList_nodup _
  · exact List.nodup_nil

/-- A move does one thing only. -/
theorem does_apart {sort sort' : Verb → List Value → Bool}
    (hapart : ∀ verb args, sort verb args = true → sort' verb args = false)
    (h : s.does r sort m = true) : s.does r sort' m = false := by
  unfold does at h ⊢
  split at h
  · next asked verb args _ =>
    simp only [Bool.and_eq_true] at h
    rw [hapart verb args h.1.2, Bool.and_false, Bool.false_and]
  · cases h

theorem not_adds_of_removes (h : s.removes r m = true) : s.adds r m = false :=
  does_apart (fun verb _ h => by
    simp only [Bool.or_eq_true, beq_iff_eq] at h
    rcases h with rfl | rfl <;> rfl) h

theorem not_adds_of_clears (h : s.clears r m = true) : s.adds r m = false :=
  does_apart (fun verb _ h => by
    simp only [Bool.and_eq_true, beq_iff_eq] at h
    rw [h.1]
    rfl) h

theorem not_removes_of_adds (h : s.adds r m = true) : s.removes r m = false := by
  by_contra hremoves
  rw [not_adds_of_removes (Bool.not_eq_false _ ▸ hremoves)] at h
  cases h

theorem not_clears_of_adds (h : s.adds r m = true) : s.clears r m = false := by
  by_contra hclears
  rw [not_adds_of_clears (Bool.not_eq_false _ ▸ hclears)] at h
  cases h

theorem not_clears_of_removes (h : s.removes r m = true) : s.clears r m = false :=
  does_apart (fun verb _ h => by
    simp only [Bool.or_eq_true, beq_iff_eq] at h
    rcases h with rfl | rfl <;> rfl) h

theorem adds_of_request {asked : Value} {verb : Verb} {args : List Value}
    (h : s.request? m = some (asked, verb, args)) :
    s.adds r m = true ↔ asked.rollId? = some r ∧ (verb = .add ∨ verb = .addBuffer) ∧
      (Act.ask asked verb args).succeeds s.world = true := by
  unfold adds does
  rw [h]
  simp [and_assoc]

/-- What a move that asks a roll nothing is for it. -/
theorem deed_of_other (h : ∀ asked verb args, s.request? m = some (asked, verb, args) →
    asked.rollId? ≠ some r) : s.deed r m = .nothing ∨ ∃ i t, s.deed r m = .edited i t := by
  unfold deed
  split
  · exact .inl rfl
  · next asked verb args hrequest =>
    rw [if_neg (h asked verb args hrequest)]
    split
    · exact .inl rfl
    · split
      · exact .inl rfl
      · exact .inr ⟨_, _, rfl⟩

/-- A move adds an element to a roll exactly if it is a successful request to add one. -/
theorem length_elements_move (hs : s.world.Owned) (r : RollId) (m : Move) :
    if s.adds r m then
      ((s.move m).world.elements r).length = (s.world.elements r).length + 1
    else ((s.move m).world.elements r).length ≤ (s.world.elements r).length := by
  have hlength : ∀ w : World, (w.elements r).length = (w.content r).texts.length := fun w =>
    (List.length_map _).symm
  rw [hlength, hlength]
  by_cases hasked : ∃ asked verb args, s.request? m = some (asked, verb, args) ∧
      asked.rollId? = some r
  · obtain ⟨asked, verb, args, hrequest, hasked⟩ := hasked
    have hadds := adds_of_request (r := r) hrequest
    cases m with
    | enter | leave | finish => cases hrequest
    | call c keep =>
      rw [(content_move_call hs c keep r).1, worldAfter_perform hrequest]
      have hask := Act.length_texts_ask hs hasked verb args
      simpa only [hadds, hasked, true_and] using hask
  · -- what is asked of something else may edit a text of the roll, and no more
    have hother : ∀ asked verb args, s.request? m = some (asked, verb, args) →
        asked.rollId? ≠ some r := fun asked verb args hrequest heq =>
      hasked ⟨asked, verb, args, hrequest, heq⟩
    have hadds : ¬s.adds r m = true := by
      cases hrequest : s.request? m with
      | none =>
        unfold adds does
        rw [hrequest]
        nofun
      | some request =>
        obtain ⟨asked, verb, args⟩ := request
        exact fun h => hother _ _ _ hrequest ((adds_of_request hrequest).mp h).1
    rw [if_neg hadds, (move_reacts hs r m).1]
    rcases deed_of_other hother with hdeed | ⟨i, t, hdeed⟩
    · rw [hdeed]
      exact Nat.le_refl _
    · rw [hdeed]
      exact Nat.le_of_eq List.length_set

/-! ### One move -/

/-- What is left of the elements after a move, and what it added, took and dropped. -/
structure Turns (s : Session) (r : RollId) (m : Move) : Prop where
  /-- What is there stays in order, and what is added comes behind it. -/
  elements_eq : (s.move m).world.elements r
    = ((s.world.elements r).filter fun b => b ∉ s.taken r m ∧ b ∉ s.dropped r m) ++ s.added r m
  /-- Nothing is lost and nothing is there twice. -/
  count_eq : ∀ b, ((s.move m).world.elements r).count b + (s.taken r m).count b
      + (s.dropped r m).count b = (s.world.elements r).count b + (s.added r m).count b
  gone_mem : ∀ b, b ∈ s.taken r m ∨ b ∈ s.dropped r m → b ∈ s.world.elements r
  added_new : ∀ b ∈ s.added r m,
    s.world.buffers.size ≤ b.index ∧ b.index < (s.move m).world.buffers.size
  length_added : (s.added r m).length = (s.adds r m).toNat

/-- What a move takes is one element, which is handed out and no element any more. -/
theorem handedOut_of_removes (hs : s.world.Owned) (h : s.removes r m = true) :
    ∃ b, s.handedOut m = [b] ∧ b ∈ s.world.elements r ∧ b ∉ (s.move m).world.elements r := by
  cases m with
  | enter | leave | finish => cases h
  | call c keep =>
    obtain ⟨asked, b, w, hrun, hmem, hnever⟩ := removed_neverStored hs h
    refine ⟨b, ?_, hmem, fun hafter => ?_⟩
    · show (match (c.perform s).run s.world with
        | .ok (_, .item (.value (.buffer b))) _ => [b]
        | _ => []) = [b]
      rw [hrun]
      rfl
    · obtain ⟨i, hi⟩ := List.mem_iff_getElem?.mp hafter
      exact hnever [] r i ((slot_iff (owned_move hs _)).mpr hi)

/-- If an element is gone when a place is erased, that was its place. -/
theorem eraseIdx_eq_erase {bs : List BufferId} {b : BufferId} {i : Nat} (hmem : b ∈ bs)
    (hgone : b ∉ bs.eraseIdx i) : bs.eraseIdx i = bs.erase b := by
  induction bs generalizing i with
  | nil => cases hmem
  | cons a rest ih =>
    cases i with
    | zero =>
      rcases List.mem_cons.mp hmem with rfl | hin
      · simp
      · exact absurd hin hgone
    | succ i =>
      obtain ⟨hne, hgone⟩ := not_or.mp (List.mem_cons.not.mp hgone)
      have hin := (List.mem_cons.mp hmem).resolve_left hne
      show a :: rest.eraseIdx i = _
      rw [List.erase_cons_tail (by simpa using Ne.symm hne), ih hin hgone]

/-- What is in a roll after a move, as far as the events of the move tell. -/
theorem elements_move (hs : s.world.Owned) (r : RollId) (m : Move) :
    ∃ loss, s.Tells m r loss ∧
      ((s.move m).world.elements r = loss.rest (s.world.elements r) ∨
        loss = .nothing ∧ ∃ b, (s.move m).world.elements r = s.world.elements r ++ [b] ∧
          s.world.buffers.size ≤ b.index ∧ b.index < (s.move m).world.buffers.size) := by
  obtain ⟨e, e', hquiet, hpasses, htells⟩ := move_events hs.wellFormed m
  cases hpasses with
  | cons hfirst hrest =>
    cases hrest with
    | cons hsecond hnil =>
      cases hnil
      refine ⟨_, htells r, ?_⟩
      rw [hsecond.elements_of_quiet hquiet]
      rcases hfirst.elements_eq hs.wellFormed r with hrest | ⟨hloss, b, happended, hle, hlt⟩
      · exact .inl hrest
      · exact .inr ⟨hloss, b, happended, hle, Nat.lt_of_lt_of_le hlt hsecond.size_le⟩

/-- A move that erases a place takes the element that was there. -/
theorem turns_of_removes (hs : s.world.Owned) {i : Nat} (hadds : s.adds r m = false)
    (hremoves : s.removes r m = true) (hclears : s.clears r m = false)
    (hrest : (s.move m).world.elements r = (s.world.elements r).eraseIdx i) : s.Turns r m := by
  obtain ⟨b, hout, hmem, hgone⟩ := handedOut_of_removes hs hremoves
  have hadded : s.added r m = [] := if_neg (by rw [hadds]; nofun)
  have htaken : s.taken r m = [b] := (if_pos hremoves).trans hout
  have hdropped : s.dropped r m = [] := if_neg (by rw [hclears]; nofun)
  rw [hrest] at hgone
  have herase := eraseIdx_eq_erase hmem hgone
  constructor
  · -- no element is there twice, so erasing one is leaving out all that equal it
    rw [hrest, herase, hadded, List.append_nil, (hs.nodup r).erase_eq_filter]
    exact List.filter_congr fun b' _ => by
      simp only [htaken, hdropped, List.mem_singleton, List.not_mem_nil, not_false_eq_true,
        and_true, decide_not, bne, beq_eq_decide]
  · intro b'
    have hperm := (List.perm_cons_erase hmem).count_eq b'
    simp only [List.count_cons, hrest, herase, htaken, hdropped, hadded, List.count_nil]
      at hperm ⊢
    omega
  · simp [htaken, hdropped, hmem]
  · simp [hadded]
  · simp [hadded, hadds]

/-- **What a move does to the elements of a roll.** -/
theorem turns_move (hs : s.world.Owned) (r : RollId) (m : Move) : s.Turns r m := by
  have hlength := length_elements_move hs r m
  obtain ⟨loss, htells, hrest | ⟨rfl, b, happended, hle, hlt⟩⟩ := elements_move hs r m
  · -- nothing is added, as the roll has not become longer
    have hadds : s.adds r m = false := by
      by_contra hadds
      have hsublist := (loss.rest_sublist (s.world.elements r)).length_le
      rw [if_pos (Bool.not_eq_false _ ▸ hadds), hrest] at hlength
      omega
    have hadded : s.added r m = [] := if_neg (by rw [hadds]; nofun)
    cases loss with
    | nothing =>
      obtain ⟨hremoves, hclears⟩ := htells
      have htaken : s.taken r m = [] := if_neg (by rw [hremoves]; nofun)
      have hdropped : s.dropped r m = [] := if_neg (by rw [hclears]; nofun)
      replace hrest : (s.move m).world.elements r = s.world.elements r := hrest
      constructor <;> simp [*]
    | element i => exact turns_of_removes hs hadds htells.1 htells.2 hrest
    | everything =>
      obtain ⟨hremoves, hclears⟩ := htells
      have htaken : s.taken r m = [] := if_neg (by rw [hremoves]; nofun)
      have hdropped : s.dropped r m = s.world.elements r := if_pos hclears
      replace hrest : (s.move m).world.elements r = [] := hrest
      constructor <;> simp [*]
  · -- something is added, as the roll has become longer
    obtain ⟨hremoves, hclears⟩ := htells
    have hadds : s.adds r m = true := by
      by_contra hadds
      rw [if_neg hadds, happended, List.length_append, List.length_singleton] at hlength
      omega
    have hadded : s.added r m = [b] := by
      unfold added
      rw [if_pos hadds, happended, List.getLast?_concat]
      rfl
    have htaken : s.taken r m = [] := if_neg (by rw [hremoves]; nofun)
    have hdropped : s.dropped r m = [] := if_neg (by rw [hclears]; nofun)
    constructor <;> simp [*]

theorem size_le_move (hs : s.world.Owned) (m : Move) :
    s.world.buffers.size ≤ (s.move m).world.buffers.size := by
  obtain ⟨e, e', -, hpasses, -⟩ := move_events hs.wellFormed m
  cases hpasses with
  | cons hfirst hrest =>
    cases hrest with
    | cons hsecond hnil =>
      cases hnil
      exact Nat.le_trans hfirst.size_le hsecond.size_le

theorem size_le_after (hs : s.world.Owned) (ms : List Move) :
    s.world.buffers.size ≤ (s.after ms).world.buffers.size := by
  induction ms generalizing s with
  | nil => exact Nat.le_refl _
  | cons m ms ih => exact Nat.le_trans (size_le_move hs m) (ih (owned_move hs m))

/-- What an addition, a removal and a clearing do, and what every other move leaves. -/
theorem elements_of_move (hs : s.world.Owned) (r : RollId) (m : Move) :
    (s.adds r m = true → ∃ b, s.world.buffers.size ≤ b.index ∧ s.added r m = [b] ∧
      (s.move m).world.elements r = s.world.elements r ++ [b]) ∧
    (s.adds r m = false →
      s.added r m = [] ∧ ((s.move m).world.elements r).Sublist (s.world.elements r)) ∧
    (s.removes r m = true → ∃ b ∈ s.world.elements r, s.handedOut m = [b] ∧ s.taken r m = [b] ∧
      (s.move m).world.elements r = (s.world.elements r).erase b) ∧
    (s.removes r m = false → s.taken r m = []) ∧
    (s.clears r m = true →
      s.dropped r m = s.world.elements r ∧ (s.move m).world.elements r = []) ∧
    (s.clears r m = false → s.dropped r m = []) := by
  have hturns := turns_move hs r m
  have htaken : s.removes r m = false → s.taken r m = [] := fun h => if_neg (by rw [h]; nofun)
  have hdropped : s.clears r m = false → s.dropped r m = [] := fun h => if_neg (by rw [h]; nofun)
  have hadded : s.adds r m = false → s.added r m = [] := fun h => if_neg (by rw [h]; nofun)
  refine ⟨fun h => ?_, fun h => ?_, fun h => ?_, htaken, fun h => ?_, hdropped⟩
  · obtain ⟨b, hb⟩ := List.length_eq_one_iff.mp (hturns.length_added.trans (by rw [h]; rfl))
    refine ⟨b, (hturns.added_new b (by rw [hb]; exact List.mem_cons_self)).1, hb, ?_⟩
    rw [hturns.elements_eq, hb, htaken (not_removes_of_adds h), hdropped (not_clears_of_adds h)]
    simp
  · refine ⟨hadded h, ?_⟩
    rw [hturns.elements_eq, hadded h, List.append_nil]
    exact List.filter_sublist
  · obtain ⟨b, hout, hmem, -⟩ := handedOut_of_removes hs h
    have hb : s.taken r m = [b] := (if_pos h).trans hout
    refine ⟨b, hmem, hout, hb, ?_⟩
    rw [hturns.elements_eq, hadded (not_adds_of_removes h), hdropped (not_clears_of_removes h), hb,
      List.append_nil, (hs.nodup r).erase_eq_filter]
    exact List.filter_congr fun b' _ => by
      simp only [List.mem_singleton, List.not_mem_nil, not_false_eq_true, and_true, decide_not, bne,
        beq_eq_decide]
  · have hb : s.dropped r m = s.world.elements r := if_pos h
    refine ⟨hb, ?_⟩
    rw [hturns.elements_eq, hadded (not_adds_of_clears h), hb, List.append_nil]
    exact List.filter_eq_nil_iff.mpr fun b hb h => (of_decide_eq_true h).2 hb

/-! ### Runs of clients -/

variable {Client : Type} {what : Session → Move → List BufferId} {run : List (Client × Move)}

/-- What the moves of some clients bring about, each judged in the session it is made in and put
down under the name of its client. -/
def ledger (what : Session → Move → List BufferId) :
    Session → List (Client × Move) → List (Client × BufferId)
  | _, [] => []
  | s, (client, m) :: rest => (what s m).map (client, ·) ++ ledger what (s.move m) rest

@[simp] theorem ledger_nil (s : Session) :
    ledger what s ([] : List (Client × Move)) = [] := rfl

@[simp] theorem map_ledger_cons (s : Session) (client : Client) (m : Move)
    (rest : List (Client × Move)) :
    (ledger what s ((client, m) :: rest)).map Prod.snd
      = what s m ++ (ledger what (s.move m) rest).map Prod.snd := by
  simp [ledger, Function.comp_def]

/-- What a run adds is new. -/
theorem added_new_of_run (hs : s.world.Owned) (r : RollId) (run : List (Client × Move)) :
    ∀ b ∈ (ledger (added · r) s run).map Prod.snd, s.world.buffers.size ≤ b.index := by
  induction run generalizing s with
  | nil => nofun
  | cons x rest ih =>
    obtain ⟨client, m⟩ := x
    intro b hb
    rw [map_ledger_cons] at hb
    rcases List.mem_append.mp hb with hb | hb
    · exact ((turns_move hs r m).added_new b hb).1
    · exact Nat.le_trans (size_le_move hs m) (ih (owned_move hs m) b hb)

/-- What a run adds is issued when it is over. -/
theorem added_issued_of_run (hs : s.world.Owned) (r : RollId) (run : List (Client × Move)) :
    ∀ b ∈ (ledger (added · r) s run).map Prod.snd,
      b.index < (s.after (run.map Prod.snd)).world.buffers.size := by
  induction run generalizing s with
  | nil => nofun
  | cons x rest ih =>
    obtain ⟨client, m⟩ := x
    intro b hb
    rw [map_ledger_cons] at hb
    rcases List.mem_append.mp hb with hb | hb
    · exact Nat.lt_of_lt_of_le ((turns_move hs r m).added_new b hb).2
        (size_le_after (owned_move hs m) (rest.map Prod.snd))
    · exact ih (owned_move hs m) b hb

/-- A run never adds the same element twice. -/
theorem nodup_added_of_run (hs : s.world.Owned) (r : RollId) (run : List (Client × Move)) :
    ((ledger (added · r) s run).map Prod.snd).Nodup := by
  induction run generalizing s with
  | nil => exact List.nodup_nil
  | cons x rest ih =>
    obtain ⟨client, m⟩ := x
    have hturns := turns_move hs r m
    rw [map_ledger_cons]
    refine List.Nodup.append (nodup_added s r m) (ih (owned_move hs m)) fun b hb hrest => ?_
    have hlt := (hturns.added_new b hb).2
    have hle := added_new_of_run (owned_move hs m) r rest b hrest
    omega

/-- **The books balance**: as often as an element was there or was added, so often it is there,
was handed out or was dropped. -/
theorem count_of_run (hs : s.world.Owned) (r : RollId) (run : List (Client × Move))
    (b : BufferId) :
    ((s.after (run.map Prod.snd)).world.elements r).count b
        + ((ledger (taken · r) s run).map Prod.snd).count b
        + ((ledger (dropped · r) s run).map Prod.snd).count b
      = (s.world.elements r).count b + ((ledger (added · r) s run).map Prod.snd).count b := by
  induction run generalizing s with
  | nil => rfl
  | cons x rest ih =>
    obtain ⟨client, m⟩ := x
    have hmove := (turns_move hs r m).count_eq b
    have hrest := ih (owned_move hs m)
    simp only [map_ledger_cons, List.count_append, List.map_cons, after_cons]
    omega

/-- **The order is kept**: the elements after a run are those there were and those it added,
in this order, without those that are gone. -/
theorem elements_of_run (hs : s.world.Owned) (r : RollId) (run : List (Client × Move)) :
    (s.after (run.map Prod.snd)).world.elements r
      = (s.world.elements r ++ (ledger (added · r) s run).map Prod.snd).filter fun b =>
          b ∉ (ledger (taken · r) s run).map Prod.snd ∧
            b ∉ (ledger (dropped · r) s run).map Prod.snd := by
  induction run generalizing s with
  | nil => simp
  | cons x rest ih =>
    obtain ⟨client, m⟩ := x
    have hturns := turns_move hs r m
    -- nothing that is added now or later is gone with this move
    have hkept : ∀ b, s.world.buffers.size ≤ b.index → b ∉ s.taken r m ∧ b ∉ s.dropped r m := by
      intro b hb
      refine not_or.mp fun hgone => ?_
      have hissued := hs.issued r b (hturns.gone_mem b hgone)
      omega
    have hnow : ∀ b ∈ s.added r m, b ∉ s.taken r m ∧ b ∉ s.dropped r m := fun b hb =>
      hkept b (hturns.added_new b hb).1
    have hlater : ∀ b ∈ (ledger (added · r) (s.move m) rest).map Prod.snd,
        b ∉ s.taken r m ∧ b ∉ s.dropped r m := fun b hb =>
      hkept b (Nat.le_trans (size_le_move hs m) (added_new_of_run (owned_move hs m) r rest b hb))
    have hsplit : (s.world.elements r).filter (fun b => b ∉ s.taken r m ∧ b ∉ s.dropped r m)
          ++ s.added r m ++ (ledger (added · r) (s.move m) rest).map Prod.snd
        = (s.world.elements r ++ (s.added r m
            ++ (ledger (added · r) (s.move m) rest).map Prod.snd)).filter
          fun b => b ∉ s.taken r m ∧ b ∉ s.dropped r m := by
      rw [List.filter_append, List.filter_append, List.append_assoc,
        List.filter_eq_self.mpr fun b hb => decide_eq_true (hnow b hb),
        List.filter_eq_self.mpr fun b hb => decide_eq_true (hlater b hb)]
    rw [List.map_cons, after_cons, ih (owned_move hs m), hturns.elements_eq, hsplit,
      List.filter_filter]
    simp only [map_ledger_cons]
    refine List.filter_congr fun b _ => ?_
    simp only [List.mem_append, not_or, Bool.decide_and]
    grind

/-- **Elements are conserved.**  Whatever clients do with a roll, in whatever order, at every moment
each element they created is in one slot, or was handed out by one removal, or was dropped by one
clearing.  The slots hold those that are left in the order of their creation. -/
theorem elements_conserved {Client : Type} [DecidableEq Client] (run : List (Client × Move))
    (r : RollId) :
    let s := initial.after (run.map Prod.snd)
    let created := ledger (added · r) initial run
    let removed := (ledger (taken · r) initial run).map Prod.snd
    let cleared := (ledger (dropped · r) initial run).map Prod.snd
    let elements := s.world.elements r
    -- nothing is created twice, and everything created is in exactly one of three classes
    (created.map Prod.snd).Nodup ∧ (elements ++ removed ++ cleared).Perm (created.map Prod.snd) ∧
    -- what is left is stored in order of its creation, one in each slot in use
    elements = (created.map Prod.snd).filter (fun b => b ∉ removed ∧ b ∉ cleared) ∧
    (∀ (i : Nat) (b : BufferId),
      (s.world.roll r).slots[i]? = some (some b) ↔ elements[i]? = some b) ∧
    -- and what is left of one client is stored in the order in which the client added it
    (∀ client : Client,
      (((created.filter fun x => x.1 = client).map Prod.snd).filter
        fun b => b ∉ removed ∧ b ∉ cleared).Sublist elements) ∧
    -- whatever comes next, one new element is created exactly by a successful request to add one,
    -- one is handed out exactly by a successful removal, and all are dropped by a clearing
    ∀ m : Move,
      (s.adds r m = true → ∃ b, b ∉ created.map Prod.snd ∧ s.added r m = [b] ∧
        (s.move m).world.elements r = elements ++ [b]) ∧
      (s.adds r m = false → s.added r m = [] ∧ ((s.move m).world.elements r).Sublist elements) ∧
      (s.removes r m = true → ∃ b ∈ elements, s.handedOut m = [b] ∧ s.taken r m = [b] ∧
        (s.move m).world.elements r = elements.erase b) ∧
      (s.removes r m = false → s.taken r m = []) ∧
      (s.clears r m = true → s.dropped r m = elements ∧ (s.move m).world.elements r = []) ∧
      (s.clears r m = false → s.dropped r m = []) := by
  intro s created removed cleared elements
  have hinitial : initial.world.Owned := World.owned_initial
  have hs : s.world.Owned := owned_after hinitial _
  have helements : elements
      = (created.map Prod.snd).filter fun b => b ∉ removed ∧ b ∉ cleared :=
    elements_of_run hinitial r run
  refine ⟨nodup_added_of_run hinitial r run, ?_, helements, fun i b => slot_iff hs,
    fun client => ?_, fun m => ?_⟩
  · refine List.perm_iff_count.mpr fun b => ?_
    rw [List.count_append, List.count_append]
    exact (count_of_run hinitial r run b).trans (Nat.zero_add _)
  · rw [helements]
    exact (List.filter_sublist.map Prod.snd).filter _
  · obtain ⟨hadds, hrest⟩ := elements_of_move hs r m
    refine ⟨fun h => ?_, hrest⟩
    obtain ⟨b, hnew, hadded, happended⟩ := hadds h
    refine ⟨b, fun hmem => ?_, hadded, happended⟩
    have hissued := added_issued_of_run hinitial r run b hmem
    exact absurd hissued (Nat.not_lt.mpr hnew)

/-- Two clients share a roll, one of them through a guard: each adds texts, and one text is taken
out in between. -/
example :
    let run : List (Bool × Move) :=
      [(true, .call (.serve .makeRoll []) (some "a")),
        (false, .call (.serve .makeGuard [.register "a"]) (some "g")),
        (true, .call (.ask "a" .add [.text 0 "x"]) none),
        (false, .call (.ask "g" .add [.text 1 "y"]) none),
        (true, .call (.ask "a" .remove []) none),
        (false, .call (.ask "g" .add [.text 2 "z"]) none)]
    ledger (added · ⟨0⟩) initial run = [(true, ⟨0⟩), (false, ⟨1⟩), (false, ⟨2⟩)] ∧
      ledger (taken · ⟨0⟩) initial run = [(true, ⟨0⟩)] ∧
      (initial.after (run.map Prod.snd)).world.elements ⟨0⟩ = [⟨1⟩, ⟨2⟩] :=
  ⟨rfl, rfl, rfl⟩

end Session

end TextRoll
