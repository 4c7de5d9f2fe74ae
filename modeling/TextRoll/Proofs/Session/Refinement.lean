/-
TextRoll/Proofs/Session/Refinement.lean

Rolls behave like the small machine.

`Session.deed` says what a move of a session is for a roll: an order given to it, storage
refused to it, an edit of one of its elements, or nothing.  The content of the roll then
changes as the machine says, and what is told in reply is what the machine replies
(`move_reacts`); by induction this holds of every run (`after_reacts`).  So nothing but the
content shows: slots, storage, pieces of buffers and counters are of no consequence for what
is told, now or later.
-/
import TextRoll.Proofs.Content.Comparing
import TextRoll.Proofs.Content.Editing
import TextRoll.Proofs.Content.Iterating
import TextRoll.Proofs.Session.Events

namespace TextRoll

namespace World

variable {w : World}

/-- Keeping an answer leaves every content and every text. -/
theorem content_adopt (hw : w.Owned) {answer : Answer} (h : answer.MakesUnused) (asked : Value)
    (r : RollId) :
    (w.adopt asked answer).2.content r = w.content r ∧ w.KeepsTexts (w.adopt asked answer).2 := by
  obtain ⟨e, he, hoccurs⟩ := occurs_adopt h asked w
  have hquiet : (∀ loss added, e ≠ .changed r loss added) ∧
      ∀ b edit, e = .edited b edit → b ∉ w.elements r := by
    rcases he with rfl | rfl <;> exact ⟨nofun, nofun⟩
  refine ⟨hoccurs.content_other hw hquiet.1 hquiet.2, ?_⟩
  rcases he with rfl | rfl
  · cases hoccurs with
    | still hrolls htexts => exact htexts
  · cases hoccurs with
    | created hunused hrolls htexts => exact htexts

end World

/-! ### What a move is for a roll -/

/-- The fault with which storage was refused to a request for more, if it was. -/
def World.refusal? (w : World) (asked : Value) (verb : Verb) (args : List Value) : Option Fault :=
  if verb ∈ [.add, .addBuffer, .reserve] then
    match (Act.ask asked verb args).told w with
    | .error fault => if fault.isStorage then some fault else none
    | .ok _ => none
  else none

/-- What a request is for the roll that is asked: an order, unless storage for it is refused. -/
def World.given (w : World) (asked : Value) (verb : Verb) (args : List Value) : Deed :=
  match w.refusal? asked verb args with
  | some fault => .refused fault
  | none => .asked asked.access (w.order verb args)

namespace Session

/-- What a move is for a roll.  A request to it, direct or through a guard, is an order, unless
storage is refused.  Asking a buffer that is an element of the roll, or a bookmark that stands for
one, is an edit of that element, which may leave it as it is. -/
def deed (s : Session) (r : RollId) (m : Move) : Deed :=
  match s.request? m with
  | none => .nothing
  | some (asked, verb, args) =>
    if asked.rollId? = some r then s.world.given asked verb args
    else
      match s.world.standsFor? asked with
      | none => .nothing
      | some b =>
        match (s.world.elements r).idxOf? b with
        | none => .nothing
        | some i => .edited i ((s.move m).world.text b)

/-- What a move is told by a roll, if it makes a request to that roll. -/
def told? (s : Session) (r : RollId) (m : Move) : Option (Except Fault Shown) :=
  match s.request? m with
  | none => none
  | some (asked, verb, args) =>
    if asked.rollId? = some r then some ((Act.ask asked verb args).told s.world) else none

end Session

/-- The reply is what was told, if anything was, or the content does not tell. -/
def Reply.Meets (reply : Reply) : Option (Except Fault Shown) → Prop
  | some told => reply.Tells told
  | none => reply = .untold

/-! ### One move -/

namespace Act

variable {w : World} {r : RollId} {asked : Value}

theorem isStorage_of_refuses {l : Roll BufferId} {fault : Fault} (h : l.Refuses fault) :
    fault.isStorage = true := by
  rcases h with ⟨wanted, -, hgrant⟩ | ⟨x, hreal⟩
  · unfold Policy.grant at hgrant
    split at hgrant
    · cases hgrant
      rfl
    · split at hgrant
      · cases hgrant
        rfl
      · split at hgrant
        · cases hgrant
          rfl
        · cases hgrant
  · rw [Roll.reserveReal_eq_error hreal]
    unfold Policy.refusedReal
    split <;> rfl

/-- The content tells all of a request that needs storage. -/
theorem isTold_order {verb : Verb} (hverb : verb ∈ [.add, .addBuffer, .reserve])
    (args : List Value) : (w.order verb args).isTold = true := by
  simp only [List.mem_cons, List.not_mem_nil, or_false] at hverb
  rcases hverb with rfl | rfl | rfl <;> rcases args with - | ⟨v, - | _⟩ <;> rfl

/-- What an order replies, if it is obeyed, is not that storage is refused. -/
theorem refusal_eq_none {verb : Verb} {args : List Value}
    (h : (ask asked verb args).Obeys w r
      ((w.content r).obey asked.access (w.order verb args))) :
    w.refusal? asked verb args = none := by
  unfold World.refusal?
  split
  · next hverb =>
    have htells := h.tells
    cases htold : (ask asked verb args).told w with
    | ok x => rfl
    | error fault =>
      rw [htold] at htells
      cases houtcome : (w.content r).outcome asked.access (w.order verb args) with
      | error fault' =>
        rw [Content.obey_of_error houtcome] at htells
        cases htells
        dsimp only
        rw [(Content.isPlain_of_outcome houtcome).isStorage_eq]
        rfl
      | ok done =>
        obtain ⟨x, hx⟩ := Content.shows_of_outcome houtcome (isTold_order hverb args)
        rw [Content.obey_of_ok houtcome, hx] at htells
        cases htells
  · rfl

/-- A request to a roll is an order that is obeyed, or the roll refuses storage for it. -/
theorem given_cases (hw : w.Owned) (hasked : asked.rollId? = some r) (verb : Verb)
    (args : List Value) :
    (w.given asked verb args = .asked asked.access (w.order verb args) ∧
        (ask asked verb args).Obeys w r
          ((w.content r).obey asked.access (w.order verb args))) ∨
      ∃ fault, w.given asked verb args = .refused fault ∧
        (ask asked verb args).IsRefused w r fault := by
  unfold World.given
  rcases ask_complies hw hasked verb args with hobeys | ⟨hverb, fault, hrefused⟩
  · rw [refusal_eq_none hobeys]
    exact .inl ⟨rfl, hobeys⟩
  · have hsome : w.refusal? asked verb args = some fault := by
      unfold World.refusal?
      rw [if_pos hverb, hrefused.told_eq]
      exact if_pos (isStorage_of_refuses hrefused.refuses)
    rw [hsome]
    exact .inr ⟨fault, rfl, hrefused⟩

/-- The content of a roll that is asked changes as the machine says, and what is told is what the
machine replies. -/
theorem ask_reacts (hw : w.Owned) (hasked : asked.rollId? = some r) (verb : Verb)
    (args : List Value) :
    ((ask asked verb args).worldAfter w).content r
        = ((w.content r).react (w.given asked verb args)).2 ∧
      ((w.content r).react (w.given asked verb args)).1.Tells ((ask asked verb args).told w) := by
  rcases given_cases hw hasked verb args with ⟨hgiven, hobeys⟩ | ⟨fault, hgiven, hrefused⟩
  · rw [hgiven]
    exact ⟨hobeys.content_eq, hobeys.tells⟩
  · rw [hgiven]
    exact ⟨hrefused.content_eq, hrefused.told_eq⟩

end Act

namespace Session

variable {s : Session} {r : RollId} {m : Move}

/-- The world after a call is that after its request, but for what is kept of the answer. -/
theorem content_move_call (hs : s.world.Owned) (c : Call) (keep : Option String) (r : RollId) :
    (s.move (.call c keep)).world.content r = ((c.perform s).worldAfter s.world).content r ∧
      ((c.perform s).worldAfter s.world).KeepsTexts (s.move (.call c keep)).world := by
  have hdoes := does_perform s c s.world hs.wellFormed
  have hyields := yields_perform s c s.world
  rw [world_move_call]
  cases hrun : (c.perform s).run s.world with
  | error fault w =>
    rw [Act.worldAfter_of_error hrun]
    exact ⟨rfl, .refl w⟩
  | ok result w =>
    obtain ⟨e, -, hoccurs⟩ := hdoes.ok hrun
    rw [Act.worldAfter_of_ok hrun]
    cases keep with
    | none => exact ⟨rfl, .refl w⟩
    | some name => exact World.content_adopt (hoccurs.owned hs) (hyields _ _ hrun) result.1 r

/-- A call that makes no request to a value leaves every content. -/
theorem content_perform_quiet (hs : s.world.Owned) {c : Call} (h : c.request? s = none)
    (r : RollId) : ((c.perform s).worldAfter s.world).content r = s.world.content r := by
  have hdoes := does_perform s c s.world hs.wellFormed
  rw [h] at hdoes
  obtain ⟨e, rfl, hoccurs⟩ := hdoes.occurs rfl
  exact hoccurs.content_of_still hs r

/-- The world after a call is that after the request that it makes. -/
theorem worldAfter_perform {c : Call} {asked : Value} {verb : Verb} {args : List Value}
    (h : c.request? s = some (asked, verb, args)) (w : World) :
    (c.perform s).worldAfter w = (Act.ask asked verb args).worldAfter w := by
  obtain ⟨target, operands, rfl, htarget, hargs⟩ := request?_eq_some h
  unfold Act.worldAfter
  rw [run_perform_ask htarget hargs]
  cases (Act.ask asked verb args).run w with
  | ok answer w' => rfl
  | error fault w' => rfl

/-- **One move.** The content changes as the machine says of the deed that the move is, and what is
told in reply is what the machine replies. -/
theorem move_reacts (hs : s.world.Owned) (r : RollId) (m : Move) :
    (s.move m).world.content r = ((s.world.content r).react (s.deed r m)).2 ∧
      ((s.world.content r).react (s.deed r m)).1.Meets (s.told? r m) := by
  have hquiet : s.request? m = none → (s.move m).world.content r = s.world.content r →
      (s.move m).world.content r = ((s.world.content r).react (s.deed r m)).2 ∧
        ((s.world.content r).react (s.deed r m)).1.Meets (s.told? r m) := by
    intro hnone hsame
    unfold deed told?
    rw [hnone]
    exact ⟨hsame, rfl⟩
  cases m with
  | enter scope keep =>
    exact hquiet rfl ((occurs_enter hs.wellFormed scope keep).content_of_still hs r)
  | leave scope before => exact hquiet rfl ((occurs_leave s scope before).content_of_still hs r)
  | finish keep => exact hquiet rfl ((occurs_finish s keep).content_of_still hs r)
  | call c keep =>
    obtain ⟨hkept, htexts⟩ := content_move_call hs c keep r
    have hsame : s.request? (.call c keep) = c.request? s := rfl
    cases hrequest : c.request? s with
    | none => exact hquiet hrequest (hkept.trans (content_perform_quiet hs hrequest r))
    | some request =>
      obtain ⟨asked, verb, args⟩ := request
      rw [worldAfter_perform hrequest] at hkept htexts
      unfold deed told?
      rw [hsame, hrequest, hkept]
      dsimp only
      by_cases hasked : asked.rollId? = some r
      · rw [if_pos hasked, if_pos hasked]
        exact Act.ask_reacts hs hasked verb args
      · rw [if_neg hasked, if_neg hasked]
        obtain ⟨hedited, hother⟩ := Act.content_ask_other hs hasked verb args
        cases hstands : s.world.standsFor? asked with
        | none => exact ⟨hother (by rw [hstands]; nofun), rfl⟩
        | some b =>
          dsimp only
          cases hplace : (s.world.elements r).idxOf? b with
          | none =>
            refine ⟨hother fun b' hb' => ?_, rfl⟩
            rw [hstands] at hb'
            cases hb'
            exact List.idxOf?_eq_none_iff.mp hplace
          | some i =>
            obtain ⟨hi, hget, -⟩ := List.idxOf?_eq_some_iff.mp hplace
            have hslot : (s.world.elements r)[i]? = some b :=
              List.getElem?_eq_some_iff.mpr ⟨hi, hget⟩
            -- what is kept of the answer gets a place of its own
            obtain ⟨e, hoccurs, -⟩ := Act.ask_other hs.wellFormed hasked verb args
            have hissued := hs.issued r b (List.mem_of_getElem? hslot)
            have htext := htexts.text_eq b (Nat.lt_of_lt_of_le hissued hoccurs.size_le)
            exact ⟨htext ▸ hedited b i hstands hslot, rfl⟩

/-! ### Runs -/

/-- What some moves are for a roll, one after the other. -/
def deeds (s : Session) (r : RollId) : List Move → List Deed
  | [] => []
  | m :: ms => s.deed r m :: (s.move m).deeds r ms

/-- What some moves are told by a roll, one after the other. -/
def tolds (s : Session) (r : RollId) : List Move → List (Option (Except Fault Shown))
  | [] => []
  | m :: ms => s.told? r m :: (s.move m).tolds r ms

/-- **Any moves.** The content changes as the machine says, and what is told is what the machine
replies. -/
theorem after_reacts (hs : s.world.Owned) (r : RollId) (ms : List Move) :
    (s.after ms).world.content r = (s.world.content r).after (s.deeds r ms) ∧
      List.Forall₂ Reply.Meets ((s.world.content r).replies (s.deeds r ms)) (s.tolds r ms) := by
  induction ms generalizing s with
  | nil => exact ⟨rfl, .nil⟩
  | cons m ms ih =>
    obtain ⟨hcontent, hmeets⟩ := move_reacts hs r m
    obtain ⟨hafter, hrest⟩ := ih (owned_move hs m)
    rw [hcontent] at hafter hrest
    exact ⟨hafter, .cons hmeets hrest⟩

/-! ### Failures -/

/-- A move that is told something made a request to the roll. -/
theorem exists_of_told {told : Except Fault Shown} (h : s.told? r m = some told) :
    ∃ asked verb args, asked.rollId? = some r ∧ s.deed r m = s.world.given asked verb args ∧
      told = (Act.ask asked verb args).told s.world := by
  unfold told? at h
  unfold deed
  cases hrequest : s.request? m with
  | none => rw [hrequest] at h; cases h
  | some request =>
    obtain ⟨asked, verb, args⟩ := request
    rw [hrequest] at h
    dsimp only at h ⊢
    by_cases hasked : asked.rollId? = some r
    · rw [if_pos hasked] at h ⊢
      exact ⟨asked, verb, args, hasked, rfl, (Option.some.inj h).symm⟩
    · rw [if_neg hasked] at h
      cases h

/-- **What fails leaves the content as it was.** Either the roll refused storage, or the fault is
plain, or the request was for something that is no content. -/
theorem failure_cases (hs : s.world.Owned) {fault : Fault}
    (htold : s.told? r m = some (.error fault)) :
    (s.move m).world.content r = s.world.content r ∧
      (s.deed r m = .refused fault ∧ (s.world.roll r).Refuses fault ∨
        fault.IsPlain ∨
        ∃ access order, s.deed r m = .asked access order ∧ order.isTold = false) := by
  rw [(move_reacts hs r m).1]
  obtain ⟨asked, verb, args, hasked, hdeed, hsame⟩ := exists_of_told htold
  rw [hdeed]
  rcases Act.given_cases hs hasked verb args with ⟨hgiven, hobeys⟩ | ⟨fault', hgiven, hrefused⟩
  · have htells := hobeys.tells
    rw [← hsame] at htells
    rw [hgiven]
    show ((s.world.content r).obey asked.access (s.world.order verb args)).2 = _ ∧ _
    -- the content itself may refuse the order, or it obeys and shows something
    cases houtcome : (s.world.content r).outcome asked.access (s.world.order verb args) with
    | error fault' =>
      rw [Content.obey_of_error houtcome] at htells ⊢
      cases htells
      exact ⟨rfl, .inr (.inl (Content.isPlain_of_outcome houtcome))⟩
    | ok done =>
      rw [Content.obey_of_ok houtcome] at htells ⊢
      cases horder : (s.world.order verb args).isTold with
      | true =>
        -- an order that is told shows a value, and this move failed
        obtain ⟨x, hx⟩ := Content.shows_of_outcome houtcome horder
        rw [hx] at htells
        cases htells
      | false =>
        obtain rfl := Content.same_of_outcome houtcome horder
        exact ⟨rfl, .inr (.inr ⟨_, _, rfl, horder⟩)⟩
  · have htells := hrefused.told_eq
    rw [← hsame] at htells
    cases htells
    rw [hgiven]
    exact ⟨rfl, .inl ⟨rfl, hrefused.refuses⟩⟩

/-! ### Walks -/

/-- A walk that a move keeps has all texts of the roll before it. -/
theorem walk_started (hs : s.world.Owned) {target name : String} {asked : Value}
    (htarget : s.register target = .ok asked) (hasked : asked.rollId? = some r) :
    let started := s.move (.call (.ask target .walk []) (some name))
    ∃ k, started.register name = .ok (.walk k) ∧
      started.world.WalksOver k r (s.world.content r).texts := by
  intro started
  obtain ⟨walk, w, hrun, -, hover⟩ := Act.walksOver_started hs hasked
  have hperform : ((Call.ask target .walk []).perform s).run s.world
      = .ok (asked, .draft (.walk walk)) w := by
    rw [run_perform_ask htarget rfl, hrun]
  refine ⟨(w.addWalk walk).1, register_move_call hperform, ?_⟩
  have hworld : started.world = (w.addWalk walk).2 := by
    show (s.move (.call (.ask target .walk []) (some name))).world = _
    rw [world_move_call, hperform]
    rfl
  rw [hworld]
  exact hover

/-! ### The main statement -/

/-- **A roll behaves like the machine whose states are texts and a cursor.** In every reachable
session this holds of every roll, and of whatever moves come after. -/
theorem content_refines (hs : s.Reachable) (r : RollId) :
    -- over any moves the content changes as the machine says, and what is told is what it replies
    (∀ ms : List Move,
      (s.after ms).world.content r = (s.world.content r).after (s.deeds r ms) ∧
        List.Forall₂ Reply.Meets ((s.world.content r).replies (s.deeds r ms)) (s.tolds r ms)) ∧
    -- so rolls with the same content stay alike, whatever else is different
    (∀ (s' : Session) (r' : RollId) (ms ms' : List Move), s'.Reachable →
      s'.world.content r' = s.world.content r → s'.deeds r' ms' = s.deeds r ms →
      (s'.after ms').world.content r' = (s.after ms).world.content r ∧
        List.Forall₂ Reply.Meets ((s.world.content r).replies (s.deeds r ms)) (s'.tolds r' ms')) ∧
    -- what fails changes nothing, and unless storage is refused it is told in the same words
    (∀ (m : Move) (fault : Fault), s.told? r m = some (.error fault) →
      (s.move m).world.content r = s.world.content r ∧
        (s.deed r m = .refused fault ∧ (s.world.roll r).Refuses fault ∨ fault.IsPlain ∨
          ∃ access order, s.deed r m = .asked access order ∧ order.isTold = false)) ∧
    -- through a bookmark just taken, or in an editing block, only the text at the cursor changes
    (∀ (taken kept : Mark) (m : Bookmark) (w : World),
      (Act.ask (.roll r) .bookmark []).run s.world = .ok (.value (.bookmark taken m)) w →
      w = s.world ∧ s.world.Rewrites r (.bookmark kept m) (s.world.content r).index) ∧
    (((s.world.content r).texts = [] ∧
        (Act.currentBuffer r).run s.world = .error (.emptyRoll (.ofText "current_ref")) s.world) ∨
      ∃ b, (Act.currentBuffer r).run s.world = .ok b s.world ∧
        s.world.Rewrites r (.buffer b) (s.world.content r).index) ∧
    -- rolls are compared by their texts, and are equal to nothing else
    (∀ (v u : Value) (r' : RollId), v.rollId? = some r → u.rollId? = some r' →
      (Act.serve .equal [v, u]).told s.world
          = .ok (.bool ((s.world.content r).texts == (s.world.content r').texts)) ∧
        (Act.serve .unequal [v, u]).told s.world
          = .ok (.bool !((s.world.content r).texts == (s.world.content r').texts))) ∧
    (∀ v u : Value, v.rollId? = some r → u.rollId? = none →
      (Act.serve .equal [v, u]).told s.world = .ok (.bool false) ∧
        (Act.serve .equal [u, v]).told s.world = .ok (.bool false)) ∧
    -- a walk that begins has all texts before it, and shows them one by one or all at once
    (∀ (target name : String) (asked : Value), s.register target = .ok asked →
      asked.rollId? = some r →
      let started := s.move (.call (.ask target .walk []) (some name))
      ∃ k, started.register name = .ok (.walk k) ∧
        started.world.WalksOver k r (s.world.content r).texts) ∧
    (∀ (k : WalkId) (rest : List String), s.world.WalksOver k r rest →
      let next := Act.ask (.walk k) .next []
      let others := Act.ask (.walk k) .elements []
      next.told s.world = (match rest with
        | [] => .error .exhausted
        | t :: _ => .ok (.buffer t)) ∧
      (next.worldAfter s.world).content r = s.world.content r ∧
      (next.worldAfter s.world).WalksOver k r rest.tail ∧
      others.told s.world = .ok (.list (rest.map .buffer)) ∧
      (others.worldAfter s.world).content r = s.world.content r ∧
      (others.worldAfter s.world).WalksOver k r []) := by
  have howned := hs.owned
  refine ⟨?_, ?_, ?_, ?_, ?_, ?_, ?_, ?_, ?_⟩
  · intro ms
    exact after_reacts howned r ms
  · intro s' r' ms ms' hs' hcontent hdeeds
    obtain ⟨hafter, hreplies⟩ := after_reacts hs'.owned r' ms'
    rw [hcontent, hdeeds] at hafter hreplies
    exact ⟨hafter.trans (after_reacts howned r ms).1.symm, hreplies⟩
  · intro m fault htold
    exact failure_cases howned htold
  · intro taken kept m w h
    exact Act.rewrites_of_bookmark howned h kept
  · exact Act.lent_cases howned r
  · intro v u r' hv hu
    exact Act.told_equal_rolls howned.wellFormed hv hu
  · intro v u hv hu
    exact Act.told_equal_other hv hu s.world
  · intro target name asked htarget hasked
    exact walk_started howned htarget hasked
  · intro k rest hwalk next others
    obtain ⟨hlist, hcontent, hend⟩ := Act.told_elements howned.wellFormed hwalk
    cases rest with
    | nil =>
      obtain ⟨htold, hsame, hrest⟩ := Act.told_next_nil hwalk
      exact ⟨htold, hsame, hrest, hlist, hcontent, hend⟩
    | cons t rest =>
      obtain ⟨htold, hsame, hrest⟩ := Act.told_next_cons (howned.wellFormed r) hwalk
      exact ⟨htold, hsame, hrest, hlist, hcontent, hend⟩

/-- A roll with two elements goes on to the second one, which is taken out: what is told, and what
is left, is what the machine says. -/
theorem content_refines_removed :
    let s := initial.after
      [.call (.serve .makeRoll []) (some "a"), .call (.ask "a" .add [.text 0 "x"]) none,
        .call (.ask "a" .add [.text 1 "y"]) none]
    let ms : List Move :=
      [.call (.ask "a" .advance []) none, .call (.ask "a" .remove []) none]
    s.Reachable ∧ s.world.content ⟨0⟩ = ⟨["x", "y"], .numeral 0⟩ ∧
      s.deeds ⟨0⟩ ms = [.asked .direct .advance, .asked .direct .remove] ∧
      (s.after ms).world.content ⟨0⟩ = ⟨["x"], .numeral 0⟩ ∧
      List.Forall₂ Reply.Meets [.shows (.bool true), .shows (.buffer "y")] (s.tolds ⟨0⟩ ms) := by
  intro s ms
  have hreachable : s.Reachable := ⟨_, rfl⟩
  have hcontent : s.world.content ⟨0⟩ = ⟨["x", "y"], .numeral 0⟩ := rfl
  have hdeeds : s.deeds ⟨0⟩ ms = [.asked .direct .advance, .asked .direct .remove] := rfl
  obtain ⟨hrun, -⟩ := content_refines hreachable ⟨0⟩
  obtain ⟨hafter, hmeets⟩ := hrun ms
  rw [hcontent, hdeeds] at hafter hmeets
  exact ⟨hreachable, hcontent, hdeeds, hafter, hmeets⟩

end Session

end TextRoll
