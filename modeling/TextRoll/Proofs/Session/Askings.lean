/-
TextRoll/Proofs/Session/Askings.lean

Asking a walk over a roll for its next element.

A walk is moved on by the requests that ask for what is left of it, all at once or one element after
the other, and by no other moves (`leavesWalk_move`).  What comes of asking a lazy walk for its next
element (`Session.asksNext`) depends on how far it has come and on the roll at that moment, not at
an earlier one: `AskedAt` lists the four things that can come of it while the walk goes on, and
`asked_of_walksAt` says that there are no others.  A walk that is finished stays so
(`asked_of_finished`), and asking never changes a roll (`roll_asksNext`, `texts_asksNext`).
-/
import TextRoll.Proofs.Act.LeavingWalks
import TextRoll.Proofs.Session.Refinement
import TextRoll.Proofs.Session.TwoRuns

namespace TextRoll

namespace Roll

variable {α : Type} {l : Roll α}

/-- What the slots of a roll hold: elements first, and nothing behind them. -/
theorem WellFormed.stored_of_length_le (h : l.WellFormed) (wanted : String) {i : Nat}
    (hi : l.length ≤ i) :
    l.stored wanted i
      = if i < l.capacity then .error (.emptySlot wanted) else .error .missingSlot := by
  unfold stored
  split_ifs with hlt
  · rw [h.vacant i hi hlt]
  · rw [List.getElem?_eq_none (Nat.le_of_not_lt hlt)]

end Roll

namespace Act

variable {w : World} {k k' : WalkId} {r : RollId}

/-- A walk is known by its place. -/
theorem next_eq_of_index (h : k'.index = k.index) : next k' = next k := by
  cases k
  cases k'
  cases h
  rfl

/-- A walk that is finished fails, and stays finished. -/
theorem run_next_finished (h : w.walk k = .overRoll r .finished) :
    (next k).run w = .error .exhausted w := by
  unfold next
  rw [EStateM.run_bind, EStateM.run_get]
  dsimp only
  rw [h]
  rfl

end Act

namespace Session

variable {s : Session} {k : WalkId} {r : RollId} {m : Move} {turn bound : Nat} {fault : Fault}

/-- Whether a move asks a walk for its next element. -/
def asksNext (s : Session) (k : WalkId) (m : Move) : Bool :=
  match s.request? m with
  | some (.walk k', .next, []) => k'.index == k.index
  | _ => false

/-- Whether a move goes on along a walk: for its next element, for all that are left, or for one of
those. -/
def movesWalk (s : Session) (k : WalkId) (m : Move) : Bool :=
  match s.request? m with
  | some (asked, verb, args) => Act.movesWalk k asked verb args
  | none => false

/-- What a move is told: what it shows, or why it failed. -/
def hears (s : Session) (m : Move) : Option (Except Fault Shown) :=
  (s.report? m).map fun report => report.outcome.mapError World.Refusal.fault

/-- Whether a move fails. -/
def fails (s : Session) (m : Move) : Bool :=
  match s.hears m with
  | some (.error _) => true
  | _ => false

/-! ### Moves that leave a walk -/

theorem leavesWalk_perform {c : Call} {keep : Option String}
    (h : s.movesWalk k (.call c keep) = false) : Act.LeavesWalk k (c.perform s) := by
  cases c with
  | ask target verb args =>
    show Act.LeavesWalk k (MonadExcept.ofExcept (s.register target) >>= fun asked =>
      MonadExcept.ofExcept (s.resolveItems args) >>= fun vs =>
        Act.ask asked verb vs >>= fun answer => pure (asked, answer))
    cases htarget : s.register target with
    | error fault => exact .throw fault
    | ok asked =>
      cases hargs : s.resolveItems args with
      | error fault => exact .throw fault
      | ok vs =>
        have hask : Act.movesWalk k asked verb vs = false := by
          have hrequest : s.request? (.call (.ask target verb args) keep) = _ :=
            request?_ask htarget hargs
          unfold movesWalk at h
          rwa [hrequest] at h
        show Act.LeavesWalk k (Act.ask asked verb vs >>= fun answer => pure (asked, answer))
        exact (Act.leavesWalk_ask hask).bind fun _ => .pure _
  | serve service args =>
    exact .ofExcept_bind fun vs => (Act.leavesWalk_serve service vs).bind fun _ => .pure _
  | identify x y => exact .ofExcept_bind fun _ => .ofExcept_bind fun _ => .pure _
  | configure lenient fields => exact .ofExcept_bind fun _ => .ofExcept_bind fun _ => .pure _

/-- Lending out the current element of a roll moves no walk on. -/
theorem leavesWalk_currentBuffer (r : RollId) : Act.LeavesWalk k (Act.currentBuffer r) :=
  .roll_bind fun _ => .ofExcept_bind fun _ => Act.leavesWalk_followTo _ _

/-- **Only what is asked of a walk moves it on.** -/
theorem leavesWalk_move (h : s.movesWalk k m = false) : s.world.LeavesWalk k (s.move m).world := by
  cases m with
  | call c keep =>
    have hperform := leavesWalk_perform h
    rw [world_move_call]
    cases hrun : (c.perform s).run s.world with
    | error fault w => exact hperform.error hrun
    | ok result w =>
      have hw := hperform.ok hrun
      cases keep with
      | none => exact hw
      | some name => exact hw.trans (w.leavesWalk_adopt k result.1 result.2)
  | enter scope keep =>
    cases henter : s.enter scope keep with
    | error fault =>
      rw [move_enter_error henter]
      exact .refl _ k
    | ok inside =>
      rw [move_enter henter]
      replace henter := enter_eq_ok henter
      cases scope with
      | policy p =>
        obtain ⟨v, -, rfl⟩ := henter
        exact World.leavesWalk_of_walks_eq rfl
      | profiled =>
        obtain rfl : inside = _ := henter
        cases keep <;> exact World.leavesWalk_of_walks_eq rfl
      | separate =>
        obtain rfl : inside = _ := henter
        exact World.leavesWalk_of_walks_eq rfl
      | editing target =>
        obtain ⟨mark, r, b, w, -, hrun, rfl⟩ := henter
        rw [world_keep]
        exact (leavesWalk_currentBuffer r).ok hrun
  | leave scope before => cases scope <;> exact World.leavesWalk_of_walks_eq rfl
  | finish keep =>
    show s.world.LeavesWalk k (s.keep keep .null).world
    rw [world_keep]
    exact .refl _ k

/-! ### What an asking comes to -/

theorem hears_of_ok {c : Call} {keep : Option String} {asked : Value} {answer : Answer} {w : World}
    (hrun : (c.perform s).run s.world = .ok (asked, answer) w) :
    s.hears (.call c keep) = some (.ok (w.shownAnswer answer)) := by
  show some ((c.run keep s).1.outcome.mapError World.Refusal.fault) = _
  rw [run_call_ok hrun]
  rfl

/-- A call that fails is told its fault, or that this cannot be put into words. -/
theorem hears_of_fault {c : Call} {keep : Option String} {w : World}
    (hrun : (c.perform s).run s.world = .error fault w) :
    s.hears (.call c keep) = some (.error (w.refusal fault).fault) := by
  show some ((c.run keep s).1.outcome.mapError World.Refusal.fault) = _
  rw [run_call_error hrun]
  rfl

theorem hears_of_error {c : Call} {keep : Option String} {w : World}
    (hrun : (c.perform s).run s.world = .error fault w) (hplain : fault.mentioned = []) :
    s.hears (.call c keep) = some (.error fault) := by
  rw [hears_of_fault hrun, Fault.fault_refusal, hplain]
  rfl

/-- A move that makes a request is a call that does what the request does. -/
theorem run_request {asked : Value} {verb : Verb} {args : List Value}
    (h : s.request? m = some (asked, verb, args)) :
    ∃ c keep, m = .call c keep ∧ (c.perform s).run s.world
      = match (Act.ask asked verb args).run s.world with
        | .ok answer w => .ok (asked, answer) w
        | .error fault w => .error fault w := by
  cases m with
  | enter | leave | finish => cases h
  | call c keep =>
    obtain ⟨target, operands, rfl, htarget, hargs⟩ := request?_eq_some h
    exact ⟨_, keep, rfl, run_perform_ask htarget hargs s.world⟩

/-- What a request is told that succeeds. -/
theorem hears_of_request {asked : Value} {verb : Verb} {args : List Value} {answer : Answer}
    {w : World} (h : s.request? m = some (asked, verb, args))
    (hrun : (Act.ask asked verb args).run s.world = .ok answer w) :
    s.hears m = some (.ok (w.shownAnswer answer)) := by
  obtain ⟨c, keep, rfl, hperform⟩ := run_request h
  rw [hrun] at hperform
  exact hears_of_ok hperform

/-- What is told of a request is heard. -/
theorem hears_of_told {asked : Value} {verb : Verb} {args : List Value} {shown : Shown}
    (h : s.request? m = some (asked, verb, args))
    (htold : (Act.ask asked verb args).told s.world = .ok shown) :
    s.hears m = some (.ok shown) := by
  unfold Act.told at htold
  cases hrun : (Act.ask asked verb args).run s.world with
  | error fault w => rw [hrun] at htold; cases htold
  | ok answer w =>
    rw [hrun] at htold
    cases htold
    exact hears_of_request h hrun

/-- What a request is told that fails, if the fault can be put into words. -/
theorem hears_of_request_error {asked : Value} {verb : Verb} {args : List Value} {w : World}
    (h : s.request? m = some (asked, verb, args))
    (hrun : (Act.ask asked verb args).run s.world = .error fault w)
    (hplain : fault.mentioned = []) : s.hears m = some (.error fault) := by
  obtain ⟨c, keep, rfl, hperform⟩ := run_request h
  rw [hrun] at hperform
  exact hears_of_error hperform hplain

/-- An asking is a call that does what the walk does for its next element. -/
theorem run_asksNext (h : s.asksNext k m = true) :
    ∃ c keep asked, m = .call c keep ∧ (c.perform s).run s.world
      = match (Act.next k).run s.world with
        | .ok x w => .ok (asked, .item x) w
        | .error fault w => .error fault w := by
  unfold asksNext at h
  split at h
  · next k' hrequest =>
    obtain ⟨c, keep, rfl, hperform⟩ := run_request hrequest
    refine ⟨c, keep, .walk k', rfl, ?_⟩
    have hask : (Act.ask (.walk k') .next []).run s.world
        = EStateM.run (Act.next k' >>= fun x => pure (Answer.item x)) s.world := rfl
    rw [hperform, hask, EStateM.run_bind, Act.next_eq_of_index (eq_of_beq h)]
    cases (Act.next k).run s.world <;> rfl
  · cases h

theorem reads_next (k : WalkId) : Act.Reads Act.Any (Act.next k) :=
  Act.reads_next (fun _ => trivial) k

/-- **Asking for the next element is no event,** whatever comes of it and whether or not it is
kept. -/
theorem occurs_asksNext (hs : s.world.WellFormed) (h : s.asksNext k m = true) :
    s.world.Occurs .still (s.move m).world := by
  obtain ⟨c, keep, asked, rfl, hperform⟩ := run_asksNext h
  have hreads := reads_next k s.world hs
  rw [world_move_call, hperform]
  cases hrun : (Act.next k).run s.world with
  | error fault w => exact (hreads.error hrun).1.occurs
  | ok x w =>
    have hread := hreads.ok hrun
    cases keep with
    | none => exact hread.occurs
    | some name =>
      cases x with
      | value v => exact hread.occurs_of (.still rfl (World.keepsTexts_of_buffers_eq rfl))
      | copy text => exact hread.occurs_of (.still rfl (w.keepsTexts_addBuffer _))

theorem roll_asksNext (hs : s.world.WellFormed) (h : s.asksNext k m = true) (r : RollId) :
    (s.move m).world.roll r = s.world.roll r := by
  cases occurs_asksNext hs h with
  | still hrolls => exact World.roll_of_rolls_eq hrolls r

theorem texts_asksNext (hs : s.world.Owned) (h : s.asksNext k m = true) (r : RollId) :
    (s.move m).world.texts r = s.world.texts r :=
  congrArg Content.texts ((occurs_asksNext hs.wellFormed h).content_of_still hs r)

/-- What is kept of a move is a new buffer, which has this text and is no element. -/
def KeepsNew (s : Session) (m : Move) (text : String) : Prop :=
  ∀ c name, m = .call c (some name) → ∃ b : BufferId,
    (s.move m).register name = .ok (.buffer b) ∧ s.world.buffers.size ≤ b.index ∧
      (s.move m).world.text b = text ∧ ∀ r, b ∉ (s.move m).world.elements r

/-- What comes of asking a walk over a roll for its next element when it is the turn of a slot: the
turns are over, the slot has an element, it is empty, or it is not there any more. -/
inductive AskedAt (s : Session) (m : Move) (k : WalkId) (r : RollId) (turn bound : Nat) : Prop
  | finished (hover : bound ≤ turn) (hhears : s.hears m = some (.error .exhausted))
      (hwalk : (s.move m).world.walk k = .overRoll r .finished)
  | copied {text : String} (hturn : turn < bound) (htext : (s.world.texts r)[turn]? = some text)
      (hhears : s.hears m = some (.ok (.buffer text))) (hnew : s.KeepsNew m text)
      (hwalk : (s.move m).world.walk k = .overRoll r (.running (turn + 1) bound))
  | empty (hturn : turn < bound) (hlength : (s.world.roll r).length ≤ turn)
      (hcapacity : turn < (s.world.roll r).capacity)
      (hhears : s.hears m = some (.error (.emptySlot "copy")))
      (hwalk : (s.move m).world.walk k = .overRoll r .finished)
  | missing (hturn : turn < bound) (hcapacity : (s.world.roll r).capacity ≤ turn)
      (hhears : s.hears m = some (.error .missingSlot))
      (hwalk : (s.move m).world.walk k = .overRoll r .finished)

/-- A walk that fails tells why, and is what it was left as. -/
theorem asked_of_error (h : s.asksNext k m = true) {w : World}
    (hrun : (Act.next k).run s.world = .error fault w) (hplain : fault.mentioned = []) :
    s.hears m = some (.error fault) ∧ (s.move m).world.walk k = w.walk k := by
  obtain ⟨c, keep, asked, rfl, hperform⟩ := run_asksNext h
  rw [hrun] at hperform
  refine ⟨hears_of_error hperform hplain, ?_⟩
  rw [world_move_call, hperform]

/-- What is kept of a copy is a buffer that had no place before and is no element. -/
theorem kept_of_copy (hs : s.world.Owned) {c : Call} {asked : Value} {text : Text} {w : World}
    (hperform : (c.perform s).run s.world = .ok (asked, .copy text) w)
    (hread : s.world.Undisturbed w) (name : String) :
    ∃ b : BufferId, (s.move (.call c (some name))).register name = .ok (.buffer b) ∧
      s.world.buffers.size ≤ b.index ∧
      (s.move (.call c (some name))).world.text b = text.content ∧
      (s.move (.call c (some name))).world.Loose b := by
  have hworld : (s.move (.call c (some name))).world = w.addBuffer (Buffer.ofText text) := by
    rw [world_move_call, hperform]
    rfl
  refine ⟨w.freeBuffer, register_move_call hperform, hread.size_le, ?_, ?_, fun r hmem => ?_⟩
  · rw [hworld]
    exact (World.text_of_issue rfl).trans (Buffer.text_ofText text)
  · rw [hworld]
    show w.buffers.size < (w.buffers.issue _).size
    rw [Arena.size_issue]
    exact Nat.lt_succ_self _
  · -- every element had a place before
    rw [hworld] at hmem
    have hroll : (w.addBuffer (Buffer.ofText text)).roll r = s.world.roll r := hread.roll_eq r
    rw [World.elements_of_roll_eq hroll] at hmem
    exact absurd (hs.issued r _ hmem) (Nat.not_lt.mpr hread.size_le)

theorem keepsNew_of_copy (hs : s.world.Owned) {c : Call} {asked : Value} {text : Text} {w : World}
    (hperform : (c.perform s).run s.world = .ok (asked, .copy text) w)
    (hread : s.world.Undisturbed w) (keep : Option String) :
    s.KeepsNew (.call c keep) text.content := by
  intro c' name hm
  cases hm
  obtain ⟨b, hregister, hle, htext, hloose⟩ := kept_of_copy hs hperform hread name
  exact ⟨b, hregister, hle, htext, hloose.not_mem⟩

/-- A walk that hands out a copy shows it, and what is kept of it is new. -/
theorem asked_of_copy (hs : s.world.Owned) (h : s.asksNext k m = true) {text : Text} {w : World}
    (hrun : (Act.next k).run s.world = .ok (.copy text) w) :
    s.hears m = some (.ok (.buffer text.content)) ∧ s.KeepsNew m text.content ∧
      (s.move m).world.walk k = w.walk k := by
  have hread := (reads_next k s.world hs.wellFormed).ok hrun
  obtain ⟨c, keep, asked, rfl, hperform⟩ := run_asksNext h
  rw [hrun] at hperform
  refine ⟨hears_of_ok hperform, keepsNew_of_copy hs hperform hread keep, ?_⟩
  rw [world_move_call, hperform]
  cases keep <;> rfl

/-- **Asking a walk that is not finished:** it looks at the slot whose turn it is. -/
theorem asked_of_walksAt (hs : s.world.Owned) (h : s.asksNext k m = true)
    (hwalk : s.world.WalksAt k r turn bound) : s.AskedAt m k r turn bound := by
  have hwell := hs.wellFormed r
  have hnext := Act.run_next hwalk
  have hfinished : (Act.finishedRollWalk s.world k r).walk k = .overRoll r .finished :=
    World.walk_setWalk _ k _
  by_cases hturn : turn < bound
  · by_cases hlength : turn < (s.world.elements r).length
    · rw [Act.run_takeTurn hturn (hwell.layout.stored_eq "copy" hlength)] at hnext
      obtain ⟨hhears, hnew, hwalk'⟩ := asked_of_copy hs h hnext
      have htext : (s.world.texts r)[turn]? = some (s.world.text (s.world.elements r)[turn]) := by
        unfold World.texts
        rw [List.getElem?_map, List.getElem?_eq_getElem hlength]
        rfl
      exact .copied hturn htext hhears hnew (hwalk'.trans (World.walk_setWalk _ k _))
    · have hle : (s.world.roll r).length ≤ turn := hwell.length_elements ▸ Nat.le_of_not_lt hlength
      have hstored := hwell.stored_of_length_le "copy" hle
      by_cases hcapacity : turn < (s.world.roll r).capacity
      · rw [if_pos hcapacity] at hstored
        rw [Act.run_takeTurn_error hturn hstored] at hnext
        obtain ⟨hhears, hwalk'⟩ := asked_of_error h hnext rfl
        exact .empty hturn hle hcapacity hhears (hwalk'.trans hfinished)
      · rw [if_neg hcapacity] at hstored
        rw [Act.run_takeTurn_error hturn hstored] at hnext
        obtain ⟨hhears, hwalk'⟩ := asked_of_error h hnext rfl
        exact .missing hturn (Nat.le_of_not_lt hcapacity) hhears (hwalk'.trans hfinished)
  · have hover := Nat.le_of_not_lt hturn
    rw [Act.run_takeTurn_exhausted hover] at hnext
    obtain ⟨hhears, hwalk'⟩ := asked_of_error h hnext rfl
    exact .finished hover hhears (hwalk'.trans hfinished)

/-- Which of the four things comes of an asking is up to the turn and to the roll. -/
theorem AskedAt.told (h : s.AskedAt m k r turn bound) (hr : (s.world.roll r).WellFormed) :
    (bound ≤ turn → s.hears m = some (.error .exhausted)) ∧
    (turn < bound →
      (turn < (s.world.roll r).length → ∃ text, (s.world.texts r)[turn]? = some text ∧
        s.hears m = some (.ok (.buffer text)) ∧ s.KeepsNew m text) ∧
      ((s.world.roll r).length ≤ turn → turn < (s.world.roll r).capacity →
        s.hears m = some (.error (.emptySlot "copy"))) ∧
      ((s.world.roll r).capacity ≤ turn → s.hears m = some (.error .missingSlot))) := by
  have hroom := hr.length_le
  cases h with
  | finished hover hhears =>
    exact ⟨fun _ => hhears, fun hturn => absurd hover (Nat.not_le.mpr hturn)⟩
  | copied hturn htext hhears hnew =>
    have hlt : turn < (s.world.roll r).length :=
      World.length_texts hr ▸ (List.getElem?_eq_some_iff.mp htext).1
    exact ⟨fun hover => absurd hover (Nat.not_le.mpr hturn), fun _ =>
      ⟨fun _ => ⟨_, htext, hhears, hnew⟩, fun hle => absurd hle (Nat.not_le.mpr hlt),
        fun hle => absurd hle (by omega)⟩⟩
  | empty hturn hle hlt hhears =>
    exact ⟨fun hover => absurd hover (Nat.not_le.mpr hturn), fun _ =>
      ⟨fun h => absurd hle (Nat.not_le.mpr h), fun _ _ => hhears,
        fun h => absurd h (Nat.not_le.mpr hlt)⟩⟩
  | missing hturn hle hhears =>
    exact ⟨fun hover => absurd hover (Nat.not_le.mpr hturn), fun _ =>
      ⟨fun h => absurd hle (by omega), fun _ h => absurd hle (Nat.not_le.mpr h),
        fun _ => hhears⟩⟩

/-- **Asking a walk that is finished** fails in the same way ever after. -/
theorem asked_of_finished (h : s.asksNext k m = true)
    (hwalk : s.world.walk k = .overRoll r .finished) :
    s.hears m = some (.error .exhausted) ∧ (s.move m).world.walk k = .overRoll r .finished := by
  obtain ⟨hhears, hwalk'⟩ := asked_of_error h (Act.run_next_finished hwalk) rfl
  exact ⟨hhears, hwalk'.trans hwalk⟩

end Session

end TextRoll
