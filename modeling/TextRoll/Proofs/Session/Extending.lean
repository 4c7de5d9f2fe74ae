/-
TextRoll/Proofs/Session/Extending.lean

Extending a buffer is all or nothing.

A buffer can be extended by anything, be it a list, a roll, a walk that has come halfway, or a value
that has no elements at all.  What is to be added is found by iterating over it
(`World.Iterates`), and three things can come of that (`Session.Extended`): all elements are texts,
and it is as if they were appended one after the other; one of them is no text, and the first such
is complained about; or the iterating is cut short, and the extension fails in the same way.  In
the last two cases the buffer is left as it was, however many texts came before.

Either way a walk that was given is walked to its end before anything is added, so from then on it
is exhausted (`isOver_after`).
-/
import TextRoll.Proofs.Act.Exhausting
import TextRoll.Proofs.Session.Writings

namespace TextRoll

namespace Item

/-- Items that are all texts. -/
theorem eq_map_of_mapM_text? {xs : List Item} {ts : List Text} (h : xs.mapM text? = some ts) :
    xs = ts.map fun t => .value (.text t) := by
  induction xs generalizing ts with
  | nil =>
    cases h
    rfl
  | cons x xs ih =>
    rw [List.mapM_cons] at h
    obtain ⟨t, hx, h⟩ := Option.bind_eq_some_iff.mp h
    obtain ⟨rest, hxs, h⟩ := Option.bind_eq_some_iff.mp h
    cases h
    rw [List.map_cons, ← ih hxs]
    rcases x with v | text
    · cases v <;> cases hx
      rfl
    · cases hx

end Item

namespace Act

variable {w w' : World} {b : BufferId} {v : Value} {k : WalkId} {xs : List Item}

/-- Extending a buffer reads the elements, and then at most changes the buffer. -/
theorem worldAfter_extend (b : BufferId) (v : Value) (w : World) :
    (askBuffer b .extend [v]).worldAfter w = (elements v).worldAfter w ∨
      ∃ x, (askBuffer b .extend [v]).worldAfter w = ((elements v).worldAfter w).setBuffer b x := by
  have hrun := run_extend b v w
  cases helements : (elements v).run w with
  | error fault w' =>
    rw [helements] at hrun
    rw [worldAfter_of_error hrun, worldAfter_of_error helements]
    exact .inl rfl
  | ok xs w' =>
    rw [helements] at hrun
    dsimp only at hrun
    rw [worldAfter_of_ok helements]
    cases hpieces : xs.mapM (Item.asText "extend") with
    | ok ts =>
      rw [hpieces] at hrun
      exact .inr ⟨_, worldAfter_of_ok hrun⟩
    | error fault =>
      rw [hpieces] at hrun
      exact .inl (worldAfter_of_error hrun)

/-- Who extends is handed back what was asked. -/
theorem answer_extend {answer : Answer} (h : (askBuffer b .extend [v]).run w = .ok answer w') :
    answer = .itself := by
  rw [run_extend] at h
  split at h
  · cases h
  · split at h
    · cases h
      rfl
    · cases h

theorem rolls_extend (hw : w.WellFormed) (b : BufferId) (v : Value) :
    ((askBuffer b .extend [v]).worldAfter w).rolls = w.rolls := by
  have hread := undisturbed_elements hw v
  rcases worldAfter_extend b v w with heq | ⟨x, heq⟩
  · rw [heq]
    exact hread.rolls_eq
  · rw [heq]
    exact hread.rolls_eq

/-- **A walk that a buffer was extended by is over,** whatever came of it. -/
theorem isOver_extend (b : BufferId) (k : WalkId) (w : World) :
    ((askBuffer b .extend [.walk k]).worldAfter w).IsOver k := by
  have hover := isOver_drain k w
  rcases worldAfter_extend b (.walk k) w with heq | ⟨x, heq⟩
  · rw [heq]
    exact hover
  · rw [heq]
    exact hover

/-- The elements of rolls are no texts, whichever way they are handed out: they are copies. -/
theorem text?_of_copies (hcopies : w.asksForCopies v .elements = true)
    (hrun : (elements v).run w = .ok xs w') {x : Item} (hx : x ∈ xs) : x.text? = none := by
  have hask : (ask v .elements []).run w = .ok (.items xs) w' := by
    have heq : ask v .elements [] = elements v >>= fun xs => pure (.items xs) := by
      cases v with
      | roll | guarded | walk => rfl
      | _ => cases hcopies
    rw [heq]
    exact run_bind_ok _ hrun
  rcases ask_copies hcopies hask with ⟨text, h⟩ | ⟨texts, h⟩
  · cases h
  · cases h
    obtain ⟨text, -, rfl⟩ := List.mem_map.mp hx
    rfl

end Act

namespace Session

variable {s : Session} {m : Move} {ms : List Move} {b : BufferId} {v : Value} {k : WalkId}
  {name : String} {xs : List Item} {fault : Fault}

/-! ### Walks that are over -/

theorem isOver_move (h : s.world.IsOver k) (m : Move) : (s.move m).world.IsOver k := by
  by_cases hmoves : s.movesWalk k m = true
  · cases hrequest : s.request? m with
    | none =>
      unfold movesWalk at hmoves
      rw [hrequest] at hmoves
      cases hmoves
    | some request =>
      obtain ⟨asked, verb, args⟩ := request
      have hover := Act.isOver_ask h asked verb args
      obtain ⟨c, keep, rfl, hperform⟩ := run_request hrequest
      rw [world_move_call, hperform]
      cases hrun : (Act.ask asked verb args).run s.world with
      | error fault w => rwa [Act.worldAfter_of_error hrun] at hover
      | ok answer w =>
        rw [Act.worldAfter_of_ok hrun] at hover
        cases keep with
        | none => exact hover
        | some name => exact hover.of_leaves (w.leavesWalk_adopt k asked answer)
  · exact h.of_leaves (leavesWalk_move (Bool.eq_false_iff.mpr hmoves))

/-- **A walk that is over stays over,** whatever moves are made. -/
theorem isOver_after (h : s.world.IsOver k) (ms : List Move) : (s.after ms).world.IsOver k := by
  induction ms generalizing s with
  | nil => exact h
  | cons m ms ih => exact ih (isOver_move h m)

theorem hears_of_isOver (h : s.world.IsOver k) (hasks : s.asksNext k m = true) :
    s.hears m = some (.error .exhausted) :=
  (asked_of_error hasks (Act.run_next_of_isOver h.1) rfl).1

/-! ### One after the other -/

/-- The move that appends a text to the buffer in a register. -/
def appending (name : String) (t : Text) : Move :=
  .call (.ask name .append [.text 0 t.content]) none

theorem request?_appending (hname : s.register name = .ok (.buffer b)) (t : Text) :
    s.request? (appending name t)
      = some (.buffer b, .append, [.text (.marked t.content (.written 0))]) :=
  request?_ask hname rfl

theorem register_appending (name : String) (t : Text) (s : Session) :
    (s.move (appending name t)).register name = s.register name := by
  have hkeeps : none ≠ some name := by simp
  exact register_run_call_of_ne hkeeps _ s

theorem rolls_appending (hname : s.register name = .ok (.buffer b)) (t : Text) :
    (s.move (appending name t)).world.rolls = s.world.rolls := by
  obtain ⟨c, keep, heq, hperform⟩ := run_request (request?_appending hname t)
  cases heq
  show (s.move (.call _ none)).world.rolls = _
  rw [world_move_call, hperform]
  rfl

/-- Appending some texts adds them to this buffer and does nothing else. -/
theorem editsAlong_appendings (hname : s.register name = .ok (.buffer b)) (b' : BufferId)
    (ts : List Text) :
    s.editsAlong b' (ts.map (appending name))
      = if b' = b then ts.map fun t => .added t.content else [] := by
  induction ts generalizing s with
  | nil => simp [editsAlong]
  | cons t ts ih =>
    have hrest := ih ((register_appending name t s).trans hname)
    show s.edits b' _ ++ (s.move _).editsAlong b' _ = _
    rw [edits_of_buffer (request?_appending hname t), hrest]
    split
    · rfl
    · rfl

theorem rolls_appendings (hname : s.register name = .ok (.buffer b)) (ts : List Text) :
    (s.after (ts.map (appending name))).world.rolls = s.world.rolls := by
  induction ts generalizing s with
  | nil => rfl
  | cons t ts ih =>
    exact (ih ((register_appending name t s).trans hname)).trans (rolls_appending hname t)

/-! ### Extending -/

/-- What is handed back is what was asked, so keeping it makes nothing new. -/
theorem world_extend (hm : s.request? m = some (.buffer b, .extend, [v])) :
    (s.move m).world = (Act.askBuffer b .extend [v]).worldAfter s.world := by
  obtain ⟨c, keep, rfl, hperform⟩ := run_request hm
  rw [world_move_call, hperform]
  cases hrun : (Act.ask (.buffer b) .extend [v]).run s.world with
  | error fault w => exact (Act.worldAfter_of_error hrun).symm
  | ok answer w =>
    obtain rfl := Act.answer_extend hrun
    refine Eq.trans ?_ (Act.worldAfter_of_ok hrun).symm
    cases keep <;> rfl

theorem edits_extend (hm : s.request? m = some (.buffer b, .extend, [v])) (b' : BufferId) :
    s.edits b' m
      = if b' = b then ((s.world.pieces? v).getD []).map fun t => .added t.content else [] :=
  edits_of_buffer hm b'

/-- What is kept of an extension is the buffer itself. -/
theorem register_extend (hm : s.request? m = some (.buffer b, .extend, [v])) {w : World}
    (hrun : (Act.ask (.buffer b) .extend [v]).run s.world = .ok .itself w) {c : Call}
    (hcall : m = .call c (some name)) : (s.move m).register name = .ok (.buffer b) := by
  obtain ⟨c', keep, rfl, hperform⟩ := run_request hm
  cases hcall
  rw [hrun] at hperform
  exact register_move_call hperform

/-- **Adding all at once is adding one after the other.** -/
theorem same_appendings (hs : s.world.Owned) (hm : s.request? m = some (.buffer b, .extend, [v]))
    {ts : List Text} (hpieces : s.world.pieces? v = some ts)
    (hname : s.register name = .ok (.buffer b)) :
    let appended := s.after (ts.map (appending name))
    (s.move m).world.rolls = appended.world.rolls ∧
      ∀ b' : BufferId, b'.index < s.world.buffers.size →
        (s.move m).world.text b' = appended.world.text b' := by
  intro appended
  constructor
  · rw [world_extend hm, Act.rolls_extend hs.wellFormed]
    exact (rolls_appendings hname ts).symm
  · intro b' hb'
    have hedits : s.edits b' m = s.editsAlong b' (ts.map (appending name)) := by
      rw [edits_extend hm, editsAlong_appendings hname, hpieces]
      rfl
    rw [text_move hs hb' m, hedits]
    exact (text_after hs hb' _).symm

/-- What comes of extending a buffer by a value, if iterating over that hands out some elements
before it ends with a fault: they are appended, or one of them is no text, or they are not all. -/
inductive Extended (s : Session) (m : Move) (b : BufferId) (v : Value) (xs : List Item)
    (fault : Fault) : Prop
  /-- It is as if they were appended one after the other. -/
  | appended {ts : List Text} (hfault : fault = .exhausted)
      (hxs : xs = ts.map fun t => .value (.text t)) (hhears : s.hears m = some (.ok .itself))
      (hkept : ∀ c name, m = .call c (some name) → (s.move m).register name = .ok (.buffer b))
      (htext : (s.move m).world.text b = s.world.text b ++ String.join (ts.map Text.content))
      (hsame : ∀ name, s.register name = .ok (.buffer b) →
        let appended := s.after (ts.map (appending name))
        (s.move m).world.rolls = appended.world.rolls ∧
          ∀ b' : BufferId, b'.index < s.world.buffers.size →
            (s.move m).world.text b' = appended.world.text b')
  /-- The first one that is no text is complained about. -/
  | refused {before later : List Item} {x : Item} (hfault : fault = .exhausted)
      (hxs : xs = before ++ x :: later) (hbefore : ∀ y ∈ before, y.text?.isSome)
      (hx : x.text? = none)
      (hhears : s.hears m = some (.error (.textExpected Verb.extend.name x.kind)))
      (htext : (s.move m).world.text b = s.world.text b)
  /-- The fault that ended the iterating is passed on. -/
  | cutShort (hfault : Act.CutShort v fault) (hhears : s.hears m = some (.error fault))
      (htext : (s.move m).world.text b = s.world.text b)

/-- **Extending comes to what iterating over the value says.** -/
theorem extended_of_iterates (hs : s.world.Owned)
    (hm : s.request? m = some (.buffer b, .extend, [v])) (h : s.world.Iterates v xs fault) :
    s.Extended m b v xs fault := by
  have htext : (s.move m).world.text b = Edit.applyAll (s.world.text b)
      (((s.world.pieces? v).getD []).map fun t => .added t.content) :=
    world_extend hm ▸ Act.text_extend hs.wellFormed b v
  have hrun : (Act.ask (.buffer b) .extend [v]).run s.world = _ := Act.run_extend b v s.world
  rcases Act.readsItems_of_iterates hs.wellFormed h with ⟨rfl, w, hall⟩ | ⟨hfault, w, hno⟩
  · have hpieces := World.pieces?_of_ok hall
    rw [hall] at hrun
    dsimp only at hrun
    rcases Item.mapM_asText_cases "extend" xs with
      ⟨ts, htexts, hadded⟩ | ⟨hnone, before, x, later, hxs, hbefore, hx, hno⟩
    · rw [htexts] at hpieces
      rw [hadded] at hrun
      rw [hpieces] at htext
      have hadds := Edit.applyAll_map_added (s.world.text b) (ts.map Text.content)
      rw [List.map_map] at hadds
      exact .appended rfl (Item.eq_map_of_mapM_text? htexts) (hears_of_request hm hrun)
        (fun c name hcall => register_extend hm hrun hcall) (htext.trans hadds)
        (fun name hname => same_appendings hs hm hpieces hname)
    · rw [hno] at hrun
      rw [hpieces, hnone] at htext
      exact .refused rfl hxs hbefore hx (hears_of_request_error hm hrun rfl) htext
  · rw [hno] at hrun
    rw [World.pieces?_of_error hno] at htext
    exact .cutShort hfault (hears_of_request_error hm hrun hfault.plain) htext

/-- Copies are not texts, so nothing is written if a buffer is to be extended by elements of a
roll. -/
theorem edits_extend_copies (hs : s.world.Owned)
    (hm : s.request? m = some (.buffer b, .extend, [v]))
    (hcopies : s.world.asksForCopies v .elements = true) (b' : BufferId) : s.edits b' m = [] := by
  have hnone : (s.world.pieces? v).getD [] = [] := by
    obtain ⟨xs, fault, hiterates, -⟩ := Act.exists_iterates hs.wellFormed v
    rcases Act.readsItems_of_iterates hs.wellFormed hiterates with ⟨-, w, hall⟩ | ⟨-, w, hno⟩
    · rw [World.pieces?_of_ok hall]
      cases xs with
      | nil => rfl
      | cons x xs =>
        have hx := Act.text?_of_copies hcopies hall List.mem_cons_self
        simp [List.mapM_cons, hx]
    · rw [World.pieces?_of_error hno]
      rfl
  rw [edits_extend hm, hnone]
  simp

/-- **Extending a buffer is all or nothing,** and a walk that it is extended by is exhausted
afterwards, whatever comes of it. -/
theorem extensions_atomic (hs : s.Reachable)
    (hm : s.request? m = some (.buffer b, .extend, [v])) :
    -- iterating over the value comes to one thing only, and the extension follows from that
    (∃ xs fault, s.world.Iterates v xs fault ∧
      (∀ ys fault', s.world.Iterates v ys fault' → ys = xs ∧ fault' = fault) ∧
      s.Extended m b v xs fault) ∧
    -- all rolls have the same elements, and all other buffers the same texts
    (s.move m).world.rolls = s.world.rolls ∧
    (∀ b' : BufferId, b' ≠ b → b'.index < s.world.buffers.size →
      (s.move m).world.text b' = s.world.text b') ∧
    -- if the elements of a roll were to be added, no text in any roll is changed
    (s.world.asksForCopies v .elements = true →
      ∀ r, (s.move m).world.content r = s.world.content r) ∧
    -- a walk that was given hands out nothing ever after
    ∀ k, v = .walk k → ∀ ms m', ((s.move m).after ms).asksNext k m' = true →
      ((s.move m).after ms).hears m' = some (.error .exhausted) := by
  have howned := hs.owned
  have hrolls : (s.move m).world.rolls = s.world.rolls := by
    rw [world_extend hm]
    exact Act.rolls_extend howned.wellFormed b v
  refine ⟨?_, hrolls, ?_, ?_, ?_⟩
  · obtain ⟨xs, fault, hiterates, hunique⟩ := Act.exists_iterates howned.wellFormed v
    exact ⟨xs, fault, hiterates, hunique, extended_of_iterates howned hm hiterates⟩
  · intro b' hne hb'
    rw [text_move howned hb' m, edits_extend hm, if_neg hne]
    rfl
  · intro hcopies r
    refine World.content_of_same howned (World.roll_of_rolls_eq hrolls r)
      ⟨size_le_move howned m, ?_⟩
    intro b' hb'
    rw [text_move howned hb' m, edits_extend_copies howned hm hcopies]
    rfl
  · intro k hv ms m' hasks
    subst hv
    have hover : (s.move m).world.IsOver k := by
      rw [world_extend hm]
      exact Act.isOver_extend b k s.world
    exact hears_of_isOver (isOver_after hover ms) hasks

/-- A walk over three texts has handed out the first.  A buffer is extended by the other two, and
then the walk is exhausted, whatever moves come in between. -/
theorem extensions_atomic_halfway :
    let s := initial.after [.call (.serve .makeRoll []) (some "l"),
      .call (.ask "l" .add [.text 0 "x"]) none, .call (.ask "l" .add [.text 1 ""]) none,
      .call (.ask "l" .add [.text 2 "z"]) none, .call (.ask "l" .texts []) (some "t"),
      .call (.ask "t" .walk []) (some "w"), .call (.ask "w" .next []) none,
      .call (.serve .makeBuffer [.text 3 "a"]) (some "b")]
    let m : Move := .call (.ask "b" .extend [.register "w"]) none
    let m' : Move := .call (.ask "w" .next []) none
    let b : BufferId := ⟨3⟩
    let k : WalkId := ⟨0, .items⟩
    s.Reachable ∧ s.request? m = some (.buffer b, .extend, [.walk k]) ∧
      s.hears m = some (.ok .itself) ∧ (s.move m).world.text b = "az" ∧
      (s.move m).world.rolls = s.world.rolls ∧
      ∀ ms, ((s.move m).after ms).asksNext k m' = true →
        ((s.move m).after ms).hears m' = some (.error .exhausted) := by
  intro s m m' b k
  have hreachable : s.Reachable := ⟨_, rfl⟩
  have hm : s.request? m = some (.buffer b, .extend, [.walk k]) := rfl
  obtain ⟨-, hrolls, -, -, hover⟩ := extensions_atomic hreachable hm
  have htext : (s.move m).world.text b = "az" := by decide +kernel
  exact ⟨hreachable, hm, rfl, htext, hrolls, fun ms => hover k rfl ms m'⟩

end Session

end TextRoll
