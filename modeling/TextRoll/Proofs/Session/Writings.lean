/-
TextRoll/Proofs/Session/Writings.lean

Buffers behave like plain texts.

`Session.edits` lists what a move writes to a buffer, and `Session.editsAlong` what a run does.  The
text of the buffer is at any moment what these edits make of the text that it had at first: the
pieces that were added since all were dropped for the last time, joined (`text_after`).  Moves that
only read write nothing, nor do moves that fail (`edits_of_fails`), so it does not matter how
many of them there are, nor that reading leaves the pieces joined.

What a buffer tells is what its text would tell (`Session.ReadsAs`).  This is so because no piece is
ever empty: a buffer without pieces is one without text, however the pieces came about.
-/
import TextRoll.Proofs.Act.Writing
import TextRoll.Proofs.Session.Askings
import TextRoll.Proofs.Session.Turnover
import TextRoll.Proofs.World.Alike

namespace TextRoll

namespace Session

variable {s : Session} {b : BufferId} {m : Move} {ms : List Move}

/-! ### What a move writes -/

/-- The edits that a move makes to a buffer: those of its request, if what is asked stands for the
buffer. -/
def edits (s : Session) (b : BufferId) (m : Move) : List Edit :=
  match s.request? m with
  | some (asked, verb, args) =>
    if s.world.standsFor? asked = some b then s.world.edits asked verb args else []
  | none => []

/-- The edits that some moves make to a buffer, one after the other. -/
def editsAlong (s : Session) (b : BufferId) : List Move → List Edit
  | [] => []
  | m :: ms => s.edits b m ++ (s.move m).editsAlong b ms

theorem edits_of_none (h : s.request? m = none) : s.edits b m = [] := by
  unfold edits
  rw [h]

theorem edits_of_request {asked : Value} {verb : Verb} {args : List Value}
    (h : s.request? m = some (asked, verb, args)) :
    s.edits b m
      = if s.world.standsFor? asked = some b then s.world.edits asked verb args else [] := by
  unfold edits
  rw [h]

/-- A request to a buffer writes to that buffer only. -/
theorem edits_of_buffer {b' : BufferId} {verb : Verb} {args : List Value}
    (h : s.request? m = some (.buffer b', verb, args)) (b : BufferId) :
    s.edits b m = if b = b' then s.world.editsOfBuffer verb args else [] := by
  rw [edits_of_request h]
  by_cases hb : b = b'
  · subst hb
    rw [if_pos rfl]
    exact if_pos rfl
  · have hother : s.world.standsFor? (.buffer b') ≠ some b := fun hsame =>
      hb (Option.some.inj hsame).symm
    rw [if_neg hb, if_neg hother]

/-- No move writes to two buffers. -/
theorem edits_apart {b' : BufferId} (h : b ≠ b') (m : Move) :
    s.edits b m = [] ∨ s.edits b' m = [] := by
  cases hrequest : s.request? m with
  | none => exact .inl (edits_of_none hrequest)
  | some request =>
    rw [edits_of_request hrequest, edits_of_request hrequest]
    by_cases hb : s.world.standsFor? request.1 = some b
    · refine .inr (if_neg fun hb' => h ?_)
      rw [hb] at hb'
      exact Option.some.inj hb'
    · exact .inl (if_neg hb)

/-- **One move:** the text afterwards is the one before with the edits of the move. -/
theorem text_move (hs : s.world.Owned) (hb : b.index < s.world.buffers.size) (m : Move) :
    (s.move m).world.text b = Edit.applyAll (s.world.text b) (s.edits b m) := by
  cases m with
  | enter scope keep => exact (occurs_enter hs.wellFormed scope keep).text_eq hb nofun
  | leave scope before => exact (occurs_leave s scope before).text_eq hb nofun
  | finish keep => exact (occurs_finish s keep).text_eq hb nofun
  | call c keep =>
    -- what is kept of the answer gets a place of its own
    obtain ⟨-, htexts⟩ := content_move_call hs c keep ⟨0⟩
    have hdoes := does_perform s c s.world hs.wellFormed
    cases hrequest : c.request? s with
    | none =>
      rw [hrequest] at hdoes
      obtain ⟨e, rfl, hoccurs⟩ := hdoes.occurs rfl
      have hkept := htexts.text_eq b (Nat.lt_of_lt_of_le hb hoccurs.size_le)
      rw [edits_of_none (m := .call c keep) hrequest, hkept]
      exact hoccurs.text_eq hb nofun
    | some request =>
      obtain ⟨asked, verb, args⟩ := request
      have hsize : s.world.buffers.size ≤ ((c.perform s).worldAfter s.world).buffers.size := by
        rw [worldAfter_perform hrequest]
        exact Act.size_le_ask hs.wellFormed asked verb args
      rw [htexts.text_eq b (Nat.lt_of_lt_of_le hb hsize), worldAfter_perform hrequest,
        edits_of_request (m := .call c keep) hrequest]
      split
      · next hstands => exact Act.text_ask_self hs.wellFormed hb hstands verb args
      · next hstands => exact Act.text_ask_other hs.wellFormed hb hstands verb args

/-- **Any moves:** the text afterwards is the one before with their edits. -/
theorem text_after (hs : s.world.Owned) (hb : b.index < s.world.buffers.size) (ms : List Move) :
    (s.after ms).world.text b = Edit.applyAll (s.world.text b) (s.editsAlong b ms) := by
  induction ms generalizing s with
  | nil => rfl
  | cons m ms ih =>
    have hplaced := Nat.lt_of_lt_of_le hb (size_le_move hs m)
    rw [after_cons, ih (owned_move hs m) hplaced, text_move hs hb m]
    exact (Edit.applyAll_append _ _ _).symm

/-- The text after any moves, by its pieces. -/
theorem join_pieces_after (hs : s.world.Owned) (hb : b.index < s.world.buffers.size) {t : String}
    (ht : s.world.text b = t) (ms : List Move) :
    (s.after ms).world.text b = String.join (Edit.pieces [t] (s.editsAlong b ms)) := by
  rw [text_after hs hb, Edit.join_pieces, ht]
  simp

/-- **What fails writes nothing.** -/
theorem edits_of_fails (h : s.fails m = true) (b : BufferId) : s.edits b m = [] := by
  cases hrequest : s.request? m with
  | none => exact edits_of_none hrequest
  | some request =>
    obtain ⟨asked, verb, args⟩ := request
    rw [edits_of_request hrequest]
    split
    · next hstands =>
      by_contra hedits
      obtain ⟨w, hrun⟩ := Act.run_of_edits hstands hedits
      unfold fails at h
      rw [hears_of_request hrequest hrun] at h
      cases h
    · rfl

/-! ### What a buffer tells -/

/-- What a buffer tells whose text is `t`: the same as that text, whatever it is asked. -/
structure ReadsAs (s : Session) (b : BufferId) (t : String) : Prop where
  built : ∀ m verb, verb ∈ [.build, .written] → s.request? m = some (.buffer b, verb, []) →
    s.hears m = some (.ok (.text t))
  length : ∀ m, s.request? m = some (.buffer b, .length, []) →
    s.hears m = some (.ok (.int t.length))
  truth : ∀ m, s.request? m = some (.buffer b, .truth, []) →
    s.hears m = some (.ok (.bool (decide (t ≠ ""))))
  printed : ∀ m, s.request? m = some (.buffer b, .printed, []) →
    s.hears m = some (.ok (.text (Printed.buffer isUnprintable t)))
  copied : ∀ m, s.request? m = some (.buffer b, .copy, []) → s.hears m = some (.ok (.buffer t))
  /-- It is equal to another buffer or to a text just when that says the same. -/
  compared : ∀ operands keep u y, s.world.textOf? u = some y →
    (s.resolveItems operands = .ok [.buffer b, u] ∨
      s.resolveItems operands = .ok [u, .buffer b]) →
    s.hears (.call (.serve .equal operands) keep) = some (.ok (.bool (decide (t = y)))) ∧
      s.hears (.call (.serve .unequal operands) keep) = some (.ok (.bool (decide (t ≠ y))))
  /-- Whoever writes is handed back what was asked. -/
  written : ∀ m, s.edits b m ≠ [] → s.hears m = some (.ok .itself)
  /-- Only texts can be written. -/
  rejected : ∀ m verb v, verb ∈ [.append, .appendLine] →
    s.request? m = some (.buffer b, verb, [v]) → (∀ u, v ≠ .text u) →
    s.hears m = some (.error (.textExpected verb.name v.kind))

/-- A call to the library succeeds if the request does. -/
theorem run_perform_serve_ok {service : Service} {operands : List Operand} {vs : List Value}
    {answer : Answer} {w : World} (hargs : s.resolveItems operands = .ok vs)
    (hrun : (Act.serve service vs).run s.world = .ok answer w) :
    ((Call.serve service operands).perform s).run s.world = .ok (.null, answer) w := by
  rw [run_perform_serve hargs, hrun]

/-- **A buffer tells what its text would tell.** -/
theorem readsAs_text (s : Session) (b : BufferId) : s.ReadsAs b (s.world.text b) where
  built m verb hverb hrequest := by
    simp only [List.mem_cons, List.not_mem_nil, or_false] at hverb
    rcases hverb with rfl | rfl <;> exact hears_of_request hrequest rfl
  length m hrequest := by
    refine (hears_of_request hrequest rfl).trans ?_
    show some (Except.ok (Shown.int ((s.world.buffer b).length : Nat))) = _
    rw [Buffer.length_eq]
    rfl
  truth m hrequest := by
    refine (hears_of_request hrequest rfl).trans ?_
    show some (Except.ok (Shown.bool !(s.world.buffer b).isEmpty)) = _
    rw [Buffer.isEmpty_eq, ← decide_not]
    rfl
  printed m hrequest := hears_of_request hrequest rfl
  copied m hrequest := hears_of_request hrequest rfl
  compared operands keep u y hu hargs := by
    have hb : s.world.textOf? (.buffer b) = some (s.world.text b) := rfl
    rcases hargs with hargs | hargs
    · obtain ⟨w, hrun, -⟩ := Act.run_equal_texts hb hu
      obtain ⟨hequal, hunequal⟩ := Act.run_serve_equal hrun
      rw [decide_not]
      exact ⟨hears_of_ok (run_perform_serve_ok hargs hequal),
        hears_of_ok (run_perform_serve_ok hargs hunequal)⟩
    · obtain ⟨w, hrun, -⟩ := Act.run_equal_texts hu hb
      rw [BEq.comm] at hrun
      obtain ⟨hequal, hunequal⟩ := Act.run_serve_equal hrun
      rw [decide_not]
      exact ⟨hears_of_ok (run_perform_serve_ok hargs hequal),
        hears_of_ok (run_perform_serve_ok hargs hunequal)⟩
  written m hedits := by
    cases hrequest : s.request? m with
    | none => exact absurd (edits_of_none hrequest) hedits
    | some request =>
      obtain ⟨asked, verb, args⟩ := request
      rw [edits_of_request hrequest] at hedits
      split at hedits
      · next hstands =>
        obtain ⟨w, hrun⟩ := Act.run_of_edits hstands hedits
        exact hears_of_request hrequest hrun
      · exact absurd rfl hedits
  rejected m verb v hverb hrequest hv := by
    have hrun : (Act.ask (.buffer b) verb [v]).run s.world
        = .error (.textExpected verb.name v.kind) s.world := by
      simp only [List.mem_cons, List.not_mem_nil, or_false] at hverb
      cases v with
      | text t => exact absurd rfl (hv t)
      | _ => rcases hverb with rfl | rfl <;> rfl
    exact hears_of_request_error hrequest hrun rfl

/-! ### The main statement -/

/-- A buffer is made with the text that it is given, or without any. -/
theorem made_buffer (hs : s.world.Owned) {operands : List Operand} {t : String}
    (hargs : s.resolveItems operands = .ok [] ∧ t = "" ∨
      ∃ mark, s.resolveItems operands = .ok [.text ⟨t, mark⟩]) (name : String) :
    ∃ b, (s.move (.call (.serve .makeBuffer operands) (some name))).register name
        = .ok (.buffer b) ∧
      s.world.buffers.size ≤ b.index ∧
      (s.move (.call (.serve .makeBuffer operands) (some name))).world.text b = t ∧
      (s.move (.call (.serve .makeBuffer operands) (some name))).world.Loose b := by
  obtain ⟨text, hperform, rfl⟩ : ∃ text : Text,
      ((Call.serve .makeBuffer operands).perform s).run s.world = .ok (.null, .copy text) s.world ∧
        text.content = t := by
    rcases hargs with ⟨hargs, rfl⟩ | ⟨mark, hargs⟩
    · exact ⟨Text.empty, run_perform_serve_ok hargs rfl, rfl⟩
    · exact ⟨⟨t, mark⟩, run_perform_serve_ok hargs rfl, rfl⟩
  exact kept_of_copy hs hperform (.refl _) name

/-- **Buffers refine plain texts.**  Whatever moves are made, the text of a buffer is that of the
pieces that were added to it, in order, since it was made or cleared, and it tells what that text
would tell; what fails writes nothing, and a copy has the same text and goes its own way. -/
theorem buffers_refine (hs : s.Reachable) :
    -- a buffer is made of a text, or of nothing, and of nothing else
    (∀ operands name t, (s.resolveItems operands = .ok [] ∧ t = "" ∨
        ∃ mark, s.resolveItems operands = .ok [.text ⟨t, mark⟩]) →
      let made := s.move (.call (.serve .makeBuffer operands) (some name))
      ∃ b, made.register name = .ok (.buffer b) ∧ s.world.buffers.size ≤ b.index ∧
        made.world.text b = t ∧ made.world.Loose b) ∧
    (∀ operands keep v, s.resolveItems operands = .ok [v] → (∀ u, v ≠ .text u) →
      s.hears (.call (.serve .makeBuffer operands) keep)
        = some (.error (.textExpected "StringBuilder" v.kind))) ∧
    ∀ b : BufferId, b.index < s.world.buffers.size → ∀ ms : List Move,
      let now := s.after ms
      let t := String.join (Edit.pieces [s.world.text b] (s.editsAlong b ms))
      now.world.text b = t ∧ now.ReadsAs b t ∧
      (∀ part ∈ (now.world.buffer b).parts, part ≠ "") ∧
      -- one piece for each text of a list; nothing at all if the move fails
      (∀ m mark (ts : List Text),
        now.request? m = some (.buffer b, .extend, [.list mark (ts.map .text)]) →
        now.edits b m = ts.map fun t => .added t.content) ∧
      (∀ m, now.fails m = true → now.edits b m = [] ∧ (now.move m).world.text b = t) ∧
      -- from a copy on there are two texts, and no move writes to both
      ∀ c name, c.request? now = some (.buffer b, .copy, []) →
        let copied := now.move (.call c (some name))
        ∃ b', copied.register name = .ok (.buffer b') ∧ b' ≠ b ∧ copied.world.Loose b' ∧
          ∀ ms' : List Move, let later := copied.after ms'
            later.world.text b = String.join (Edit.pieces [t] (copied.editsAlong b ms')) ∧
            later.world.text b' = String.join (Edit.pieces [t] (copied.editsAlong b' ms')) ∧
            ∀ m, later.edits b m = [] ∨ later.edits b' m = [] := by
  refine ⟨fun operands name t hargs => made_buffer hs.owned hargs name, ?_, fun b hb ms => ?_⟩
  · intro operands keep v hargs hv
    have hrun : ((Call.serve .makeBuffer operands).perform s).run s.world = _ :=
      run_perform_serve hargs s.world
    cases v with
    | text t => exact absurd rfl (hv t)
    | _ => exact hears_of_error hrun rfl
  intro now t
  have htext : now.world.text b = t := join_pieces_after hs.owned hb rfl ms
  have hnow : now.world.Owned := (hs.after ms).owned
  have hplaced : b.index < now.world.buffers.size :=
    Nat.lt_of_lt_of_le hb (size_le_after hs.owned ms)
  refine ⟨htext, htext ▸ readsAs_text now b, (now.world.buffer b).parts_ne_empty, ?_, ?_, ?_⟩
  · intro m mark ts hrequest
    rw [edits_of_buffer hrequest, if_pos rfl]
    show ((now.world.pieces? (.list mark (ts.map .text))).getD []).map _ = _
    rw [Act.pieces?_list]
    rfl
  · intro m hfails
    have hnone := edits_of_fails hfails b
    refine ⟨hnone, ?_⟩
    rw [text_move hnow hplaced m, hnone]
    exact htext
  · intro c name hrequest copied
    obtain ⟨target, operands, rfl, htarget, hargs⟩ := request?_eq_some hrequest
    have hperform : ((Call.ask target .copy operands).perform now).run now.world = _ :=
      run_perform_ask htarget hargs now.world
    obtain ⟨b', hregister, hle, htext', hloose⟩ :=
      kept_of_copy hnow hperform (now.world.undisturbed_collapse b) name
    have hne : b' ≠ b := by
      rintro rfl
      exact absurd hplaced (Nat.not_lt.mpr hle)
    refine ⟨b', hregister, hne, hloose, fun ms' => ?_⟩
    have hcopied : copied.world.Owned := owned_move hnow _
    have hsame : copied.world.text b = t := by
      have hnone := edits_of_buffer
        (m := .call (.ask target .copy operands) (some name)) hrequest b
      rw [if_pos rfl] at hnone
      rw [text_move hnow hplaced, hnone]
      exact htext
    have hplaced' : b.index < copied.world.buffers.size :=
      Nat.lt_of_lt_of_le hplaced (size_le_move hnow _)
    exact ⟨join_pieces_after hcopied hplaced' hsame ms',
      join_pieces_after hcopied hloose.issued (htext'.trans htext) ms',
      fun m => edits_apart hne.symm m⟩

/-- A buffer is made of a text, and more is added; once it is cleared only what comes after that
counts. -/
theorem buffers_refine_cleared :
    let s := initial.after [.call (.serve .makeBuffer [.text 0 "x"]) (some "b")]
    let ms : List Move :=
      [.call (.ask "b" .append [.text 1 "y"]) none, .call (.ask "b" .appendLine []) none,
        .call (.ask "b" .build []) none, .call (.ask "b" .clear []) none,
        .call (.ask "b" .append [.null]) none, .call (.ask "b" .appendLine [.text 2 "z"]) none]
    let b : BufferId := ⟨0⟩
    s.Reachable ∧ s.register "b" = .ok (.buffer b) ∧ b.index < s.world.buffers.size ∧
      s.editsAlong b ms = [.added "y", .added "\n", .dropped, .added "z", .added "\n"] ∧
      (s.after ms).world.text b = "z\n" := by
  intro s ms b
  have hreachable : s.Reachable := ⟨_, rfl⟩
  have hplaced : b.index < s.world.buffers.size := by decide +kernel
  have hedits : s.editsAlong b ms
      = [.added "y", .added "\n", .dropped, .added "z", .added "\n"] := by decide +kernel
  obtain ⟨-, -, hruns⟩ := buffers_refine hreachable
  obtain ⟨htext, -⟩ := hruns b hplaced ms
  rw [hedits] at htext
  exact ⟨hreachable, rfl, hplaced, hedits, htext⟩

end Session

end TextRoll
