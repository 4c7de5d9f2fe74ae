/-
TextRoll/Proofs/Act/Writing.lean

What requests write to a buffer.

A buffer is a text that is written piece by piece.  `World.edits` lists the edits that a request
makes to the buffer it stands for: one for every piece that is added, one for dropping them all, and
none if the request only reads or is turned down.  The text of that buffer is then the one before
with these edits made one after the other (`text_ask_self`), and every other buffer keeps its text
(`text_ask_other`).

Pieces can come from any value that has elements.  All of its elements are read before the first one
is looked at, and unless all of them are texts nothing is written (`run_extend`).
-/
import TextRoll.Proofs.Content.Editing

namespace TextRoll

/-! ### Edits, one after the other -/

namespace Edit

/-- The text after some edits, the first one first. -/
def applyAll (text : String) (edits : List Edit) : String :=
  edits.foldl (fun text edit => edit.apply text) text

theorem applyAll_append (text : String) (first second : List Edit) :
    applyAll text (first ++ second) = applyAll (applyAll text first) second :=
  List.foldl_append

/-- The pieces after an edit: one more, or none. -/
def onPieces (pieces : List String) : Edit → List String
  | added s => pieces ++ [s]
  | dropped => []

/-- The pieces that were added after all were dropped for the last time, behind those that there
were before if that never happened. -/
def pieces (before : List String) (edits : List Edit) : List String := edits.foldl onPieces before

/-- **The text is its pieces, joined.** -/
theorem join_pieces (before : List String) (edits : List Edit) :
    String.join (pieces before edits) = applyAll (String.join before) edits := by
  induction edits generalizing before with
  | nil => rfl
  | cons edit edits ih =>
    refine (ih (onPieces before edit)).trans (congrArg (applyAll · edits) ?_)
    cases edit with
    | added s => simp [onPieces, apply]
    | dropped => rfl

/-- Adding one after the other is adding all of them. -/
theorem applyAll_map_added (text : String) (added : List String) :
    applyAll text (added.map .added) = text ++ String.join added := by
  induction added generalizing text with
  | nil => simp [applyAll]
  | cons s rest ih =>
    refine (ih (text ++ s)).trans ?_
    simp [String.append_assoc]

end Edit

/-! ### Items that are texts -/

namespace Item

/-- The text that an item is, if it is one. -/
def text? : Item → Option Text
  | value (.text t) => some t
  | _ => none

/-- The kind of an item. -/
def kind : Item → Kind
  | value v => v.kind
  | copy _ => .buffer

theorem asText_of_some {x : Item} {t : Text} (h : x.text? = some t) (operation : String) :
    x.asText operation = .ok t := by
  rcases x with v | text
  · cases v <;> cases h
    rfl
  · cases h

theorem asText_of_none {x : Item} (h : x.text? = none) (operation : String) :
    x.asText operation = .error (.textExpected operation x.kind) := by
  rcases x with v | text
  · cases v <;> first | rfl | cases h
  · rfl

/-- Items are all texts, or there is a first one that is none: an operation that takes texts only is
given the texts, or complains of the kind of that one. -/
theorem mapM_asText_cases (operation : String) (xs : List Item) :
    (∃ ts, xs.mapM text? = some ts ∧ xs.mapM (asText operation) = .ok ts) ∨
      (xs.mapM text? = none ∧ ∃ before x later, xs = before ++ x :: later ∧
        (∀ y ∈ before, y.text?.isSome) ∧ x.text? = none ∧
        xs.mapM (asText operation) = .error (.textExpected operation x.kind)) := by
  induction xs with
  | nil => exact .inl ⟨[], rfl, rfl⟩
  | cons x xs ih =>
    cases hx : x.text? with
    | none =>
      refine .inr ⟨by rw [List.mapM_cons, hx]; rfl, [], x, xs, rfl, nofun, hx, ?_⟩
      rw [List.mapM_cons, asText_of_none hx]
      rfl
    | some t =>
      have hhead := asText_of_some hx operation
      rcases ih with ⟨ts, htexts, hall⟩ | ⟨hnone, before, y, later, rfl, hbefore, hy, hfault⟩
      · refine .inl ⟨t :: ts, by rw [List.mapM_cons, hx, htexts]; rfl, ?_⟩
        rw [List.mapM_cons, hhead, hall]
        rfl
      · refine .inr ⟨by rw [List.mapM_cons, hx, hnone]; rfl, x :: before, y, later, rfl, ?_, hy, ?_⟩
        · intro z hz
          rcases List.mem_cons.mp hz with rfl | hz
          · rw [hx]
            rfl
          · exact hbefore z hz
        · rw [List.mapM_cons, hhead, hfault]
          rfl

end Item

/-! ### The edits that a request makes -/

namespace World

/-- The texts that the elements of a value are, provided that it has elements and that all of them
are texts. -/
def pieces? (w : World) (v : Value) : Option (List Text) :=
  match (Act.elements v).run w with
  | .ok xs _ => xs.mapM Item.text?
  | .error .. => none

theorem pieces?_of_ok {w w' : World} {v : Value} {xs : List Item}
    (h : (Act.elements v).run w = .ok xs w') : w.pieces? v = xs.mapM Item.text? := by
  unfold pieces?
  rw [h]

theorem pieces?_of_error {w w' : World} {v : Value} {fault : Fault}
    (h : (Act.elements v).run w = .error fault w') : w.pieces? v = none := by
  unfold pieces?
  rw [h]

/-- The edits that a request to a buffer makes to it. -/
def editsOfBuffer (w : World) (verb : Verb) (args : List Value) : List Edit :=
  match verb, args with
  | .append, [.text t] => [.added t.content]
  | .appendLine, [] => [.added "\n"]
  | .appendLine, [.text t] => [.added t.content, .added "\n"]
  | .extend, [v] => ((w.pieces? v).getD []).map fun t => .added t.content
  | .clear, [] => [.dropped]
  | _, _ => []

/-- The edits that a request to a bookmark makes to the buffer it stands for. -/
def editsOfBookmark (verb : Verb) (args : List Value) : List Edit :=
  match verb, args with
  | .append, [.text t] => [.added t.content]
  | .clear, [] => [.dropped]
  | _, _ => []

/-- The edits that a request makes to the buffer that is asked, or that a bookmark stands for. -/
def edits (w : World) (asked : Value) (verb : Verb) (args : List Value) : List Edit :=
  match asked with
  | .buffer _ => w.editsOfBuffer verb args
  | .bookmark .. => editsOfBookmark verb args
  | _ => []

/-- An event leaves the text of a buffer that it does not edit. -/
theorem Occurs.text_eq {w w' : World} {e : Event} {b : BufferId} (h : w.Occurs e w')
    (hb : b.index < w.buffers.size) (hne : ∀ edit, e ≠ .edited b edit) : w'.text b = w.text b := by
  cases h with
  | still _ htexts => exact htexts.text_eq b hb
  | @edited _ b' edit _ _ _ hothers => exact hothers b fun heq => hne edit (heq ▸ rfl)
  | changed _ _ htexts => exact htexts.text_eq b hb
  | created _ _ htexts => exact htexts.text_eq b hb

end World

namespace Act

variable {w w' : World} {b : BufferId} {asked : Value} {verb : Verb} {args : List Value}

/-- The world after a sequence whose first part succeeds is that after the second. -/
theorem worldAfter_bind_ok {α β : Type} {x : Act β} (f : β → Act α) {a : β}
    (h : x.run w = .ok a w') : (x >>= f).worldAfter w = (f a).worldAfter w' := by
  unfold worldAfter
  rw [run_bind_ok f h]

/-- The pieces of a list of texts are these texts. -/
theorem pieces?_list (w : World) (mark : Mark) (ts : List Text) :
    w.pieces? (.list mark (ts.map .text)) = some ts := by
  show ((ts.map Value.text).map Item.value).mapM Item.text? = some ts
  induction ts with
  | nil => rfl
  | cons t ts ih =>
    rw [List.map_cons, List.map_cons, List.mapM_cons, ih]
    rfl

/-- What is left in a buffer that was edited. -/
theorem text_setBuffer (w : World) (b : BufferId) (x : Buffer) :
    (w.setBuffer b x).text b = x.text :=
  congrArg Buffer.text (w.buffer_setBuffer_self b x)

/-- **Pieces are read to the end before any of them is looked at,** and added only if all of them
are texts. -/
theorem run_extend (b : BufferId) (v : Value) (w : World) :
    (askBuffer b .extend [v]).run w
      = match (elements v).run w with
        | .error fault w' => .error fault w'
        | .ok xs w' =>
          match xs.mapM (Item.asText "extend") with
          | .ok ts => .ok .itself (w'.setBuffer b ((w'.buffer b).extend ts))
          | .error fault => .error fault w' := by
  show EStateM.run (elements v >>= fun xs =>
    MonadExcept.ofExcept (xs.mapM (Item.asText "extend")) >>= fun ts =>
      editBuffer b (·.extend ts) >>= fun _ => pure Answer.itself) w = _
  rw [EStateM.run_bind]
  cases (elements v).run w with
  | error fault w' => rfl
  | ok xs w' =>
    dsimp only
    cases xs.mapM (Item.asText "extend") with
    | ok ts => rfl
    | error fault => rfl

/-- Reading the elements of a value leaves all texts. -/
theorem undisturbed_elements (hw : w.WellFormed) (v : Value) :
    w.Undisturbed ((elements v).worldAfter w) := by
  have hreads := reads_elements (P := Any) (v := v) (fun _ _ => trivial) (fun _ _ _ => trivial) w hw
  cases hrun : (elements v).run w with
  | ok xs w' =>
    rw [worldAfter_of_ok hrun]
    exact hreads.ok hrun
  | error fault w' =>
    rw [worldAfter_of_error hrun]
    exact (hreads.error hrun).1

theorem text_extend (hw : w.WellFormed) (b : BufferId) (v : Value) :
    ((askBuffer b .extend [v]).worldAfter w).text b
      = Edit.applyAll (w.text b) (w.editsOfBuffer .extend [v]) := by
  have hread := undisturbed_elements hw v
  have hrun := run_extend b v w
  show _ = Edit.applyAll (w.text b) (((w.pieces? v).getD []).map fun t => .added t.content)
  cases helements : (elements v).run w with
  | error fault w' =>
    rw [worldAfter_of_error helements] at hread
    rw [helements] at hrun
    rw [worldAfter_of_error hrun, World.pieces?_of_error helements]
    exact hread.text_eq b
  | ok xs w' =>
    rw [worldAfter_of_ok helements] at hread
    rw [helements] at hrun
    dsimp only at hrun
    rw [World.pieces?_of_ok helements]
    rcases Item.mapM_asText_cases "extend" xs with
      ⟨ts, htexts, hall⟩ | ⟨hnone, _, _, _, _, _, _, hno⟩
    · rw [hall] at hrun
      rw [worldAfter_of_ok hrun, htexts, text_setBuffer, Buffer.text_extend]
      have hadded := Edit.applyAll_map_added (w.text b) (ts.map Text.content)
      rw [List.map_map] at hadded
      exact (congrArg (· ++ _) (hread.text_eq b)).trans hadded.symm
    · rw [hno] at hrun
      rw [worldAfter_of_error hrun, hnone]
      exact hread.text_eq b

/-- An act that causes no event leaves the text of every buffer. -/
theorem text_of_still {act : Act Answer} {P : Fault → Prop} (h : Does (· = .still) P act)
    (hw : w.WellFormed) (hb : b.index < w.buffers.size) :
    (act.worldAfter w).text b = w.text b := by
  obtain ⟨e, rfl, hoccurs⟩ := (h w hw).occurs rfl
  exact hoccurs.text_eq hb nofun

/-- **The text of a buffer that is asked** is the one before with the edits of the request. -/
theorem text_askBuffer (hw : w.WellFormed) (hb : b.index < w.buffers.size) (verb : Verb)
    (args : List Value) :
    ((askBuffer b verb args).worldAfter w).text b
      = Edit.applyAll (w.text b) (w.editsOfBuffer verb args) := by
  unfold askBuffer
  split
  · next v =>
    cases v with
    | text t => exact (text_setBuffer w b _).trans (Buffer.text_append _ t)
    | _ => rfl
  · refine (text_setBuffer w b _).trans ((Buffer.text_appendLine _ _).trans ?_)
    exact congrArg (· ++ "\n") (String.append_empty)
  · next v =>
    cases v with
    | text t => exact (text_setBuffer w b _).trans (Buffer.text_appendLine _ t)
    | _ => rfl
  · next v => exact text_extend hw b v
  · exact (w.undisturbed_collapse b).text_eq b
  · exact (text_setBuffer w b _).trans (Buffer.text_clear _)
  · exact (w.undisturbed_collapse b).text_eq b
  · rfl
  · exact (w.undisturbed_collapse b).text_eq b
  · exact (w.undisturbed_collapse b).text_eq b
  · next happend hline hlineText hextend _ hclear _ _ _ _ =>
    have hnone : w.editsOfBuffer verb args = [] := by
      unfold World.editsOfBuffer
      split
      · exact (happend _ rfl rfl).elim
      · exact (hline rfl rfl).elim
      · exact (hlineText _ rfl rfl).elim
      · exact (hextend _ rfl rfl).elim
      · exact (hclear rfl rfl).elim
      · rfl
    rw [hnone]
    exact text_of_still (still_askGeneral _ verb args) hw hb

/-- Following a bookmark changes nothing. -/
theorem follow_eq_ok {m : Bookmark} {found : Option BufferId}
    (h : (follow m).run w = .ok found w') : w' = w := by
  rw [run_follow_eq] at h
  split at h
  · cases hindex : m.index.asWhole .indexExpected with
    | error fault => rw [hindex] at h; cases h
    | ok i =>
      rw [hindex] at h
      replace h : EStateM.run (MonadExcept.ofExcept ((w.roll m.roll).slotAt i.toInt)) w
        = .ok found w' := h
      cases hslot : (w.roll m.roll).slotAt i.toInt with
      | error fault => rw [hslot] at h; cases h
      | ok slot =>
        rw [hslot] at h
        cases h
        rfl
  · cases h

/-- A bookmark that stands for a buffer leads there. -/
theorem run_follow_of_standsFor {mark : Mark} {m : Bookmark}
    (h : w.standsFor? (.bookmark mark m) = some b) : (follow m).run w = .ok (some b) w := by
  unfold World.standsFor? at h
  dsimp only at h
  cases hfollow : (follow m).run w with
  | error fault w' => rw [hfollow] at h; cases h
  | ok found w' =>
    rw [hfollow] at h
    obtain rfl := follow_eq_ok hfollow
    exact congrArg (EStateM.Result.ok · _) h

/-- **The text that a bookmark leads to** is the one before with the edits of the request. -/
theorem text_askBookmark (hw : w.WellFormed) (hb : b.index < w.buffers.size) (mark : Mark)
    {m : Bookmark} (hfollow : (follow m).run w = .ok (some b) w) (verb : Verb) (args : List Value) :
    ((askBookmark mark m verb args).worldAfter w).text b
      = Edit.applyAll (w.text b) (World.editsOfBookmark verb args) := by
  have hto := run_followTo hfollow
  unfold askBookmark
  split
  · rfl
  · rfl
  · rw [worldAfter_bind_ok _ hfollow]
    rfl
  · next v =>
    rw [worldAfter_bind_ok _ (hto "append")]
    cases v with
    | text t => exact (text_setBuffer w b _).trans (Buffer.text_append _ t)
    | _ => rfl
  · rw [worldAfter_bind_ok _ (hto "clear")]
    exact (text_setBuffer w b _).trans (Buffer.text_clear _)
  · rw [worldAfter_bind_ok _ (hto "build")]
    exact (w.undisturbed_collapse b).text_eq b
  · next _ _ _ happend hclear _ =>
    have hnone : World.editsOfBookmark verb args = [] := by
      unfold World.editsOfBookmark
      split
      · exact (happend _ rfl rfl).elim
      · exact (hclear rfl rfl).elim
      · rfl
    rw [hnone]
    exact text_of_still (still_askGeneral _ verb args) hw hb

/-- **The text of the buffer that is written** is the one before with the edits of the request. -/
theorem text_ask_self (hw : w.WellFormed) (hb : b.index < w.buffers.size)
    (h : w.standsFor? asked = some b) (verb : Verb) (args : List Value) :
    ((ask asked verb args).worldAfter w).text b
      = Edit.applyAll (w.text b) (w.edits asked verb args) := by
  cases asked with
  | buffer b' =>
    cases h
    exact text_askBuffer hw hb verb args
  | bookmark mark m => exact text_askBookmark hw hb mark (run_follow_of_standsFor h) verb args
  | _ => cases h

/-- Whatever is asked, no buffer is edited but the one that it stands for. -/
theorem occurs_ask (hw : w.WellFormed) (asked : Value) (verb : Verb) (args : List Value) :
    ∃ e, w.Occurs e ((ask asked verb args).worldAfter w) ∧
      ∀ b edit, e = .edited b edit → w.standsFor? asked = some b := by
  cases hasked : asked.rollId? with
  | some r =>
    obtain ⟨e, he, hoccurs⟩ := ask_otherRoll hw hasked verb args
    refine ⟨e, hoccurs, fun b edit heq => ?_⟩
    rcases he with rfl | ⟨loss, added, rfl⟩ <;> cases heq
  | none =>
    have hother : asked.rollId? ≠ some ⟨0⟩ := by simp [hasked]
    obtain ⟨e, hoccurs, -, hedited, -⟩ := ask_other hw hother verb args
    exact ⟨e, hoccurs, hedited⟩

theorem size_le_ask (hw : w.WellFormed) (asked : Value) (verb : Verb) (args : List Value) :
    w.buffers.size ≤ ((ask asked verb args).worldAfter w).buffers.size := by
  obtain ⟨e, hoccurs, -⟩ := occurs_ask hw asked verb args
  exact hoccurs.size_le

/-- **A request to anything else** leaves the text of a buffer. -/
theorem text_ask_other (hw : w.WellFormed) (hb : b.index < w.buffers.size)
    (h : w.standsFor? asked ≠ some b) (verb : Verb) (args : List Value) :
    ((ask asked verb args).worldAfter w).text b = w.text b := by
  obtain ⟨e, hoccurs, hedited⟩ := occurs_ask hw asked verb args
  exact hoccurs.text_eq hb fun edit heq => h (hedited b edit heq)

/-- **Whatever is written, the request succeeds** and hands back what was asked. -/
theorem run_of_edits (h : w.standsFor? asked = some b) (hedits : w.edits asked verb args ≠ []) :
    ∃ w', (ask asked verb args).run w = .ok .itself w' := by
  cases asked with
  | buffer b' =>
    replace hedits : w.editsOfBuffer verb args ≠ [] := hedits
    unfold World.editsOfBuffer at hedits
    split at hedits
    · exact ⟨_, rfl⟩
    · exact ⟨_, rfl⟩
    · exact ⟨_, rfl⟩
    · next v =>
      have hrun := run_extend b' v w
      cases helements : (elements v).run w with
      | error fault w' =>
        rw [World.pieces?_of_error helements] at hedits
        exact absurd rfl hedits
      | ok xs w' =>
        rw [helements] at hrun
        rw [World.pieces?_of_ok helements] at hedits
        dsimp only at hrun
        rcases Item.mapM_asText_cases "extend" xs with ⟨ts, -, hall⟩ | ⟨hnone, -⟩
        · rw [hall] at hrun
          exact ⟨_, hrun⟩
        · rw [hnone] at hedits
          exact absurd rfl hedits
    · exact ⟨_, rfl⟩
    · exact absurd rfl hedits
  | bookmark mark m =>
    replace hedits : World.editsOfBookmark verb args ≠ [] := hedits
    have hto := run_followTo (run_follow_of_standsFor h)
    unfold World.editsOfBookmark at hedits
    split at hedits
    · exact ⟨_, run_bind_ok _ (hto "append")⟩
    · exact ⟨_, run_bind_ok _ (hto "clear")⟩
    · exact absurd rfl hedits
  | _ => cases h

end Act

end TextRoll
