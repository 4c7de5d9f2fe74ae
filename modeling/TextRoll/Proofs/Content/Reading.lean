/-
TextRoll/Proofs/Content/Reading.lean

Requests that read a roll, compared with the machine, and with them all requests.

Reading leaves the content as it is, and what is told is worked out from the content: the
length, the cursor, copies of the texts, whether there is a certain text among them, the
printed form.  What rolls cannot do they refuse without looking at their content.

`ask_complies` is the statement about all requests to a roll, direct or through a guard: each
comes out as the machine says, unless it is one that needs storage and storage is refused.
-/
import TextRoll.Proofs.Act.Sparing
import TextRoll.Proofs.Content.Changing

namespace TextRoll

namespace Value

variable {asked : Value} {r : RollId}

theorem kind_access (h : asked.rollId? = some r) : asked.access.kind = asked.kind := by
  cases asked <;> cases h <;> rfl

end Value

namespace World

variable {w w' : World} {r : RollId}

/-- A whole number is shown as it was given. -/
theorem shown_valueAs (w : World) (mark : Mark) (n : Whole) :
    w.shown (n.valueAs mark) = .whole n := by
  cases n <;> rfl

/-- Nothing happens to the content of a roll that an event does not touch. -/
theorem Occurs.content_of_still (h : w.Occurs .still w') (hw : w.Owned) (r : RollId) :
    w'.content r = w.content r := by
  cases h with
  | still hrolls htexts => exact content_of_same hw (roll_of_rolls_eq hrolls r) htexts

end World

namespace Act

variable {w w' : World} {r : RollId} {act : Act Answer} {asked : Value}

/-- An act that only reads shows its answer and leaves the content. -/
theorem Obeys.of_read {answer : Answer} {x : Shown} (h : act.run w = .ok answer w')
    (hread : w.Undisturbed w') (hshown : w'.shownAnswer answer = x) :
    act.Obeys w r ((w.content r).telling x) := .of_ok h hshown (hread.content_eq r)

/-! ### Copies and texts -/

/-- Copying what some index names, if it names an element. -/
theorem obeys_copying (hw : w.Owned) {access : Access} {order : Order} {index : Except Fault Nat}
    (hindex : ∀ i, index = .ok i → i < (w.roll r).elements.length)
    (houtcome : (w.content r).outcome access order
      = index.map fun i => (w.content r).telling (.buffer ((w.content r).item i))) :
    (MonadExcept.ofExcept index >>= copyOf r).Obeys w r ((w.content r).obey access order) := by
  cases index with
  | error fault =>
    rw [Content.obey_of_error houtcome]
    exact .of_error rfl rfl
  | ok i =>
    rw [Content.obey_of_ok houtcome]
    have hi : i < (w.elements r).length := hindex i rfl
    refine .of_read (run_copyOf (hw.wellFormed r) hi) (w.undisturbed_collapse _) ?_
    exact congrArg Shown.buffer (World.item_content hi).symm

theorem obeys_current (hw : w.Owned) (access : Access) (asked : Value) :
    (askShared asked r .current []).Obeys w r ((w.content r).obey access .current) := by
  have hr := hw.wellFormed r
  have houtcome : (w.content r).outcome access .current
      = ((w.roll r).currentIndex "current").map fun i =>
        (w.content r).telling (.buffer ((w.content r).item i)) := by
    rw [← World.content_currentIndex hr]
    rfl
  exact (obeys_copying hw (fun i => currentIndex_lt hr) houtcome).of_run_eq rfl

theorem obeys_get (hw : w.Owned) (access : Access) (asked v : Value) :
    (askShared asked r .get [v]).Obeys w r
      ((w.content r).obey access (.get (w.argument v))) := by
  have hr := hw.wellFormed r
  have houtcome : (w.content r).outcome access (.get (w.argument v))
      = ((v.asIndex (w.roll r).length).bind (w.roll r).checkIndex).map fun i =>
        (w.content r).telling (.buffer ((w.content r).item i)) := by
    rw [← content_index hr]
    rfl
  refine (obeys_copying hw (fun i => checkIndex_lt hr) houtcome).of_run_eq ?_
  show EStateM.run (MonadExcept.ofExcept (v.asIndex (w.roll r).length) >>= fun n =>
    MonadExcept.ofExcept ((w.roll r).checkIndex n) >>= copyOf r) w = _
  cases v.asIndex (w.roll r).length with
  | error fault => rfl
  | ok n => rfl

theorem obeys_texts (hw : w.Owned) (access : Access) (asked : Value) :
    (askShared asked r .texts []).Obeys w r ((w.content r).obey access .texts) := by
  have hrun : (askShared asked r .texts []).run w = _ := EStateM.run_bind (textsOf r "build") _
  rw [run_textsOf (hw.wellFormed r)] at hrun
  refine .of_read hrun (w.undisturbed_collapseAll _) (congrArg Shown.list ?_)
  show ((((w.elements r).map w.built).map _).map _) = ((w.elements r).map w.text).map Shown.text
  rw [List.map_map, List.map_map, List.map_map]
  rfl

theorem obeys_elements (hw : w.Owned) (hasked : asked.rollId? = some r) (access : Access) :
    (askShared asked r .elements []).Obeys w r ((w.content r).obey access .elements) := by
  have hask : askShared asked r .elements []
      = elements (.roll r) >>= fun xs => pure (Answer.items xs) := by
    cases asked <;> cases hasked <;> rfl
  have helements : (elements (.roll r)).run w
      = .ok (((w.elements r).map w.built).map .copy) (w.collapseAll (w.elements r)) := by
    show EStateM.run (textsOf r "copy" >>= fun texts => pure (texts.map Item.copy)) w = _
    rw [EStateM.run_bind, run_textsOf (hw.wellFormed r)]
    rfl
  have hrun := EStateM.run_bind (s := w) (elements (.roll r)) fun xs => pure (Answer.items xs)
  rw [helements, ← hask] at hrun
  refine .of_read hrun (w.undisturbed_collapseAll _) (congrArg Shown.list ?_)
  show ((((w.elements r).map w.built).map _).map _) = ((w.elements r).map w.text).map Shown.buffer
  rw [List.map_map, List.map_map, List.map_map]
  rfl

/-- Looking for a text, or for the text of a buffer; nothing else is ever found. -/
theorem run_rollContains (hw : w.Owned) (r : RollId) (v : Value) :
    ∃ w', (rollContains r v).run w
        = .ok ((w.argument v).sought?.any (· ∈ w.texts r)) w' ∧ w.Undisturbed w' := by
  cases v with
  | buffer b =>
    have hread := w.undisturbed_collapse b
    have htexts := run_texts (w := w.collapse b) (hread.wellFormed hw.wellFormed r)
    rw [hread.texts_eq] at htexts
    refine ⟨(w.collapse b).collapseAll ((w.collapse b).elements r), ?_,
      hread.trans (World.undisturbed_collapseAll _ _)⟩
    show EStateM.run (texts r >>= fun found => pure (decide (w.text b ∈ found))) (w.collapse b) = _
    rw [EStateM.run_bind, htexts]
    rfl
  | text t =>
    refine ⟨w.collapseAll (w.elements r), ?_, World.undisturbed_collapseAll _ _⟩
    show EStateM.run (texts r >>= fun found => pure (decide (t.content ∈ found))) w = _
    rw [EStateM.run_bind, run_texts (hw.wellFormed r)]
    rfl
  | null | bool | int | real | bytes | list | record | roll | guarded | bookmark | policy | tally
    | growths | growth | walk => exact ⟨w, rfl, .refl w⟩

theorem obeys_contains (hw : w.Owned) (hasked : asked.rollId? = some r) (access : Access)
    (v : Value) :
    (askShared asked r .contains [v]).Obeys w r
      ((w.content r).obey access (.contains (w.argument v))) := by
  have hask : askShared asked r .contains [v]
      = rollContains r v >>= fun found => pure (.value (.bool found)) := by
    cases asked <;> cases hasked <;> rfl
  obtain ⟨w', hcontains, hread⟩ := run_rollContains hw r v
  have hrun := EStateM.run_bind (s := w) (rollContains r v) fun found =>
    pure (Answer.value (.bool found))
  rw [hcontains, ← hask] at hrun
  exact .of_read hrun hread rfl

/-- The printed form, of a plain roll or of a guarded one. -/
theorem obeys_form (hw : w.Owned) (hasked : asked.rollId? = some r) {verb : Verb}
    (hverb : verb = .printed ∨ verb = .written) :
    (ask asked verb []).Obeys w r ((w.content r).obey asked.access .form) := by
  have hask : ask asked verb [] = texts r >>= fun forms => roll r >>= fun l =>
      pure (.value (.ofText (Content.form ⟨forms, l.shownCursor⟩ asked.access))) := by
    rcases hverb with rfl | rfl <;> cases asked <;> cases hasked <;> rfl
  have hrun := EStateM.run_bind (s := w) (texts r) fun forms => roll r >>= fun l =>
    pure (Answer.value (.ofText (Content.form ⟨forms, l.shownCursor⟩ asked.access)))
  rw [run_texts (hw.wellFormed r), ← hask] at hrun
  have hread := w.undisturbed_collapseAll (w.elements r)
  refine .of_read hrun hread ?_
  show Shown.text (Content.form ⟨w.texts r, ((w.collapseAll (w.elements r)).roll r).shownCursor⟩
    asked.access) = _
  rw [hread.roll_eq]
  rfl

/-! ### Figures -/

theorem obeys_length (hw : w.Owned) (access : Access) (asked : Value) :
    (askShared asked r .length []).Obeys w r ((w.content r).obey access .length) := by
  have hrun : (askShared asked r .length []).run w
      = .ok (.value (.ofInt (w.roll r).length)) w := rfl
  refine .of_read hrun (.refl w) ?_
  show Shown.int ((w.roll r).length : Int) = .int ((w.texts r).length : Int)
  rw [World.length_texts (hw.wellFormed r)]

theorem obeys_truth (hw : w.Owned) (hasked : asked.rollId? = some r) (access : Access) :
    (askShared asked r .truth []).Obeys w r ((w.content r).obey access .truth) := by
  have hrun : (askShared asked r .truth []).run w
      = .ok (.value (.bool ((w.roll r).length != 0))) w := by
    cases asked <;> cases hasked <;> rfl
  refine .of_read hrun (.refl w) ?_
  show Shown.bool ((w.roll r).length != 0) = .bool ((w.texts r).length != 0)
  rw [World.length_texts (hw.wellFormed r)]

theorem obeys_cursor (access : Access) (asked : Value) :
    (askShared asked r .cursor []).Obeys w r ((w.content r).obey access .cursor) := by
  have hrun : (askShared asked r .cursor []).run w = .ok (.value (w.cursorValue r)) w := rfl
  exact .of_read hrun (.refl w) (World.shown_valueAs w _ _)

/-- A bookmark is refused where there is no current element; what is in it is not content. -/
theorem obeys_bookmark (hw : w.Owned) (hasked : asked.rollId? = some r) :
    (ask asked .bookmark []).Obeys w r ((w.content r).obey asked.access .bookmark) := by
  cases asked <;> cases hasked
  · have houtcome : (w.content r).outcome .direct .bookmark
        = ((w.roll r).currentIndex "current_ref").map fun _ => (.untold, w.content r) := by
      rw [← World.content_currentIndex (hw.wellFormed r)]
      rfl
    show Obeys _ w r ((w.content r).obey .direct .bookmark)
    have hrun : (ask (.roll r) .bookmark []).run w
        = EStateM.run (MonadExcept.ofExcept ((w.roll r).currentIndex "current_ref") >>= fun _ =>
          cursorOf r >>= fun cursor => pure (Answer.value (.bookmark .fresh
            ⟨r, cursor, countOf r "generation" (w.roll r).generation⟩))) w := rfl
    rcases (w.roll r).currentIndex_cases "current_ref" with ⟨-, hok⟩ | ⟨-, herror⟩
    · rw [hok] at houtcome hrun
      rw [Content.obey_of_ok houtcome]
      refine .of_untold ?_
      rw [worldAfter_of_ok hrun]
    · rw [herror] at houtcome hrun
      rw [Content.obey_of_error houtcome]
      exact .of_error hrun rfl
  · exact .of_error rfl rfl

/-- Counters and policies are not content, and asking for another roll does not touch this one. -/
theorem obeys_figure (hw : w.Owned) (hasked : asked.rollId? = some r) {verb : Verb}
    {args : List Value}
    (hverb : verb ∈ [.generation, .reallocations, .policy] ∧ args = [] ∨
      verb = .withCapacity ∧ ∃ v, args = [v]) :
    (ask asked verb args).Obeys w r ((w.content r).obey asked.access (.figure verb)) := by
  cases asked <;> cases hasked
  · refine .of_untold ?_
    rcases hverb with ⟨hverb, rfl⟩ | ⟨rfl, v, rfl⟩
    · simp only [List.mem_cons, List.not_mem_nil, or_false] at hverb
      rcases hverb with rfl | rfl | rfl <;> rfl
    · have hask : ask (.roll r) .withCapacity [v]
          = newRollFor v >>= fun l => pure (.draft (.roll l)) := rfl
      have hdoes := (does_newRollFor v).map (f := fun l => Answer.draft (.roll l)) w hw.wellFormed
      rw [← hask] at hdoes
      obtain ⟨e, rfl, hoccurs⟩ := hdoes.occurs rfl
      exact hoccurs.content_of_still hw r
  · rcases hverb with ⟨hverb, rfl⟩ | ⟨rfl, v, rfl⟩
    · simp only [List.mem_cons, List.not_mem_nil, or_false] at hverb
      rcases hverb with rfl | rfl | rfl <;> exact .of_error rfl rfl
    · exact .of_error rfl rfl

/-- A walk that begins shows nothing of the roll yet. -/
theorem obeys_walk (hw : w.Owned) (hasked : asked.rollId? = some r) (access : Access) :
    (askShared asked r .walk []).Obeys w r ((w.content r).obey access .walk) := by
  cases asked <;> cases hasked
  · exact .of_read rfl (.refl w) rfl
  · next mark depth =>
    have hask : askShared (.guarded mark depth r) r .walk []
        = textsOf r "copy" >>= fun texts => pure (.draft (.walk (.overCopies texts))) := rfl
    have hrun := EStateM.run_bind (s := w) (textsOf r "copy") fun texts =>
      pure (Answer.draft (.walk (.overCopies texts)))
    rw [run_textsOf (hw.wellFormed r), ← hask] at hrun
    exact .of_read hrun (w.undisturbed_collapseAll _) rfl

/-! ### What rolls refuse -/

theorem obeys_assign (hasked : asked.rollId? = some r) (name v : Value) :
    (askShared asked r .assign [name, v]).Obeys w r
      ((w.content r).obey asked.access (.assign (w.argument name))) := by
  cases asked <;> cases hasked <;> cases name <;> exact .of_error rfl rfl

/-- A word that rolls do not know is refused with that word. -/
theorem ask_unknown (hasked : asked.rollId? = some r) {verb : Verb} {args : List Value}
    (h : w.order verb args = .unknown verb) :
    ask asked verb args = throw (.missingAttribute asked.kind verb.name) := by
  cases asked <;> cases hasked <;> cases verb <;>
    rcases args with - | ⟨v, - | ⟨u, - | ⟨t, rest⟩⟩⟩ <;>
      first | rfl | (cases v <;> rfl) | cases h

theorem obeys_unknown (hasked : asked.rollId? = some r) {verb : Verb} {args : List Value}
    (h : w.order verb args = .unknown verb) :
    (ask asked verb args).Obeys w r ((w.content r).obey asked.access (.unknown verb)) := by
  have houtcome : (w.content r).outcome asked.access (.unknown verb)
      = .error (.missingAttribute asked.kind verb.name) := by
    rw [← Value.kind_access hasked]
    rfl
  rw [Content.obey_of_error houtcome, ask_unknown hasked h]
  exact .of_error rfl rfl

/-! ### All requests -/

/-- **Every request to a roll comes out as the machine says,** unless it needs storage that is
refused. -/
theorem ask_complies (hw : w.Owned) (hasked : asked.rollId? = some r) (verb : Verb)
    (args : List Value) :
    (ask asked verb args).Obeys w r ((w.content r).obey asked.access (w.order verb args)) ∨
      verb ∈ [.add, .addBuffer, .reserve] ∧ ∃ fault, (ask asked verb args).IsRefused w r fault := by
  by_cases hunknown : w.order verb args = .unknown verb
  · rw [hunknown]
    exact .inl (obeys_unknown hasked hunknown)
  · revert hunknown
    unfold World.order
    split <;> intro hunknown
    -- plain and guarded rolls have most requests in common
    all_goals try rw [ask_shared hasked (by decide)]
    · exact (complies_add hw _ _ _).imp id fun hrefused => ⟨by decide, hrefused⟩
    · exact (complies_addBuffer hw _ _ _).imp id fun hrefused => ⟨by decide, hrefused⟩
    · exact (complies_reserve hw _ _ _).imp id fun hrefused => ⟨by decide, hrefused⟩
    · exact .inl (obeys_clear hw _ _)
    · exact .inl (obeys_remove hw _ _)
    · exact .inl (obeys_removeAt hw _ _ _)
    · exact .inl (obeys_seek hw _ _ _)
    · exact .inl (obeys_advance hw _ _)
    · exact .inl (obeys_retreat _ _)
    · exact .inl (obeys_rewind _ _)
    · exact .inl (obeys_length hw _ _)
    · exact .inl (obeys_truth hw hasked _)
    · exact .inl (obeys_cursor _ _)
    · exact .inl (obeys_current hw _ _)
    · exact .inl (obeys_get hw _ _ _)
    · exact .inl (obeys_texts hw _ _)
    · exact .inl (obeys_elements hw hasked _)
    · exact .inl (obeys_contains hw hasked _ _)
    · exact .inl (obeys_form hw hasked (.inl rfl))
    · exact .inl (obeys_form hw hasked (.inr rfl))
    · exact .inl (obeys_walk hw hasked _)
    · exact .inl (.of_untold rfl)
    · exact .inl (obeys_bookmark hw hasked)
    · exact .inl (obeys_figure hw hasked (.inl ⟨by decide, rfl⟩))
    · exact .inl (obeys_figure hw hasked (.inl ⟨by decide, rfl⟩))
    · exact .inl (obeys_figure hw hasked (.inl ⟨by decide, rfl⟩))
    · exact .inl (obeys_figure hw hasked (.inr ⟨rfl, _, rfl⟩))
    · -- `hash`
      cases asked <;> cases hasked <;> exact .inl (.of_error rfl rfl)
    · -- `next`
      cases asked <;> cases hasked <;> exact .inl (.of_error rfl rfl)
    · exact .inl (obeys_assign hasked _ _)
    · exact absurd rfl hunknown

end Act

end TextRoll
