/-
TextRoll/Proofs/Content/Changing.lean

Requests that change a roll, compared with the machine.

`Act.Obeys act w r expected` says that `act`, run in `w`, tells what the expected reply says and
leaves the roll `r` with the expected content.  Adding and making room may also be refused
storage, and then the content is what it was (`Act.IsRefused`).  For each order that changes
a roll there is one statement here; those that only read come next to it, in
`TextRoll.Proofs.Content.Reading`.
-/
import TextRoll.Proofs.Act.Asking
import TextRoll.Proofs.Content.OfWorld

namespace TextRoll

/-- The reply is what was told, unless the content does not tell. -/
def Reply.Tells : Reply → Except Fault Shown → Prop
  | shows x, told => told = .ok x
  | fails fault, told => told = .error fault
  | untold, _ => True

namespace Act

variable {w w' : World} {r : RollId} {act : Act Answer} {asked : Value}

/-- What a report shows of how the act comes out. -/
def told (act : Act Answer) (w : World) : Except Fault Shown :=
  match act.run w with
  | .ok answer w' => .ok (w'.shownAnswer answer)
  | .error fault _ => .error fault

/-- The world after the act, whether or not it fails. -/
def worldAfter {α : Type} (act : Act α) (w : World) : World :=
  match act.run w with
  | .ok _ w' => w'
  | .error _ w' => w'

/-- The act tells what is expected and leaves the roll with the content that is expected. -/
structure Obeys (act : Act Answer) (w : World) (r : RollId) (expected : Reply × Content) :
    Prop where
  tells : expected.1.Tells (act.told w)
  content_eq : (act.worldAfter w).content r = expected.2

/-- The roll asks for storage and does not get it, and its content is what it was. -/
structure IsRefused (act : Act Answer) (w : World) (r : RollId) (fault : Fault) : Prop where
  told_eq : act.told w = .error fault
  refuses : (w.roll r).Refuses fault
  content_eq : (act.worldAfter w).content r = w.content r

theorem told_of_ok {answer : Answer} (h : act.run w = .ok answer w') :
    act.told w = .ok (w'.shownAnswer answer) := by
  unfold told
  rw [h]

theorem told_of_error {fault : Fault} (h : act.run w = .error fault w') :
    act.told w = .error fault := by
  unfold told
  rw [h]

theorem worldAfter_of_ok {α : Type} {act : Act α} {a : α} (h : act.run w = .ok a w') :
    act.worldAfter w = w' := by
  unfold worldAfter
  rw [h]

theorem worldAfter_of_error {α : Type} {act : Act α} {fault : Fault}
    (h : act.run w = .error fault w') : act.worldAfter w = w' := by
  unfold worldAfter
  rw [h]

/-- Whether or not an act fails, one event leads to the world after it. -/
theorem DoesFrom.occurs {α : Type} {act : Act α} {p : Event → Prop} {P : Fault → Prop}
    (h : act.DoesFrom w p P) (hstill : p .still) : ∃ e, p e ∧ w.Occurs e (act.worldAfter w) := by
  cases hrun : act.run w with
  | ok a w' =>
    rw [worldAfter_of_ok hrun]
    exact h.ok hrun
  | error fault w' =>
    rw [worldAfter_of_error hrun]
    exact ⟨.still, hstill, (h.error hrun).1⟩

/-- An act that succeeds shows its answer. -/
theorem Obeys.of_ok {answer : Answer} {x : Shown} {c : Content} (h : act.run w = .ok answer w')
    (hshown : w'.shownAnswer answer = x) (hcontent : w'.content r = c) :
    act.Obeys w r (.shows x, c) where
  tells := (told_of_ok h).trans (congrArg Except.ok hshown)
  content_eq := by rw [worldAfter_of_ok h, hcontent]

/-- An act that fails leaves the content. -/
theorem Obeys.of_error {fault : Fault} (h : act.run w = .error fault w')
    (hcontent : w'.content r = w.content r) : act.Obeys w r (.fails fault, w.content r) where
  tells := told_of_error h
  content_eq := by rw [worldAfter_of_error h, hcontent]

/-- What the machine does not tell need only leave the content. -/
theorem Obeys.of_untold (h : (act.worldAfter w).content r = w.content r) :
    act.Obeys w r (.untold, w.content r) := ⟨trivial, h⟩

/-- What an act that is refused tells, and the content it leaves. -/
theorem IsRefused.of_error {fault : Fault} (h : act.run w = .error fault w')
    (hrefuses : (w.roll r).Refuses fault) (hcontent : w'.content r = w.content r) :
    act.IsRefused w r fault where
  told_eq := told_of_error h
  refuses := hrefuses
  content_eq := by rw [worldAfter_of_error h, hcontent]

/-- The act comes out as expected, or storage is refused. -/
def Complies (act : Act Answer) (w : World) (r : RollId) (expected : Reply × Content) : Prop :=
  act.Obeys w r expected ∨ ∃ fault, act.IsRefused w r fault

theorem told_congr {act' : Act Answer} (hrun : act.run w = act'.run w') :
    act.told w = act'.told w' := by
  unfold told
  rw [hrun]

theorem worldAfter_congr {act' : Act Answer} (hrun : act.run w = act'.run w') :
    act.worldAfter w = act'.worldAfter w' := by
  unfold worldAfter
  rw [hrun]

/-- Only the run of an act matters. -/
theorem Obeys.of_run_eq {act' : Act Answer} {expected : Reply × Content}
    (h : act'.Obeys w' r expected) (hrun : act.run w = act'.run w') : act.Obeys w r expected where
  tells := told_congr hrun ▸ h.tells
  content_eq := worldAfter_congr hrun ▸ h.content_eq

/-- Only the run of an act matters, and nothing that was read before. -/
theorem Complies.of_run_eq {act' : Act Answer} {expected : Reply × Content}
    (h : act'.Complies w' r expected) (hrun : act.run w = act'.run w')
    (hread : w.Undisturbed w') : act.Complies w r expected := by
  have htold := told_congr hrun
  have hafter := worldAfter_congr hrun
  rcases h with h | ⟨fault, h⟩
  · exact .inl ⟨htold ▸ h.tells, hafter ▸ h.content_eq⟩
  · refine .inr ⟨fault, htold.trans h.told_eq, hread.roll_eq r ▸ h.refuses, ?_⟩
    rw [hafter, h.content_eq, hread.content_eq]

/-- Plain and guarded rolls have most requests in common. -/
theorem ask_shared (hasked : asked.rollId? = some r) {verb : Verb}
    (hverb : verb ∉ [.bookmark, .generation, .reallocations, .policy, .withCapacity, .printed,
      .written]) (args : List Value) : ask asked verb args = askShared asked r verb args := by
  cases asked <;> cases hasked <;> cases verb <;> first | rfl | simp at hverb

/-! ### Adding and making room -/

/-- What is refused leaves every content. -/
theorem content_refused (hw : w.Owned) (fault : Fault) :
    (w.refused fault).content r = w.content r :=
  World.content_of_same hw (World.roll_of_rolls_eq (w.rolls_refused fault) r)
    (keepsTexts_refused w fault)

/-- Adding a text puts it behind the others, or is refused storage. -/
theorem appendText_cases (hw : w.Owned) (r : RollId) (t : Text) :
    (∃ w', (appendText r t).run w = .ok () w' ∧ w'.content r = (w.content r).added t.content) ∨
      ∃ fault w', (appendText r t).run w = .error fault w' ∧ (w.roll r).Refuses fault ∧
        w'.content r = w.content r := by
  cases hrun : (appendText r t).run w with
  | ok u w' =>
    obtain ⟨l, growth, happend, hrolls, hbuffers⟩ := appendText_eq_ok hrun
    have hkeeps : w.KeepsTexts w' :=
      (w.keepsTexts_addBuffer _).trans (World.keepsTexts_of_buffers_eq hbuffers)
    have hcontent := World.content_changed hw (.appended happend) hrolls hkeeps
    rw [Roll.shownCursor_append happend, List.map_singleton, World.text_of_issue hbuffers,
      Buffer.text_ofText] at hcontent
    exact .inl ⟨w', rfl, hcontent⟩
  | error fault w' =>
    obtain ⟨happend, rfl⟩ := appendText_eq_error hrun
    exact .inr ⟨fault, _, rfl, Roll.refuses_of_append happend, content_refused hw fault⟩

/-- Adding comes out as the machine says, or is refused storage. -/
theorem appendText_complies (hw : w.Owned) (r : RollId) (t : Text) :
    (appendText r t >>= fun _ => pure Answer.nothing).Complies w r
      (.shows .null, (w.content r).added t.content) := by
  have hbind : (appendText r t >>= fun _ => pure Answer.nothing).run w = _ := EStateM.run_bind _ _
  rcases appendText_cases hw r t with ⟨w', hrun, hcontent⟩ | ⟨fault, w', hrun, hrefuses, hsame⟩
  · rw [hrun] at hbind
    exact .inl (.of_ok hbind rfl hcontent)
  · rw [hrun] at hbind
    exact .inr ⟨fault, .of_error hbind hrefuses hsame⟩

theorem complies_add (hw : w.Owned) (access : Access) (asked v : Value) :
    (askShared asked r .add [v]).Complies w r
      ((w.content r).obey access (.add (w.argument v))) := by
  have houtcome : (w.content r).outcome access (.add (w.argument v))
      = ((v.asText "add").map Text.content).map fun s =>
        (.shows .null, (w.content r).added s) := by
    rw [← w.asText_argument]
    rfl
  have hask : askShared asked r .add [v]
      = (MonadExcept.ofExcept (v.asText "add") >>= fun t =>
        appendText r t >>= fun _ => pure Answer.nothing) := rfl
  rw [hask]
  cases hv : v.asText "add" with
  | error fault =>
    rw [hv] at houtcome
    rw [Content.obey_of_error houtcome]
    exact .inl (.of_error rfl rfl)
  | ok t =>
    rw [hv] at houtcome
    rw [Content.obey_of_ok houtcome]
    exact (appendText_complies hw r t).of_run_eq rfl (.refl w)

/-- What is added for a buffer has its text; reading that text first makes no difference. -/
theorem complies_addBuffer (hw : w.Owned) (access : Access) (asked v : Value) :
    (askShared asked r .addBuffer [v]).Complies w r
      ((w.content r).obey access (.addBuffer (w.argument v))) := by
  have hother : ∀ kind : Kind, (w.argument v).asBuffer = .error (.bufferExpected kind) →
      (askShared asked r .addBuffer [v]).run w = .error (.bufferExpected kind) w →
      (askShared asked r .addBuffer [v]).Complies w r
        ((w.content r).obey access (.addBuffer (w.argument v))) := by
    intro kind hv hrun
    have houtcome : (w.content r).outcome access (.addBuffer (w.argument v))
        = .error (.bufferExpected kind) := congrArg (Except.map _) hv
    rw [Content.obey_of_error houtcome]
    exact .inl (.of_error hrun rfl)
  cases v with
  | buffer b =>
    have hread := w.undisturbed_collapse b
    have houtcome : (w.content r).outcome access (.addBuffer (w.argument (.buffer b)))
        = .ok (.shows .null, (w.content r).added (w.text b)) := rfl
    rw [Content.obey_of_ok houtcome]
    have hadded := appendText_complies (hread.occurs.owned hw) r (w.built b)
    rw [hread.content_eq] at hadded
    exact hadded.of_run_eq rfl hread
  | null | bool | int | real | text | bytes | list | record | roll | guarded | bookmark | policy
    | tally | growths | growth | walk => exact hother _ rfl rfl

/-- Making room for a whole number of elements shows in no content, and may be refused. -/
theorem reserve_complies (hw : w.Owned) (r : RollId) (n : Whole) (mark : Mark) :
    (reserve r n mark >>= fun _ => pure Answer.nothing).Complies w r
      ((w.content r).telling .null) := by
  have hbind : (reserve r n mark >>= fun _ => pure Answer.nothing).run w = _ :=
    EStateM.run_bind _ _
  have hrun := run_reserve r n mark w
  cases hreserve : (w.roll r).reserve n mark with
  | error fault =>
    rw [hreserve] at hrun
    rw [hrun] at hbind
    exact .inr ⟨fault,
      .of_error hbind (Roll.refuses_of_reserve hreserve) (content_refused hw fault)⟩
  | ok outcome =>
    obtain ⟨l, growth⟩ := outcome
    rw [hreserve] at hrun
    rw [hrun] at hbind
    have hcontent := World.content_changed hw (.reserved hreserve)
      (World.rolls_recorded (w.setRoll r l) growth)
      (World.keepsTexts_of_buffers_eq (World.buffers_recorded (w.setRoll r l) growth))
    rw [Roll.shownCursor_reserve hreserve, List.map_nil, List.append_nil] at hcontent
    exact .inl (.of_ok hbind rfl hcontent)

/-- So does making room for a number with a point, which leaves the roll alone. -/
theorem reserveReal_complies (hw : w.Owned) (r : RollId) (mark : Mark) (x : Binary64) :
    (reserveFor r (.real mark x) >>= fun _ => pure Answer.nothing).Complies w r
      ((w.content r).telling .null) := by
  have hbind : (reserveFor r (.real mark x) >>= fun _ => pure Answer.nothing).run w = _ :=
    EStateM.run_bind _ _
  have hrun := run_reserveFor_real r mark x w
  cases hreserve : (w.roll r).reserveReal x with
  | error fault =>
    rw [hreserve] at hrun
    rw [hrun] at hbind
    exact .inr ⟨fault, .of_error hbind (.inr ⟨x, hreserve⟩) (content_refused hw fault)⟩
  | ok u =>
    rw [hreserve] at hrun
    rw [hrun] at hbind
    exact .inl (.of_ok hbind rfl rfl)

/-- Making room shows in no content, and may be refused. -/
theorem complies_reserve (hw : w.Owned) (access : Access) (asked v : Value) :
    (askShared asked r .reserve [v]).Complies w r
      ((w.content r).obey access (.reserve (w.argument v))) := by
  have hask : askShared asked r .reserve [v]
      = reserveFor r v >>= fun _ => pure Answer.nothing := rfl
  have hother : ∀ kind : Kind, (w.argument v).asSlots = .error (.notOrdered ">" kind .int) →
      (reserveFor r v).run w = .error (.notOrdered ">" kind .int) w →
      (askShared asked r .reserve [v]).Complies w r
        ((w.content r).obey access (.reserve (w.argument v))) := by
    intro kind hv hrun
    have houtcome : (w.content r).outcome access (.reserve (w.argument v))
        = .error (.notOrdered ">" kind .int) := congrArg (Except.map _) hv
    rw [Content.obey_of_error houtcome, hask]
    refine .inl (.of_error ?_ rfl)
    rw [EStateM.run_bind, hrun]
  cases v with
  | int mark n => exact reserve_complies hw r (.numeral n) mark
  | bool b => exact reserve_complies hw r (.truth b) .word
  | real mark x => exact reserveReal_complies hw r mark x
  | null | text | bytes | list | record | buffer | roll | guarded | bookmark | policy | tally
    | growths | growth | walk => exact hother _ rfl rfl

/-! ### Taking out -/

theorem obeys_clear (hw : w.Owned) (access : Access) (asked : Value) :
    (askShared asked r .clear []).Obeys w r ((w.content r).obey access .clear) := by
  have hrun : (askShared asked r .clear []).run w
      = .ok .nothing ((w.setRoll r (clearedRoll w r)).note (.cleared (w.roll r).length)) := rfl
  refine .of_ok hrun rfl ?_
  exact World.content_changed hw (.cleared _) rfl (World.keepsTexts_of_buffers_eq rfl)

/-- The cursor of the roll without an element is the cursor of the content without its text. -/
theorem cursorWithout_content (hr : (w.roll r).WellFormed) (i : Nat) :
    (w.content r).cursorWithout i = ((w.roll r).without i).shownCursor := by
  rw [Roll.shownCursor_without]
  unfold Content.cursorWithout
  rw [World.index_content]
  show (let left := (w.texts r).length - 1
    let moved : Whole :=
      if i < (w.roll r).cursor then .numeral ((w.roll r).cursor - 1 : Nat)
      else (w.roll r).shownCursor
    if left ≤ moved.toNat then Whole.numeral (left - 1 : Nat) else moved) = _
  rw [World.length_texts hr]

/-- An element that is taken out is handed out, and the content goes on without its text. -/
theorem obeys_takenFrom (hw : w.Owned) {i : Nat} (hi : i < (w.roll r).elements.length)
    {outcome : Except Fault (BufferId × Roll BufferId)}
    (houtcome : outcome = .ok ((w.roll r).elements[i], (w.roll r).without i)) :
    (takenFrom r outcome).Obeys w r ((w.content r).handingOut i) := by
  have hrun := run_takenFrom r outcome w
  rw [houtcome] at hrun ⊢
  refine .of_ok hrun (congrArg Shown.buffer (World.item_content hi).symm) ?_
  have hrolls : (w.setRoll r ((w.roll r).without i)).rolls
      = w.rolls.put r.index ((w.roll r).without i) := rfl
  have hcontent := World.content_changed hw (.taken ((hw.wellFormed r).length_elements ▸ hi)) hrolls
    (World.keepsTexts_of_buffers_eq rfl)
  rw [List.map_nil, List.append_nil, ← cursorWithout_content (hw.wellFormed r)] at hcontent
  exact hcontent

/-- Taking out what some index names, if it names an element. -/
theorem obeys_taking (hw : w.Owned) {access : Access} {order : Order} {index : Except Fault Nat}
    (hindex : ∀ i, index = .ok i → i < (w.roll r).elements.length)
    (houtcome : (w.content r).outcome access order = index.map (w.content r).handingOut) :
    (takenFrom r (index.bind (w.roll r).takeSlot)).Obeys w r
      ((w.content r).obey access order) := by
  cases index with
  | error fault =>
    rw [Content.obey_of_error houtcome]
    exact .of_error rfl rfl
  | ok i =>
    rw [Content.obey_of_ok houtcome]
    exact obeys_takenFrom hw (hindex i rfl) ((hw.wellFormed r).takeSlot_eq (hindex i rfl))

theorem currentIndex_lt (hr : (w.roll r).WellFormed) {operation : String} {i : Nat}
    (h : (w.roll r).currentIndex operation = .ok i) : i < (w.roll r).elements.length := by
  rcases (w.roll r).currentIndex_cases operation with ⟨hpos, hok⟩ | ⟨-, herror⟩
  · rw [hok] at h
    cases h
    exact hr.length_elements.symm ▸ hr.cursor_lt hpos
  · rw [herror] at h
    cases h

theorem checkIndex_lt (hr : (w.roll r).WellFormed) {index : Except Fault Whole} {i : Nat}
    (h : index.bind (w.roll r).checkIndex = .ok i) : i < (w.roll r).elements.length := by
  cases index with
  | error fault => cases h
  | ok n =>
    rcases (w.roll r).checkIndex_cases n with ⟨hlt, -, hok⟩ | ⟨-, herror⟩
    · cases hok.symm.trans h
      exact hr.length_elements.symm ▸ hlt
    · cases herror.symm.trans h

/-- The index that a request names, as the machine finds it. -/
theorem content_index (hr : (w.roll r).WellFormed) (v : Value) :
    (w.argument v).asIndex (w.content r).texts.length >>= (w.content r).checkIndex
      = (v.asIndex (w.roll r).length).bind (w.roll r).checkIndex := by
  rw [w.asIndex_argument, funext (World.content_checkIndex hr)]
  show (v.asIndex (w.texts r).length).bind _ = _
  rw [World.length_texts hr]

theorem obeys_remove (hw : w.Owned) (access : Access) (asked : Value) :
    (askShared asked r .remove []).Obeys w r ((w.content r).obey access .remove) := by
  have hr := hw.wellFormed r
  have houtcome : (w.content r).outcome access .remove
      = ((w.roll r).currentIndex "remove").map (w.content r).handingOut := by
    rw [← World.content_currentIndex hr]
    rfl
  exact (obeys_taking hw (fun i => currentIndex_lt hr) houtcome).of_run_eq rfl

theorem obeys_removeAt (hw : w.Owned) (access : Access) (asked v : Value) :
    (askShared asked r .removeAt [v]).Obeys w r
      ((w.content r).obey access (.removeAt (w.argument v))) := by
  have hr := hw.wellFormed r
  have houtcome : (w.content r).outcome access (.removeAt (w.argument v))
      = ((v.asIndex (w.roll r).length).bind (w.roll r).checkIndex).map
        (w.content r).handingOut := by
    rw [← content_index hr]
    rfl
  refine (obeys_taking hw (fun i => checkIndex_lt hr) houtcome).of_run_eq ?_
  show EStateM.run (MonadExcept.ofExcept (v.asIndex (w.roll r).length) >>= fun n =>
    takenFrom r ((w.roll r).removeAt n)) w = _
  cases v.asIndex (w.roll r).length with
  | error fault => rfl
  | ok n => rfl

/-! ### Moving the cursor -/

/-- Setting a roll to one with the same elements moves at most its cursor. -/
theorem content_setRoll {l : Roll BufferId} (helements : l.elements = (w.roll r).elements) :
    (w.setRoll r l).content r = ⟨w.texts r, l.shownCursor⟩ :=
  World.content_eq (World.roll_put_self rfl) (congrArg (List.map w.text) helements) rfl

theorem obeys_seek (hw : w.Owned) (access : Access) (asked v : Value) :
    (askShared asked r .seek [v]).Obeys w r
      ((w.content r).obey access (.seek (w.argument v))) := by
  have hr := hw.wellFormed r
  have houtcome : (w.content r).outcome access (.seek (w.argument v))
      = ((w.roll r).currentIndex "seek").bind fun _ =>
        (v.asIndex (w.roll r).length).bind fun n =>
          ((w.roll r).checkIndex n).bind fun _ => .ok (.shows .null, ⟨w.texts r, n⟩) := by
    rw [← World.content_currentIndex hr, ← w.asIndex_argument, ← World.length_texts hr,
      ← funext (World.content_checkIndex hr)]
    rfl
  let index := v.asIndex (w.roll r).length
  have hrun : (askShared asked r .seek [v]).run w
      = match (w.roll r).seek index v.mark with
        | .ok l => .ok Answer.nothing (w.setRoll r l)
        | .error fault => .error fault w := by
    show EStateM.run (MonadExcept.ofExcept ((w.roll r).seek index v.mark)
      >>= fun l => do setRoll r l; return Answer.nothing) w = _
    cases (w.roll r).seek index v.mark <;> rfl
  have hseek : (w.roll r).seek index v.mark
      = ((w.roll r).currentIndex "seek").bind fun _ => (v.asIndex (w.roll r).length).bind fun n =>
        ((w.roll r).checkIndex n).bind fun i => .ok { w.roll r with
          cursor := i, cursorOrigin := if n.isTruth then .truth else .given v.mark } := rfl
  -- both sides make the same three checks in the same order
  rw [hseek] at hrun
  rcases (w.roll r).currentIndex_cases "seek" with ⟨hpos, hok⟩ | ⟨hzero, herror⟩
  · rw [hok] at hrun houtcome
    cases hv : v.asIndex (w.roll r).length with
    | error fault =>
      rw [hv] at hrun houtcome
      rw [Content.obey_of_error houtcome]
      exact .of_error hrun rfl
    | ok n =>
      rw [hv] at hrun houtcome
      dsimp only [Except.bind] at hrun houtcome
      rcases (w.roll r).checkIndex_cases n with ⟨hlt, hnonneg, hcheck⟩ | ⟨hout, hcheck⟩
      · rw [hcheck] at hrun houtcome
        rw [Content.obey_of_ok houtcome]
        exact .of_ok hrun rfl (World.content_eq (World.roll_put_self rfl) rfl
          (Roll.shownCursor_given _ hnonneg v.mark))
      · rw [hcheck] at hrun houtcome
        rw [Content.obey_of_error houtcome]
        exact .of_error hrun rfl
  · rw [herror] at hrun houtcome
    rw [Content.obey_of_error houtcome]
    exact .of_error hrun rfl

/-- A single step of the cursor. -/
theorem obeys_movedTo {may : Bool} {i : Nat} {outcome : Bool × Roll BufferId}
    (houtcome : outcome = if may then (true, (w.roll r).moveTo i) else (false, w.roll r)) :
    (movedTo r outcome).Obeys w r ((w.content r).stepping may i) := by
  have hrun := run_movedTo r outcome w
  subst houtcome
  cases may with
  | true => exact .of_ok hrun rfl (content_setRoll rfl)
  | false => exact .of_ok hrun rfl (content_setRoll rfl)

theorem obeys_advance (hw : w.Owned) (access : Access) (asked : Value) :
    (askShared asked r .advance []).Obeys w r ((w.content r).obey access .advance) := by
  have houtcome : (w.content r).outcome access .advance
      = .ok ((w.content r).stepping ((w.roll r).cursor + 1 < (w.roll r).length)
        ((w.roll r).cursor + 1)) := by
    rw [← World.index_content, ← World.length_texts (hw.wellFormed r)]
    rfl
  rw [Content.obey_of_ok houtcome]
  have hstep : (w.roll r).advance
      = if decide ((w.roll r).cursor + 1 < (w.roll r).length) then
          (true, (w.roll r).moveTo ((w.roll r).cursor + 1))
        else (false, w.roll r) := by
    simp only [decide_eq_true_eq]
    rfl
  exact (obeys_movedTo hstep).of_run_eq rfl

theorem obeys_retreat (access : Access) (asked : Value) :
    (askShared asked r .retreat []).Obeys w r ((w.content r).obey access .retreat) := by
  have houtcome : (w.content r).outcome access .retreat
      = .ok ((w.content r).stepping (0 < (w.roll r).cursor) ((w.roll r).cursor - 1)) := by
    rw [← World.index_content]
    rfl
  rw [Content.obey_of_ok houtcome]
  have hstep : (w.roll r).retreat
      = if decide (0 < (w.roll r).cursor) then
          (true, (w.roll r).moveTo ((w.roll r).cursor - 1))
        else (false, w.roll r) := by
    simp only [decide_eq_true_eq]
    rfl
  exact (obeys_movedTo hstep).of_run_eq rfl

theorem obeys_rewind (access : Access) (asked : Value) :
    (askShared asked r .rewind []).Obeys w r ((w.content r).obey access .rewind) := by
  have hrun : (askShared asked r .rewind []).run w
      = .ok .nothing (w.setRoll r (w.roll r).rewind) := rfl
  exact .of_ok hrun rfl (content_setRoll rfl)

end Act

end TextRoll
