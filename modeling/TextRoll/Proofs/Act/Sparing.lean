/-
TextRoll/Proofs/Act/Sparing.lean

Requests that spare all rolls.

What is asked of anything but a roll, or of the library itself, changes no roll: no element
is added, lost or moved, whatever is asked and with whatever arguments.  At most one buffer is
edited, the one that is asked or that a bookmark stands for (`World.standsFor?`,
`doesFrom_ask_other`).  Even telling a tally of a growth, or putting another policy in
force, is no event for any roll that there is.

Together with what requests to rolls do this covers every request (`does_ask`).
-/
import TextRoll.Proofs.Act.Asking

namespace TextRoll

namespace Event

/-- At most one buffer is edited, and no roll is touched. -/
def Spares : Event → Prop
  | still | edited .. => True
  | changed .. | created => False

theorem EditsOnly.spares {b : BufferId} {e : Event} (h : e.EditsOnly b) : e.Spares := by
  cases e with
  | still | edited => trivial
  | changed | created => exact h

theorem Spares.lossOn {e : Event} (h : e.Spares) (r : RollId) : e.lossOn r = .nothing := by
  cases e with
  | still | edited => rfl
  | changed | created => exact h.elim

/-- At most this buffer is edited, if there is one, and no roll is touched. -/
def EditsAtMost : Option BufferId → Event → Prop
  | some b, e => e.EditsOnly b
  | none, e => e = .still

theorem EditsAtMost.of_still (found : Option BufferId) : Event.still.EditsAtMost found := by
  cases found with
  | none => rfl
  | some b => trivial

theorem EditsAtMost.spares {found : Option BufferId} {e : Event} (h : e.EditsAtMost found) :
    e.Spares := by
  cases found with
  | none =>
    obtain rfl := h
    trivial
  | some b => exact EditsOnly.spares h

/-- The event is one that a request can cause. -/
def Fits (asked : Value) (verb : Verb) (args : List Value) (e : Event) : Prop :=
  match asked.rollId? with
  | some r => e.Answers r verb args
  | none => e.Spares

end Event

/-- What edits one buffer at most leaves the rolls and all other texts. -/
theorem World.Occurs.edited_cases {w w' : World} {e : Event} {b : BufferId} (h : w.Occurs e w')
    (he : e.EditsOnly b) :
    w'.rolls = w.rolls ∧
      ∀ b', b'.index < w.buffers.size → b' ≠ b → w'.text b' = w.text b' := by
  cases h with
  | still hrolls htexts => exact ⟨hrolls, fun b' hb' _ => htexts.text_eq b' hb'⟩
  | edited hrolls hsize hself hothers =>
    obtain rfl := he
    exact ⟨hrolls, fun b' _ hne => hothers b' hne⟩
  | changed | created => exact he.elim

/-- The buffer that a value stands for: itself, or what is stored where a bookmark points. -/
def World.standsFor? (w : World) : Value → Option BufferId
  | .buffer b => some b
  | .bookmark _ m =>
    match (Act.follow m).run w with
    | .ok found _ => found
    | .error .. => none
  | _ => none

namespace Act

variable {α : Type} {p : Event → Prop} {P : Fault → Prop} {w : World}

/-- Every fault will do. -/
def Any : Fault → Prop := fun _ => True

/-! ### Editing a buffer -/

theorem does_editBuffer (b : BufferId) {f : Buffer → Buffer} {edit : Edit}
    (hf : ∀ x, (f x).text = edit.apply x.text) :
    Does (· = .edited b edit) P (editBuffer b f) := by
  intro w hw
  refine ⟨_, rfl, .edited rfl (w.size_le_setBuffer b _) ?_ fun b' hb' => ?_⟩
  · unfold World.text
    show ((w.setBuffer b (f (w.buffer b))).buffer b).text = _
    rw [World.buffer_setBuffer_self, hf]
  · unfold World.text
    show ((w.setBuffer b (f (w.buffer b))).buffer b').text = _
    rw [World.buffer_setBuffer_of_ne w _ hb']

theorem does_append (b : BufferId) (t : Text) :
    Does (· = .edited b (.added t.content)) P (editBuffer b (·.append t)) :=
  does_editBuffer b fun x => x.text_append t

theorem does_appendLine (b : BufferId) (t : Text) :
    Does (· = .edited b (.added (t.content ++ "\n"))) P (editBuffer b (·.appendLine t)) :=
  does_editBuffer b fun x => (x.text_appendLine t).trans (String.append_assoc ..)

theorem does_extend (b : BufferId) (pieces : List Text) :
    Does (· = .edited b (.added (String.join (pieces.map Text.content)))) P
      (editBuffer b (·.extend pieces)) :=
  does_editBuffer b fun x => x.text_extend pieces

theorem does_clearBuffer (b : BufferId) :
    Does (· = .edited b .dropped) P (editBuffer b Buffer.clear) :=
  does_editBuffer b fun x => x.text_clear

/-! ### Requests to buffers and bookmarks -/

theorem still_askGeneral (asked : Value) (verb : Verb) (args : List Value) :
    Does (· = .still) Any (askGeneral asked verb args) :=
  (does_askGeneral (fun _ _ => trivial) (fun _ _ _ => trivial) verb args).mono
    (fun _ he => he.1) fun _ => id

/-- Asking a buffer edits at most that buffer. -/
theorem does_askBuffer (b : BufferId) (verb : Verb) (args : List Value) :
    Does (Event.EditsOnly b) Any (askBuffer b verb args) := by
  have hedited : ∀ {edit : Edit} (e : Event), e = .edited b edit → e.EditsOnly b := by
    rintro edit e rfl
    rfl
  unfold askBuffer
  split
  · exact .ofExcept_bind (fun _ _ => trivial) fun t =>
      (does_append b t).map.mono hedited fun _ => id
  · exact (does_appendLine b _).map.mono hedited fun _ => id
  · exact .ofExcept_bind (fun _ _ => trivial) fun t =>
      (does_appendLine b t).map.mono hedited fun _ => id
  · refine .after (reads_elements (fun _ _ => trivial) fun _ _ _ => trivial) fun items => ?_
    exact .ofExcept_bind (fun _ _ => trivial) fun pieces =>
      (does_extend b pieces).map.mono hedited fun _ => id
  · exact ((reads_built b).bind fun _ => .pure _).does trivial
  · exact (does_clearBuffer b).map.mono hedited fun _ => id
  · exact ((reads_built b).bind fun _ => .pure _).does trivial
  · exact Reads.does (.get_bind fun _ _ => .pure _) trivial
  · exact ((reads_built b).bind fun _ => .pure _).does trivial
  · exact ((reads_textOf b).bind fun _ => .pure _).does trivial
  · exact (still_askGeneral _ _ _).mono (fun e he => he ▸ trivial) fun _ => id

theorem reads_follow (m : Bookmark) : Reads Any (follow m) := by
  refine .roll_bind fun l => .get_bind fun v hv => ?_
  refine Reads.ite ?_ (.throw trivial) v hv
  exact Reads.bind (.ofExcept fun _ _ => trivial) fun i => .ofExcept fun _ _ => trivial

theorem reads_followTo (m : Bookmark) (wanted : String) : Reads Any (followTo m wanted) := by
  refine (reads_follow m).bind fun found => ?_
  cases found with
  | some b => exact .pure _
  | none => exact .throw trivial

/-- A bookmark that can be followed stands for what it leads to. -/
theorem standsFor_of_followTo {m : Bookmark} {wanted : String} {b : BufferId} {w' : World}
    (h : (followTo m wanted).run w = .ok b w') (mark : Mark) :
    w.standsFor? (.bookmark mark m) = some b := by
  obtain ⟨found, w₁, hfollow, hfound⟩ := bind_eq_ok h
  show (match (follow m).run w with
    | .ok found _ => found
    | .error .. => none) = some b
  rw [hfollow]
  cases found with
  | none => cases hfound
  | some b' =>
    cases hfound
    rfl

/-- Asking a bookmark edits at most the buffer it stands for.  What can go wrong is what can go
wrong with following it. -/
theorem doesFrom_askBookmark (hw : w.WellFormed)
    (hregular : ∀ fault : Fault, fault.IsRegular → P fault)
    {m : Bookmark} (hfollow : (follow m).ReadsFrom w P)
    (hto : ∀ wanted, (followTo m wanted).ReadsFrom w P) (mark : Mark) (verb : Verb)
    (args : List Value) :
    (askBookmark mark m verb args).DoesFrom w
      (Event.EditsAtMost (w.standsFor? (.bookmark mark m))) P := by
  have hstill := Event.EditsAtMost.of_still (w.standsFor? (.bookmark mark m))
  have hedited : ∀ {b : BufferId} {wanted : String} {w' : World} {edit : Edit} (e : Event),
      (followTo m wanted).run w = .ok b w' → e = .edited b edit →
      e.EditsAtMost (w.standsFor? (.bookmark mark m)) := by
    rintro b wanted w' edit e hrun rfl
    rw [standsFor_of_followTo hrun]
    rfl
  unfold askBookmark
  split
  · exact (ReadsFrom.pure _).doesFrom hstill
  · exact Reads.does (.get_bind fun _ _ => .pure _) hstill w hw
  · refine (hfollow.bind fun found w' hu => ?_).doesFrom hstill
    cases found <;> exact .pure _
  · -- `append` follows the bookmark before it looks at its argument
    refine (hto _).doesFrom_bind fun b w' hrun hu => ?_
    refine Does.ofExcept_bind (fun _ h => hregular _ (asText_error h)) (fun t => ?_) w'
      (hu.wellFormed hw)
    exact (does_append b t).map.mono (fun e => hedited e hrun) fun _ => id
  · refine (hto _).doesFrom_bind fun b w' hrun hu => ?_
    exact (does_clearBuffer b).map.mono (fun e => hedited e hrun) (fun _ => id) w'
      (hu.wellFormed hw)
  · refine ((hto _).bind fun b w' hu => ?_).doesFrom hstill
    exact ((reads_built b).bind fun _ => .pure _) w' (hu.wellFormed hw)
  · have hwalk : ∀ k, Value.bookmark mark m = .walk k → ∀ fault, P fault := nofun
    refine (does_askGeneral hregular hwalk _ _).mono (fun e he => ?_) (fun _ => id) w hw
    exact he.1 ▸ hstill

/-! ### Requests to policies and tallies -/

/-- What touches neither buffers nor rolls is no event. -/
theorem occurs_of_same {w' : World} (hrolls : w'.rolls = w.rolls)
    (hbuffers : w'.buffers = w.buffers) : w.Occurs .still w' :=
  .still hrolls (World.keepsTexts_of_buffers_eq hbuffers)

theorem does_askPolicy (p : Policy) (verb : Verb) (args : List Value) :
    Does (· = .still) Any (askPolicy p verb args) := by
  unfold askPolicy
  split
  · exact Reads.does (.pure _) rfl
  · exact Reads.does (.pure _) rfl
  · exact Reads.does (.pure _) rfl
  · exact Reads.does (.pure _) rfl
  · exact Reads.does (Reads.bind (.ofExcept fun _ _ => trivial) fun _ => .pure _) rfl
  · exact still_askGeneral _ _ _

/-- A tally keeps what it counted, whether or not it could count everything. -/
theorem run_tell (t : TallyId) (before after : Value) (w : World) :
    (tell t before after).run w
      = match (Tally.record t before after).run (w.tally t) with
        | .ok _ tally => .ok () (w.setTally t tally)
        | .error fault tally => .error fault (w.setTally t tally) := by
  unfold tell
  rw [EStateM.run_bind, EStateM.run_get]
  dsimp only
  cases (Tally.record t before after).run (w.tally t) with
  | ok _ tally => rfl
  | error fault tally => rfl

/-- Whatever a tally is told, no roll hears of it. -/
theorem does_tell (t : TallyId) (before after : Value) :
    Does (· = .still) Any (tell t before after) := by
  intro w hw
  have hrun := run_tell t before after w
  cases hrecord : (Tally.record t before after).run (w.tally t) with
  | ok _ tally =>
    rw [hrecord] at hrun
    exact .of_ok hrun rfl (occurs_of_same rfl rfl)
  | error fault tally =>
    rw [hrecord] at hrun
    exact .of_error hrun (occurs_of_same rfl rfl) trivial

theorem does_askTally (t : TallyId) (start : List Value) (verb : Verb) (args : List Value) :
    Does (· = .still) Any (askTally t start verb args) := by
  unfold askTally
  split
  · exact (does_tell t _ _).map
  · exact Reads.does (.get_bind fun _ _ => .pure _) rfl
  · exact Reads.does (.pure _) rfl
  · exact Reads.does (.get_bind fun _ _ => .pure _) rfl
  · exact Reads.does (.get_bind fun _ _ => .pure _) rfl
  · exact Reads.does (.get_bind fun _ _ => .pure _) rfl
  · exact still_askGeneral _ _ _

/-! ### All requests -/

/-- What is asked of anything but a roll edits at most the buffer that it stands for. -/
theorem doesFrom_ask_other (hw : w.WellFormed) {asked : Value} (hasked : asked.rollId? = none)
    (verb : Verb) (args : List Value) :
    (ask asked verb args).DoesFrom w (Event.EditsAtMost (w.standsFor? asked)) Any := by
  cases asked with
  | roll | guarded => cases hasked
  | buffer b => exact does_askBuffer b verb args w hw
  | bookmark mark m =>
    exact doesFrom_askBookmark hw (fun _ _ => trivial) (reads_follow m w hw)
      (fun wanted => reads_followTo m wanted w hw) mark verb args
  | policy q => exact does_askPolicy q verb args w hw
  | tally t start => exact does_askTally t start verb args w hw
  | null | bool | int | real | text | bytes | list | record | growths | growth | walk =>
    exact still_askGeneral _ _ _ w hw

/-- **What a request does.** A request to a roll changes it as the verb says, any other request
spares all rolls, and one that fails causes nothing. -/
theorem does_ask (asked : Value) (verb : Verb) (args : List Value) :
    Does (Event.Fits asked verb args) Any (ask asked verb args) := by
  intro w hw
  unfold Event.Fits
  cases hasked : asked.rollId? with
  | some r => exact (does_ask_roll hasked verb args w hw).mono (fun _ => id) fun _ _ => trivial
  | none =>
    exact (doesFrom_ask_other hw hasked verb args).mono (fun _ he => he.spares) fun _ => id

theorem does_setPolicy (v : Value) : Does (· = .still) Any (setPolicy v) :=
  fun _ _ => ⟨.still, rfl, occurs_of_same rfl rfl⟩

/-- Asking the library itself causes no event. -/
theorem does_serve (service : Service) (args : List Value) :
    Does (· = .still) Any (serve service args) := by
  have hany : ∀ fault : Fault, fault.IsRegular → Any fault := fun _ _ => trivial
  unfold serve
  split
  · exact Reads.does (.pure _) rfl
  · exact Reads.does (Reads.bind (.ofExcept fun _ _ => trivial) fun _ => .pure _) rfl
  · exact (does_newRoll none).map.mono (fun _ => id) hany
  · exact (does_newRollFor _).map.mono (fun _ => id) hany
  · exact (does_newRoll none).map.mono (fun _ => id) hany
  · exact (does_newRoll none).map.mono (fun _ => id) hany
  · exact Reads.does (.pure _) rfl
  · exact Reads.does (.pure _) rfl
  · exact .throw trivial
  · exact Reads.does (.pure _) rfl
  · exact .throw trivial
  · exact Reads.does (.pure _) rfl
  · exact Reads.does (.get_bind fun _ _ => .pure _) rfl
  · exact (does_setPolicy _).map
  · exact (does_setPolicy _).map
  · exact Reads.does (.get_bind fun _ _ => .pure _) rfl
  · exact ((reads_equal _ _).bind fun _ => .pure _).does rfl
  · exact ((reads_equal _ _).bind fun _ => .pure _).does rfl
  · exact Reads.does (.get_bind fun _ _ => .throw trivial) rfl
  · exact .throw trivial

end Act

end TextRoll
