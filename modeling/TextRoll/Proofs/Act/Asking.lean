/-
TextRoll/Proofs/Act/Asking.lean

What requests to rolls do.

A roll is changed as the verb of the request says (`Verb.takes`), and never meets a bare slot.
There is one statement for each act that changes a roll, and one for all that a roll can be
asked, directly or through a guard (`does_askShared`, `does_askRoll`, `does_askGuarded`,
and together `does_ask_roll`).  A roll that is made does not touch those that there are
(`does_newRollFor`).
-/
import TextRoll.Proofs.Act.Doing

namespace TextRoll

namespace Act

variable {α : Type} {p : Event → Prop} {P : Fault → Prop} {w : World}

/-! ### The acts of rolls -/

section

variable {r : RollId}

theorem keepsTexts_refused (w : World) (fault : Fault) : w.KeepsTexts (w.refused fault) :=
  World.keepsTexts_of_buffers_eq (w.buffers_refused fault)

theorem occurs_refused (w : World) (fault : Fault) : w.Occurs .still (w.refused fault) :=
  .still (w.rolls_refused fault) (keepsTexts_refused w fault)

/-- One new element, or no storage for it. -/
theorem does_appendText (r : RollId) (text : Text) :
    Does (· = .changed r .nothing [text.content]) Fault.IsRegular (appendText r text) := by
  intro w hw
  cases hrun : (appendText r text).run w with
  | error fault w' =>
    obtain ⟨happend, rfl⟩ := appendText_eq_error hrun
    exact .of_error hrun (occurs_refused w _) (regular_of_refuses (Roll.refuses_of_append happend))
  | ok u w' =>
    obtain ⟨l, growth, happend, hrolls, hbuffers⟩ := appendText_eq_ok hrun
    have hkeeps : w.KeepsTexts w' :=
      (w.keepsTexts_addBuffer _).trans (World.keepsTexts_of_buffers_eq hbuffers)
    have hnew : ∀ b ∈ [w.freeBuffer], w.buffers.size ≤ b.index ∧ b.index < w'.buffers.size := by
      intro b hb
      rw [List.mem_singleton.mp hb, hbuffers, Arena.size_issue]
      exact ⟨Nat.le_refl _, Nat.lt_succ_self _⟩
    have hoccurs := World.Occurs.changed (.appended happend) hrolls hkeeps hnew
    rw [List.map_singleton, World.text_of_issue hbuffers, Buffer.text_ofText] at hoccurs
    exact .of_ok hrun rfl hoccurs

/-- A change that adds nothing, from the roll before and the roll after. -/
theorem occurs_changed {loss : Roll.Loss} {l : Roll BufferId} {w' : World}
    (hchange : (w.roll r).Change loss [] l) (hrolls : w'.rolls = w.rolls.put r.index l)
    (hbuffers : w'.buffers = w.buffers) : w.Occurs (.changed r loss []) w' :=
  .changed hchange hrolls (World.keepsTexts_of_buffers_eq hbuffers) nofun

/-- Taking what was granted, or logging the refusal, touches no roll. -/
theorem does_granted {outcome : Except Fault α}
    (h : ∀ fault, outcome = .error fault → P fault) : Does (· = .still) P (granted outcome) := by
  intro w hw
  have hrun := run_granted outcome w
  cases outcome with
  | ok a => exact .of_ok hrun rfl (.still rfl (.refl w))
  | error fault => exact .of_error hrun (occurs_refused w fault) (h fault rfl)

/-- Room without new elements, or no storage for it. -/
theorem does_reserve (r : RollId) (capacity : Whole) (mark : Mark) :
    Does (· = .changed r .nothing []) Fault.IsRegular (reserve r capacity mark) := by
  intro w hw
  have hrun := run_reserve r capacity mark w
  cases hreserve : (w.roll r).reserve capacity mark with
  | error fault =>
    rw [hreserve] at hrun
    exact .of_error hrun (occurs_refused w fault)
      (regular_of_refuses (Roll.refuses_of_reserve hreserve))
  | ok outcome =>
    obtain ⟨l, growth⟩ := outcome
    rw [hreserve] at hrun
    refine .of_ok hrun rfl (occurs_changed (.reserved hreserve) ?_ ?_)
    · exact World.rolls_recorded _ growth
    · exact World.buffers_recorded _ growth

/-- So too if what is asked for is something else, which may leave the roll alone. -/
theorem does_reserveFor (r : RollId) (v : Value) :
    Does (fun e => e = .still ∨ e = .changed r .nothing []) Fault.IsRegular (reserveFor r v) := by
  unfold reserveFor
  split
  · refine .roll_bind fun w hw => ?_
    refine ((does_granted fun fault h => ?_).mono (fun _ => .inl) fun _ => id) w hw
    exact regular_of_refuses (.inr ⟨_, h⟩)
  · exact .ofExcept_bind (fun _ => asSlots_error) fun n =>
      (does_reserve r n _).mono (fun _ => .inr) fun _ => id

theorem does_clear (r : RollId) :
    Does (· = .changed r .everything []) Fault.IsRegular (clear r) := by
  intro w hw
  exact .of_ok (run_clear r w) rfl (occurs_changed (.cleared _) rfl rfl)

/-- The event of taking out the element at some index. -/
def Takes (r : RollId) (e : Event) : Prop := ∃ i, e = .changed r (.element i) []

theorem doesFrom_takenFrom {i : Nat} {b : BufferId} {outcome : Except Fault _}
    (houtcome : outcome = .ok (b, (w.roll r).without i)) (hi : i < (w.roll r).length) :
    (takenFrom r outcome).DoesFrom w (Takes r) P := by
  have hrun := run_takenFrom r outcome w
  rw [houtcome] at hrun ⊢
  exact .of_ok hrun ⟨i, rfl⟩ (occurs_changed (.taken hi) rfl rfl)

theorem doesFrom_takenFrom_error {fault : Fault} {outcome : Except Fault _}
    (houtcome : outcome = .error fault) (hP : P fault) :
    (takenFrom r outcome).DoesFrom w p P := by
  have hrun := run_takenFrom r outcome w
  rw [houtcome] at hrun ⊢
  exact .of_error hrun (.still rfl (.refl w)) hP

theorem does_remove (r : RollId) :
    Does (Takes r) Fault.IsRegular (do takenFrom r (← roll r).remove) := by
  refine .roll_bind fun w hw => ?_
  rcases (hw r).remove_cases with ⟨hi, hremove⟩ | ⟨-, hremove⟩
  · exact doesFrom_takenFrom hremove ((hw r).length_elements ▸ hi)
  · exact doesFrom_takenFrom_error hremove rfl

theorem does_removeAt (r : RollId) (v : Value) :
    Does (Takes r) Fault.IsRegular
      (do
        let l ← roll r
        takenFrom r (l.removeAt (← ofExcept (v.asIndex l.length)))) := by
  refine .roll_bind fun w hw => ?_
  cases hv : v.asIndex (w.roll r).length with
  | error fault => exact ⟨.still rfl (.refl w), asIndex_error hv⟩
  | ok i =>
    show (takenFrom r ((w.roll r).removeAt i)).DoesFrom w (Takes r) Fault.IsRegular
    rcases (hw r).removeAt_cases i with ⟨hi, -, hremove⟩ | ⟨-, hremove⟩
    · exact doesFrom_takenFrom hremove ((hw r).length_elements ▸ hi)
    · exact doesFrom_takenFrom_error hremove rfl

/-- A move of the cursor that finds an element or goes to the start. -/
theorem occurs_moved {i : Nat} {origin : CursorOrigin} {moves : Nat}
    (h : i < (w.roll r).length ∨ i = 0) :
    w.Occurs (.changed r .nothing [])
      (w.setRoll r { w.roll r with cursor := i, cursorOrigin := origin, moves := moves }) :=
  occurs_changed (.moved i origin moves h) rfl rfl

/-- Setting the cursor where it is. -/
theorem occurs_unmoved (hr : (w.roll r).WellFormed) :
    w.Occurs (.changed r .nothing []) (w.setRoll r (w.roll r)) := by
  have hcursor : (w.roll r).cursor < (w.roll r).length ∨ (w.roll r).cursor = 0 := by
    have := hr.cursor_lt
    have := hr.cursor_eq_zero
    omega
  exact occurs_moved hcursor

/-- Setting the roll to what it is after a move. -/
theorem doesFrom_setRoll {l : Roll BufferId}
    (h : w.Occurs (.changed r .nothing []) (w.setRoll r l)) :
    (do setRoll r l; return Answer.nothing : Act Answer).DoesFrom w
      (· = .changed r .nothing []) P :=
  ⟨_, rfl, h⟩

theorem does_advance (r : RollId) :
    Does (· = .changed r .nothing []) P (do movedTo r (← roll r).advance) := by
  refine .roll_bind fun w hw => ⟨_, rfl, ?_⟩
  show w.Occurs _ (w.setRoll r (w.roll r).advance.2)
  unfold Roll.advance
  split
  · next hlt => exact occurs_moved (.inl hlt)
  · exact occurs_unmoved (hw r)

theorem does_retreat (r : RollId) :
    Does (· = .changed r .nothing []) P (do movedTo r (← roll r).retreat) := by
  refine .roll_bind fun w hw => ⟨_, rfl, ?_⟩
  show w.Occurs _ (w.setRoll r (w.roll r).retreat.2)
  unfold Roll.retreat
  split
  · have hcursor : (w.roll r).cursor - 1 < (w.roll r).length ∨ (w.roll r).cursor - 1 = 0 := by
      have := (hw r).cursor_lt
      have := (hw r).cursor_eq_zero
      omega
    exact occurs_moved hcursor
  · exact occurs_unmoved (hw r)

theorem does_rewind (r : RollId) :
    Does (· = .changed r .nothing []) P
      (do setRoll r (← roll r).rewind; return Answer.nothing : Act Answer) :=
  .roll_bind fun _ _ => doesFrom_setRoll (occurs_moved (.inr rfl))

theorem does_seek (r : RollId) (v : Value) :
    Does (· = .changed r .nothing []) Fault.IsRegular
      (do
        let l ← roll r
        setRoll r (← ofExcept (l.seek (v.asIndex l.length) v.mark))
        return Answer.nothing : Act Answer) := by
  refine .roll_bind fun w hw => ?_
  let index := v.asIndex (w.roll r).length
  show DoesFrom (MonadExcept.ofExcept ((w.roll r).seek index v.mark) >>= fun l => do
    setRoll r l; return Answer.nothing) w _ _
  rcases (w.roll r).seek_cases index v.mark with
    ⟨n, -, hlt, -, hseek⟩ | ⟨-, hseek⟩ | ⟨-, fault, hv, hseek⟩ | ⟨-, n, -, -, hseek⟩
  · rw [hseek]
    exact doesFrom_setRoll (occurs_moved (.inl hlt))
  · rw [hseek]
    exact ⟨.still rfl (.refl w), rfl⟩
  · rw [hseek]
    exact ⟨.still rfl (.refl w), asIndex_error hv⟩
  · rw [hseek]
    exact ⟨.still rfl (.refl w), rfl⟩

theorem readsFrom_copyOf (hw : w.WellFormed) {i : Nat} (hi : i < (w.roll r).length) :
    (copyOf r i).ReadsFrom w P := by
  have hplace : i < (w.roll r).elements.length := (hw r).length_elements.symm ▸ hi
  exact .of_ok (run_copyOf (hw r) hplace) (w.undisturbed_collapse _)

theorem reads_cursorOf (r : RollId) : Reads P (cursorOf r) := .roll_bind fun _ => .pure _

theorem reads_current (r : RollId) :
    Reads Fault.IsRegular (do copyOf r (← ofExcept ((← roll r).currentIndex "current"))) := by
  intro w hw
  show ReadsFrom (MonadExcept.ofExcept ((w.roll r).currentIndex "current") >>= copyOf r) w _
  rcases (w.roll r).currentIndex_cases "current" with ⟨hpos, hok⟩ | ⟨-, herror⟩
  · rw [hok]
    exact readsFrom_copyOf hw ((hw r).cursor_lt hpos)
  · rw [herror]
    exact .throw rfl

theorem reads_get (r : RollId) (v : Value) :
    Reads Fault.IsRegular
      (do
        let l ← roll r
        copyOf r (← ofExcept (l.checkIndex (← ofExcept (v.asIndex l.length))))) := by
  intro w hw
  show ReadsFrom (MonadExcept.ofExcept (v.asIndex (w.roll r).length) >>= fun i =>
    MonadExcept.ofExcept ((w.roll r).checkIndex i) >>= copyOf r) w _
  cases hv : v.asIndex (w.roll r).length with
  | error fault => exact .throw (asIndex_error hv)
  | ok i =>
    show ReadsFrom (MonadExcept.ofExcept ((w.roll r).checkIndex i) >>= copyOf r) w _
    rcases (w.roll r).checkIndex_cases i with ⟨hlt, -, hok⟩ | ⟨-, herror⟩
    · rw [hok]
      exact readsFrom_copyOf hw hlt
    · rw [herror]
      exact .throw rfl

end

/-! ### Requests that make sense for values of many kinds -/

theorem regular_lengthOf {v : Value} {fault : Fault} (h : lengthOf w v = .error fault) :
    fault.IsRegular := by
  unfold lengthOf at h
  split at h <;> cases h
  rfl

section

variable {asked : Value} (hregular : ∀ fault : Fault, fault.IsRegular → P fault)
  (hwalk : ∀ k, asked = .walk k → ∀ fault, P fault)
include hregular

theorem reads_formOf (form : World → Value → String) : Reads P (formOf form asked) := by
  refine .get_bind fun v hv => ?_
  exact Reads.ite (c := v.isWritable asked) (.pure _)
    (.throw (hregular .tooManyDigits rfl)) v hv

include hwalk

theorem reads_nextOf : Reads P (nextOf asked) := by
  unfold nextOf
  split
  · exact (reads_next (hwalk _ rfl) _).bind fun _ => .pure _
  · exact .throw (hregular _ rfl)

/-- What every value can be asked only reads, and asks nothing of a roll that would change it. -/
theorem does_askGeneral (verb : Verb) (args : List Value) :
    Does (fun e => e = .still ∧ verb.takes args .nothing) P (askGeneral asked verb args) := by
  have hnothing : ∀ verb : Verb, verb ≠ .remove → verb ≠ .removeAt → verb ≠ .clear →
      verb.takes args .nothing := fun _ hremove hremoveAt hclear =>
    ⟨hremove, hremoveAt, fun h => hclear h.1⟩
  unfold askGeneral
  split
  · refine Reads.does (.get_bind fun v hv => ?_) ⟨rfl, hnothing _ nofun nofun nofun⟩
    exact (Reads.bind (.ofExcept fun _ h => hregular _ (regular_lengthOf h)) fun _ => .pure _) v hv
  · refine Reads.does ?_ ⟨rfl, hnothing _ nofun nofun nofun⟩
    unfold truthOf
    split
    · exact .pure _
    · exact .get_bind fun _ _ => .pure _
  · refine Reads.does ?_ ⟨rfl, hnothing _ nofun nofun nofun⟩
    unfold writtenOf
    split
    · exact .pure _
    · exact reads_formOf hregular _
  · exact (reads_formOf hregular _).does ⟨rfl, hnothing _ nofun nofun nofun⟩
  · exact .throw (hregular _ rfl)
  · exact ((reads_elements hregular hwalk).bind fun _ => .pure _).does
      ⟨rfl, hnothing _ nofun nofun nofun⟩
  · exact ((reads_contains hregular hwalk _).bind fun _ => .pure _).does
      ⟨rfl, hnothing _ nofun nofun nofun⟩
  · exact (reads_startWalk hregular _).does ⟨rfl, hnothing _ nofun nofun nofun⟩
  · exact (reads_nextOf hregular hwalk).does ⟨rfl, hnothing _ nofun nofun nofun⟩
  · refine .throw (hregular _ ?_)
    unfold assignTo
    split
    · split <;> rfl
    · rfl
    · rfl
  · exact .throw (hregular _ rfl)

end

/-! ### Requests to rolls -/

theorem does_askShared {asked : Value} {r : RollId} (hasked : asked.rollId? = some r) (verb : Verb)
    (args : List Value) :
    Does (Event.Answers r verb args) Fault.IsRegular (askShared asked r verb args) := by
  have hwalk : ∀ k, asked = .walk k → ∀ fault, Fault.IsRegular fault := by
    rintro k rfl
    cases hasked
  have hstill : ∀ {verb' : Verb} {args' : List Value}, verb'.takes args' .nothing →
      Event.Answers r verb' args' .still := id
  unfold askShared
  split
  · -- `add`
    refine .ofExcept_bind (fun _ => asText_error) fun t => ?_
    exact (does_appendText r t).map.mono (fun e => .of_changed ⟨nofun, nofun, nofun⟩) fun _ => id
  · -- `addBuffer`
    refine .after (reads_built _) fun t => ?_
    exact (does_appendText r t).map.mono (fun e => .of_changed ⟨nofun, nofun, nofun⟩) fun _ => id
  · exact .throw rfl
  · -- `reserve`
    refine (does_reserveFor r _).map.mono (fun e he => ?_) fun _ => id
    rcases he with rfl | rfl
    · exact hstill ⟨nofun, nofun, nofun⟩
    · exact ⟨rfl, nofun, nofun, nofun⟩
  · -- `clear`
    exact (does_clear r).map.mono (fun e => .of_changed ⟨rfl, rfl⟩) fun _ => id
  · -- `remove`
    refine (does_remove r).mono (fun e he => ?_) fun _ => id
    obtain ⟨i, rfl⟩ := he
    exact ⟨rfl, Or.inl rfl⟩
  · -- `removeAt`
    refine (does_removeAt r _).mono (fun e he => ?_) fun _ => id
    obtain ⟨i, rfl⟩ := he
    exact ⟨rfl, Or.inr rfl⟩
  · exact (reads_current r).does (hstill ⟨nofun, nofun, nofun⟩)
  · exact (reads_get r _).does (hstill ⟨nofun, nofun, nofun⟩)
  · exact ((reads_textsOf r _).bind fun _ => .pure _).does (hstill ⟨nofun, nofun, nofun⟩)
  · -- `seek`
    exact (does_seek r _).mono (fun e => .of_changed ⟨nofun, nofun, nofun⟩) fun _ => id
  · exact (does_advance r).mono (fun e => .of_changed ⟨nofun, nofun, nofun⟩) fun _ => id
  · exact (does_retreat r).mono (fun e => .of_changed ⟨nofun, nofun, nofun⟩) fun _ => id
  · exact (does_rewind r).mono (fun e => .of_changed ⟨nofun, nofun, nofun⟩) fun _ => id
  · exact ((reads_cursorOf r).bind fun _ => .pure _).does (hstill ⟨nofun, nofun, nofun⟩)
  · exact Reads.does (.roll_bind fun _ => .pure _) (hstill ⟨nofun, nofun, nofun⟩)
  · exact Reads.does (.roll_bind fun _ => .pure _) (hstill ⟨nofun, nofun, nofun⟩)
  · refine (does_askGeneral (fun _ => id) hwalk _ _).mono (fun e he => ?_) fun _ => id
    obtain ⟨rfl, htakes⟩ := he
    exact htakes

/-! ### Making rolls -/

theorem regular_of_create {p : Policy} {capacity : Option Whole} {fault : Fault}
    (h : (Roll.create p capacity : Except Fault (Roll BufferId)) = .error fault) :
    fault.IsRegular := by
  have hslots : ∀ {slots : Whole},
      (Roll.ofSlots p slots : Except Fault (Roll BufferId)) = .error fault → fault.IsRegular := by
    intro slots hslots
    unfold Roll.ofSlots at hslots
    cases hgrant : p.grant 0 slots with
    | ok u => rw [hgrant] at hslots; cases hslots
    | error fault' =>
      rw [hgrant] at hslots
      cases hslots
      exact regular_of_grant hgrant
  unfold Roll.create at h
  split at h
  · split at h
    · cases h
      rfl
    · exact hslots h
  · exact hslots h

theorem does_newRoll (capacity : Option Whole) :
    Does (· = .still) Fault.IsRegular (newRoll capacity) := by
  refine .get_bind fun v => ?_
  split
  · exact does_granted fun _ => regular_of_create
  · refine .throw ?_
    unfold notPolicy
    split
    · rfl
    · split <;> rfl

theorem does_newRollFor (v : Value) : Does (· = .still) Fault.IsRegular (newRollFor v) := by
  unfold newRollFor
  split
  · exact does_newRoll none
  · refine .get_bind fun w => does_granted fun fault h => ?_
    cases h
    exact regular_noRoll _ _
  · exact .ofExcept_bind (fun _ => asSlots_error) fun n => does_newRoll (some n)

theorem does_askRoll (r : RollId) (verb : Verb) (args : List Value) :
    Does (Event.Answers r verb args) Fault.IsRegular (askRoll r verb args) := by
  have hstill : ∀ {verb' : Verb} {args' : List Value}, verb'.takes args' .nothing →
      Event.Answers r verb' args' .still := id
  unfold askRoll
  split
  · -- `bookmark`
    refine Reads.does ?_ (hstill ⟨nofun, nofun, nofun⟩)
    refine .roll_bind fun l => Reads.bind (.ofExcept fun fault h => ?_) fun _ => ?_
    · unfold Roll.currentIndex at h
      split at h <;> cases h
      rfl
    · exact (reads_cursorOf r).bind fun _ => .pure _
  · exact Reads.does (.roll_bind fun _ => .pure _) (hstill ⟨nofun, nofun, nofun⟩)
  · exact Reads.does (.roll_bind fun _ => .pure _) (hstill ⟨nofun, nofun, nofun⟩)
  · exact Reads.does (.roll_bind fun _ => .pure _) (hstill ⟨nofun, nofun, nofun⟩)
  · refine (does_newRollFor _).map.mono (fun e he => ?_) fun _ => id
    subst he
    exact hstill ⟨nofun, nofun, nofun⟩
  · exact Reads.does ((reads_texts r).bind fun _ => .roll_bind fun _ => .pure _)
      (hstill ⟨nofun, nofun, nofun⟩)
  · exact Reads.does ((reads_texts r).bind fun _ => .roll_bind fun _ => .pure _)
      (hstill ⟨nofun, nofun, nofun⟩)
  · exact does_askShared rfl _ _

theorem does_askGuarded (mark : Mark) (depth : Nat) (r : RollId) (verb : Verb)
    (args : List Value) :
    Does (Event.Answers r verb args) Fault.IsRegular (askGuarded mark depth r verb args) := by
  have hstill : ∀ {verb' : Verb} {args' : List Value}, verb'.takes args' .nothing →
      Event.Answers r verb' args' .still := id
  unfold askGuarded
  split
  · exact Reads.does ((reads_texts r).bind fun _ => .roll_bind fun _ => .pure _)
      (hstill ⟨nofun, nofun, nofun⟩)
  · exact Reads.does ((reads_texts r).bind fun _ => .roll_bind fun _ => .pure _)
      (hstill ⟨nofun, nofun, nofun⟩)
  · exact does_askShared rfl _ _

/-- **What a request to a roll does,** directly or through a guard: the roll is changed as the
verb says, and nothing else is; it never meets a bare slot. -/
theorem does_ask_roll {asked : Value} {r : RollId} (hasked : asked.rollId? = some r) (verb : Verb)
    (args : List Value) :
    Does (Event.Answers r verb args) Fault.IsRegular (ask asked verb args) := by
  cases asked <;> cases hasked
  · exact does_askRoll _ verb args
  · exact does_askGuarded _ _ _ verb args

end Act

end TextRoll
