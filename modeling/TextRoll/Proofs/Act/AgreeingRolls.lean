/-
TextRoll/Proofs/Act/AgreeingRolls.lean

Requests to rolls and to bookmarks agree.

What a roll holds after a request was in it before, or was added by the request
(`Roll.Draws`), so everything in it has a place, and its policy is the one it was made under.  All
that a request reads of a roll is the roll itself, the texts of its elements and, when it is
cleared, the truth of what its policy says about giving storage back.  Only a roll that makes
another one looks at the surroundings, and growth shows in the books alone.
-/
import TextRoll.Proofs.Act.AgreeingReads
import TextRoll.Proofs.Act.OfRoll
import TextRoll.Proofs.Roll.Limit

namespace TextRoll

/-! ### What a roll holds -/

namespace Roll

variable {α : Type} {l l' : Roll α} {a : α} {added : List α}

/-- The second roll has the policy of the first and holds nothing but what the first did and what
was added. -/
structure Draws (l : Roll α) (added : List α) (l' : Roll α) : Prop where
  policy_eq : l'.policy = l.policy
  slot_mem : ∀ a, some a ∈ l'.slots → some a ∈ l.slots ∨ a ∈ added

namespace Draws

theorem refl (l : Roll α) : l.Draws [] l := ⟨rfl, fun _ => .inl⟩

/-- Where only the cursor and the counters differ. -/
theorem of_slots_eq (hpolicy : l'.policy = l.policy) (hslots : l'.slots = l.slots) :
    l.Draws [] l' := ⟨hpolicy, fun _ ha => .inl (hslots ▸ ha)⟩

theorem place (l : Roll α) (a : α) : l.Draws [a] (l.place a) := by
  refine ⟨rfl, fun b hb => ?_⟩
  rcases List.mem_or_eq_of_mem_set hb with hb | hb
  · exact .inl hb
  · cases hb
    exact .inr List.mem_cons_self

theorem grown (l : Roll α) (wanted : Nat) : l.Draws [] (l.grown wanted) := by
  refine ⟨rfl, fun b hb => ?_⟩
  rcases List.mem_append.mp hb with hb | hb
  · exact .inl hb
  · cases List.eq_of_mem_replicate hb

theorem trans {l'' : Roll α} (h : l.Draws [] l') (h' : l'.Draws added l'') :
    l.Draws added l'' := by
  refine ⟨h'.policy_eq.trans h.policy_eq, fun b hb => ?_⟩
  rcases h'.slot_mem b hb with hb | hb
  · rcases h.slot_mem b hb with hb | hb
    · exact .inl hb
    · cases hb
  · exact .inr hb

theorem append {growth : Option Growth} (h : l.append a = .ok (l', growth)) : l.Draws [a] l' := by
  rcases append_eq_ok h with ⟨-, rfl, -⟩ | ⟨wanted, -, -, -, rfl, -⟩
  · exact place l a
  · exact (grown l wanted).trans (place _ a)

theorem reserve {capacity : Whole} {mark : Mark} {growth : Option Growth}
    (h : l.reserve capacity mark = .ok (l', growth)) : l.Draws [] l' := by
  rcases reserve_eq_ok h with ⟨-, rfl, -⟩ | ⟨-, -, rfl, -⟩
  · exact refl l'
  · exact grown l _

theorem clear (l : Roll α) (release : Bool) : l.Draws [] (l.clear release) := by
  refine ⟨rfl, fun b hb => ?_⟩
  unfold Roll.clear at hb
  dsimp only at hb
  split at hb
  · cases List.eq_of_mem_replicate hb
  · rcases List.mem_append.mp hb with hb | hb
    · cases List.eq_of_mem_replicate hb
    · exact .inl (List.mem_of_mem_drop hb)

theorem without (l : Roll α) (i : Nat) : l.Draws [] (l.without i) := by
  refine ⟨rfl, fun b hb => ?_⟩
  rcases List.mem_append.mp hb with hb | hb
  · exact .inl (List.mem_of_mem_eraseIdx hb)
  · cases List.mem_singleton.mp hb

theorem seek {i : Except Fault Whole} {mark : Mark} (h : l.seek i mark = .ok l') :
    l.Draws [] l' := by
  rcases seek_cases l i mark with
    ⟨n, -, -, -, hseek⟩ | ⟨-, hseek⟩ | ⟨-, fault, -, hseek⟩ | ⟨-, n, -, -, hseek⟩ <;>
    rw [hseek] at h
  · cases h
    exact of_slots_eq rfl rfl
  · cases h
  · cases h
  · cases h

theorem moveTo (l : Roll α) (i : Nat) : l.Draws [] (l.moveTo i) := of_slots_eq rfl rfl

theorem advance (l : Roll α) : l.Draws [] l.advance.2 := by
  unfold Roll.advance
  split
  · exact moveTo l _
  · exact refl l

theorem retreat (l : Roll α) : l.Draws [] l.retreat.2 := by
  unfold Roll.retreat
  split
  · exact moveTo l _
  · exact refl l

end Draws

/-- What is stored in a slot is in the roll. -/
theorem mem_of_stored {wanted : String} {i : Nat} (h : l.stored wanted i = .ok a) :
    some a ∈ l.slots := by
  unfold stored at h
  split at h
  · next hslot =>
    cases h
    exact List.mem_of_getElem? hslot
  · cases h
  · cases h

/-- What is taken out was in the roll. -/
def TakesOut (l : Roll α) (outcome : Except Fault (α × Roll α)) : Prop :=
  ∀ a l', outcome = .ok (a, l') → some a ∈ l.slots ∧ l.Draws [] l'

theorem takesOut_takeSlot (l : Roll α) (i : Nat) : l.TakesOut (l.takeSlot i) := by
  intro a l' h
  unfold takeSlot at h
  cases hstored : l.stored "copy" i with
  | error fault =>
    rw [hstored] at h
    cases h
  | ok b =>
    rw [hstored] at h
    cases h
    exact ⟨mem_of_stored hstored, .without l i⟩

theorem takesOut_remove (l : Roll α) : l.TakesOut l.remove := by
  intro a l' h
  unfold remove at h
  cases hindex : l.currentIndex "remove" with
  | error fault =>
    rw [hindex] at h
    cases h
  | ok i =>
    rw [hindex] at h
    exact takesOut_takeSlot l i a l' h

theorem takesOut_removeAt (l : Roll α) (i : Whole) : l.TakesOut (l.removeAt i) := by
  intro a l' h
  unfold removeAt at h
  cases hindex : l.checkIndex i with
  | error fault =>
    rw [hindex] at h
    cases h
  | ok place =>
    rw [hindex] at h
    exact takesOut_takeSlot l place a l' h

theorem mem_of_slotAt {i : Int} (h : l.slotAt i = .ok (some a)) : some a ∈ l.slots := by
  unfold slotAt at h
  split at h
  · cases h
  · dsimp only at h
    generalize (if i < 0 then i + (l.capacity : Int) else i) = place at h
    split at h
    · cases h
    · split at h
      · next slot hslot =>
        cases h
        exact List.mem_of_getElem? hslot
      · cases h

/-- A roll that was just made holds nothing. -/
theorem Unused.not_mem (h : l.Unused) (a : α) : some a ∉ l.slots := by
  intro ha
  obtain ⟨i, hi, hslot⟩ := List.mem_iff_getElem.mp ha
  have hvacant := h.wellFormed.vacant i (by rw [h.length_eq]; exact Nat.zero_le i) hi
  rw [List.getElem?_eq_getElem hi, hslot] at hvacant
  cases hvacant

end Roll

namespace World.Matches

variable {view : View} {w w' : World} {n : Nat} {r : RollId}

theorem recorded (h : w.Matches view n w') (growth : Option Growth) :
    (w.recorded growth).Matches view n (w'.recorded growth) := by
  cases growth with
  | none => exact h
  | some g => exact h.recordGrowth g

theorem refused (h : w.Matches view n w') (fault : Fault) :
    (w.refused fault).Matches view n (w'.refused fault) := by
  unfold World.refused
  split
  · exact h.note _
  · exact h

/-- A roll may be replaced by what draws on it and on buffers that have places. -/
theorem setRoll_of_draws (h : w.Matches view n w') {l : Roll BufferId} {added : List BufferId}
    (hl : (w.roll r).Draws added l) (hadded : ∀ b ∈ added, b.index < w.buffers.size) :
    (w.setRoll r l).Matches view n (w'.setRoll r l) := by
  refine h.setRoll (fun b hb => ?_) hl.policy_eq
  rcases hl.slot_mem b hb with hb | hb
  · exact h.sound.issued r b hb
  · exact hadded b hb

end World.Matches

namespace Act

variable {α β : Type} {view : View} {n : Nat} {w w' : World} {r : RollId} {v asked : Value}
  {args : List Value} {A : Nat → α → Prop}

/-! ### Requests that make sense for values of many kinds -/

theorem lengthOf_eq_of_alike (h : w.Alike view w') (hv : v.Within view n) :
    lengthOf w' v = lengthOf w v := by
  unfold lengthOf
  rw [parts?_eq_of_alike h hv]

theorem failsNamelessly_lengthOf (w : World) (v : Value) : FailsNamelessly (lengthOf w v) := by
  unfold lengthOf
  split
  · exact .ok _
  · exact .bare rfl

theorem agrees_nextOf (hv : v.Within view n) :
    Agrees view n (Answer.Within view) (nextOf v) := by
  unfold nextOf
  split
  · unfold Value.Within at hv
    exact (agrees_next hv).bind_of fun m x _ hx => .pure fun m' hle => Item.Within.mono hx hle
  · exact .throw_bare rfl

theorem agrees_truthOf (hv : v.Within view n) :
    Agrees view n (Answer.Within view) (truthOf v) := by
  unfold truthOf
  split
  · exact .pure fun _ _ => trivial
  · refine .get_bind (fun w w' hw => ?_) fun w w' hw => .pure hw trivial
    rw [World.truth_eq_of_alike hw.toAlike hv]

theorem agrees_formOf {form : World → Value → String}
    (hform : ∀ w w' : World, w.Alike view w' → form w' v = form w v) (hv : v.Within view n) :
    Agrees view n (Answer.Within view) (formOf form v) := by
  refine .get_bind (fun w w' hw => ?_) fun w w' hw => ?_
  · rw [World.isWritable_eq_of_alike hw.toAlike v hv, hform w w' hw.toAlike]
  · split
    · exact .pure hw trivial
    · exact .throw hw (Fault.isNameless_of_nil rfl _ _)

theorem agrees_printed (hv : v.Within view n) :
    Agrees view n (Answer.Within view) (formOf World.printed v) :=
  agrees_formOf (fun _ _ h => World.printed_eq_of_alike h v hv) hv

theorem agrees_writtenOf (hv : v.Within view n) :
    Agrees view n (Answer.Within view) (writtenOf v) := by
  unfold writtenOf
  split
  · exact .pure fun _ _ => trivial
  · exact agrees_formOf (fun _ _ h => World.written_eq_of_alike h hv) hv

theorem isNameless_assignTo (asked name : Value) : (assignTo asked name).IsNameless := by
  unfold assignTo
  split
  · split <;> exact Fault.isNameless_of_nil rfl
  · exact Fault.isNameless_of_nil rfl
  · exact Fault.isNameless_of_nil rfl

/-- **The verbs that make sense for values of many kinds** are answered alike. -/
theorem agrees_askGeneral (hv : asked.Within view n) (hargs : Value.AllWithin view n args)
    (verb : Verb) : Agrees view n (Answer.Within view) (askGeneral asked verb args) := by
  -- here and below, the cases stand in the order of the definition
  unfold askGeneral
  split
  · refine .get_bind (fun w w' hw => ?_) fun w w' hw => ?_
    · rw [lengthOf_eq_of_alike hw.toAlike hv]
    · exact .ofExcept_bind hw (failsNamelessly_lengthOf w asked) fun _ _ => .pure hw trivial
  · exact agrees_truthOf hv
  · exact agrees_writtenOf hv
  · exact agrees_printed hv
  · exact .throw_bare rfl
  · exact (agrees_elements hv).bind_of fun m xs _ hxs => .pure fun m' hle x hx =>
      Item.Within.mono (hxs x hx) hle
  · unfold Value.AllWithin at hargs
    exact (agrees_contains hargs.1 hv).bind fun _ => .pure fun _ _ => trivial
  · exact agrees_startWalk hv
  · exact agrees_nextOf hv
  · exact .throw (isNameless_assignTo _ _ _ _)
  · exact .throw_bare rfl

/-! ### Storage -/

theorem agrees_granted {outcome : Except Fault α} (h : FailsNamelessly outcome)
    (hA : ∀ a, outcome = .ok a → ∀ m, n ≤ m → A m a) : Agrees view n A (granted outcome) := by
  intro w w' hw
  unfold AgreesFrom
  rw [run_granted, run_granted]
  cases outcome with
  | ok a => exact ⟨rfl, hA a rfl _ hw.size_le, hw.full⟩
  | error fault => exact ⟨rfl, h fault rfl _ _, hw.full.refused fault⟩

theorem isNameless_notPolicy (got : Kind) (capacity : Option Whole) :
    (notPolicy got capacity).IsNameless := by
  unfold notPolicy
  split
  · exact Fault.isNameless_of_nil rfl
  · split
    · refine Fault.isNameless_of_mentioned nofun fun v hv view n => ?_
      obtain rfl := List.mem_singleton.mp hv
      trivial
    · exact Fault.isNameless_of_nil rfl

theorem failsNamelessly_noRoll (x : Binary64) (policy : Value) :
    FailsNamelessly (.error (noRoll x policy) : Except Fault α) := by
  unfold noRoll
  split
  · refine .error (Fault.isNameless_of_mentioned nofun fun v hv view n => ?_)
    obtain rfl := List.mem_singleton.mp hv
    trivial
  · split
    · exact .refusedReal _ x
    · exact .bare rfl

/-- A roll holds nothing when it is made, and its policy is within the view if that in force is. -/
theorem agrees_newRoll (hbooks : view.books) (capacity : Option Whole) :
    Agrees view n (Roll.Within view) (newRoll capacity) := by
  refine .get_bind (fun w w' hw => by rw [hw.ambient_eq hbooks]) fun w w' hw => ?_
  have hpolicy := hw.sound.policy hbooks
  split
  · next p hp =>
    rw [hp, Value.within_policy] at hpolicy
    refine agrees_granted (.create p capacity) (fun l hl m hle => ?_) w w' hw.full
    refine ⟨fun b hb => absurd hb ((Roll.unused_of_create hl).not_mem b), ?_⟩
    rw [Roll.policy_of_create hl]
    exact hpolicy.mono hle
  · exact .throw hw (isNameless_notPolicy _ capacity _ _)

theorem agrees_newRollFor (hbooks : view.books) (v : Value) :
    Agrees view n (Roll.Within view) (newRollFor v) := by
  unfold newRollFor
  split
  · exact agrees_newRoll hbooks none
  · refine .get_bind (fun w w' hw => by rw [hw.ambient_eq hbooks]) fun w w' hw => ?_
    refine agrees_granted (failsNamelessly_noRoll _ _) (fun l h => ?_) w w' hw.full
    cases h
  · exact Agrees.bind (.ofExcept (.asSlots "<" v)) fun _ => agrees_newRoll hbooks _

/-! ### Requests to rolls -/

theorem agrees_appendText (r : RollId) (text : Text) :
    Agrees view n Whatever (appendText r text) := by
  intro w w' hw
  unfold AgreesFrom
  rw [run_appendText, run_appendText, hw.roll_eq, hw.freeBuffer_eq]
  cases happend : (w.roll r).append w.freeBuffer with
  | error fault =>
    exact ⟨rfl, FailsNamelessly.append _ _ fault happend _ _, hw.full.refused fault⟩
  | ok outcome =>
    obtain ⟨l, growth⟩ := outcome
    -- the new element gets the place that was free in both worlds
    have hadded := (hw.full.recorded growth).addBuffer (Buffer.ofText text)
    have hsize : ((w.recorded growth).addBuffer (Buffer.ofText text)).buffers.size
        = w.buffers.size + 1 := by
      show ((w.recorded growth).buffers.issue _).size = _
      rw [World.buffers_recorded, Arena.size_issue]
    have hroll : ((w.recorded growth).addBuffer (Buffer.ofText text)).roll r = w.roll r :=
      congrArg (·.get r.index) (w.rolls_recorded growth)
    have hdraws := Roll.Draws.append happend
    rw [← hroll] at hdraws
    refine ⟨rfl, trivial, hadded.setRoll_of_draws hdraws fun b hb => ?_⟩
    obtain rfl := List.mem_singleton.mp hb
    rw [hsize]
    exact Nat.lt_succ_self _

theorem agrees_reserve (r : RollId) (capacity : Whole) (mark : Mark) :
    Agrees view n Whatever (reserve r capacity mark) := by
  intro w w' hw
  unfold AgreesFrom
  rw [run_reserve, run_reserve, hw.roll_eq]
  cases hreserve : (w.roll r).reserve capacity mark with
  | error fault =>
    exact ⟨rfl, FailsNamelessly.reserve _ _ _ fault hreserve _ _, hw.full.refused fault⟩
  | ok outcome =>
    exact ⟨rfl, trivial, (hw.full.setRoll_of_draws (.reserve hreserve) nofun).recorded outcome.2⟩

theorem agrees_reserveFor (r : RollId) (v : Value) :
    Agrees view n Whatever (reserveFor r v) := by
  unfold reserveFor
  split
  · exact .roll_bind fun w w' hw =>
      agrees_granted (.reserveReal _ _) (fun _ _ _ _ => trivial) w w' hw.full
  · exact Agrees.bind (.ofExcept (.asSlots ">" _)) fun c => agrees_reserve r c _

/-- Whether storage is given back is up to the policy of the roll, which must be within the view. -/
theorem agrees_clear (hr : view.rolls r) : Agrees view n Whatever (clear r) := by
  intro w w' hw
  unfold AgreesFrom
  rw [run_clear, run_clear]
  unfold clearedRoll
  rw [hw.roll_eq, World.truth_eq_of_alike hw.toAlike (hw.sound.release r hr)]
  exact ⟨rfl, trivial, (hw.full.setRoll_of_draws (.clear _ _) nofun).note _⟩

theorem agreesFrom_takenFrom (hw : w.Matches view n w')
    {outcome : Except Fault (BufferId × Roll BufferId)} (h : (w.roll r).TakesOut outcome)
    (hplain : FailsNamelessly outcome) :
    (takenFrom r outcome).AgreesFrom view (Answer.Within view) w w' := by
  refine .ofExcept_bind hw hplain fun taken htaken => ?_
  obtain ⟨b, l⟩ := taken
  obtain ⟨hb, hl⟩ := h b l htaken
  exact ⟨rfl, hw.sound.issued r b hb, hw.full.setRoll_of_draws hl nofun⟩

theorem agrees_copyOf (r : RollId) (i : Nat) :
    Agrees view n (Answer.Within view) (copyOf r i) :=
  .roll_bind fun w w' hw => (Agrees.bind (.ofExcept (.stored _ "copy" i)) fun b =>
    (agrees_built b).bind fun _ => .pure fun _ _ => trivial) w w' hw

theorem agreesFrom_setRoll (hw : w.Matches view n w') {l : Roll BufferId}
    (h : (w.roll r).Draws [] l) : (setRoll r l).AgreesFrom view Whatever w w' :=
  ⟨rfl, trivial, hw.full.setRoll_of_draws h nofun⟩

theorem agreesFrom_movedTo (hw : w.Matches view n w') {outcome : Bool × Roll BufferId}
    (h : (w.roll r).Draws [] outcome.2) :
    (movedTo r outcome).AgreesFrom view (Answer.Within view) w w' :=
  (agreesFrom_setRoll hw h).bind fun _ _ _ hv _ => .pure hv trivial

theorem agrees_cursorOf (r : RollId) :
    Agrees view n (fun m v => Value.Within view m v) (cursorOf r) :=
  .roll_bind fun _ _ hw => .pure hw (Value.within_valueAs _ _)

/-- A request that only changes the roll has nothing to hand out. -/
theorem agrees_nothing {act : Act Unit} (h : Agrees view n Whatever act) :
    Agrees view n (Answer.Within view) (do act; return .nothing) :=
  h.bind fun _ => .pure fun _ _ => trivial

/-- **What plain and guarded rolls share** is answered alike. -/
theorem agrees_askShared (hasked : asked.Within view n) (hr : view.rolls r)
    (hargs : Value.AllWithin view n args) (verb : Verb) :
    Agrees view n (Answer.Within view) (askShared asked r verb args) := by
  unfold askShared
  split
  · exact Agrees.bind (.ofExcept (.asText _ _)) fun t => agrees_nothing (agrees_appendText r t)
  · exact (agrees_built _).bind fun t => agrees_nothing (agrees_appendText r t)
  · exact .throw_bare rfl
  · exact agrees_nothing (agrees_reserveFor r _)
  · exact agrees_nothing (agrees_clear hr)
  · exact .roll_bind fun w w' hw =>
      agreesFrom_takenFrom hw (Roll.takesOut_remove _) (.remove _)
  · exact .roll_bind fun w w' hw => .ofExcept_bind hw (.asIndex _ _) fun i _ =>
      agreesFrom_takenFrom hw (Roll.takesOut_removeAt _ i) (.removeAt _ i)
  · exact .roll_bind fun w w' hw => .ofExcept_bind hw (.currentIndex _ _) fun i _ =>
      agrees_copyOf r i w w' hw
  · exact .roll_bind fun w w' hw => .ofExcept_bind hw (.asIndex _ _) fun i _ =>
      .ofExcept_bind hw (.checkIndex _ i) fun place _ => agrees_copyOf r place w w' hw
  · refine (agrees_textsOf r "build").bind fun found => .pure fun m _ x hx => ?_
    obtain ⟨t, -, rfl⟩ := List.mem_map.mp hx
    trivial
  · exact .roll_bind fun w w' hw => .ofExcept_bind hw (.seek _ (.asIndex _ _) _) fun l hl =>
      (agreesFrom_setRoll hw (.seek hl)).bind fun _ _ _ hv _ => .pure hv trivial
  · exact .roll_bind fun w w' hw => agreesFrom_movedTo hw (.advance _)
  · exact .roll_bind fun w w' hw => agreesFrom_movedTo hw (.retreat _)
  · exact .roll_bind fun w w' hw =>
      (agreesFrom_setRoll hw (.moveTo _ 0)).bind fun _ _ _ hv _ => .pure hv trivial
  · exact (agrees_cursorOf r).bind_of fun m v _ hv => .pure fun m' hle => hv.mono hle
  · exact .roll_bind fun w w' hw => .pure hw trivial
  · exact .roll_bind fun w w' hw => .pure hw trivial
  · exact agrees_askGeneral hasked hargs _

theorem agrees_printedRoll (form : List String → Roll BufferId → String) :
    Agrees view n (Answer.Within view) (do
      let forms ← texts r
      return .value (.ofText (form forms (← roll r)))) :=
  (agrees_texts r).bind fun _ => .roll_bind fun _ _ hw => .pure hw trivial

/-- **Requests to plain rolls** are answered alike; one that makes another roll looks at the
surroundings. -/
theorem agrees_askRoll (hr : view.rolls r) (hargs : Value.AllWithin view n args) {verb : Verb}
    (hbooks : verb = .withCapacity → view.books) :
    Agrees view n (Answer.Within view) (askRoll r verb args) := by
  unfold askRoll
  split
  · refine .roll_bind fun w w' hw => .ofExcept_bind hw (.currentIndex _ _) fun i _ => ?_
    refine (agrees_cursorOf r).bind_of (fun m v _ hv => .pure fun m' hle => ?_) w w' hw
    unfold Answer.Within Item.Within Value.Within
    exact ⟨hv.mono hle, trivial⟩
  · exact .roll_bind fun w w' hw => .pure hw trivial
  · exact .roll_bind fun w w' hw => .pure hw trivial
  · exact .roll_bind fun w w' hw => .pure hw.full (Value.within_policy.mpr (hw.sound.release r hr))
  · exact (agrees_newRollFor (hbooks rfl) _).bind_of fun m l _ hl => .pure fun m' hle =>
      hl.mono hle
  · exact agrees_printedRoll _
  · exact agrees_printedRoll _
  · exact agrees_askShared (by unfold Value.Within; trivial) hr hargs _

/-- **Requests to guarded rolls** are answered alike. -/
theorem agrees_askGuarded (hr : view.rolls r) (hargs : Value.AllWithin view n args) (mark : Mark)
    (depth : Nat) (verb : Verb) :
    Agrees view n (Answer.Within view) (askGuarded mark depth r verb args) := by
  unfold askGuarded
  split
  · exact agrees_printedRoll _
  · exact agrees_printedRoll _
  · exact agrees_askShared (by unfold Value.Within; trivial) hr hargs _

/-! ### Requests to bookmarks -/

/-- What is stored where a bookmark points has a place. -/
theorem agrees_follow {mark : Mark} {m : Bookmark} (hm : (Value.bookmark mark m).Within view n) :
    Agrees view n (fun size found => ∀ b, found = some b → b.index < size) (follow m) := by
  rw [Value.within_bookmark] at hm
  refine .roll_bind fun w w' hw => .get_bind (by rw [hw.isCurrent_eq]) ?_
  split
  · refine .ofExcept_bind hw (.asWhole (fun got => Fault.isNameless_of_nil rfl) _) fun i _ => ?_
    -- what is found was stored in the roll, and all that is stored has a place
    refine .ofExcept hw (.slotAt _ i.toInt) fun found hfound b hb => ?_
    exact hw.sound.issued m.roll b (Roll.mem_of_slotAt (hb ▸ hfound))
  · -- it is refused with the two generations, of which only that of the bookmark was given
    have hfacts : ∀ v ∈ [m.generation, .ofInt (w.roll m.roll).generation],
        v.Within view n := by
      refine List.forall_mem_cons.mpr ⟨hm.2, fun v hv => ?_⟩
      obtain rfl := List.mem_singleton.mp hv
      trivial
    exact .throw hw fun v hv => (List.mem_append.mp hv).elim (hfacts v) (hfacts v)

theorem agrees_followTo {mark : Mark} {m : Bookmark}
    (hm : (Value.bookmark mark m).Within view n) (wanted : String) :
    Agrees view n (fun size b => b.index < size) (followTo m wanted) := by
  refine (agrees_follow hm).bind_of fun size found _ hfound => ?_
  cases found with
  | none => exact .throw_bare rfl
  | some b => exact .pure fun size' hle => Nat.lt_of_lt_of_le (hfound b rfl) hle

/-- **Requests to bookmarks** are answered alike, and the buffer that one hands out has a place. -/
theorem agrees_askBookmark {mark : Mark} {m : Bookmark}
    (hm : (Value.bookmark mark m).Within view n) (hargs : Value.AllWithin view n args)
    (verb : Verb) : Agrees view n (Answer.Within view) (askBookmark mark m verb args) := by
  unfold askBookmark
  split
  · exact .pure fun m' hle => Value.Within.mono hle _ (Value.within_bookmark.mp hm).1
  · exact .get_bind (fun w w' hw => by rw [hw.isCurrent_eq]) fun w w' hw => .pure hw trivial
  · refine (agrees_follow hm).bind_of fun size found _ hfound => ?_
    cases found with
    | none => exact .pure fun _ _ => trivial
    | some b => exact .pure fun size' hle => Nat.lt_of_lt_of_le (hfound b rfl) hle
  · exact (agrees_followTo hm _).bind fun b => Agrees.bind (.ofExcept (.asText _ _)) fun t =>
      (agrees_editBuffer b fun x y h => h.append t).bind fun _ => .pure fun _ _ => trivial
  · exact (agrees_followTo hm _).bind fun b =>
      (agrees_editBuffer b fun x y h => h.clear).bind fun _ => .pure fun _ _ => trivial
  · exact (agrees_followTo hm _).bind fun b => (agrees_built b).bind fun _ =>
      .pure fun _ _ => trivial
  · exact agrees_askGeneral hm hargs _

end Act

end TextRoll
