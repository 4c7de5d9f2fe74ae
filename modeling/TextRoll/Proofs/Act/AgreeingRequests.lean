/-
TextRoll/Proofs/Act/AgreeingRequests.lean

Every request agrees.

Whatever a value within the view is asked, with arguments within the view, the answer is the same in
matching worlds and within the view, and the worlds match afterwards (`agrees_ask`).  The same holds
of what the library itself is asked (`agrees_serve`).  Some of that reads the books, and so asks for
a view that compares them (`Service.ReadsBooks`): making a roll or a tally, and telling what is in
force.  Putting a policy in force does not, it only writes there.
-/
import TextRoll.Proofs.Act.AgreeingRolls
import TextRoll.Proofs.Act.Doing
import TextRoll.Proofs.Act.Sparing
import TextRoll.Session

namespace TextRoll

/-! ### Policies from named fields -/

namespace Policy

variable {view : View} {n : Nat} {fields : List (String × Value)} {p : Policy}

theorem failsNamelessly_count? (field : String) (least : Nat) (v : Value) :
    FailsNamelessly (count? field least v) := by
  unfold count?
  split
  · split
    · exact .ok _
    · refine .error (Fault.isNameless_of_mentioned nofun fun v hv view n => ?_)
      obtain rfl := List.mem_singleton.mp hv
      trivial
  · exact .bare rfl

theorem failsNamelessly_limit? (field : String) (v : Value) : FailsNamelessly (limit? field v) := by
  unfold limit?
  split
  · exact .ok _
  · exact (failsNamelessly_count? _ _ _).map _

theorem failsNamelessly_ofFields? (fields : List (String × Value)) :
    FailsNamelessly (ofFields? fields) := by
  unfold ofFields?
  split
  · split <;> exact .bare rfl
  · exact (failsNamelessly_count? _ _ _).bind fun slots =>
      (failsNamelessly_count? _ _ _).bind fun times =>
        (failsNamelessly_limit? _ _).bind fun limit => .ok _

/-- What is given for a field is within the view if all fields are. -/
theorem within_given? (h : Value.EntriesWithin view n fields) {name : String} {standard : Value}
    (hstandard : standard.Within view n) :
    ((given? fields name).getD standard).Within view n := by
  unfold given?
  cases hfind : fields.reverse.find? (·.1 == name) with
  | none => exact hstandard
  | some entry =>
    have hmem := List.mem_reverse.mp (List.mem_of_find?_eq_some hfind)
    exact Value.entriesWithin_iff.mp h entry hmem

theorem releaseOnClear_of_ofGiven (h : ofGiven fields = .ok p) :
    p.releaseOnClear
      = (given? fields "release_on_clear").getD Policy.standard.releaseOnClear := by
  unfold ofGiven at h
  dsimp only at h
  generalize count? "default_capacity" 0 _ = slots at h
  generalize count? "growth_factor" 2 _ = times at h
  generalize limit? "max_capacity" _ = limit at h
  -- whatever becomes of the numbers, the choice about storage is taken as it is given
  rcases slots with fault | slots
  · cases h
  · rcases times with fault | times
    · cases h
    · rcases limit with fault | limit
      · cases h
      · cases h
        rfl

/-- A policy names no more than the fields it is made from. -/
theorem within_ofFields? (hfields : Value.EntriesWithin view n fields)
    (h : ofFields? fields = .ok p) : (Value.policy p).Within view n := by
  unfold ofFields? at h
  split at h
  · cases h
  · rw [Value.within_policy, releaseOnClear_of_ofGiven h]
    exact within_given? hfields trivial

theorem within_ofKnownFields? (hfields : Value.EntriesWithin view n fields)
    (h : ofKnownFields? fields = .ok p) : (Value.policy p).Within view n := by
  refine within_ofFields? ?_ h
  rw [Value.entriesWithin_iff] at hfields ⊢
  exact fun x hx => hfields x (List.mem_filter.mp hx).1

end Policy

/-! ### Recording by hand -/

namespace Tally

/-- If a growth cannot be counted, the fault names nothing. -/
def FaultsNamelessly {α : Type} (act : EStateM Fault Tally α) : Prop :=
  ∀ t fault t', act.run t = .error fault t' → fault.IsNameless

namespace FaultsNamelessly

variable {α β : Type}

theorem bind {act : EStateM Fault Tally α} {f : α → EStateM Fault Tally β}
    (h : FaultsNamelessly act) (hf : ∀ a, FaultsNamelessly (f a)) :
    FaultsNamelessly (act >>= f) := by
  intro t fault t' herror
  rw [EStateM.run_bind] at herror
  cases hrun : act.run t with
  | error fault' t'' =>
    rw [hrun] at herror
    cases herror
    exact h t fault t' hrun
  | ok a t'' =>
    rw [hrun] at herror
    exact hf a t'' fault t' herror

theorem get_bind {f : Tally → EStateM Fault Tally α} (hf : ∀ t, FaultsNamelessly (f t)) :
    FaultsNamelessly (get >>= f) := fun t => hf t t

theorem modify (f : Tally → Tally) : FaultsNamelessly (modify f : EStateM Fault Tally Unit) :=
  fun _ _ _ h => nomatch h

theorem ofExcept {outcome : Except Fault α} (h : FailsNamelessly outcome) :
    FaultsNamelessly (MonadExcept.ofExcept outcome : EStateM Fault Tally α) := by
  intro t fault t' herror
  cases outcome with
  | ok a => cases herror
  | error fault' =>
    cases herror
    exact h fault rfl

end FaultsNamelessly

theorem failsNamelessly_ofSum (sum : Option Number) : FailsNamelessly (Fault.ofSum sum) := by
  cases sum with
  | none => exact .bare rfl
  | some n => exact .ok n

theorem failsNamelessly_increased (f : Figure) (added : Number) :
    FailsNamelessly (f.increased added) := by
  cases f with
  | number n => exact failsNamelessly_ofSum _
  | other got => exact .bare rfl

theorem failsNamelessly_raised (f : Figure) (n : Number) : FailsNamelessly (f.raised n) := by
  cases f with
  | number m => exact .ok _
  | other got => exact .bare rfl

theorem failsNamelessly_numbersOf (before after : Value) :
    FailsNamelessly (numbersOf before after) := by
  unfold numbersOf
  split
  · exact .ok _
  · exact .bare rfl

theorem faultsNamelessly_record (place : TallyId) (before after : Value) :
    FaultsNamelessly (record place before after) := by
  refine .bind (.modify _) fun _ => .get_bind fun t => ?_
  refine .bind (.ofExcept (failsNamelessly_increased _ _)) fun _ => .bind (.modify _) fun _ => ?_
  refine .bind (.ofExcept (failsNamelessly_numbersOf _ _)) fun _ => ?_
  refine .bind (.ofExcept (failsNamelessly_ofSum _)) fun _ => ?_
  refine .bind (.ofExcept (failsNamelessly_increased _ _)) fun _ => .bind (.modify _) fun _ => ?_
  exact .bind (.ofExcept (failsNamelessly_raised _ _)) fun _ => .modify _

/-- What is read off the figures is within the view if what the tally started from is. -/
theorem within_readings {view : View} {n : Nat} {start : List Value} (t : Tally)
    (h : Value.AllWithin view n start) :
    Value.AllWithin view n (t.readings Number.value start) := by
  rw [Value.allWithin_iff] at h ⊢
  intro x hx
  obtain ⟨⟨figure, i⟩, -, rfl⟩ := List.mem_map.mp hx
  cases figure with
  | number a => exact Value.within_number a
  | other got =>
    show (start.getD i default).Within view n
    rw [List.getD_eq_getElem?_getD]
    cases hstart : start[i]? with
    | none => trivial
    | some v => exact h v (List.mem_of_getElem? hstart)

end Tally

namespace Act

variable {α : Type} {view : View} {n : Nat} {w w' : World} {r : RollId} {v asked : Value}
  {args : List Value}

/-! ### Requests to buffers -/

theorem failsNamelessly_itemText (operation : String) (x : Item) :
    FailsNamelessly (x.asText operation) := by
  cases x with
  | value v => exact .asText operation v
  | copy text => exact .bare rfl

theorem failsNamelessly_mapM {β : Type} {f : β → Except Fault α} (hf : ∀ x, FailsNamelessly (f x)) :
    ∀ xs : List β, FailsNamelessly (xs.mapM f) := by
  intro xs
  induction xs with
  | nil => exact .ok _
  | cons x xs ih =>
    rw [List.mapM_cons]
    exact (hf x).bind fun _ => ih.bind fun _ => .ok _

/-- An edit of a buffer hands out the buffer itself. -/
theorem agrees_edit (b : BufferId) {f : Buffer → Buffer}
    (hf : ∀ x y : Buffer, x.Alike y → (f x).Alike (f y)) :
    Agrees view n (Answer.Within view) (do editBuffer b f; return .itself) :=
  (agrees_editBuffer b hf).bind fun _ => .pure fun _ _ => trivial

/-- **Requests to buffers** are answered alike, and edits leave buffers that are alike. -/
theorem agrees_askBuffer {b : BufferId} (hb : b.index < n) (hargs : Value.AllWithin view n args)
    (verb : Verb) : Agrees view n (Answer.Within view) (askBuffer b verb args) := by
  unfold askBuffer
  split
  · exact Agrees.bind (.ofExcept (.asText _ _)) fun t => agrees_edit b fun x y h => h.append t
  · exact agrees_edit b fun x y h => h.appendLine _
  · exact Agrees.bind (.ofExcept (.asText _ _)) fun t => agrees_edit b fun x y h => h.appendLine t
  · unfold Value.AllWithin at hargs
    have hpieces := failsNamelessly_mapM (failsNamelessly_itemText "extend")
    exact (agrees_elements hargs.1).bind fun items =>
      Agrees.bind (.ofExcept (hpieces items)) fun pieces =>
        agrees_edit b fun x y h => h.extend pieces
  · exact (agrees_built b).bind fun _ => .pure fun _ _ => trivial
  · exact agrees_edit b fun x y h => h.clear
  · exact (agrees_built b).bind fun _ => .pure fun _ _ => trivial
  · exact .get_bind (fun w w' hw => by rw [(hw.buffer_alike b).length_eq]) fun w w' hw =>
      .pure hw trivial
  · exact (agrees_built b).bind fun _ => .pure fun _ _ => trivial
  · exact (agrees_textOf b).bind fun _ => .pure fun _ _ => trivial
  · refine agrees_askGeneral ?_ hargs _
    unfold Value.Within
    exact hb

/-! ### Requests to policies and tallies -/

theorem failsNamelessly_policyFrom (v : Value) : FailsNamelessly (policyFrom v) := by
  unfold policyFrom
  split
  · exact Policy.failsNamelessly_ofFields? _
  · exact .bare rfl

theorem within_policyFrom (hv : v.Within view n) {p : Policy} (h : policyFrom v = .ok p) :
    (Value.policy p).Within view n := by
  unfold policyFrom at h
  split at h
  · unfold Value.Within at hv
    exact Policy.within_ofKnownFields? hv h
  · cases h

theorem agrees_askPolicy {p : Policy} (hp : (Value.policy p).Within view n)
    (hargs : Value.AllWithin view n args) (verb : Verb) :
    Agrees view n (Answer.Within view) (askPolicy p verb args) := by
  unfold askPolicy
  split
  · exact .pure fun _ _ => trivial
  · exact .pure fun _ _ => trivial
  · refine .pure fun _ _ => ?_
    cases p.maxCapacity <;> trivial
  · exact .pure fun m hle => (Value.within_policy.mp hp).mono hle
  · unfold Value.AllWithin at hargs
    exact fun w w' hw => .ofExcept_bind hw (failsNamelessly_policyFrom _) fun q hq =>
      .pure hw ((within_policyFrom hargs.1 hq).mono hw.size_le)
  · exact agrees_askGeneral hp hargs _

theorem agrees_tell (hbooks : view.books) (t : TallyId) (before after : Value) :
    Agrees view n Whatever (tell t before after) := by
  intro w w' hw
  unfold AgreesFrom
  rw [run_tell, run_tell, hw.tally_eq hbooks]
  cases hrun : (Tally.record t before after).run (w.tally t) with
  | ok u tally => exact ⟨rfl, trivial, hw.full.setTally hbooks t tally⟩
  | error fault tally =>
    exact ⟨rfl, Tally.faultsNamelessly_record t before after _ fault tally hrun _ _,
      hw.full.setTally hbooks t tally⟩

theorem agrees_figureAt (hbooks : view.books) (t : TallyId) {start : List Value}
    (hstart : Value.AllWithin view n start) (i : Nat) :
    Agrees view n (Answer.Within view) (figureAt t start i) := by
  refine .get_bind (fun w w' hw => by rw [hw.tally_eq hbooks]) fun w w' hw => .pure hw ?_
  have hreadings := Value.allWithin_iff.mp (Tally.within_readings (w.tally t) hstart)
  show Value.Within view w.buffers.size (List.getD _ i .null)
  rw [List.getD_eq_getElem?_getD]
  cases hfigure : ((w.tally t).readings Number.value start)[i]? with
  | none => trivial
  | some v => exact (hreadings v (List.mem_of_getElem? hfigure)).mono hw.size_le

/-- **Requests to tallies** are answered alike where the books are compared. -/
theorem agrees_askTally {t : TallyId} {start : List Value}
    (ht : (Value.tally t start).Within view n) (hargs : Value.AllWithin view n args)
    (verb : Verb) : Agrees view n (Answer.Within view) (askTally t start verb args) := by
  have hboth : view.books ∧ Value.AllWithin view n start := by
    unfold Value.Within at ht
    exact ht
  obtain ⟨hbooks, hstart⟩ := hboth
  unfold askTally
  split
  · exact agrees_nothing (agrees_tell hbooks t _ _)
  · refine .get_bind (fun w w' hw => by rw [hw.tally_eq hbooks]) fun w w' hw => .pure hw ?_
    have hreadings := Value.allWithin_iff.mp (Tally.within_readings (w.tally t) hstart)
    show Value.Within view w.buffers.size (.record .fresh _)
    unfold Value.Within
    rw [Value.entriesWithin_iff]
    exact fun x hx => (hreadings x.2 (List.of_mem_zip hx).2).mono hw.size_le
  · refine .pure fun _ _ => ?_
    unfold Answer.Within Item.Within Value.Within
    exact hbooks
  · exact agrees_figureAt hbooks t hstart 0
  · exact agrees_figureAt hbooks t hstart 1
  · exact agrees_figureAt hbooks t hstart 2
  · exact agrees_askGeneral ht hargs _

/-! ### Requests to any value -/

/-- **Every value answers alike in worlds that match,** if it and what it is given are within the
view.  A roll that is asked must be one that the view looks at. -/
theorem agrees_ask (hasked : asked.Within view n) (hargs : Value.AllWithin view n args)
    (hroll : ∀ r, asked.rollId? = some r → view.rolls r) {verb : Verb}
    (hbooks : verb = .withCapacity → view.books) :
    Agrees view n (Answer.Within view) (ask asked verb args) := by
  unfold ask
  split
  · unfold Value.Within at hasked
    exact agrees_askBuffer hasked hargs verb
  · exact agrees_askRoll (hroll _ rfl) hargs hbooks
  · exact agrees_askGuarded (hroll _ rfl) hargs _ _ verb
  · exact agrees_askBookmark hasked hargs verb
  · exact agrees_askPolicy hasked hargs verb
  · exact agrees_askTally hasked hargs verb
  · exact agrees_askGeneral hasked hargs verb

end Act

/-! ### The library itself -/

/-- Whether the library looks at the books to answer: at the policy in force to make a roll, at the
tallies to make another one, or to tell what is in force. -/
def Service.ReadsBooks : Service → List Value → Prop
  | .makeRoll, _ | .activePolicy, _ | .activeTally, _ | .makeTally, _ => True
  | .makeGuard, args => args = [] ∨ args = [.null]
  | _, _ => False

namespace Act

variable {view : View} {n : Nat} {args : List Value}

/-- **The library answers alike in worlds that match.** -/
theorem agrees_serve (hargs : Value.AllWithin view n args) {service : Service}
    (hbooks : service.ReadsBooks args → view.books) :
    Agrees view n (Answer.Within view) (serve service args) := by
  unfold serve
  split
  · exact .pure fun _ _ => trivial
  · exact Agrees.bind (.ofExcept (.asText _ _)) fun _ => .pure fun _ _ => trivial
  · exact (agrees_newRoll (hbooks trivial) none).bind_of fun m l _ hl => .pure fun m' hle =>
      hl.mono hle
  · exact (agrees_newRollFor (hbooks trivial) _).bind_of fun m l _ hl => .pure fun m' hle =>
      hl.mono hle
  · exact (agrees_newRoll (hbooks (.inl rfl)) none).bind_of fun m l _ hl => .pure fun m' hle =>
      hl.mono hle
  · exact (agrees_newRoll (hbooks (.inr rfl)) none).bind_of fun m l _ hl => .pure fun m' hle =>
      hl.mono hle
  · exact .pure fun _ _ => trivial
  · exact .pure fun _ _ => trivial
  · exact .throw_bare rfl
  · unfold Value.AllWithin Value.AllWithin Value.AllWithin at hargs
    refine .pure fun m hle => ?_
    unfold Answer.Within Item.Within Value.Within
    exact ⟨hargs.2.1.mono hle, hargs.2.2.1.mono hle⟩
  · exact .throw_bare rfl
  · exact .pure fun m hle => ⟨hbooks trivial, Value.AllWithin.mono hle _ hargs⟩
  · exact .get_bind (fun w w' hw => by rw [hw.ambient_eq (hbooks trivial)]) fun w w' hw =>
      .pure hw.full (hw.sound.policy (hbooks trivial))
  · unfold Value.AllWithin at hargs
    exact agrees_nothing (.modify fun w w' hw => hw.full.setPolicy (hargs.1.mono hw.size_le))
  · exact agrees_nothing (.modify fun w w' hw =>
      hw.full.setPolicy (Value.within_policy.mpr trivial))
  · refine .get_bind (fun w w' hw => by rw [hw.ambient_eq (hbooks trivial)]) fun w w' hw =>
      .pure hw ?_
    cases w.ambient.tally with
    | none => trivial
    | some t =>
      unfold Answer.Within Item.Within Value.Within Value.AllWithin
      exact ⟨hbooks trivial, trivial⟩
  · unfold Value.AllWithin Value.AllWithin at hargs
    exact (agrees_equal hargs.1 hargs.2.1).bind fun _ => .pure fun _ _ => trivial
  · unfold Value.AllWithin Value.AllWithin at hargs
    exact (agrees_equal hargs.1 hargs.2.1).bind fun _ => .pure fun _ _ => trivial
  · unfold Value.AllWithin at hargs
    refine .get_bind (fun w w' hw => ?_) fun w w' hw => .throw hw (Fault.isNameless_of_nil rfl _ _)
    rw [World.written_eq_of_alike hw.toAlike hargs.1]
  · exact .throw_bare rfl

/-- The current element that is lent out has a place. -/
theorem agrees_currentBuffer (r : RollId) :
    Agrees view n (fun size b => b.index < size) (currentBuffer r) := by
  refine .roll_bind fun w w' hw => .ofExcept_bind hw (.currentIndex _ _) fun i _ => ?_
  have hm : (Value.bookmark .fresh ⟨r, .ofInt i, .ofInt (w.roll r).generation⟩).Within view n := by
    unfold Value.Within
    exact ⟨trivial, trivial⟩
  exact agrees_followTo hm _ w w' hw

end Act

end TextRoll
