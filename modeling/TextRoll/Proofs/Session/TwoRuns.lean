/-
TextRoll/Proofs/Session/TwoRuns.lean

Two sessions that make the same moves.

Sessions match in a view (`Session.Matches`) when their worlds do and their registers hold the same,
but for those whose names are hidden.  A move that names no hidden register, and that looks at the
books only if the view compares them (`Move.Fits`), reports the same in matching sessions and leaves
sessions that match (`Matches.report_eq`, `Matches.move`).

The view must look at all walks that are still to come, since a move may keep one; whatever else a
move keeps is within the view because the answer of a request is.
-/
import TextRoll.Proofs.Act.AgreeingKept
import TextRoll.Proofs.Act.AgreeingRequests
import TextRoll.Proofs.Session.Registers

namespace TextRoll

/-! ### Registers that are not named -/

mutual

/-- The operand names none of the hidden registers. -/
def Operand.Avoids (hidden : List String) : Operand → Prop
  | .list _ items => Operand.AllAvoid hidden items
  | .record _ entries => Operand.EntriesAvoid hidden entries
  | .register name => name ∉ hidden
  | .null | .bool _ | .int .. | .real .. | .constant _ | .text .. | .bytes .. => True

/-- None of some operands names a hidden register. -/
def Operand.AllAvoid (hidden : List String) : List Operand → Prop
  | [] => True
  | x :: xs => x.Avoids hidden ∧ Operand.AllAvoid hidden xs

/-- None of some named operands names a hidden register. -/
def Operand.EntriesAvoid (hidden : List String) : List (String × Operand) → Prop
  | [] => True
  | (_, x) :: xs => x.Avoids hidden ∧ Operand.EntriesAvoid hidden xs

end

/-- The call names none of the hidden registers. -/
def Call.Avoids (hidden : List String) : Call → Prop
  | .ask target _ args => target ∉ hidden ∧ Operand.AllAvoid hidden args
  | .serve _ args => Operand.AllAvoid hidden args
  | .identify x y => x.Avoids hidden ∧ y.Avoids hidden
  | .configure _ fields => Operand.EntriesAvoid hidden fields

/-- What is kept is kept in no hidden register. -/
def KeepsVisibly (hidden : List String) (keep : Option String) : Prop :=
  ∀ name, keep = some name → name ∉ hidden

-- The induction is on the nesting of operands.
mutual

/-- Where nothing is hidden, nothing needs to be avoided. -/
theorem Operand.avoids_nil : ∀ x : Operand, x.Avoids []
  | .list _ items => by
    unfold Operand.Avoids
    exact Operand.allAvoid_nil items
  | .record _ entries => by
    unfold Operand.Avoids
    exact Operand.entriesAvoid_nil entries
  | .register name => by
    unfold Operand.Avoids
    exact List.not_mem_nil
  | .null | .bool _ | .int .. | .real .. | .constant _ | .text .. | .bytes .. => by
    unfold Operand.Avoids
    trivial

theorem Operand.allAvoid_nil : ∀ xs : List Operand, Operand.AllAvoid [] xs
  | [] => by
    unfold Operand.AllAvoid
    trivial
  | x :: xs => by
    unfold Operand.AllAvoid
    exact ⟨Operand.avoids_nil x, Operand.allAvoid_nil xs⟩

theorem Operand.entriesAvoid_nil : ∀ xs : List (String × Operand), Operand.EntriesAvoid [] xs
  | [] => by
    unfold Operand.EntriesAvoid
    trivial
  | (_, x) :: xs => by
    unfold Operand.EntriesAvoid
    exact ⟨Operand.avoids_nil x, Operand.entriesAvoid_nil xs⟩

end

theorem Call.avoids_nil (c : Call) : c.Avoids [] := by
  cases c with
  | ask => exact ⟨List.not_mem_nil, Operand.allAvoid_nil _⟩
  | serve => exact Operand.allAvoid_nil _
  | identify x y => exact ⟨x.avoids_nil, y.avoids_nil⟩
  | configure => exact Operand.entriesAvoid_nil _

/-! ### Sessions that match -/

namespace Session

variable {view : View} {hidden : List String} {s s' : Session} {name : String}

/-- The worlds match in the view, and all registers that are not hidden hold the same, which is
within the view. -/
structure Matches (view : View) (hidden : List String) (s s' : Session) : Prop where
  world : s.world.Matches view s.world.buffers.size s'.world
  registers_eq : s'.registers.filter (·.1 ∉ hidden) = s.registers.filter (·.1 ∉ hidden)
  within : ∀ x ∈ s.registers, x.1 ∉ hidden → x.2.Within view s.world.buffers.size

/-- The outcome satisfies `A`, or is a fault that names nothing. -/
def Gives {α : Type} (A : α → Prop) (outcome : Except Fault α) : Prop :=
  FailsNamelessly outcome ∧ ∀ a, outcome = .ok a → A a

namespace Gives

variable {α β : Type} {A : α → Prop} {B : β → Prop}

theorem ok {a : α} (h : A a) : Gives A (.ok a) := by
  refine ⟨.ok a, fun b hb => ?_⟩
  cases hb
  exact h

theorem bind {x : Except Fault β} {f : β → Except Fault α} (hx : Gives B x)
    (hf : ∀ b, B b → Gives A (f b)) : Gives A (x >>= f) := by
  cases x with
  | error fault => exact ⟨.error (hx.1 fault rfl), nofun⟩
  | ok b => exact hf b (hx.2 b rfl)

end Gives

theorem failsNamelessly_octets? (numbers : List Int) : FailsNamelessly (octets? numbers) := by
  unfold octets?
  split
  · exact .ok _
  · exact .bare rfl

theorem failsNamelessly_register (s : Session) (name : String) :
    FailsNamelessly (s.register name) := by
  unfold register
  split
  · exact .ok _
  · exact .bare rfl

namespace Matches

theorem register_eq (h : Matches view hidden s s') (hname : name ∉ hidden) :
    s'.register name = s.register name := by
  -- leaving out hidden registers does not matter to one that is not hidden
  have hlookup : ∀ t : Session,
      t.registers.lookup name = (t.registers.filter (·.1 ∉ hidden)).lookup name :=
    fun t => (lookup_filter (p := (· ∉ hidden)) (by simpa using hname) t.registers).symm
  unfold register
  rw [hlookup s', hlookup s, h.registers_eq]

theorem gives_register (h : Matches view hidden s s') (hname : name ∉ hidden) :
    Gives (Value.Within view s.world.buffers.size) (s.register name) :=
  ⟨failsNamelessly_register s name, fun v hv => h.within (name, v) (mem_registers hv) hname⟩

-- The induction is on the nesting of operands.
mutual

/-- An operand that names no hidden register stands for the same in both sessions. -/
theorem resolve (h : Matches view hidden s s') : ∀ x : Operand, x.Avoids hidden →
    s'.resolve x = s.resolve x ∧
      Gives (Value.Within view s.world.buffers.size) (s.resolve x)
  | .list place items, hx => by
    unfold Operand.Avoids at hx
    obtain ⟨hsame, hgives⟩ := h.resolveItems items hx
    unfold Session.resolve
    rw [hsame]
    refine ⟨rfl, hgives.bind fun vs hvs => .ok ?_⟩
    unfold Value.Within
    exact hvs
  | .record place entries, hx => by
    unfold Operand.Avoids at hx
    obtain ⟨hsame, hgives⟩ := h.resolveEntries entries hx
    unfold Session.resolve
    rw [hsame]
    refine ⟨rfl, hgives.bind fun vs hvs => .ok ?_⟩
    unfold Value.Within
    exact hvs
  | .register name, hx => by
    unfold Operand.Avoids at hx
    unfold Session.resolve
    exact ⟨h.register_eq hx, h.gives_register hx⟩
  | .bytes place numbers, _ => by
    unfold Session.resolve
    exact ⟨rfl, Gives.bind ⟨failsNamelessly_octets? numbers, fun _ _ => trivial⟩ fun _ _ =>
      .ok trivial⟩
  | .null, _ | .bool _, _ | .int .., _ | .real .., _ | .constant _, _ | .text .., _ => by
    unfold Session.resolve
    exact ⟨rfl, .ok trivial⟩

theorem resolveItems (h : Matches view hidden s s') : ∀ xs : List Operand,
    Operand.AllAvoid hidden xs → s'.resolveItems xs = s.resolveItems xs ∧
      Gives (Value.AllWithin view s.world.buffers.size) (s.resolveItems xs)
  | [], _ => by
    unfold Session.resolveItems
    exact ⟨rfl, .ok trivial⟩
  | x :: xs, hxs => by
    unfold Operand.AllAvoid at hxs
    obtain ⟨hx, hgives⟩ := h.resolve x hxs.1
    obtain ⟨hrest, hgivesRest⟩ := h.resolveItems xs hxs.2
    unfold Session.resolveItems
    rw [hx, hrest]
    refine ⟨rfl, hgives.bind fun v hv => hgivesRest.bind fun vs hvs => .ok ?_⟩
    unfold Value.AllWithin
    exact ⟨hv, hvs⟩

theorem resolveEntries (h : Matches view hidden s s') : ∀ xs : List (String × Operand),
    Operand.EntriesAvoid hidden xs → s'.resolveEntries xs = s.resolveEntries xs ∧
      Gives (Value.EntriesWithin view s.world.buffers.size) (s.resolveEntries xs)
  | [], _ => by
    unfold Session.resolveEntries
    exact ⟨rfl, .ok trivial⟩
  | (name, x) :: xs, hxs => by
    unfold Operand.EntriesAvoid at hxs
    obtain ⟨hx, hgives⟩ := h.resolve x hxs.1
    obtain ⟨hrest, hgivesRest⟩ := h.resolveEntries xs hxs.2
    unfold Session.resolveEntries
    rw [hx, hrest]
    refine ⟨rfl, hgives.bind fun v hv => hgivesRest.bind fun vs hvs => .ok ?_⟩
    unfold Value.EntriesWithin
    exact ⟨hv, hvs⟩

end

/-! ### Keeping in registers -/

/-- Worlds that match may replace those of the sessions. -/
theorem withWorld (h : Matches view hidden s s') {w w' : World}
    (hw : w.Matches view s.world.buffers.size w') :
    Matches view hidden { s with world := w } { s' with world := w' } where
  world := hw.full
  registers_eq := h.registers_eq
  within x hx hname := (h.within x hx hname).mono hw.size_le

/-- The same may be kept in both sessions. -/
theorem keep (h : Matches view hidden s s') {kept : Option String}
    (hkept : KeepsVisibly hidden kept) {v : Value} (hv : v.Within view s.world.buffers.size) :
    Matches view hidden (s.keep kept v) (s'.keep kept v) := by
  cases kept with
  | none => exact h
  | some name =>
    have hname := hkept name rfl
    refine ⟨h.world, ?_, fun x hx hother => ?_⟩
    · -- what is kept takes the place of what had its name before, in both sessions
      have hfilter : ∀ t : Session, (t.keep (some name) v).registers.filter (·.1 ∉ hidden)
          = (name, v) :: (t.registers.filter (·.1 ∉ hidden)).filter (·.1 != name) := by
        intro t
        show List.filter _ ((name, v) :: t.registers.filter (·.1 != name)) = _
        rw [List.filter_cons_of_pos (by simpa using hname), List.filter_filter, List.filter_filter]
        simp only [Bool.and_comm]
      rw [hfilter, hfilter, h.registers_eq]
    · rw [world_keep]
      rcases List.mem_cons.mp hx with rfl | hx
      · exact hv
      · exact h.within x (List.mem_filter.mp hx).1 hother

end Matches

end Session

/-! ### Calls -/

/-- The call names no hidden register, asks only rolls that the view looks at, and reads the books
only if the view compares them. -/
def Call.Fits (view : View) (hidden : List String) (s : Session) (c : Call) : Prop :=
  c.Avoids hidden ∧ match c with
    | .ask target verb _ => (verb = .withCapacity → view.books) ∧
      ∀ asked r, s.register target = .ok asked → asked.rollId? = some r → view.rolls r
    | .serve service args =>
      ∀ vs, s.resolveItems args = .ok vs → service.ReadsBooks vs → view.books
    | .identify .. | .configure .. => True

namespace Session.Matches

variable {view : View} {hidden : List String} {s s' : Session} {c : Call}

theorem asked?_eq (h : Matches view hidden s s') (hc : c.Avoids hidden) :
    c.asked? s' = c.asked? s := by
  cases c with
  | ask target verb args => exact congrArg Except.toOption (h.register_eq hc.1)
  | serve | identify | configure => rfl

/-- A call that fits is the same request in both sessions. -/
theorem perform_eq (h : Matches view hidden s s') (hc : c.Avoids hidden) :
    c.perform s' = c.perform s := by
  cases c with
  | ask target verb args =>
    unfold Call.perform
    dsimp only
    rw [h.register_eq hc.1, (h.resolveItems args hc.2).1]
  | serve service args =>
    unfold Call.perform
    dsimp only
    rw [(h.resolveItems args hc).1]
  | identify x y =>
    unfold Call.perform
    dsimp only
    rw [(h.resolve x hc.1).1, (h.resolve y hc.2).1]
  | configure lenient fields =>
    unfold Call.perform
    dsimp only
    rw [(h.resolveEntries fields hc).1]

/-- What a call asks and its answer are within the view. -/
def Answered (view : View) (n : Nat) (result : Value × Answer) : Prop :=
  result.1.Within view n ∧ result.2.Within view n

theorem agreesFrom_perform (h : Matches view hidden s s') (hc : c.Fits view hidden s) :
    (c.perform s).AgreesFrom view (Answered view) s.world s'.world := by
  obtain ⟨havoids, hc⟩ := hc
  cases c with
  | ask target verb args =>
    obtain ⟨hplain, hwithin⟩ := h.gives_register havoids.1
    obtain ⟨hplain', hwithin'⟩ := (h.resolveItems args havoids.2).2
    refine .ofExcept_bind h.world hplain fun asked hasked => ?_
    refine .ofExcept_bind h.world hplain' fun vs hvs => ?_
    refine (Act.agrees_ask (hwithin asked hasked) (hwithin' vs hvs)
      (fun r => hc.2 asked r hasked) hc.1 _ _ h.world).bind fun answer w w' hw hanswer => ?_
    exact .pure hw.full ⟨(hwithin asked hasked).mono hw.size_le, hanswer⟩
  | serve service args =>
    obtain ⟨hplain, hwithin⟩ := (h.resolveItems args havoids).2
    refine .ofExcept_bind h.world hplain fun vs hvs => ?_
    refine (Act.agrees_serve (hwithin vs hvs) (hc vs hvs) _ _ h.world).bind
      fun answer w w' hw hanswer => ?_
    exact .pure hw.full ⟨trivial, hanswer⟩
  | identify x y =>
    refine .ofExcept_bind h.world (h.resolve x havoids.1).2.1 fun v _ => ?_
    refine .ofExcept_bind h.world (h.resolve y havoids.2).2.1 fun u _ => ?_
    exact .pure h.world ⟨trivial, trivial⟩
  | configure lenient fields =>
    obtain ⟨hplain, hwithin⟩ := (h.resolveEntries fields havoids).2
    refine .ofExcept_bind h.world hplain fun entries hentries => ?_
    refine .ofExcept_bind h.world ?_ fun p hp => .pure h.world ⟨trivial, ?_⟩
    · cases lenient <;> exact Policy.failsNamelessly_ofFields? _
    · cases lenient with
      | false => exact Policy.within_ofFields? (hwithin entries hentries) hp
      | true => exact Policy.within_ofKnownFields? (hwithin entries hentries) hp

/-- **A call that fits** reports the same in both sessions and leaves sessions that match. -/
theorem run_call (h : Matches view hidden s s') (hc : c.Fits view hidden s) {keep : Option String}
    (hkeep : KeepsVisibly hidden keep) :
    (c.run keep s').1 = (c.run keep s).1 ∧
      Matches view hidden (c.run keep s).2 (c.run keep s').2 := by
  have hagrees := h.agreesFrom_perform hc
  have hperform := h.perform_eq hc.1
  have hstanding : ∀ {w w' : World}, w.Alike view w' →
      (c.asked? s').bind w'.standing = (c.asked? s).bind w.standing := by
    intro w w' hw
    rw [h.asked?_eq hc.1, show w'.standing = w.standing from funext (World.standing_eq_of_alike hw)]
  rcases hagrees.cases with
    ⟨⟨asked, answer⟩, w, w', hrun, hrun', ⟨hasked, hanswer⟩, hw⟩ |
    ⟨fault, w, w', hrun, hrun', hfault, hw⟩
  · rw [run_call_ok hrun, run_call_ok (hperform ▸ hrun')]
    refine ⟨by rw [World.shownAnswer_eq_of_alike hw.toAlike hanswer, hstanding hw.toAlike], ?_⟩
    -- only an answer that is kept gets a place or a mark
    cases keep with
    | none => exact h.withWorld hw
    | some name =>
      have hkept := World.keptAlike_adopt hw.full hasked hanswer
      have hworlds := h.withWorld (hkept.worlds.mono hw.size_le)
      dsimp only
      rw [hkept.value_eq]
      exact hworlds.keep hkeep hkept.within
  · rw [run_call_error hrun, run_call_error (hperform ▸ hrun')]
    exact ⟨by rw [World.refusal_eq_of_alike hw.toAlike hfault, hstanding hw.toAlike],
      h.withWorld hw⟩

/-! ### Blocks -/

/-- The same may be put in force in both sessions; where the books are not compared, it need not be
the same. -/
theorem withAmbient (h : Matches view hidden s s') {a a' : Ambient}
    (hsame : view.books → a' = a)
    (hwithin : view.books → a.policy.Within view s.world.buffers.size) :
    Matches view hidden (s.withAmbient a) (s'.withAmbient a') :=
  h.withWorld (h.world.of_books rfl rfl rfl rfl rfl rfl rfl rfl
    (fun hbooks => ⟨h.world.tallies_eq hbooks, hsame hbooks, h.world.log_eq hbooks⟩) hwithin
    fun _ => ⟨World.remembers_of_tallies_eq rfl, World.remembers_of_tallies_eq rfl⟩)

/-- Either both sessions are inside the block and match, or both fail for the same reason. -/
def EntersAlike (view : View) (hidden : List String) : Except Fault Session →
    Except Fault Session → Prop
  | .ok inside, .ok inside' => Matches view hidden inside inside'
  | .error fault, .error fault' => fault' = fault ∧ ∃ n, fault.Within view n
  | _, _ => False

theorem EntersAlike.cases {entered entered' : Except Fault Session}
    (h : EntersAlike view hidden entered entered') :
    (∃ inside inside', entered = .ok inside ∧ entered' = .ok inside' ∧
      Matches view hidden inside inside') ∨
    ∃ fault n, entered = .error fault ∧ entered' = .error fault ∧ fault.Within view n := by
  unfold EntersAlike at h
  split at h
  · next inside inside' => exact .inl ⟨inside, inside', rfl, rfl, h⟩
  · next fault fault' =>
    obtain ⟨rfl, n, hfault⟩ := h
    exact .inr ⟨fault', n, rfl, rfl, hfault⟩
  · exact h.elim

theorem enter_policy (h : Matches view hidden s s') {p : Operand} (hp : p.Avoids hidden)
    (keep : Option String) :
    EntersAlike view hidden (s.enter (.policy p) keep) (s'.enter (.policy p) keep) := by
  obtain ⟨hsame, hplain, hwithin⟩ := h.resolve p hp
  show EntersAlike view hidden ((s.resolve p).map _) ((s'.resolve p).map _)
  rw [hsame]
  cases hp : s.resolve p with
  | error fault => exact ⟨rfl, 0, hplain fault hp _ _⟩
  | ok v =>
    exact h.withAmbient (fun hbooks => by rw [h.world.ambient_eq hbooks])
      fun _ => hwithin v hp

theorem enter_profiled (h : Matches view hidden s s') (hbooks : view.books)
    {keep : Option String} (hkeep : KeepsVisibly hidden keep) :
    EntersAlike view hidden (s.enter .profiled keep) (s'.enter .profiled keep) := by
  obtain ⟨hplace, htallies⟩ := h.world.addTally hbooks Tally.zero
  have hvalue : (Value.tally (s.world.addTally Tally.zero).1 []).Within view
      s.world.buffers.size := by
    unfold Value.Within Value.AllWithin
    exact ⟨hbooks, trivial⟩
  have hkept : Matches view hidden
      ({ s with world := (s.world.addTally Tally.zero).2 }.keep keep
        (.tally (s.world.addTally Tally.zero).1 []))
      ({ s' with world := (s'.world.addTally Tally.zero).2 }.keep keep
        (.tally (s'.world.addTally Tally.zero).1 [])) := by
    rw [hplace]
    exact (h.withWorld htallies).keep hkeep hvalue
  refine hkept.withAmbient (fun _ => ?_) fun _ => ?_
  · rw [h.world.ambient_eq hbooks, h.world.tallies_eq hbooks]
  · rw [world_keep]
    exact h.world.sound.policy hbooks

theorem enter_editing (h : Matches view hidden s s') {target : String} (htarget : target ∉ hidden)
    {keep : Option String} (hkeep : KeepsVisibly hidden keep) :
    EntersAlike view hidden (s.enter (.editing target) keep) (s'.enter (.editing target) keep) := by
  unfold Session.enter
  dsimp only
  rw [h.register_eq htarget]
  split
  · next fault hregister =>
    exact ⟨rfl, 0, failsNamelessly_register s target fault hregister _ _⟩
  · exact ⟨rfl, 0, Fault.isNameless_of_nil rfl _ _⟩
  · next r _ =>
    rcases (Act.agrees_currentBuffer r _ _ h.world).cases with
      ⟨b, w, w', hrun, hrun', hb, hw⟩ | ⟨fault, w, w', hrun, hrun', hfault, hw⟩
    · rw [hrun, hrun']
      exact (h.withWorld hw).keep hkeep (by unfold Value.Within; exact hb)
    · rw [hrun, hrun']
      exact ⟨rfl, _, hfault⟩
  · exact ⟨rfl, 0, Fault.isNameless_of_nil rfl _ _⟩

end Session.Matches

/-! ### Moves -/

/-- What a move reports: a call its answer or why it failed, a block that fails to begin why. -/
def Session.report? (s : Session) : Move → Option Report
  | .call c keep => some (c.run keep s).1
  | .enter scope keep =>
    match s.enter scope keep with
    | .ok _ => none
    | .error fault =>
      some (.mk (.error (s.world.refusal fault)) ((scope.asked? s).bind s.world.standing) none)
  | .leave .. | .finish _ => none

/-- The move names no hidden register and fits the view: only where this compares the books may it
put something in force or give it back, and this must be within the view. -/
def Move.Fits (view : View) (hidden : List String) (s : Session) : Move → Prop
  | .call c keep => c.Fits view hidden s ∧ KeepsVisibly hidden keep
  | .enter (.editing target) keep => target ∉ hidden ∧ KeepsVisibly hidden keep
  | .enter (.policy p) _ => view.books ∧ p.Avoids hidden
  | .enter .profiled keep => view.books ∧ KeepsVisibly hidden keep
  | .enter .separate _ => view.books
  | .leave (.editing _) _ => True
  | .leave _ before => view.books ∧ before.policy.Within view s.world.buffers.size
  | .finish keep => KeepsVisibly hidden keep

namespace Session.Matches

variable {view : View} {hidden : List String} {s s' : Session} {m : Move}

theorem entersAlike (h : Matches view hidden s s') {scope : Scope} {keep : Option String}
    (hm : (Move.enter scope keep).Fits view hidden s) :
    EntersAlike view hidden (s.enter scope keep) (s'.enter scope keep) := by
  cases scope with
  | policy p => exact h.enter_policy hm.2 keep
  | profiled => exact h.enter_profiled hm.1 hm.2
  | separate => exact h.withAmbient (fun _ => rfl) fun _ => Value.within_policy.mpr trivial
  | editing target => exact h.enter_editing hm.1 hm.2

/-- **A move that fits** reports the same in both sessions. -/
theorem report?_eq (h : Matches view hidden s s') (hm : m.Fits view hidden s) :
    s'.report? m = s.report? m := by
  cases m with
  | call c keep => exact congrArg some (h.run_call hm.1 hm.2).1
  | enter scope keep =>
    have hstanding : (scope.asked? s').bind s'.world.standing
        = (scope.asked? s).bind s.world.standing := by
      rw [show s'.world.standing = s.world.standing from
        funext (World.standing_eq_of_alike h.world.toAlike)]
      cases scope with
      | editing target =>
        show (s'.register target).toOption.bind _ = (s.register target).toOption.bind _
        rw [h.register_eq hm.1]
      | policy | profiled | separate => rfl
    unfold report?
    dsimp only
    rcases (h.entersAlike hm).cases with
      ⟨inside, inside', henter, henter', -⟩ | ⟨fault, n, henter, henter', hfault⟩
    · rw [henter, henter']
    · rw [henter, henter']
      dsimp only
      rw [World.refusal_eq_of_alike h.world.toAlike hfault, hstanding]
  | leave | finish => rfl

/-- **A move that fits** leaves sessions that match. -/
theorem move (h : Matches view hidden s s') (hm : m.Fits view hidden s) :
    Matches view hidden (s.move m) (s'.move m) := by
  cases m with
  | call c keep => exact (h.run_call hm.1 hm.2).2
  | enter scope keep =>
    rcases (h.entersAlike hm).cases with
      ⟨inside, inside', henter, henter', hinside⟩ | ⟨fault, n, henter, henter', -⟩
    · rw [move_enter henter, move_enter henter']
      exact hinside
    · rw [move_enter_error henter, move_enter_error henter']
      exact h
  | leave scope before =>
    cases scope with
    | policy p =>
      exact h.withAmbient (fun hbooks => by rw [h.world.ambient_eq hbooks]) fun _ => hm.2
    | profiled =>
      exact h.withAmbient (fun hbooks => by rw [h.world.ambient_eq hbooks])
        h.world.sound.policy
    | separate => exact h.withAmbient (fun _ => rfl) fun _ => hm.2
    | editing target => exact h
  | finish keep => exact h.keep hm trivial

end Session.Matches

end TextRoll
