/-
TextRoll/Proofs/Session/Allocations.lean

What becomes of every request for storage.

A session asks for storage in three ways: it makes a roll, with a capacity or without one, makes
room in a roll, or adds to a roll that is full.  Each time the policy of the roll gives its verdict
on one number of slots, and the verdict decides about everything else: what is told, what is
logged, and whether anything changes (`Session.Meets`).  `storage_outcomes` lists the three ways
with the number that each asks for and with what each leaves when it is granted.

Memory for fewer than `unaffordableSlots` slots is taken to be there, as everywhere.  What is asked
for past a limit is logged whatever it is, but may be too long a number to be written out; what is
told then is not said here.
-/
import TextRoll.Proofs.Act.Peeking
import TextRoll.Proofs.Roll.Verdicts
import TextRoll.Proofs.Session.Atomicity
import TextRoll.Proofs.Session.Capacities
import TextRoll.Proofs.Session.Postings

namespace TextRoll

/-- What is asked for can be written out, if the verdict is that it is past a limit. -/
def Verdict.Tellable (v : Verdict) (wanted : Whole) : Prop :=
  ∀ limit, v = .pastLimit limit → Whole.isWritable wanted.toInt = true

/-- The record of refused storage names the slots that were asked for, and the limit if there is
one. -/
theorem Fault.notice?_allocation (wanted : Whole) (limit : Value) (outOfMemory : Bool) :
    (Fault.allocation wanted.value limit outOfMemory).notice? = some (match limit.toInt? with
      | some most => .overLimit wanted.toInt most
      | none => .outOfMemory wanted.toInt) := by
  unfold Fault.notice?
  dsimp only
  cases limit.toInt? <;> cases wanted <;> rfl

namespace Policy

variable {p : Policy} {slots : Nat} {wanted : Whole} {fault : Fault}

/-- What is refused can be written out, unless it is past a limit or cannot be counted. -/
theorem isWritable_of_outOfMemory (hslots : slots < unaffordableSlots)
    (h : p.verdict slots wanted.toNat = .outOfMemory) : Whole.isWritable wanted.toInt = true := by
  obtain ⟨hmemory, hcountable⟩ := verdict_eq_outOfMemory h
  have hslots : slots < 2 ^ 59 := hslots
  have hnat : wanted.toInt.natAbs = wanted.toNat := by
    unfold Whole.toNat at hmemory ⊢
    omega
  have hlong : (2 : Nat) ^ 64 < Whole.unwritable := by decide +kernel
  unfold Whole.isWritable
  rw [hnat]
  exact decide_eq_true (by omega)

/-- A refusal is told as it is, if it can be. -/
theorem told_of_fault? (hslots : slots < unaffordableSlots)
    (htellable : (p.verdict slots wanted.toNat).Tellable wanted)
    (h : (p.verdict slots wanted.toNat).fault? wanted = some fault) (w : World) :
    (w.refusal fault).fault = fault := by
  cases hverdict : p.verdict slots wanted.toNat with
  | granted => rw [hverdict] at h; cases h
  | uncountable =>
    rw [hverdict] at h
    cases h
    rfl
  | pastLimit limit =>
    have hlt := Whole.lt_toNat.mp (verdict_eq_pastLimit.mp hverdict).2
    rw [hverdict] at h
    cases h
    rw [Fault.fault_refusal_pastLimit hlt, Fault.pastLimit, if_pos (htellable limit hverdict)]
  | outOfMemory =>
    have hwritable := isWritable_of_outOfMemory hslots hverdict
    rw [hverdict] at h
    cases h
    have hall : (Fault.allocation wanted.value .null true).mentioned.all w.isWritable
        = Whole.isWritable wanted.toInt := World.all_isWritable_value fun _ => rfl
    exact (Fault.fault_refusal_of_mentioned hall).trans (if_pos hwritable)

/-- A refusal leaves the warning of the verdict. -/
theorem notice?_of_fault? (h : (p.verdict slots wanted.toNat).fault? wanted = some fault) :
    fault.notice? = (p.verdict slots wanted.toNat).warning? wanted := by
  cases hverdict : p.verdict slots wanted.toNat with
  | granted => rw [hverdict] at h; cases h
  | uncountable =>
    rw [hverdict] at h
    cases h
    rfl
  | pastLimit limit =>
    rw [hverdict] at h
    cases h
    exact Fault.notice?_allocation wanted _ _
  | outOfMemory =>
    rw [hverdict] at h
    cases h
    exact Fault.notice?_allocation wanted _ _

end Policy

namespace Session

variable {s : Session} {c : Call} {keep : Option String} {asked v : Value} {verb : Verb}
  {args : List Value} {r : RollId} {p : Policy} {slots : Nat} {wanted n : Whole}
  {result : Value × Answer} {w : World}

/-- A call for storage comes out as the verdict says. -/
structure Meets (s : Session) (c : Call) (keep : Option String) (verdict : Verdict)
    (wanted : Whole) : Prop where
  told : verdict.Tellable wanted → s.failure? c keep = verdict.fault? wanted
  warned : verdict ≠ .granted →
    (s.move (.call c keep)).world.log = s.world.log ++ (verdict.warning? wanted).toList
  /-- But for the log, a refusal leaves everything as it is. -/
  unchanged : verdict ≠ .granted → (s.move (.call c keep)).registers = s.registers ∧
    s.world.Undisturbed { (s.move (.call c keep)).world with log := s.world.log }

/-- A call is decided by a verdict, after reading at most. -/
def Settles (s : Session) (c : Call) (verdict : Verdict) (wanted : Whole)
    (result : Value × Answer) (w : World) : Prop :=
  ∃ w₀, s.world.Peeked w₀ ∧ (c.perform s).run s.world
    = match verdict.fault? wanted with
      | some fault => .error fault (w₀.refused fault)
      | none => .ok result w

/-- **What a verdict decides.** -/
theorem Settles.meets (h : s.Settles c (p.verdict slots wanted.toNat) wanted result w)
    (hslots : slots < unaffordableSlots) :
    s.Meets c keep (p.verdict slots wanted.toNat) wanted := by
  obtain ⟨w₀, hpeeked, hrun⟩ := h
  cases hfault : (p.verdict slots wanted.toNat).fault? wanted with
  | none =>
    have hgranted := Verdict.fault?_eq_none.mp hfault
    rw [hfault] at hrun
    refine ⟨fun _ => ?_, fun hnot => absurd hgranted hnot, fun hnot => absurd hgranted hnot⟩
    rw [failure?_perform, Act.failure?_of_ok hrun, hfault]
  | some fault =>
    rw [hfault] at hrun
    have hmove : s.move (.call c keep) = { s with world := w₀.refused fault } := by
      show (c.run keep s).2 = _
      rw [run_call_error hrun]
    refine ⟨fun htellable => ?_, fun _ => ?_, fun _ => ?_⟩
    · rw [failure?_perform, hfault]
      unfold Act.failure?
      rw [hrun]
      exact congrArg some (Policy.told_of_fault? hslots htellable hfault _)
    · rw [hmove, ← Policy.notice?_of_fault? hfault, ← hpeeked.log_eq]
      exact w₀.log_refused fault
    · rw [hmove]
      refine ⟨rfl, ?_⟩
      show s.world.Undisturbed { w₀.refused fault with log := s.world.log }
      rw [World.refused_eq, ← hpeeked.log_eq]
      exact hpeeked.toUndisturbed

theorem Settles.run_of_granted {verdict : Verdict} (h : s.Settles c verdict wanted result w)
    (hgranted : verdict = .granted) : (c.perform s).run s.world = .ok result w := by
  obtain ⟨w₀, -, hrun⟩ := h
  rw [hgranted] at hrun
  exact hrun

/-- A request that is granted does not fail. -/
theorem Meets.told_of_granted {verdict : Verdict} (h : s.Meets c keep verdict wanted)
    (hgranted : verdict = .granted) : s.failure? c keep = none := by
  rw [hgranted] at h
  exact h.told nofun

/-- Where a call is answered with nothing, it leaves its log and its rolls. -/
theorem move_of_nothing (hrun : (c.perform s).run s.world = .ok (asked, .nothing) w)
    (keep : Option String) :
    (s.move (.call c keep)).world.log = w.log ∧
      ∀ r, (s.move (.call c keep)).world.roll r = w.roll r := by
  rw [world_move_call, hrun]
  cases keep <;> exact ⟨rfl, fun _ => rfl⟩

/-! ### Making room -/

/-- A request for room that a roll does not have is decided by a verdict. -/
theorem settles_reserve (hrequest : c.request? s = some (asked, .reserve, [v]))
    (hasked : asked.rollId? = some r) (hv : v.toWhole? = some n)
    (hlt : (s.world.roll r).capacity < n.toInt) :
    let l := s.world.roll r
    s.Settles c (l.policy.verdict l.capacity n.toNat) n (asked, .nothing)
      ((s.world.setRoll r (l.grown n.toNat)).recorded (some ⟨l.capacity, n, v.mark⟩)) := by
  intro l
  obtain ⟨target, operands, rfl, htarget, hargs⟩ := request?_eq_some hrequest
  refine ⟨s.world, .refl s.world, ?_⟩
  rw [run_perform_ask htarget hargs, Act.ask_reserve hasked hv, EStateM.run_bind, Act.run_reserve,
    Roll.reserve_eq hlt, Verdict.outcome]
  cases (l.policy.verdict l.capacity n.toNat).fault? n <;> rfl

/-- Room that a roll has already is not asked for. -/
theorem reserve_of_le (hrequest : c.request? s = some (asked, .reserve, [v]))
    (hasked : asked.rollId? = some r) (hv : v.toWhole? = some n)
    (hle : n.toInt ≤ (s.world.roll r).capacity) :
    (c.perform s).run s.world = .ok (asked, .nothing) (s.world.setRoll r (s.world.roll r)) := by
  obtain ⟨target, operands, rfl, htarget, hargs⟩ := request?_eq_some hrequest
  rw [run_perform_ask htarget hargs, Act.ask_reserve hasked hv, EStateM.run_bind, Act.run_reserve,
    Roll.reserve_of_le hle]
  rfl

/-- Asking for it tells and logs nothing, and every roll is as it was. -/
theorem reserve_within (hrequest : c.request? s = some (asked, .reserve, [v]))
    (hasked : asked.rollId? = some r) (hv : v.toWhole? = some n)
    (hle : n.toInt ≤ (s.world.roll r).capacity) :
    s.failure? c keep = none ∧ (s.move (.call c keep)).world.log = s.world.log ∧
      ∀ r', (s.move (.call c keep)).world.roll r' = s.world.roll r' := by
  have hrun := reserve_of_le hrequest hasked hv hle
  obtain ⟨hlog, hrolls⟩ := move_of_nothing hrun keep
  refine ⟨?_, hlog, fun r' => (hrolls r').trans ?_⟩
  · rw [failure?_perform, Act.failure?_of_ok hrun]
  · by_cases hr : r' = r
    · subst hr
      exact World.roll_put_self rfl
    · exact World.roll_put_of_ne rfl hr

/-- Room that is granted is there, and was logged. -/
theorem reserve_granted (hs : s.world.Owned) (hrequest : c.request? s = some (asked, .reserve, [v]))
    (hasked : asked.rollId? = some r) (hv : v.toWhole? = some n)
    (hlt : (s.world.roll r).capacity < n.toInt) :
    let l := s.world.roll r
    let s' := s.move (.call c keep)
    l.policy.verdict l.capacity n.toNat = .granted →
      l.Enlarged n.toNat [] (s'.world.roll r) ∧
        s'.world.log = s.world.log ++ [.grew l.capacity n.toNat] := by
  intro l s' hgranted
  have hrun := (settles_reserve hrequest hasked hv hlt).run_of_granted hgranted
  obtain ⟨hlog, hrolls⟩ := move_of_nothing hrun keep
  have hgrown : s'.world.roll r = l.grown n.toNat := by
    rw [hrolls r, World.roll_of_rolls_eq (World.rolls_recorded _ _)]
    exact World.roll_put_self rfl
  constructor
  · rw [hgrown]
    exact (hs.wellFormed r).enlarged_grown (Whole.lt_toNat.mpr hlt)
  · exact hlog.trans (World.log_recordGrowth _ _)

/-! ### Adding to a full roll -/

/-- Adding to a full roll is decided by a verdict; in the end the roll has been enlarged and has a
new element. -/
theorem settles_appendText (text : Text) {w₀ : World}
    (hfull : (s.world.roll r).length = (s.world.roll r).capacity) (hpeeked : s.world.Peeked w₀)
    (hperform : (c.perform s).run s.world
      = match (Act.appendText r text).run w₀ with
        | .ok _ w => .ok (asked, .nothing) w
        | .error fault w => .error fault w) :
    let l := s.world.roll r
    let wanted := l.policy.enlarged l.capacity
    ∃ w b, s.Settles c (l.policy.verdict l.capacity wanted) (.numeral wanted) (asked, .nothing) w ∧
      w.log = s.world.log ++ [.grew l.capacity wanted] ∧
      w.roll r = (l.grown wanted).place b := by
  intro l wanted
  let growth : Growth := ⟨l.capacity, .numeral wanted, l.policy.enlargedMark l.capacity⟩
  refine ⟨((w₀.recorded (some growth)).addBuffer (Buffer.ofText text)).setRoll r
    ((l.grown wanted).place w₀.freeBuffer), w₀.freeBuffer, ⟨w₀, hpeeked, ?_⟩, ?_,
    World.roll_put_self rfl⟩
  · have hroll : w₀.roll r = l := hpeeked.roll_eq r
    have happend := Roll.append_eq hfull w₀.freeBuffer
    rw [hperform, Act.run_appendText, hroll, happend, Verdict.outcome]
    cases (l.policy.verdict l.capacity wanted).fault? (.numeral wanted) <;> rfl
  · rw [← hpeeked.log_eq]
    exact w₀.log_recordGrowth growth

theorem settles_adds (hrequest : c.request? s = some (asked, verb, args))
    (hasked : asked.rollId? = some r) (hadds : verb.adds args = true)
    (hfull : (s.world.roll r).length = (s.world.roll r).capacity) :
    let l := s.world.roll r
    let wanted := l.policy.enlarged l.capacity
    ∃ w b, s.Settles c (l.policy.verdict l.capacity wanted) (.numeral wanted) (asked, .nothing) w ∧
      w.log = s.world.log ++ [.grew l.capacity wanted] ∧
      w.roll r = (l.grown wanted).place b := by
  obtain ⟨target, operands, rfl, htarget, hargs⟩ := request?_eq_some hrequest
  have hperform := @run_perform_ask s target verb operands asked args htarget hargs s.world
  unfold Verb.adds at hadds
  split at hadds
  · next text =>
    refine settles_appendText text hfull (.refl s.world) ?_
    rw [hperform, Act.ask_add hasked, EStateM.run_bind]
    cases (Act.appendText r text).run s.world <;> rfl
  · next b =>
    refine settles_appendText (s.world.built b) hfull (s.world.peeked_collapse b) ?_
    rw [hperform, Act.ask_addBuffer hasked, Act.run_bind_ok _ (Act.run_built b s.world),
      EStateM.run_bind]
    cases (Act.appendText r (s.world.built b)).run (s.world.collapse b) <;> rfl
  · cases hadds

/-- Room for a new element that is granted is there, with the element in it, and was logged. -/
theorem adds_granted (hs : s.world.Owned) (hrequest : c.request? s = some (asked, verb, args))
    (hasked : asked.rollId? = some r) (hadds : verb.adds args = true)
    (hfull : (s.world.roll r).length = (s.world.roll r).capacity) :
    let l := s.world.roll r
    let s' := s.move (.call c keep)
    let wanted := l.policy.enlarged l.capacity
    l.policy.verdict l.capacity wanted = .granted →
      (∃ b, l.Enlarged wanted [b] (s'.world.roll r)) ∧
        s'.world.log = s.world.log ++ [.grew l.capacity wanted] := by
  intro l s' wanted hgranted
  obtain ⟨w, b, hsettles, hlogged, hroll⟩ := settles_adds hrequest hasked hadds hfull
  obtain ⟨hlog, hrolls⟩ := move_of_nothing (hsettles.run_of_granted hgranted) keep
  refine ⟨⟨b, ?_⟩, hlog.trans hlogged⟩
  rw [hrolls r, hroll]
  exact (hs.wellFormed r).enlarged_place (l.policy.lt_enlarged l.capacity) b

/-! ### Making a roll -/

/-- A roll with a capacity that may be null is made under the policy in force. -/
theorem run_newRollFor (hpolicy : s.world.ambient.policy = .policy p) {capacity : Option Whole}
    (hv : v.capacity? = some capacity) :
    (Act.newRollFor v).run s.world = (Act.granted (Roll.create p capacity)).run s.world := by
  have hnew : Act.newRollFor v = Act.newRoll capacity := by
    cases capacity with
    | some n => exact Act.newRollFor_number (Value.capacity?_eq_some.mp hv)
    | none =>
      rw [Value.capacity?_eq_none.mp hv]
      rfl
  rw [hnew, Act.run_newRoll hpolicy]

/-- Making a roll is decided by a verdict on the slots that it is to have. -/
theorem settles_makes (hmakes : c.Makes s v) (hpolicy : s.world.ambient.policy = .policy p)
    {capacity : Option Whole} (hv : v.capacity? = some capacity)
    (hnonneg : ∀ n, capacity = some n → 0 ≤ n.toInt) :
    let wanted := p.slotsAsked capacity
    ∃ asked draft, s.Settles c (p.verdict 0 wanted.toNat) wanted (asked, .draft draft) s.world := by
  intro wanted
  obtain ⟨asked, draft, -, hrun⟩ := run_perform_makes hmakes
  refine ⟨asked, draft ⟨List.replicate wanted.toNat none, 0, 0, .counted, 0, 0, 0, p⟩, s.world,
    .refl s.world, ?_⟩
  rw [hrun, run_newRollFor hpolicy hv, Act.run_granted, Roll.create_eq p hnonneg, Verdict.outcome]
  cases (p.verdict 0 wanted.toNat).fault? wanted <;> rfl

/-- A capacity below zero is refused before any storage is asked for. -/
theorem makes_negative (hmakes : c.Makes s v) (hpolicy : s.world.ambient.policy = .policy p)
    (hv : v.toWhole? = some n) (hnegative : n.toInt < 0) :
    s.move (.call c keep) = s ∧ s.failure? c keep
      = some (if Whole.isWritable n.toInt then .negativeCapacity (.ofInt n.toInt)
          else .tooManyDigits) := by
  obtain ⟨asked, draft, -, hrun⟩ := run_perform_makes hmakes
  rw [run_newRollFor hpolicy (Value.capacity?_eq_some.mpr hv), Act.run_granted,
    Roll.create_negative p hnegative] at hrun
  constructor
  · show (c.run keep s).2 = s
    rw [run_call_error hrun]
    rfl
  · rw [failure?_perform]
    unfold Act.failure?
    rw [hrun]
    exact congrArg some (Fault.fault_refusal_of_mentioned (Bool.and_true _))

/-- A roll that is granted is new, has the slots asked for and the policy in force, and nothing was
logged. -/
theorem makes_granted (hmakes : c.Makes s v) (hpolicy : s.world.ambient.policy = .policy p)
    {capacity : Option Whole} (hv : v.capacity? = some capacity)
    (hnonneg : ∀ n, capacity = some n → 0 ≤ n.toInt) (keep : Option String) :
    let wanted := p.slotsAsked capacity
    let s' := s.move (.call c keep)
    p.verdict 0 wanted.toNat = .granted → s'.world.log = s.world.log ∧
      ∀ name, keep = some name →
        let r : RollId := ⟨s.world.rolls.size⟩
        (s'.register name = .ok (.roll r) ∨
          ∃ mark, s'.register name = .ok (.guarded mark 0 r)) ∧
        (s'.world.roll r).capacity = wanted.toNat ∧ (s'.world.roll r).policy = p ∧
        (s'.world.roll r).Unused := by
  intro wanted s' hgranted
  obtain ⟨asked, draft, hsettles⟩ := settles_makes hmakes hpolicy hv hnonneg
  have hrun := hsettles.run_of_granted hgranted
  constructor
  · show (s.move (.call c keep)).world.log = _
    rw [world_move_call, hrun]
    cases keep with
    | none => rfl
    | some name => exact (World.adds_adopt (yields_perform s c _ _ _ hrun) asked s.world).log_eq
  · rintro name rfl r
    have htold : s.failure? c (some name) = none := by
      rw [failure?_perform, Act.failure?_of_ok hrun]
    obtain ⟨hregister, capacity', l, hv', hcreate, hrolls⟩ := made_eq hmakes hpolicy htold
    obtain rfl := Option.some.inj (hv.symm.trans hv')
    have hl : s'.world.roll r = l :=
      World.roll_issue_self hrolls (rfl : r.index = s.world.rolls.size)
    rw [hl]
    exact ⟨hregister, Roll.capacity_of_create hcreate, Roll.policy_of_create hcreate,
      Roll.unused_of_create hcreate⟩

/-! ### All requests for storage -/

/-- **What becomes of every request for storage.**  In every session, under every policy and for
numbers of any size, one verdict decides whether storage is granted: that on the slots there are and
the slots that are asked for. -/
theorem storage_outcomes (hs : s.Reachable) (c : Call) (keep : Option String) :
    -- a roll is made, with a capacity that is given or with the standard one
    (∀ (v : Value) (p : Policy) (capacity : Option Whole), c.Makes s v →
      s.world.ambient.policy = .policy p → v.capacity? = some capacity →
      let wanted : Whole := match capacity with
        | some n => n
        | none => .numeral (match p.maxCapacity with
          | some limit => min p.defaultCapacity limit
          | none => p.defaultCapacity : Nat)
      let verdict := p.verdict 0 wanted.toNat
      -- one below zero is refused before anything else
      (wanted.toInt < 0 → s.move (.call c keep) = s ∧ s.failure? c keep
        = some (if Whole.isWritable wanted.toInt then .negativeCapacity (.ofInt wanted.toInt)
          else .tooManyDigits)) ∧
      (0 ≤ wanted.toInt → s.Meets c keep verdict wanted ∧
        (verdict = .granted → (s.move (.call c keep)).world.log = s.world.log ∧
          ∀ name, keep = some name →
            let r : RollId := ⟨s.world.rolls.size⟩
            let s' := s.move (.call c keep)
            (s'.register name = .ok (.roll r) ∨
              ∃ mark, s'.register name = .ok (.guarded mark 0 r)) ∧
            (s'.world.roll r).capacity = wanted.toNat ∧ (s'.world.roll r).policy = p ∧
            (s'.world.roll r).Unused))) ∧
    -- room is made in a roll
    (∀ (asked v : Value) (n : Whole) (r : RollId), c.request? s = some (asked, .reserve, [v]) →
      asked.rollId? = some r → v.toWhole? = some n →
      let l := s.world.roll r
      let s' := s.move (.call c keep)
      (n.toInt ≤ l.capacity → s.failure? c keep = none ∧ s'.world.log = s.world.log ∧
        ∀ r', s'.world.roll r' = s.world.roll r') ∧
      (l.capacity < n.toInt → s.Meets c keep (l.policy.verdict l.capacity n.toNat) n ∧
        (l.policy.verdict l.capacity n.toNat = .granted →
          l.Enlarged n.toNat [] (s'.world.roll r) ∧
          s'.world.log = s.world.log ++ [.grew l.capacity n.toNat]))) ∧
    -- an element is added to a roll that is full
    ∀ (asked : Value) (verb : Verb) (args : List Value) (r : RollId),
      c.request? s = some (asked, verb, args) → asked.rollId? = some r → verb.adds args = true →
      let l := s.world.roll r
      let s' := s.move (.call c keep)
      l.length = l.capacity →
      let next := max (l.capacity * l.policy.growthFactor) 1
      let wanted := match l.policy.maxCapacity with
        | some limit => if l.capacity < limit ∧ limit < next then limit else next
        | none => next
      s.Meets c keep (l.policy.verdict l.capacity wanted) (.numeral wanted) ∧
        (l.policy.verdict l.capacity wanted = .granted →
          (∃ b, l.Enlarged wanted [b] (s'.world.roll r)) ∧
          s'.world.log = s.world.log ++ [.grew l.capacity wanted]) := by
  have howned := hs.owned
  have hslots : ∀ r, (s.world.roll r).capacity < unaffordableSlots := fun r =>
    (howned.wellFormed r).allowed.lt_unaffordable
  refine ⟨?_, ?_, ?_⟩
  · intro v p capacity hmakes hpolicy hv wanted verdict
    have hwanted : p.slotsAsked capacity = wanted := by cases capacity <;> rfl
    constructor
    · intro hnegative
      cases capacity with
      | none => exact absurd hnegative (Int.not_lt.mpr (Int.natCast_nonneg _))
      | some n => exact makes_negative hmakes hpolicy (Value.capacity?_eq_some.mp hv) hnegative
    · intro hnonneg
      have hgiven : ∀ n, capacity = some n → 0 ≤ n.toInt := by
        rintro n rfl
        exact hnonneg
      obtain ⟨asked, draft, hsettles⟩ := settles_makes hmakes hpolicy hv hgiven
      have hgranted := makes_granted hmakes hpolicy hv hgiven keep
      rw [hwanted] at hsettles hgranted
      exact ⟨hsettles.meets (by decide), hgranted⟩
  · intro asked v n r hrequest hasked hv l s'
    refine ⟨reserve_within hrequest hasked hv, fun hlt => ⟨?_, ?_⟩⟩
    · exact (settles_reserve hrequest hasked hv hlt).meets (hslots r)
    · exact reserve_granted howned hrequest hasked hv hlt
  · intro asked verb args r hrequest hasked hadds l s' hfull next wanted
    obtain ⟨w, b, hsettles, -, -⟩ := settles_adds hrequest hasked hadds hfull
    exact ⟨hsettles.meets (hslots r), adds_granted howned hrequest hasked hadds hfull⟩

/-- A roll with one slot under a limit of four: room for five is refused with a warning, and room
for four is made. -/
theorem storage_outcomes_limited :
    let s := initial.after
      [.call (.configure false [("max_capacity", .int 0 4)]) (some "p"),
        .call (.serve .usePolicy [.register "p"]) none,
        .call (.serve .makeRoll [.int 1 1]) (some "a")]
    let tooMuch : Call := .ask "a" .reserve [.int 2 5]
    let enough : Call := .ask "a" .reserve [.int 3 4]
    s.failure? tooMuch none = some (.allocation (.ofInt 5) (.ofInt 4) false) ∧
      (s.move (.call tooMuch none)).world.log = [.overLimit 5 4] ∧
      s.failure? enough none = none ∧
      ((s.move (.call enough none)).world.roll ⟨0⟩).capacity = 4 ∧
      (s.move (.call enough none)).world.log = [.grew 1 4] := by
  intro s tooMuch enough
  have hreachable : s.Reachable := ⟨_, rfl⟩
  have hlog : s.world.log = [] := by decide +kernel
  have hslots : (s.world.roll ⟨0⟩).capacity = 1 := by decide +kernel
  have hlimit : (s.world.roll ⟨0⟩).policy.maxCapacity = some 4 := by decide +kernel
  obtain ⟨-, hrefused, -⟩ := storage_outcomes hreachable tooMuch none
  obtain ⟨-, hrefused⟩ := hrefused _ _ (.numeral 5) ⟨0⟩ rfl rfl rfl
  obtain ⟨-, hgranted, -⟩ := storage_outcomes hreachable enough none
  obtain ⟨-, hgranted⟩ := hgranted _ _ (.numeral 4) ⟨0⟩ rfl rfl rfl
  clear_value s
  rw [hslots] at hrefused hgranted
  have hpast : (s.world.roll ⟨0⟩).policy.verdict 1 5 = .pastLimit 4 := by
    rw [Policy.verdict_eq_pastLimit, hlimit]
    decide
  have hwithin : (s.world.roll ⟨0⟩).policy.verdict 1 4 = .granted := by
    rw [Policy.verdict, hlimit]
    decide
  have hmeets : s.Meets tooMuch none ((s.world.roll ⟨0⟩).policy.verdict 1 5) (.numeral 5) :=
    (hrefused (by decide)).1
  obtain ⟨hmeets', hafter⟩ : s.Meets enough none ((s.world.roll ⟨0⟩).policy.verdict 1 4) _ ∧ _ :=
    hgranted (by decide)
  rw [hpast] at hmeets
  obtain ⟨henlarged, hgrew⟩ := hafter hwithin
  have hwritable : Whole.isWritable (Whole.numeral 5).toInt = true := by decide +kernel
  have hwarned := hmeets.warned nofun
  rw [hlog] at hwarned hgrew
  exact ⟨hmeets.told fun _ _ => hwritable, hwarned, hmeets'.told_of_granted hwithin,
    henlarged.capacity_eq, hgrew⟩

/-- Memory can be short although few slots are new: a roll with one slot cannot be given 2 ^ 59
slots, which are one less than that in new ones.  And what a large growth factor asks for past a
limit can be too long to be written out; then no fault of storage is told. -/
theorem storage_outcomes_memory :
    let s := initial.after [.call (.serve .makeRoll [.int 0 1]) (some "a")]
    let s' := initial.after
      [.call (.configure false
          [("growth_factor", .int 0 (5 * 10 ^ 4299)), ("max_capacity", .int 1 2)]) (some "p"),
        .call (.serve .usePolicy [.register "p"]) none, .call (.serve .makeRoll []) (some "a"),
        .call (.ask "a" .add [.text 2 "x"]) none, .call (.ask "a" .add [.text 3 "y"]) none]
    ((s.world.roll ⟨0⟩).policy.maxCapacity = none ∧ (s.world.roll ⟨0⟩).capacity = 1 ∧
      2 ^ 59 - 1 < 2 ^ 59 ∧ (s.failure? (.ask "a" .reserve [.int 1 (2 ^ 59)]) none).map
        Fault.isAllocation = some true) ∧
    ((s'.world.roll ⟨0⟩).policy.maxCapacity = some 2 ∧ (s'.world.roll ⟨0⟩).length = 2 ∧
      (s'.world.roll ⟨0⟩).capacity = 2 ∧
      (s'.failure? (.ask "a" .add [.text 4 "z"]) none).map Fault.isAllocation = some false) := by
  decide +kernel

end Session

end TextRoll
