/-
TextRoll/Proofs/Session/Limits.lean

What the limit of a policy means for the rolls under it.

A roll has the policy that was in force when it was made, and keeps it
(`policy_after`).  If that policy has a limit, the limit is tight in every reachable session: a roll
takes another element exactly as long as it has fewer than the limit, room for more can be made
exactly up to the limit, and so can new rolls (`limit_tight`).  This holds of limits that fit into
memory, whatever the growth factor and the standard capacity are.

What is past the limit is refused with the slots that were asked for and the limit.  A growth
factor may be so large that those slots cannot be written out, and then that is what is told
(`Fault.pastLimit`).
-/
import Mathlib.Algebra.Ring.Int.Defs
import TextRoll.Proofs.Roll.Limit
import TextRoll.Proofs.Session.Events
import TextRoll.Proofs.World.Refusing

namespace TextRoll

namespace World

variable {w w' : World} {e : Event} {es : List Event}

/-! ### Rolls keep their policies -/

/-- A roll that was made before an event keeps its policy. -/
theorem Occurs.policy_eq (h : w.Occurs e w') {r : RollId} (hr : r.index < w.rolls.size) :
    (w'.roll r).policy = (w.roll r).policy := by
  cases h with
  | still hrolls => rw [roll_of_rolls_eq hrolls]
  | edited hrolls => rw [roll_of_rolls_eq hrolls]
  | @changed _ r' loss bs l hchange hrolls =>
    by_cases hr' : r = r'
    · subst hr'
      rw [roll_put_self hrolls]
      exact hchange.policy_eq
    · rw [roll_put_of_ne hrolls hr']
  | created hunused hrolls => rw [roll_issue_of_ne hrolls (Nat.ne_of_lt hr)]

theorem Passes.policy_eq (h : w.Passes es w') {r : RollId} (hr : r.index < w.rolls.size) :
    (w'.roll r).policy = (w.roll r).policy ∧ r.index < w'.rolls.size := by
  induction h with
  | nil => exact ⟨rfl, hr⟩
  | cons hoccurs _ ih =>
    obtain ⟨hpolicy, hsize⟩ := ih (Nat.lt_of_lt_of_le hr hoccurs.rolls_le)
    exact ⟨hpolicy.trans (hoccurs.policy_eq hr), hsize⟩

end World

/-! ### Requests under a limit -/

/-- The capacity that a value stands for where one may be given: null stands for none. -/
def Value.capacity? : Value → Option (Option Whole)
  | .null => some none
  | v => v.toWhole?.map some

theorem Value.capacity?_eq_some {v : Value} {n : Whole} :
    v.capacity? = some (some n) ↔ v.toWhole? = some n := by
  cases v with
  | null => simp [capacity?, toWhole?]
  | _ => simp [capacity?]

theorem Value.capacity?_eq_none {v : Value} : v.capacity? = some none ↔ v = .null := by
  cases v <;> simp [capacity?]

namespace Act

variable {α β : Type} {w w' : World} {r : RollId} {limit : Nat} {asked : Value} {p : Policy}

/-- What is told of an act that fails. -/
def failure? (act : Act α) (w : World) : Option Fault :=
  match act.run w with
  | .ok .. => none
  | .error fault w' => some (w'.refusal fault).fault

theorem failure?_of_ok {act : Act α} {a : α} (h : act.run w = .ok a w') :
    act.failure? w = none := by
  unfold failure?
  rw [h]

/-- An act that is refused slots past a limit is told so. -/
theorem failure?_of_pastLimit {act : Act α} {wanted : Whole}
    (h : act.run w = .error (.allocation wanted.value (.ofInt limit) false) w')
    (hlt : limit < wanted.toInt) : act.failure? w = some (.pastLimit wanted limit) := by
  unfold failure?
  rw [h]
  exact congrArg some (Fault.fault_refusal_pastLimit hlt w')

/-- What is handed back makes no difference to failing. -/
theorem failure?_map (x : Act β) (f : β → α) (w : World) :
    (x >>= fun b => pure (f b)).failure? w = x.failure? w := by
  unfold failure?
  rw [EStateM.run_bind]
  cases x.run w <;> rfl

theorem failure?_built (b : BufferId) (f : Text → Act α) (w : World) :
    (built b >>= f).failure? w = (f (w.built b)).failure? (w.collapse b) := by
  unfold failure?
  rw [run_bind_ok f (run_built b w)]

theorem failure?_appendText (hw : w.WellFormed)
    (hlimit : (w.roll r).policy.maxCapacity = some limit) (hfits : limit < unaffordableSlots)
    (text : Text) :
    (appendText r text).failure? w = if (w.roll r).length < limit then none
      else some (.pastLimit (.numeral (max (limit * (w.roll r).policy.growthFactor) 1 : Nat))
        limit) := by
  have hrun := run_appendText r text w
  split
  · next hlt =>
    obtain ⟨outcome, happend⟩ := Roll.append_of_lt_limit hlimit hfits hlt w.freeBuffer
    rw [happend] at hrun
    exact failure?_of_ok hrun
  · next hnot =>
    have hle : (w.roll r).length ≤ limit :=
      Nat.le_trans (hw r).length_le ((hw r).allowed.le_limit limit hlimit)
    have hfull : (w.roll r).length = limit := Nat.le_antisymm hle (Nat.not_lt.mp hnot)
    rw [(hw r).append_at_limit hlimit hfits hfull] at hrun
    refine failure?_of_pastLimit hrun (Int.ofNat_lt.mpr ?_)
    rw [← Policy.enlarged_at_limit hlimit]
    exact Policy.lt_enlarged _ limit

theorem failure?_reserve (hw : w.WellFormed)
    (hlimit : (w.roll r).policy.maxCapacity = some limit) (hfits : limit < unaffordableSlots)
    (capacity : Whole) (mark : Mark) :
    (reserve r capacity mark).failure? w = if limit < capacity.toInt then
        some (.pastLimit capacity limit)
      else none := by
  have hrun := run_reserve r capacity mark w
  split
  · next hlt =>
    rw [(hw r).reserve_past_limit hlimit hfits hlt] at hrun
    exact failure?_of_pastLimit hrun hlt
  · next hle =>
    obtain ⟨outcome, hreserve⟩ := Roll.reserve_of_le_limit hlimit hfits (Int.not_lt.mp hle) mark
    rw [hreserve] at hrun
    exact failure?_of_ok hrun

theorem ask_add (hasked : asked.rollId? = some r) (text : Text) :
    ask asked .add [.text text] = appendText r text >>= fun _ => pure Answer.nothing := by
  cases asked <;> cases hasked <;> rfl

theorem ask_addBuffer (hasked : asked.rollId? = some r) (b : BufferId) :
    ask asked .addBuffer [.buffer b]
      = built b >>= fun text => appendText r text >>= fun _ => pure Answer.nothing := by
  cases asked <;> cases hasked <;> rfl

theorem ask_reserveFor (hasked : asked.rollId? = some r) (v : Value) :
    ask asked .reserve [v] = reserveFor r v >>= fun _ => pure Answer.nothing := by
  cases asked <;> cases hasked <;> rfl

/-- Room for a whole number of elements. -/
theorem ask_reserve (hasked : asked.rollId? = some r) {v : Value} {n : Whole}
    (hv : v.toWhole? = some n) :
    ask asked .reserve [v] = reserve r n v.mark >>= fun _ => pure Answer.nothing := by
  have hreserve : reserveFor r v = reserve r n v.mark := by
    unfold reserveFor
    split
    · cases hv
    · rw [Value.asSlots, Value.asWhole_of_whole hv]
      rfl
  rw [ask_reserveFor hasked, hreserve]

/-- A roll is made under the policy in force. -/
theorem run_newRoll (hpolicy : w.ambient.policy = .policy p) (capacity : Option Whole) :
    (newRoll capacity).run w = (granted (Roll.create p capacity)).run w := by
  unfold newRoll
  rw [run_bind_ok _ (rfl : (get : Act World).run w = .ok w w), hpolicy]

theorem failure?_newRoll_none (hpolicy : w.ambient.policy = .policy p)
    (hlimit : p.maxCapacity = some limit) (hfits : limit < unaffordableSlots) :
    (newRoll none).failure? w = none := by
  obtain ⟨l, hcreate⟩ := Roll.create_none_of_limit hlimit hfits
  have hrun := run_newRoll hpolicy none
  rw [run_granted, hcreate] at hrun
  exact failure?_of_ok hrun

theorem failure?_newRoll_some (hpolicy : w.ambient.policy = .policy p)
    (hlimit : p.maxCapacity = some limit) (hfits : limit < unaffordableSlots) {capacity : Whole}
    (hnonneg : 0 ≤ capacity.toInt) :
    (newRoll (some capacity)).failure? w = if limit < capacity.toInt then
        some (.pastLimit capacity limit)
      else none := by
  have hrun := run_newRoll hpolicy (some capacity)
  rw [run_granted, Roll.create_some_of_limit hlimit hfits hnonneg] at hrun
  split
  · next hlt =>
    rw [if_pos (Whole.lt_toNat.mpr hlt)] at hrun
    exact failure?_of_pastLimit hrun hlt
  · next hle =>
    rw [if_neg fun hlt => hle (Whole.lt_toNat.mp hlt)] at hrun
    exact failure?_of_ok hrun

/-- A capacity that is a number is that number. -/
theorem newRollFor_number {v : Value} {n : Whole} (hv : v.toWhole? = some n) :
    newRollFor v = newRoll (some n) := by
  unfold newRollFor
  split
  · cases hv
  · cases hv
  · rw [Value.asSlots, Value.asWhole_of_whole hv]
    rfl

/-- Making a roll under the policy in force only reads. -/
theorem newRollFor_eq_ok (hpolicy : w.ambient.policy = .policy p) {v : Value} {l : Roll BufferId}
    (h : (newRollFor v).run w = .ok l w') :
    w' = w ∧ ∃ capacity, v.capacity? = some capacity ∧ Roll.create p capacity = .ok l := by
  have hnew : ∀ capacity, (newRoll capacity).run w = .ok l w' →
      w' = w ∧ Roll.create p capacity = .ok l := by
    intro capacity hrun
    rw [run_newRoll hpolicy, run_granted] at hrun
    cases hcreate : (Roll.create p capacity : Except Fault (Roll BufferId)) with
    | error fault => rw [hcreate] at hrun; cases hrun
    | ok l' =>
      rw [hcreate] at hrun
      cases hrun
      exact ⟨rfl, rfl⟩
  cases hv : v.toWhole? with
  | some n =>
    rw [newRollFor_number hv] at h
    obtain ⟨hworld, hcreate⟩ := hnew (some n) h
    exact ⟨hworld, some n, Value.capacity?_eq_some.mpr hv, hcreate⟩
  | none =>
    unfold newRollFor at h
    split at h
    · obtain ⟨hworld, hcreate⟩ := hnew none h
      exact ⟨hworld, none, rfl, hcreate⟩
    · cases (run_granted (.error (noRoll _ w.ambient.policy)) w).symm.trans h
    · rw [Value.asSlots, Value.asWhole, hv] at h
      cases h

end Act

/-- The calls that make a roll, by the capacity they give, which is null if they give none. -/
inductive Call.Makes (s : Session) : Call → Value → Prop
  | roll {args : List Operand} (h : s.resolveItems args = .ok []) :
      Makes s (.serve .makeRoll args) .null
  | sizedRoll {args : List Operand} {v : Value} (h : s.resolveItems args = .ok [v]) :
      Makes s (.serve .makeRoll args) v
  | guard {args : List Operand} (h : s.resolveItems args = .ok []) :
      Makes s (.serve .makeGuard args) .null
  | guardOfNull {args : List Operand} (h : s.resolveItems args = .ok [.null]) :
      Makes s (.serve .makeGuard args) .null
  | another {c : Call} {r : RollId} {v : Value}
      (h : c.request? s = some (.roll r, .withCapacity, [v])) : Makes s c v

/-- The requests to add an element: a text, or what a buffer says. -/
def Verb.adds : Verb → List Value → Bool
  | .add, [.text _] | .addBuffer, [.buffer _] => true
  | _, _ => false

namespace Session

variable {s : Session} {c : Call} {asked v : Value} {verb : Verb} {args : List Value}
  {r : RollId} {p : Policy} {limit : Nat}

/-- What a call that fails is told. -/
def failure? (s : Session) (c : Call) (keep : Option String) : Option Fault :=
  ((Step.call c keep).run s).1.refusal?.map (·.fault)

theorem failure?_perform (s : Session) (c : Call) (keep : Option String) :
    s.failure? c keep = (c.perform s).failure? s.world := by
  show (c.run keep s).1.refusal?.map (·.fault) = _
  unfold Act.failure?
  cases hrun : (c.perform s).run s.world with
  | error fault w =>
    rw [run_call_error hrun]
    rfl
  | ok result w =>
    rw [run_call_ok hrun]
    rfl

theorem failure?_request (hrequest : c.request? s = some (asked, verb, args))
    (keep : Option String) : s.failure? c keep = (Act.ask asked verb args).failure? s.world := by
  obtain ⟨target, operands, rfl, htarget, hargs⟩ := request?_eq_some hrequest
  rw [failure?_perform]
  unfold Act.failure?
  rw [run_perform_ask htarget hargs]
  cases (Act.ask asked verb args).run s.world <;> rfl

/-- What an added element is told, whether it is a text or a buffer. -/
theorem failure?_adds (hs : s.world.WellFormed) (hrequest : c.request? s = some (asked, verb, args))
    (hasked : asked.rollId? = some r) (hadds : verb.adds args = true)
    (hlimit : (s.world.roll r).policy.maxCapacity = some limit) (hfits : limit < unaffordableSlots)
    (keep : Option String) :
    s.failure? c keep = if (s.world.roll r).length < limit then none
      else some (.pastLimit
        (.numeral (max (limit * (s.world.roll r).policy.growthFactor) 1 : Nat)) limit) := by
  rw [failure?_request hrequest]
  unfold Verb.adds at hadds
  split at hadds
  · next text =>
    rw [Act.ask_add hasked, Act.failure?_map, Act.failure?_appendText hs hlimit hfits]
  · next b =>
    rw [Act.ask_addBuffer hasked, Act.failure?_built, Act.failure?_map]
    -- reading the buffer leaves the rolls alone
    exact Act.failure?_appendText (w := s.world.collapse b) hs hlimit hfits _
  · cases hadds

theorem failure?_reserve (hs : s.world.WellFormed) {n : Whole}
    (hrequest : c.request? s = some (asked, .reserve, [v])) (hasked : asked.rollId? = some r)
    (hv : v.toWhole? = some n) (hlimit : (s.world.roll r).policy.maxCapacity = some limit)
    (hfits : limit < unaffordableSlots) (keep : Option String) :
    s.failure? c keep = if limit < n.toInt then some (.pastLimit n limit) else none := by
  rw [failure?_request hrequest, Act.ask_reserve hasked hv, Act.failure?_map,
    Act.failure?_reserve hs hlimit hfits]

/-- Making a roll, whatever is done to ask for it. -/
theorem run_perform_makes (h : c.Makes s v) :
    ∃ asked draft, (draft = Draft.roll ∨ draft = Draft.guardedRoll) ∧
      (c.perform s).run s.world = match (Act.newRollFor v).run s.world with
        | .ok l w => .ok (asked, .draft (draft l)) w
        | .error fault w => .error fault w := by
  have hserve : ∀ {service : Service} {args : List Operand} {vs : List Value}
      {draft : Roll BufferId → Draft}, s.resolveItems args = .ok vs →
      Act.serve service vs = (Act.newRollFor v >>= fun l => pure (.draft (draft l))) →
      ((Call.serve service args).perform s).run s.world
        = match (Act.newRollFor v).run s.world with
          | .ok l w => .ok (.null, .draft (draft l)) w
          | .error fault w => .error fault w := by
    intro service args vs draft hargs hserve
    rw [run_perform_serve hargs, hserve, EStateM.run_bind]
    cases (Act.newRollFor v).run s.world <;> rfl
  cases h with
  | roll hargs => exact ⟨_, .roll, .inl rfl, hserve hargs rfl⟩
  | sizedRoll hargs => exact ⟨_, .roll, .inl rfl, hserve hargs rfl⟩
  | guard hargs => exact ⟨_, .guardedRoll, .inr rfl, hserve hargs rfl⟩
  | guardOfNull hargs => exact ⟨_, .guardedRoll, .inr rfl, hserve hargs rfl⟩
  | @another _ r _ hrequest =>
    obtain ⟨target, operands, rfl, htarget, hargs⟩ := request?_eq_some hrequest
    refine ⟨.roll r, .roll, .inl rfl, ?_⟩
    rw [run_perform_ask htarget hargs]
    have hask : Act.ask (.roll r) .withCapacity [v]
        = Act.newRollFor v >>= fun l => pure (Answer.draft (.roll l)) := rfl
    rw [hask, EStateM.run_bind]
    cases (Act.newRollFor v).run s.world <;> rfl

theorem failure?_makes (h : c.Makes s v) (keep : Option String) :
    s.failure? c keep = (Act.newRollFor v).failure? s.world := by
  obtain ⟨asked, draft, -, hrun⟩ := run_perform_makes h
  rw [failure?_perform]
  unfold Act.failure?
  rw [hrun]
  cases (Act.newRollFor v).run s.world <;> rfl

/-- A roll that is made under the policy in force and kept gets the next free place. -/
theorem made_eq (h : c.Makes s v) (hpolicy : s.world.ambient.policy = .policy p) {name : String}
    (htold : s.failure? c (some name) = none) :
    let s' := s.move (.call c (some name))
    let r : RollId := ⟨s.world.rolls.size⟩
    (s'.register name = .ok (.roll r) ∨ ∃ mark, s'.register name = .ok (.guarded mark 0 r)) ∧
      ∃ capacity l, v.capacity? = some capacity ∧ Roll.create p capacity = .ok l ∧
        s'.world.rolls = s.world.rolls.issue l := by
  rw [failure?_makes h] at htold
  unfold Act.failure? at htold
  obtain ⟨asked, draft, hdraft, hrun⟩ := run_perform_makes h
  cases hnew : (Act.newRollFor v).run s.world with
  | error fault w =>
    rw [hnew] at htold
    cases htold
  | ok l w =>
    rw [hnew] at hrun
    obtain ⟨rfl, capacity, hcapacity, hcreate⟩ := Act.newRollFor_eq_ok hpolicy hnew
    intro s' r
    have hregister : s'.register name = _ := register_move_call hrun
    have hworld : s'.world = (s.world.adopt asked (.draft (draft l))).2 := by
      have hmove := world_move_call s c (some name)
      rw [hrun] at hmove
      exact hmove
    have hrolls : s'.world.rolls = s.world.rolls.issue l := by
      rw [hworld]
      rcases hdraft with rfl | rfl <;> rfl
    refine ⟨?_, capacity, l, hcapacity, hcreate, hrolls⟩
    rcases hdraft with rfl | rfl
    · exact .inl hregister
    · exact .inr ⟨_, hregister⟩

/-- A roll that is made and kept is a new one, and has the policy in force. -/
theorem kept_makes (h : c.Makes s v) (hpolicy : s.world.ambient.policy = .policy p) {name : String}
    (htold : s.failure? c (some name) = none) :
    let s' := s.move (.call c (some name))
    let r : RollId := ⟨s.world.rolls.size⟩
    (s'.register name = .ok (.roll r) ∨ ∃ mark, s'.register name = .ok (.guarded mark 0 r)) ∧
      r.index < s'.world.rolls.size ∧ (s'.world.roll r).policy = p := by
  intro s' r
  obtain ⟨hregister, capacity, l, -, hcreate, hrolls⟩ := made_eq h hpolicy htold
  refine ⟨hregister, ?_, ?_⟩
  · rw [hrolls, Arena.size_issue]
    exact Nat.lt_succ_self _
  · rw [World.roll_issue_self hrolls (rfl : r.index = s.world.rolls.size)]
    exact Roll.policy_of_create hcreate

/-- **A roll keeps its policy,** whatever happens to it. -/
theorem policy_after (hs : s.world.Owned) (hr : r.index < s.world.rolls.size) (ms : List Move) :
    ((s.after ms).world.roll r).policy = (s.world.roll r).policy := by
  induction ms generalizing s with
  | nil => rfl
  | cons m ms ih =>
    obtain ⟨e, e', -, hpasses, -⟩ := move_events hs.wellFormed m
    obtain ⟨hpolicy, hsize⟩ := hpasses.policy_eq hr
    exact (ih (owned_move hs m) hsize).trans hpolicy

/-- **A limit is tight.** Take any policy with a limit that fits into memory, and any session. A
roll that is made while the policy is in force has that policy, and keeps it. It can be made
without a capacity, and with one exactly up to the limit. Any roll that has the policy has no more
slots than the limit; it takes another element exactly as long as it has fewer elements than that,
however it came by its slots; and room can be made in it exactly up to the limit. What is past the
limit is refused with the slots that were asked for and the limit, provided that they can be written
out. -/
theorem limit_tight (hs : s.Reachable) (hlimit : p.maxCapacity = some limit)
    (hfits : limit < unaffordableSlots) :
    (∀ c v keep, c.Makes s v → s.world.ambient.policy = .policy p →
      (v = .null → s.failure? c keep = none) ∧
      (∀ n : Whole, v.toWhole? = some n → 0 ≤ n.toInt → s.failure? c keep
        = if limit < n.toInt then some (.pastLimit n limit) else none) ∧
      (∀ name, s.failure? c (some name) = none →
        let s' := s.move (.call c (some name))
        let r : RollId := ⟨s.world.rolls.size⟩
        (s'.register name = .ok (.roll r) ∨ ∃ mark, s'.register name = .ok (.guarded mark 0 r)) ∧
          ∀ ms, ((s'.after ms).world.roll r).policy = p)) ∧
    ∀ r, (s.world.roll r).policy = p →
      (s.world.roll r).capacity ≤ limit ∧
      (∀ c keep asked verb args, c.request? s = some (asked, verb, args) →
        asked.rollId? = some r → verb.adds args = true → s.failure? c keep
          = if (s.world.roll r).length < limit then none
            else some (.pastLimit (.numeral (max (limit * p.growthFactor) 1 : Nat)) limit)) ∧
      (∀ c keep asked v (n : Whole), c.request? s = some (asked, .reserve, [v]) →
        asked.rollId? = some r → v.toWhole? = some n → s.failure? c keep
          = if limit < n.toInt then some (.pastLimit n limit) else none) := by
  have howned := hs.owned
  constructor
  · intro c v keep hmakes hpolicy
    refine ⟨?_, ?_, ?_⟩
    · rintro rfl
      rw [failure?_makes hmakes]
      exact Act.failure?_newRoll_none hpolicy hlimit hfits
    · intro n hv hnonneg
      rw [failure?_makes hmakes, Act.newRollFor_number hv]
      exact Act.failure?_newRoll_some hpolicy hlimit hfits hnonneg
    · intro name htold
      obtain ⟨hregister, hissued, hmade⟩ := kept_makes hmakes hpolicy htold
      exact ⟨hregister, fun ms => (policy_after (owned_move howned _) hissued ms).trans hmade⟩
  · rintro r rfl
    refine ⟨(howned.wellFormed r).allowed.le_limit limit hlimit, ?_, ?_⟩
    · intro c keep asked verb args hrequest hasked hadds
      exact failure?_adds howned.wellFormed hrequest hasked hadds hlimit hfits keep
    · intro c keep asked v n hrequest hasked hv
      exact failure?_reserve howned.wellFormed hrequest hasked hv hlimit hfits keep

/-- A roll that would start with eight slots, but has two, and two elements: the next is refused,
for four slots would be past the limit. -/
theorem limit_tight_full :
    let s := initial.after
      [.call (.configure false [("max_capacity", .int 0 2)]) (some "p"),
        .call (.serve .usePolicy [.register "p"]) none, .call (.serve .makeRoll []) (some "a"),
        .call (.ask "a" .add [.text 1 "x"]) none, .call (.ask "a" .add [.text 2 "y"]) none]
    (s.world.roll ⟨0⟩).capacity ≤ 2 ∧
      s.failure? (.ask "a" .add [.text 3 "z"]) none
        = some (.allocation (.ofInt 4) (.ofInt 2) false) := by
  intro s
  have hreachable : s.Reachable := ⟨_, rfl⟩
  have hlimit : (s.world.roll ⟨0⟩).policy.maxCapacity = some 2 := by decide +kernel
  have hlength : (s.world.roll ⟨0⟩).length = 2 := by decide +kernel
  have hfactor : (s.world.roll ⟨0⟩).policy.growthFactor = 2 := by decide +kernel
  have hrequest : (Call.ask "a" .add [.text 3 "z"]).request? s
      = some (.roll ⟨0⟩, .add, [.text (.marked "z" (.written 3))]) := rfl
  have htight := limit_tight hreachable hlimit (by decide +kernel)
  -- from here on it does not matter what the session is
  clear_value s
  obtain ⟨hcapacity, hadds, -⟩ := htight.2 ⟨0⟩ rfl
  refine ⟨hcapacity, ?_⟩
  rw [hadds _ none _ _ _ hrequest rfl rfl, hlength, hfactor]
  have hwritable : Whole.isWritable (Whole.numeral 4).toInt = true := by decide +kernel
  exact congrArg some (if_pos hwritable)

/-- What full storage asks for can be too long to be written out: a roll with two slots, a limit of
two and a growth factor of 4300 digits does not tell that its storage could not grow. -/
theorem limit_tight_unwritable :
    let s := initial.after
      [.call (.configure false
          [("growth_factor", .int 0 (5 * 10 ^ 4299)), ("max_capacity", .int 1 2)]) (some "p"),
        .call (.serve .usePolicy [.register "p"]) none, .call (.serve .makeRoll []) (some "a"),
        .call (.ask "a" .add [.text 2 "x"]) none, .call (.ask "a" .add [.text 3 "y"]) none]
    (s.world.roll ⟨0⟩).policy.maxCapacity = some 2 ∧ 2 < unaffordableSlots ∧
      (s.world.roll ⟨0⟩).length = 2 ∧
      (s.failure? (.ask "a" .add [.text 4 "z"]) none).map Fault.isAllocation = some false := by
  decide +kernel

end Session

end TextRoll
