/-
TextRoll/Proofs/Session/Capacities.lean

How many slots a roll has.

Three requests may change the number of slots: adding an element, making room and clearing.  How
many there are afterwards depends on the roll alone, that is on what it holds and on the policy that
it was made with (`Session.Governed`); the policy in force by then has no say.  Whatever happens
after a roll was made, the policy of that moment governs it (`governed_of_made`).
-/
import TextRoll.Proofs.Session.Limits

namespace TextRoll

namespace Roll

variable {α : Type} {l l' : Roll α} {growth : Option Growth}

/-- An element finds an empty slot, or the slots are enlarged first. -/
theorem capacity_of_append {a : α} (h : l.append a = .ok (l', growth)) :
    l'.capacity = if l.length = l.capacity then l.policy.enlarged l.capacity else l.capacity := by
  unfold append makeRoom at h
  split at h
  · next hfull =>
    rw [if_pos hfull]
    dsimp only at h
    cases hre : l.reallocate (.numeral (l.policy.enlarged l.capacity))
        (l.policy.enlargedMark l.capacity) with
    | error fault => rw [hre] at h; cases h
    | ok outcome =>
      obtain ⟨larger, g⟩ := outcome
      rw [hre] at h
      obtain ⟨rfl, -, -⟩ := reallocate_eq_ok hre
      cases h
      rw [capacity_place]
      exact capacity_grown (l.policy.lt_enlarged _)
  · next hroom =>
    cases h
    rw [if_neg hroom, capacity_place]

/-- There is room for what was asked for. -/
theorem capacity_of_reserve {capacity : Whole} {mark : Mark}
    (h : l.reserve capacity mark = .ok (l', growth)) :
    l'.capacity = max l.capacity capacity.toNat := by
  rcases reserve_eq_ok h with ⟨hle, rfl, -⟩ | ⟨hlt, -, rfl, -⟩
  · have hnot : ¬l'.capacity < capacity.toNat := fun hlt =>
      absurd (Whole.lt_toNat.mp hlt) (Int.not_lt.mpr hle)
    exact (Nat.max_eq_left (Nat.not_lt.mp hnot)).symm
  · rw [capacity_grown hlt]
    exact (Nat.max_eq_right (Nat.le_of_lt hlt)).symm

/-- Clearing keeps the slots, or gives back all that are more than the default. -/
theorem capacity_clear (l : Roll α) (release : Bool) :
    (l.clear release).capacity
      = if release ∧ l.policy.defaultCapacity < l.capacity then l.policy.defaultCapacity
        else l.capacity := by
  unfold clear capacity
  split
  · exact List.length_replicate
  · rw [List.length_append, List.length_replicate, List.length_drop]
    omega

end Roll

namespace Act

variable {w w' : World} {r : RollId}

theorem capacity_of_appendText {text : Text} {u : Unit}
    (h : (appendText r text).run w = .ok u w') :
    (w'.roll r).capacity = if (w.roll r).length = (w.roll r).capacity then
        (w.roll r).policy.enlarged (w.roll r).capacity
      else (w.roll r).capacity := by
  obtain ⟨l, growth, happend, hrolls, -⟩ := appendText_eq_ok h
  rw [show w'.roll r = l by
    unfold World.roll
    rw [hrolls]
    exact w.rolls.get_put_self _ l]
  exact Roll.capacity_of_append happend

theorem capacity_of_reserve {n : Whole} {mark : Mark} {u : Unit}
    (h : (reserve r n mark).run w = .ok u w') :
    (w'.roll r).capacity = max (w.roll r).capacity n.toNat := by
  rw [run_reserve] at h
  cases hreserve : (w.roll r).reserve n mark with
  | error fault => rw [hreserve] at h; cases h
  | ok outcome =>
    obtain ⟨l, growth⟩ := outcome
    rw [hreserve] at h
    cases h
    rw [show ((w.setRoll r l).recorded growth).roll r = l by
      unfold World.roll
      rw [World.rolls_recorded]
      exact w.rolls.get_put_self _ l]
    exact Roll.capacity_of_reserve hreserve

theorem capacity_clear (r : RollId) (w : World) :
    (((w.setRoll r (clearedRoll w r)).note (.cleared (w.roll r).length)).roll r).capacity
      = if w.truth (w.roll r).policy.releaseOnClear ∧
            (w.roll r).policy.defaultCapacity < (w.roll r).capacity then
          (w.roll r).policy.defaultCapacity
        else (w.roll r).capacity := by
  rw [show ((w.setRoll r (clearedRoll w r)).note (.cleared (w.roll r).length)).roll r
      = clearedRoll w r from w.rolls.get_put_self _ _]
  exact Roll.capacity_clear _ _

/-- An act after which nothing is answered succeeds if the act does. -/
theorem of_then_nothing {α : Type} {act : Act α}
    (h : (act >>= fun _ => pure Answer.nothing).failure? w = none) :
    ∃ a w', act.run w = .ok a w' ∧
      (act >>= fun _ => pure Answer.nothing).run w = .ok .nothing w' := by
  rw [failure?_map] at h
  unfold failure? at h
  cases hrun : act.run w with
  | error fault w' => rw [hrun] at h; cases h
  | ok a w' =>
    refine ⟨a, w', rfl, ?_⟩
    rw [EStateM.run_bind, hrun]
    rfl

end Act

namespace Session

variable {s : Session} {c : Call} {asked v : Value} {verb : Verb} {args : List Value}
  {r : RollId} {p : Policy}

/-- Where a request is answered with nothing, a roll is what the request left. -/
theorem roll_move_of_nothing (hrequest : c.request? s = some (asked, verb, args)) {w : World}
    (hrun : (Act.ask asked verb args).run s.world = .ok .nothing w) (keep : Option String)
    (r : RollId) : (s.move (.call c keep)).world.roll r = w.roll r := by
  obtain ⟨target, operands, rfl, htarget, hargs⟩ := request?_eq_some hrequest
  rw [world_move_call, run_perform_ask htarget hargs, hrun]
  cases keep <;> rfl

theorem capacity_adds (hrequest : c.request? s = some (asked, verb, args))
    (hasked : asked.rollId? = some r) (hadds : verb.adds args = true) {keep : Option String}
    (htold : s.failure? c keep = none) :
    ((s.move (.call c keep)).world.roll r).capacity
      = if (s.world.roll r).length = (s.world.roll r).capacity then
          (s.world.roll r).policy.enlarged (s.world.roll r).capacity
        else (s.world.roll r).capacity := by
  rw [failure?_request hrequest] at htold
  unfold Verb.adds at hadds
  split at hadds
  · next text =>
    rw [Act.ask_add hasked] at htold
    obtain ⟨u, w, happend, hrun⟩ := Act.of_then_nothing htold
    rw [← Act.ask_add hasked] at hrun
    rw [roll_move_of_nothing hrequest hrun]
    exact Act.capacity_of_appendText happend
  · next b =>
    rw [Act.ask_addBuffer hasked, Act.failure?_built] at htold
    obtain ⟨u, w, happend, hrun⟩ := Act.of_then_nothing htold
    have hask : (Act.ask asked .addBuffer [.buffer b]).run s.world = .ok .nothing w := by
      rw [Act.ask_addBuffer hasked]
      exact hrun
    rw [roll_move_of_nothing hrequest hask]
    -- reading the buffer leaves the rolls alone
    exact Act.capacity_of_appendText (w := s.world.collapse b) happend
  · cases hadds

theorem capacity_reserve {n : Whole} (hrequest : c.request? s = some (asked, .reserve, [v]))
    (hasked : asked.rollId? = some r) (hv : v.toWhole? = some n) {keep : Option String}
    (htold : s.failure? c keep = none) :
    ((s.move (.call c keep)).world.roll r).capacity = max (s.world.roll r).capacity n.toNat := by
  rw [failure?_request hrequest, Act.ask_reserve hasked hv] at htold
  obtain ⟨u, w, hreserve, hrun⟩ := Act.of_then_nothing htold
  rw [← Act.ask_reserve hasked hv] at hrun
  rw [roll_move_of_nothing hrequest hrun]
  exact Act.capacity_of_reserve hreserve

/-- A number of slots with a point is never made. -/
theorem capacity_reserve_real {mark : Mark} {x : Binary64}
    (hrequest : c.request? s = some (asked, .reserve, [.real mark x]))
    (hasked : asked.rollId? = some r) {keep : Option String} (htold : s.failure? c keep = none) :
    ((s.move (.call c keep)).world.roll r).capacity = (s.world.roll r).capacity := by
  rw [failure?_request hrequest, Act.ask_reserveFor hasked] at htold
  obtain ⟨u, w, hreserve, hrun⟩ := Act.of_then_nothing htold
  rw [← Act.ask_reserveFor hasked] at hrun
  rw [roll_move_of_nothing hrequest hrun]
  rw [Act.run_reserveFor_real] at hreserve
  split at hreserve <;> cases hreserve
  rfl

theorem capacity_clear (hrequest : c.request? s = some (asked, .clear, []))
    (hasked : asked.rollId? = some r) (keep : Option String) :
    ((s.move (.call c keep)).world.roll r).capacity
      = if s.world.truth (s.world.roll r).policy.releaseOnClear ∧
            (s.world.roll r).policy.defaultCapacity < (s.world.roll r).capacity then
          (s.world.roll r).policy.defaultCapacity
        else (s.world.roll r).capacity := by
  have hask : Act.ask asked .clear [] = Act.clear r >>= fun _ => pure Answer.nothing := by
    cases asked <;> cases hasked <;> rfl
  have hrun : (Act.ask asked .clear []).run s.world = .ok .nothing
      ((s.world.setRoll r (Act.clearedRoll s.world r)).note
        (.cleared (s.world.roll r).length)) := by
    rw [hask]
    rfl
  rw [roll_move_of_nothing hrequest hrun]
  exact Act.capacity_clear r s.world

/-! ### Which policy decides -/

/-- The policy governs the roll: the roll has it, has no more slots than its limit, and has as many
after each request as the policy says. -/
structure Governed (s : Session) (r : RollId) (p : Policy) : Prop where
  policy_eq : (s.world.roll r).policy = p
  capacity_le : ∀ limit, p.maxCapacity = some limit → (s.world.roll r).capacity ≤ limit
  /-- Full storage is enlarged by the factor of the policy, up to its limit. -/
  capacity_adds : ∀ c keep asked verb args, c.request? s = some (asked, verb, args) →
    asked.rollId? = some r → verb.adds args = true → s.failure? c keep = none →
    ((s.move (.call c keep)).world.roll r).capacity
      = if (s.world.roll r).length = (s.world.roll r).capacity then
          p.enlarged (s.world.roll r).capacity
        else (s.world.roll r).capacity
  capacity_reserve : ∀ c keep asked v (n : Whole), c.request? s = some (asked, .reserve, [v]) →
    asked.rollId? = some r → v.toWhole? = some n → s.failure? c keep = none →
    ((s.move (.call c keep)).world.roll r).capacity = max (s.world.roll r).capacity n.toNat
  /-- Storage is given back if the policy says so, down to its default. -/
  capacity_clear : ∀ c keep asked, c.request? s = some (asked, .clear, []) →
    asked.rollId? = some r →
    ((s.move (.call c keep)).world.roll r).capacity
      = if s.world.truth p.releaseOnClear ∧ p.defaultCapacity < (s.world.roll r).capacity then
          p.defaultCapacity
        else (s.world.roll r).capacity

/-- **A roll is governed by the policy that it has.** -/
theorem governed (hs : s.world.Owned) (r : RollId) : s.Governed r (s.world.roll r).policy where
  policy_eq := rfl
  capacity_le := (hs.wellFormed r).allowed.le_limit
  capacity_adds _ _ _ _ _ hrequest hasked hadds htold := capacity_adds hrequest hasked hadds htold
  capacity_reserve _ _ _ _ _ hrequest hasked hv htold := capacity_reserve hrequest hasked hv htold
  capacity_clear _ keep _ hrequest hasked := capacity_clear hrequest hasked keep

/-- **The policy of the moment it was made governs a roll,** whatever happens afterwards. -/
theorem governed_of_made (hs : s.world.Owned) (hmakes : c.Makes s v)
    (hpolicy : s.world.ambient.policy = .policy p) {name : String}
    (htold : s.failure? c (some name) = none) (ms : List Move) :
    ((s.move (.call c (some name))).after ms).Governed ⟨s.world.rolls.size⟩ p := by
  obtain ⟨-, hissued, hmade⟩ := kept_makes hmakes hpolicy htold
  have howned := owned_move hs (.call c (some name))
  have hlater := (policy_after howned hissued ms).trans hmade
  exact hlater ▸ governed (owned_after howned ms) _

end Session

end TextRoll
