/-
TextRoll/Proofs/Session/Peaks.lean

The number of slots in closed form.

Between two moments of a session a roll has as many slots as before, or else it was full, got one
element more, and its storage was enlarged for that (`Session.slots_move`).  There are two
exceptions: room may be made by hand, and clearing may give storage back.  A run in which neither
happens (`Session.Unprepared`) leaves the roll with a number of slots that depends on four numbers
only: how many it was made with, the growth factor and the limit of its policy, and the largest
number of elements it has had since (`growth_closed_form`).  When and how often elements were added
and taken out, and which requests failed, does not show in it.
-/
import TextRoll.Proofs.Roll.Powers
import TextRoll.Proofs.Session.Capacities
import TextRoll.Proofs.Session.Growths
import TextRoll.Proofs.Session.Turnover

namespace TextRoll

namespace Roll

variable {α : Type} {l l' : Roll α}

/-- What a change does to the slots: nothing, or full storage was enlarged for an element, or room
was made by hand, or all elements went, with which slots may go. -/
theorem Change.slots_cases {loss : Loss} {added : List α} (h : Change l loss added l')
    (hl : l.WellFormed) :
    (l'.capacity = l.capacity ∧ l'.reallocations = l.reallocations) ∨
      (l'.length = l.capacity + 1 ∧ l'.capacity = l.policy.enlarged l.capacity ∧
        l'.reallocations = l.reallocations + 1) ∨
      (loss = .nothing ∧ added = [] ∧ l'.reallocations = l.reallocations + 1) ∨
      (loss = .everything ∧ l'.reallocations = l.reallocations) := by
  cases h with
  | moved => exact .inl ⟨rfl, rfl⟩
  | @appended a _ growth happend =>
    have hcapacity := capacity_of_append happend
    rcases append_eq_ok happend with ⟨-, rfl, -⟩ | ⟨wanted, hfull, -, -, rfl, -⟩
    · exact .inl ⟨l.capacity_place a, rfl⟩
    · rw [if_pos hfull] at hcapacity
      exact .inr (.inl ⟨congrArg (· + 1) hfull, hcapacity, rfl⟩)
  | reserved hreserve =>
    rcases reserve_eq_ok hreserve with ⟨-, rfl, -⟩ | ⟨-, -, rfl, -⟩
    · exact .inl ⟨rfl, rfl⟩
    · exact .inr (.inr (.inl ⟨rfl, rfl, rfl⟩))
  | taken hi => exact .inl ⟨hl.capacity_without hi, rfl⟩
  | cleared => exact .inr (.inr (.inr ⟨rfl, rfl⟩))

end Roll

namespace Session

variable {s : Session} {c : Call} {r : RollId} {m : Move} {v : Value} {p : Policy}

/-- The largest number of elements that a roll has during a run. -/
def peakLength (s : Session) (r : RollId) : List Move → Nat
  | [] => (s.world.roll r).length
  | m :: ms => max (s.world.roll r).length (peakLength (s.move m) r ms)

/-- A move makes no room in a roll by hand and gives back none of its storage. -/
structure LeavesStorage (s : Session) (r : RollId) (m : Move) : Prop where
  reserves : s.does r (fun verb _ => verb == .reserve) m = false
  releases : s.clears r m = true → s.world.truth (s.world.roll r).policy.releaseOnClear = false

/-- In a run, nothing changes the storage of a roll but adding elements. -/
def Unprepared (s : Session) (r : RollId) : List Move → Prop
  | [] => True
  | m :: ms => s.LeavesStorage r m ∧ Unprepared (s.move m) r ms

instance (s : Session) (r : RollId) (m : Move) : Decidable (s.LeavesStorage r m) :=
  decidable_of_iff (s.does r (fun verb _ => verb == .reserve) m = false ∧
      (s.clears r m = true → s.world.truth (s.world.roll r).policy.releaseOnClear = false))
    ⟨fun h => ⟨h.1, h.2⟩, fun h => ⟨h.reserves, h.releases⟩⟩

instance decidableUnprepared : (s : Session) → (r : RollId) → (ms : List Move) →
    Decidable (s.Unprepared r ms)
  | _, _, [] => isTrue trivial
  | s, r, m :: ms =>
    have := decidableUnprepared (s.move m) r ms
    inferInstanceAs (Decidable (s.LeavesStorage r m ∧ Unprepared (s.move m) r ms))

theorem length_le_peakLength (ms : List Move) :
    (s.world.roll r).length ≤ s.peakLength r ms := by
  cases ms with
  | nil => exact Nat.le_refl _
  | cons m ms => exact Nat.le_max_left _ _

/-! ### One move -/

/-- A clearing is a request of that name with nothing else to say. -/
theorem clears_eq_true (h : s.clears r m = true) :
    ∃ c keep asked, m = .call c keep ∧ c.request? s = some (asked, .clear, []) ∧
      asked.rollId? = some r := by
  unfold clears does at h
  cases m with
  | enter | leave | finish => cases h
  | call c keep =>
    split at h
    · next asked verb args hrequest =>
      simp only [Bool.and_eq_true, beq_iff_eq, List.isEmpty_iff] at h
      obtain ⟨⟨hasked, rfl, rfl⟩, -⟩ := h
      exact ⟨c, keep, asked, rfl, hrequest, hasked⟩
    · cases h

/-- A call that fails leaves all rolls. -/
theorem rolls_of_fails (hs : s.world.WellFormed) {keep : Option String}
    (h : (c.perform s).succeeds s.world = false) (r : RollId) :
    (s.move (.call c keep)).world.roll r = s.world.roll r := by
  cases hrun : (c.perform s).run s.world with
  | ok result w =>
    rw [Act.succeeds_of_ok hrun] at h
    cases h
  | error fault w =>
    obtain ⟨hoccurs, -⟩ := (does_perform s c s.world hs).error hrun
    rw [world_move_call, hrun]
    cases hoccurs with
    | still hrolls => exact World.roll_of_rolls_eq hrolls r

/-- What a move does to a roll that there was before: nothing, or one change. -/
theorem roll_move_cases (hs : s.world.WellFormed) (hr : r.index < s.world.rolls.size) (m : Move) :
    (s.move m).world.roll r = s.world.roll r ∨
      ∃ loss bs, (s.world.roll r).Change loss bs ((s.move m).world.roll r) ∧ s.Tells m r loss := by
  obtain ⟨e, e', he', hpasses, htells⟩ := move_events hs m
  obtain _ | ⟨hfirst, _ | ⟨hsecond, hnil⟩⟩ := hpasses
  cases hnil
  rw [hsecond.roll_eq he' (Nat.lt_of_lt_of_le hr hfirst.rolls_le)]
  rcases hfirst.roll_cases r with ⟨hsame, -⟩ | ⟨loss, bs, rfl, hchange, -⟩ | ⟨rfl, -, -⟩
  · exact .inl hsame
  · exact .inr ⟨loss, bs, hchange, by simpa using htells r⟩
  · exact .inl (hfirst.roll_eq (.inr rfl) hr)

/-- A request in which storage grows succeeds. -/
theorem succeeds_of_grown (hs : s.world.WellFormed) {asked : Value} {verb : Verb}
    {args : List Value} {keep : Option String} (hrequest : c.request? s = some (asked, verb, args))
    (hgrown : (s.world.roll r).reallocations
      < ((s.move (.call c keep)).world.roll r).reallocations) :
    (Act.ask asked verb args).succeeds s.world = true := by
  rw [succeeds_eq hrequest]
  by_contra hfails
  rw [rolls_of_fails hs (by simpa using hfails) r] at hgrown
  exact Nat.lt_irrefl _ hgrown

/-- Storage that grows without a new element was asked for by hand. -/
theorem reserves_of_grown (hs : s.world.Owned)
    (hlength : ((s.move m).world.elements r).length ≤ (s.world.elements r).length)
    (hgrown : (s.world.roll r).reallocations < ((s.move m).world.roll r).reallocations) :
    s.does r (fun verb _ => verb == .reserve) m = true := by
  obtain ⟨posting, hfollows, haccounts⟩ := accounts_move hs.wellFormed m
  have hposted : posting.grown? = some r := by
    by_contra hother
    rw [haccounts.reallocations_eq r, posting.growths_eq r, if_neg hother] at hgrown
    exact Nat.lt_irrefl _ hgrown
  obtain ⟨g, rfl⟩ := Posting.grown?_eq_some.mp hposted
  obtain ⟨asked, verb, args, hrequest, hasked, hverb⟩ := hfollows.grew r g rfl
  cases m with
  | enter | leave | finish => cases hrequest
  | call c keep =>
    have hsucceeds := succeeds_of_grown hs.wellFormed hrequest hgrown
    have hadds : ¬(verb = .add ∨ verb = .addBuffer) := by
      intro hverb
      have hmore := length_elements_move hs r (.call c keep)
      rw [if_pos ((adds_of_request hrequest).mpr ⟨hasked, hverb, hsucceeds⟩)] at hmore
      omega
    obtain rfl : verb = .reserve := by
      simp only [List.mem_cons, List.not_mem_nil, or_false] at hverb
      tauto
    unfold does
    rw [hrequest]
    simp [hasked, hsucceeds]

/-- **What a move does to the slots of a roll:** as long as they are left alone, they stay as many
as they are, unless the roll was full, gets one element more, and is enlarged for that. -/
theorem slots_move (hs : s.world.Owned) (hr : r.index < s.world.rolls.size)
    (hm : s.LeavesStorage r m) :
    let l := s.world.roll r
    let l' := (s.move m).world.roll r
    (l'.capacity = l.capacity ∧ l'.reallocations = l.reallocations) ∨
      (l'.length = l.capacity + 1 ∧ l'.capacity = l.policy.enlarged l.capacity ∧
        l'.reallocations = l.reallocations + 1) := by
  intro l l'
  have hwell : l.WellFormed := hs.wellFormed r
  rcases roll_move_cases hs.wellFormed hr m with hsame | ⟨loss, bs, hchange, htells⟩
  · exact .inl ⟨congrArg Roll.capacity hsame, congrArg Roll.reallocations hsame⟩
  · rcases hchange.slots_cases hwell with hkept | henlarged | ⟨rfl, rfl, hgrown⟩ | ⟨rfl, hgiven⟩
    · exact .inl hkept
    · exact .inr henlarged
    · -- room that is made by hand brings no element
      have hlength : l'.elements.length ≤ l.elements.length :=
        Nat.le_of_eq (congrArg List.length ((hchange.elements_eq hwell).trans (List.append_nil _)))
      have hreserves := reserves_of_grown (m := m) hs hlength (hgrown ▸ Nat.lt_succ_self _)
      rw [hm.reserves] at hreserves
      cases hreserves
    · refine .inl ⟨?_, hgiven⟩
      obtain ⟨c, keep, asked, rfl, hrequest, hasked⟩ := clears_eq_true htells.2
      show ((s.move (.call c keep)).world.roll r).capacity = _
      rw [capacity_clear hrequest hasked keep, hm.releases htells.2]
      exact if_neg (by simp)

/-! ### Runs -/

/-- **The slots follow the peak,** whatever there was before the run. -/
theorem climbed_after (hs : s.world.Owned) (hr : r.index < s.world.rolls.size) {ms : List Move}
    (hms : s.Unprepared r ms) {start peak : Nat}
    (h : (s.world.roll r).policy.Climbed start peak (s.world.roll r).capacity
      (s.world.roll r).reallocations) :
    (s.world.roll r).policy.Climbed start (max peak (s.peakLength r ms))
      ((s.after ms).world.roll r).capacity ((s.after ms).world.roll r).reallocations := by
  induction ms generalizing s peak with
  | nil => exact h.stay (hs.wellFormed r).length_le
  | cons m ms ih =>
    obtain ⟨hm, hms⟩ := hms
    have howned := owned_move hs m
    obtain ⟨e, e', -, hpasses, -⟩ := move_events hs.wellFormed m
    obtain ⟨hpolicy, hissued⟩ := hpasses.policy_eq hr
    have hlength := (hs.wellFormed r).length_le
    have hwell := howned.wellFormed r
    have hnext : (s.world.roll r).policy.Climbed start
        (max (max peak (s.world.roll r).length) ((s.move m).world.roll r).length)
        ((s.move m).world.roll r).capacity ((s.move m).world.roll r).reallocations := by
      rcases slots_move hs hr hm with ⟨hcapacity, hcount⟩ | ⟨hlonger, hcapacity, hcount⟩
      · have hle := hwell.length_le
        rw [hcapacity] at hle
        rw [hcapacity, hcount]
        exact (h.stay hlength).stay hle
      · have hallowed := hwell.allowed
        rw [hpolicy, hcapacity] at hallowed
        rw [hcapacity, hcount, hlonger]
        exact (h.stay hlength).enlarged hallowed
    have hrest := ih howned hissued hms (hpolicy ▸ hnext)
    rw [hpolicy] at hrest
    have hpeak : max peak (s.peakLength r (m :: ms))
        = max (max (max peak (s.world.roll r).length) ((s.move m).world.roll r).length)
          ((s.move m).peakLength r ms) := by
      have hle : ((s.move m).world.roll r).length ≤ (s.move m).peakLength r ms :=
        length_le_peakLength ms
      show max peak (max (s.world.roll r).length ((s.move m).peakLength r ms)) = _
      omega
    rw [hpeak]
    exact hrest

/-- **Growth in closed form.**  A roll is made while a policy is in force, and whatever is done
afterwards, room is never made in it by hand and clearing it never gives storage back.  Then the
slots it has, and how often storage grew, depend on the slots it was made with, on the factor and
the limit of the policy, and on the largest number of elements since. -/
theorem growth_closed_form (hs : s.Reachable) (hmakes : c.Makes s v)
    (hpolicy : s.world.ambient.policy = .policy p) {name : String}
    (htold : s.failure? c (some name) = none) {ms : List Move}
    (hms : (s.move (.call c (some name))).Unprepared ⟨s.world.rolls.size⟩ ms) :
    let made := s.move (.call c (some name))
    let r : RollId := ⟨s.world.rolls.size⟩
    let start := (made.world.roll r).capacity
    let peak := made.peakLength r ms
    let now := (made.after ms).world.roll r
    -- it is made with the slots asked for, or with the standard ones
    (∀ n : Whole, v.toWhole? = some n → start = n.toNat) ∧
    (v = .null → start = p.startingCapacity) ∧
    -- as long as these are enough nothing grows
    (peak ≤ start → now.capacity = start ∧ now.reallocations = 0) ∧
    -- and then the slots are the least power that is enough, within the limit
    (start < peak → ∃ k, IsLeast {k | peak ≤ max start 1 * p.growthFactor ^ k} k ∧
      now.capacity = (match p.maxCapacity with
        | some limit => min (max start 1 * p.growthFactor ^ k) limit
        | none => max start 1 * p.growthFactor ^ k) ∧
      now.reallocations = k + if start = 0 then 1 else 0) ∧
    now.reallocations ≤ Nat.clog p.growthFactor peak + 1 := by
  intro made r start peak now
  obtain ⟨-, capacity, l, hcapacity, hcreate, hrolls⟩ := made_eq hmakes hpolicy htold
  have hmade : made.world.roll r = l :=
    World.roll_issue_self hrolls (rfl : r.index = s.world.rolls.size)
  have hissued : r.index < made.world.rolls.size := by
    show s.world.rolls.size < made.world.rolls.size
    rw [hrolls, Arena.size_issue]
    exact Nat.lt_succ_self _
  have hstart : start = (p.slotsAsked capacity).toNat :=
    (congrArg Roll.capacity hmade).trans (Roll.capacity_of_create hcreate)
  have hunused := Roll.unused_of_create hcreate
  have hclimbed : p.Climbed start peak now.capacity now.reallocations := by
    have hfirst : l.policy.Climbed start 0 l.capacity l.reallocations := by
      rw [hunused.reallocations_eq, ← hmade]
      exact .of_start _ start
    have hafter := climbed_after (owned_move hs.owned _) hissued hms (hmade ▸ hfirst)
    rw [Nat.zero_max, hmade, Roll.policy_of_create hcreate] at hafter
    exact hafter
  refine ⟨fun n hn => ?_, ?_, hclimbed.kept, hclimbed.climbed, hclimbed.growths_le⟩
  · rw [Value.capacity?_eq_some.mpr hn] at hcapacity
    obtain rfl := Option.some.inj hcapacity
    exact hstart
  · rintro rfl
    obtain rfl := Option.some.inj hcapacity
    exact hstart

/-- A roll that is made without slots, under a factor of three and a limit of seven, has had five
elements at most: storage grew from nothing to one slot, to three, and to seven instead of nine.
Removals, a clearing and more elements later do not show. -/
theorem growth_closed_form_peak :
    let s := initial.after
      [.call (.configure false [("growth_factor", .int 0 3), ("max_capacity", .int 1 7)])
          (some "p"),
        .call (.serve .usePolicy [.register "p"]) none]
    let add : Move := .call (.ask "a" .add [.text 2 "x"]) none
    let remove : Move := .call (.ask "a" .remove []) none
    let made := s.move (.call (.serve .makeRoll [.int 3 0]) (some "a"))
    let ms := [add, add, remove, add, add, add, add, .call (.ask "a" .clear []) none, add, add]
    made.Unprepared ⟨0⟩ ms ∧ made.peakLength ⟨0⟩ ms = 5 ∧
      ((made.after ms).world.roll ⟨0⟩).capacity = 7 ∧
      ((made.after ms).world.roll ⟨0⟩).reallocations = 3 := by
  intro s add remove made ms
  have hreachable : s.Reachable := ⟨_, rfl⟩
  obtain ⟨p, hpolicy, hfactor, hlimit⟩ : ∃ p, s.world.ambient.policy = .policy p ∧
      p.growthFactor = 3 ∧ p.maxCapacity = some 7 := ⟨_, rfl, rfl, rfl⟩
  have hmakes : (Call.serve .makeRoll [.int 3 0]).Makes s (.int (.written 3) 0) := .sizedRoll rfl
  have htold : s.failure? (.serve .makeRoll [.int 3 0]) (some "a") = none := by decide +kernel
  have hms : made.Unprepared ⟨0⟩ ms := by decide +kernel
  have hpeak : made.peakLength ⟨0⟩ ms = 5 := by decide +kernel
  have hstart : (made.world.roll ⟨0⟩).capacity = 0 := by decide +kernel
  have hclosed := growth_closed_form hreachable hmakes hpolicy htold hms
  have hsize : s.world.rolls.size = 0 := by decide +kernel
  rw [hsize] at hclosed
  obtain ⟨-, -, -, hclimbed, -⟩ := hclosed
  have hlt : (made.world.roll ⟨0⟩).capacity < made.peakLength ⟨0⟩ ms := by
    rw [hstart, hpeak]
    decide
  obtain ⟨k, ⟨henough, hleast⟩, hcapacity, hcount⟩ := hclimbed hlt
  -- nine slots are the first power of three that is enough for five elements
  obtain rfl : k = 2 := by
    refine Nat.le_antisymm (hleast ?_) ?_
    · show made.peakLength ⟨0⟩ ms ≤ max (made.world.roll ⟨0⟩).capacity 1 * p.growthFactor ^ 2
      rw [hpeak, hstart, hfactor]
      decide
    · by_contra hk
      have hsmall : p.growthFactor ^ k ≤ p.growthFactor ^ 1 :=
        Nat.pow_le_pow_right (by rw [hfactor]; decide) (by omega)
      replace henough : made.peakLength ⟨0⟩ ms
          ≤ max (made.world.roll ⟨0⟩).capacity 1 * p.growthFactor ^ k := henough
      rw [hpeak, hstart, Nat.max_eq_right (Nat.zero_le 1), Nat.one_mul] at henough
      rw [hfactor] at hsmall henough
      omega
  rw [hstart, hfactor, hlimit] at hcapacity
  rw [hstart] at hcount
  exact ⟨hms, hpeak, hcapacity, hcount⟩

end Session

end TextRoll
