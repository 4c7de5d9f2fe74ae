/-
TextRoll/Proofs/Session/Room.lean

A roll does not grow as long as there is room in it.

Three kinds of moves change the number of slots of a roll: an element is added when all slots are
occupied, more room is made than there is, and a clearing gives storage back.  A move that is none
of these stays within the storage of the roll (`Session.StaysWithin`).  Whatever it does, no growth
of the roll is posted for it (`not_posted`), so there are as many slots as before and nothing counts
a growth (`staysWithin_move`).  An element that is added finds an empty slot (`hears_of_appends`).

How many elements are sure to find one can be told in advance: as many as there are empty slots,
whatever is taken out in between (`along_staysWithin`).
-/
import TextRoll.Proofs.Session.Askings
import TextRoll.Proofs.Session.Losses
import TextRoll.Proofs.Session.Watching

namespace TextRoll

namespace Roll

variable {α : Type} {l : Roll α}

/-- With an empty slot an element can be added without asking for storage. -/
theorem append_of_ne (h : l.length ≠ l.capacity) (a : α) : l.append a = .ok (l.place a, none) := by
  rw [append, makeRoom, if_neg h]
  rfl

end Roll

namespace Act

variable {w : World} {r : RollId} {asked : Value} {verb : Verb} {args : List Value}

/-- An order that is carried out can be carried out on plain content. -/
theorem outcome_of_succeeds (hw : w.Owned) (hasked : asked.rollId? = some r)
    (h : (ask asked verb args).succeeds w = true) :
    ∃ done, (w.content r).outcome asked.access (w.order verb args) = .ok done := by
  rcases ask_complies hw hasked verb args with hobeys | ⟨-, fault, hrefused⟩
  · cases houtcome : (w.content r).outcome asked.access (w.order verb args) with
    | ok done => exact ⟨done, rfl⟩
    | error fault =>
      have htells := hobeys.tells
      rw [Content.obey_of_error houtcome] at htells
      exact absurd h (not_succeeds_of_told htells)
  · exact absurd h (not_succeeds_of_told hrefused.told_eq)

/-- Nothing but a text or a buffer is added. -/
theorem adds_of_succeeds (hw : w.Owned) (hasked : asked.rollId? = some r)
    (hverb : verb = .add ∨ verb = .addBuffer) (h : (ask asked verb args).succeeds w = true) :
    verb.adds args = true := by
  obtain ⟨done, houtcome⟩ := outcome_of_succeeds hw hasked h
  rcases args with - | ⟨v, - | ⟨u, rest⟩⟩
  · rcases hverb with rfl | rfl <;> cases houtcome
  · rcases hverb with rfl | rfl <;> cases v <;> first | rfl | cases houtcome
  · rcases hverb with rfl | rfl <;> cases houtcome

/-- Room is made for a number of elements. -/
theorem number_of_succeeds (hw : w.Owned) (hasked : asked.rollId? = some r)
    (h : (ask asked .reserve args).succeeds w = true) :
    (∃ v n, args = [v] ∧ v.toWhole? = some n) ∨ ∃ mark x, args = [.real mark x] := by
  obtain ⟨done, houtcome⟩ := outcome_of_succeeds hw hasked h
  rcases args with - | ⟨v, - | ⟨u, rest⟩⟩
  · cases houtcome
  · cases v with
    | bool b => exact .inl ⟨_, .truth b, rfl, rfl⟩
    | int mark n => exact .inl ⟨_, .numeral n, rfl, rfl⟩
    | real mark x => exact .inr ⟨mark, x, rfl⟩
    | _ => cases houtcome
  · cases houtcome

/-- A text is put into an empty slot. -/
theorem run_appendText_of_ne (h : (w.roll r).length ≠ (w.roll r).capacity) (text : Text) :
    ∃ w', (appendText r text).run w = .ok () w' := by
  rw [run_appendText, Roll.append_of_ne h]
  exact ⟨_, rfl⟩

/-- A roll is made only where a policy is in force. -/
theorem policy_of_newRoll {capacity : Option Whole} (h : (newRoll capacity).failure? w = none) :
    ∃ p, w.ambient.policy = .policy p := by
  unfold failure? newRoll at h
  rw [run_bind_ok _ (rfl : (get : Act World).run w = .ok w w)] at h
  cases hpolicy : w.ambient.policy with
  | policy p => exact ⟨p, rfl⟩
  | _ =>
    rw [hpolicy] at h
    cases h

/-- **With an empty slot an element is added,** be it a text or what a buffer says. -/
theorem run_ask_adds (hasked : asked.rollId? = some r) (hadds : verb.adds args = true)
    (h : (w.roll r).length ≠ (w.roll r).capacity) :
    ∃ w', (ask asked verb args).run w = .ok .nothing w' := by
  unfold Verb.adds at hadds
  split at hadds
  · next text =>
    obtain ⟨w', hrun⟩ := run_appendText_of_ne h text
    rw [ask_add hasked, run_bind_ok _ hrun]
    exact ⟨w', rfl⟩
  · next b =>
    -- reading the buffer leaves the roll alone
    obtain ⟨w', hrun⟩ := @run_appendText_of_ne (w.collapse b) r h (w.built b)
    rw [ask_addBuffer hasked, run_bind_ok _ (run_built b w), run_bind_ok _ hrun]
    exact ⟨w', rfl⟩
  · cases hadds

end Act

namespace Session

variable {s s' s'' : Session} {r : RollId} {m : Move} {ms : List Move} {c : Call}
  {keep : Option String} {asked v : Value} {p : Posting}

/-! ### Moves within the storage that there is -/

/-- Whether a move asks a roll to add an element, a text or what a buffer says. -/
def appends (s : Session) (r : RollId) (m : Move) : Bool :=
  match s.request? m with
  | some (asked, verb, args) => asked.rollId? == some r && verb.adds args
  | none => false

/-- A move makes no more room in a roll than there is, and gives back none of its storage. -/
structure KeepsSlots (r : RollId) (s : Session) (m : Move) : Prop where
  reserves : ∀ asked v n, s.request? m = some (asked, .reserve, [v]) → asked.rollId? = some r →
    v.toWhole? = some n → n.toInt ≤ (s.world.roll r).capacity
  releases : s.clears r m = true → s.world.truth (s.world.roll r).policy.releaseOnClear = true →
    (s.world.roll r).capacity ≤ (s.world.roll r).policy.defaultCapacity

/-- A move makes do with the storage that a roll has: neither does it change that by hand, nor does
it add an element when all slots are occupied. -/
structure StaysWithin (r : RollId) (s : Session) (m : Move) : Prop extends KeepsSlots r s m where
  appends : s.appends r m = true → (s.world.roll r).length ≠ (s.world.roll r).capacity

/-- A move asks no other roll for storage, and tells no tally of a growth by hand. -/
structure LeavesOthers (r : RollId) (s : Session) (m : Move) : Prop where
  storage : ∀ asked verb args r', s.request? m = some (asked, verb, args) →
    verb ∈ [.add, .addBuffer, .reserve] → asked.rollId? = some r' → r' = r
  tallies : ∀ t start args, s.request? m ≠ some (.tally t start, .recordGrowth, args)

/-- A move takes nothing out of a roll. -/
structure TakesNothing (r : RollId) (s : Session) (m : Move) : Prop where
  removes : s.removes r m = false
  clears : s.clears r m = false

theorem appends_of_request {verb : Verb} {args : List Value}
    (hrequest : s.request? m = some (asked, verb, args)) (hasked : asked.rollId? = some r) :
    s.appends r m = verb.adds args := by
  unfold appends
  rw [hrequest]
  simp [hasked]

/-- A request that is neither for room nor for a clearing keeps the slots. -/
theorem keepsSlots_ask (target : String) {verb : Verb} (operands : List Operand)
    (hreserve : verb ≠ .reserve) (hclear : verb ≠ .clear) :
    KeepsSlots r s (.call (.ask target verb operands) keep) where
  reserves := by
    intro asked v n hrequest _ _
    replace hrequest : (Call.ask target verb operands).request? s = _ := hrequest
    obtain ⟨_, _, hcall, -⟩ := request?_eq_some hrequest
    cases hcall
    exact absurd rfl hreserve
  releases := by
    intro hclears _
    obtain ⟨_, _, asked, hmove, hrequest, -⟩ := clears_eq_true hclears
    obtain ⟨_, _, rfl, -⟩ := request?_eq_some hrequest
    cases hmove
    exact absurd rfl hclear

/-- A request to the roll itself leaves all others. -/
theorem leavesOthers_of_request {verb : Verb} {args : List Value}
    (hrequest : s.request? m = some (asked, verb, args)) (hasked : asked.rollId? = some r) :
    LeavesOthers r s m where
  storage := by
    intro asked' verb' args' r' hother _ hasked'
    cases hrequest.symm.trans hother
    exact Option.some.inj (hasked'.symm.trans hasked)
  tallies := by
    intro t start args' hother
    cases hrequest.symm.trans hother
    cases hasked

/-- What adds an element has asked to. -/
theorem appends_of_adds (hs : s.world.Owned) (h : s.adds r m = true) : s.appends r m = true := by
  have hsome : ∃ asked verb args, s.request? m = some (asked, verb, args) := by
    cases hrequest : s.request? m with
    | some request => exact ⟨_, _, _, rfl⟩
    | none =>
      unfold adds does at h
      rw [hrequest] at h
      cases h
  obtain ⟨asked, verb, args, hrequest⟩ := hsome
  obtain ⟨hasked, hverb, hsucceeds⟩ := (adds_of_request hrequest).mp h
  rw [appends_of_request hrequest hasked]
  exact Act.adds_of_succeeds hs hasked hverb hsucceeds

/-! ### One move -/

/-- **No growth of the roll is posted** for a move that stays within its storage. -/
theorem not_posted (hs : s.world.Owned) (hm : StaysWithin r s m) (hfollows : s.Follows m p)
    (h : s.world.Accounts p (s.move m).world) : p.grown? ≠ some r := by
  intro hposted
  have hgrown : (s.world.roll r).reallocations < ((s.move m).world.roll r).reallocations := by
    rw [h.reallocations_eq r, p.growths_eq r, if_pos hposted]
    exact Nat.lt_succ_self _
  obtain ⟨g, rfl⟩ := Posting.grown?_eq_some.mp hposted
  obtain ⟨-, hbefore, hafter, hlt⟩ := h.grew r g rfl
  obtain ⟨asked, verb, args, hrequest, hasked, hverb⟩ := hfollows.grew r g rfl
  cases m with
  | enter | leave | finish => cases hrequest
  | call c keep =>
    have hsucceeds := succeeds_of_grown hs.wellFormed hrequest hgrown
    have htold : s.failure? c keep = none := by
      obtain ⟨answer, w, hrun⟩ := Act.exists_of_succeeds hsucceeds
      rw [failure?_request hrequest, Act.failure?_of_ok hrun]
    have hsame : ((s.move (.call c keep)).world.roll r).capacity = (s.world.roll r).capacity := by
      by_cases hadd : verb = .add ∨ verb = .addBuffer
      · have hadds := Act.adds_of_succeeds hs hasked hadd hsucceeds
        have hroom := hm.appends ((appends_of_request hrequest hasked).trans hadds)
        rw [capacity_adds hrequest hasked hadds htold, if_neg hroom]
      · obtain rfl : verb = .reserve := by
          simp only [List.mem_cons, List.not_mem_nil, or_false] at hverb
          tauto
        rcases Act.number_of_succeeds hs hasked hsucceeds with ⟨v, n, rfl, hv⟩ | ⟨mark, x, rfl⟩
        · have hle := Int.not_lt.mpr (hm.reserves asked v n hrequest hasked hv)
          rw [capacity_reserve hrequest hasked hv htold]
          exact Nat.max_eq_left (Nat.not_lt.mp fun hlt => hle (Whole.lt_toNat.mp hlt))
        · exact capacity_reserve_real hrequest hasked htold
    rw [hbefore, hafter, hsame] at hlt
    exact Nat.lt_irrefl _ hlt

/-- **A move within the storage of a roll** changes neither its slots nor its count. -/
theorem staysWithin_move (hs : s.world.Owned) (hr : r.index < s.world.rolls.size)
    (hm : StaysWithin r s m) :
    ((s.move m).world.roll r).capacity = (s.world.roll r).capacity ∧
      ((s.move m).world.roll r).reallocations = (s.world.roll r).reallocations := by
  obtain ⟨p, hfollows, haccounts⟩ := accounts_move hs.wellFormed m
  have hcount : ((s.move m).world.roll r).reallocations = (s.world.roll r).reallocations := by
    rw [haccounts.reallocations_eq r, p.growths_eq r, if_neg (not_posted hs hm hfollows haccounts)]
    rfl
  refine ⟨Nat.le_antisymm ?_ ?_, hcount⟩
  · by_contra hmore
    have hgrown := (grew_iff_move hs.wellFormed m hr).mp (Nat.not_le.mp hmore)
    exact absurd hcount.symm (Nat.ne_of_lt hgrown)
  · by_contra hfewer
    obtain ⟨hclears, hrelease, hlt⟩ := releases_of_lt hs (Nat.not_le.mp hfewer)
    have hle := hm.releases hclears hrelease
    obtain ⟨c, keep, asked, rfl, hrequest, hasked⟩ := clears_eq_true hclears
    rw [capacity_clear hrequest hasked keep, if_neg fun h => Nat.not_lt.mpr hle h.2] at hlt
    exact Nat.lt_irrefl _ hlt

/-- **An element that is added finds an empty slot,** and whoever adds it is told nothing else. -/
theorem hears_of_appends (hm : StaysWithin r s m) (happends : s.appends r m = true) :
    s.hears m = some (.ok .null) := by
  have hroom := hm.appends happends
  unfold appends at happends
  split at happends
  · next asked verb args hrequest =>
    simp only [Bool.and_eq_true, beq_iff_eq] at happends
    obtain ⟨hasked, hadds⟩ := happends
    cases m with
    | enter | leave | finish => cases hrequest
    | call c keep =>
      obtain ⟨w, hrun⟩ := Act.run_ask_adds hasked hadds hroom
      obtain ⟨target, operands, rfl, htarget, hargs⟩ := request?_eq_some hrequest
      have hperform : ((Call.ask target verb operands).perform s).run s.world
          = .ok (asked, .nothing) w := by
        rw [run_perform_ask htarget hargs, hrun]
      exact hears_of_ok hperform
  · cases happends

/-- Between two sessions no growth was logged, and none was counted in a tally that there was. -/
structure KeepsBooks (s s' : Session) : Prop where
  log_eq : s'.world.log.filterMap Notice.growth? = s.world.log.filterMap Notice.growth?
  issued : ∀ t : TallyId, t.index < s.world.tallies.size → t.index < s'.world.tallies.size
  tally_eq : ∀ t : TallyId, t.index < s.world.tallies.size → s'.world.tally t = s.world.tally t

theorem KeepsBooks.refl (s : Session) : s.KeepsBooks s := ⟨rfl, fun _ => id, fun _ _ => rfl⟩

theorem KeepsBooks.trans (h : s.KeepsBooks s') (h' : s'.KeepsBooks s'') : s.KeepsBooks s'' where
  log_eq := h'.log_eq.trans h.log_eq
  issued t ht := h'.issued t (h.issued t ht)
  tally_eq t ht := (h'.tally_eq t (h.issued t ht)).trans (h.tally_eq t ht)

/-- Where no growth is posted and no tally is told of one, the books are as they were. -/
theorem keepsBooks_of_not_grown (hfollows : s.Follows m p)
    (h : s.world.Accounts p (s.move m).world) (hgrown : p.grown? = none)
    (htells : ∀ t start args, s.request? m ≠ some (.tally t start, .recordGrowth, args)) :
    s.KeepsBooks (s.move m) := by
  have hquiet : (⟨s, m, none⟩ : Placed).Quiet := quiet_of_posted hgrown hfollows h
  refine ⟨hquiet.log_eq, fun t ht => Nat.lt_of_lt_of_le ht h.tallies_le, fun t ht =>
    hquiet.spared t ht ?_⟩
  unfold Placed.tells
  split
  · next t' start args hrequest => exact absurd hrequest (htells t' start args)
  · rfl

/-- A request that needs no storage is not posted as a growth. -/
theorem grown?_of_request {verb : Verb} {args : List Value} (hfollows : s.Follows m p)
    (hrequest : s.request? m = some (asked, verb, args))
    (hverb : verb ∉ [.add, .addBuffer, .reserve]) : p.grown? = none := by
  cases hgrown : p.grown? with
  | none => rfl
  | some r' =>
    obtain ⟨g, rfl⟩ := Posting.grown?_eq_some.mp hgrown
    obtain ⟨asked', verb', args', hrequest', -, hstorage⟩ := hfollows.grew r' g rfl
    cases hrequest.symm.trans hrequest'
    exact absurd hstorage hverb

/-- **A clearing is never a growth,** and nothing takes note of one. -/
theorem keepsBooks_of_clear (hs : s.world.Owned)
    (hrequest : c.request? s = some (asked, .clear, [])) (r : RollId) (keep : Option String) :
    ((s.move (.call c keep)).world.roll r).reallocations = (s.world.roll r).reallocations ∧
      s.KeepsBooks (s.move (.call c keep)) := by
  obtain ⟨p, hfollows, haccounts⟩ := accounts_move hs.wellFormed (.call c keep)
  have hnone := grown?_of_request hfollows hrequest (by decide)
  have htells : ∀ t start args,
      s.request? (.call c keep) ≠ some (.tally t start, .recordGrowth, args) := by
    intro t start args hother
    cases hrequest.symm.trans hother
  refine ⟨?_, keepsBooks_of_not_grown hfollows haccounts hnone htells⟩
  rw [haccounts.reallocations_eq r, p.growths_eq r, if_neg (hnone ▸ nofun)]
  rfl

/-- As long as no other storage grows, nothing takes note of a growth. -/
theorem keepsBooks_move (hs : s.world.Owned) (hm : StaysWithin r s m)
    (hothers : LeavesOthers r s m) : s.KeepsBooks (s.move m) := by
  obtain ⟨p, hfollows, haccounts⟩ := accounts_move hs.wellFormed m
  refine keepsBooks_of_not_grown hfollows haccounts ?_ hothers.tallies
  cases hgrown : p.grown? with
  | none => rfl
  | some r' =>
    obtain ⟨g, rfl⟩ := Posting.grown?_eq_some.mp hgrown
    obtain ⟨asked, verb, args, hrequest, hasked, hverb⟩ := hfollows.grew r' g rfl
    obtain rfl := hothers.storage asked verb args r' hrequest hverb hasked
    exact absurd hgrown (not_posted hs hm hfollows haccounts)

/-! ### Runs -/

/-- A roll that there is stays in its place. -/
theorem issued_move (hs : s.world.WellFormed) (hr : r.index < s.world.rolls.size) (m : Move) :
    r.index < (s.move m).world.rolls.size := by
  obtain ⟨e, e', -, hpasses, -⟩ := move_events hs m
  exact (hpasses.policy_eq hr).2

/-- A later session, in which a roll has as many slots as before and counts as many growths. -/
structure Steady (r : RollId) (s s' : Session) : Prop where
  owned : s'.world.Owned
  issued : r.index < s'.world.rolls.size
  capacity_eq : (s'.world.roll r).capacity = (s.world.roll r).capacity
  reallocations_eq : (s'.world.roll r).reallocations = (s.world.roll r).reallocations

theorem Steady.move (h : Steady r s s') (hm : StaysWithin r s' m) : Steady r s (s'.move m) := by
  obtain ⟨hcapacity, hcount⟩ := staysWithin_move h.owned h.issued hm
  exact ⟨owned_move h.owned m, issued_move h.owned.wellFormed h.issued m,
    hcapacity.trans h.capacity_eq, hcount.trans h.reallocations_eq⟩

/-- **A run within the storage of a roll** leaves its slots and its count. -/
theorem steady_after (hs : s.world.Owned) (hr : r.index < s.world.rolls.size)
    (hms : s.Along (StaysWithin r) ms) : Steady r s (s.after ms) :=
  along_induction hms ⟨hs, hr, rfl, rfl⟩ fun _ _ h hm => h.move hm

/-- As long as no other storage grows, nothing takes note of a growth along the run. -/
theorem keepsBooks_after (hs : s.world.Owned) (hr : r.index < s.world.rolls.size)
    (hms : s.Along (StaysWithin r) ms) (hothers : s.Along (LeavesOthers r) ms) :
    s.KeepsBooks (s.after ms) := by
  have hrun := along_induction (p := fun s' => Steady r s s' ∧ s.KeepsBooks s')
    (along_and hms hothers) ⟨⟨hs, hr, rfl, rfl⟩, .refl s⟩
  refine (hrun ?_).2
  rintro s' m ⟨hsteady, hbooks⟩ ⟨hm, hleaves⟩
  exact ⟨hsteady.move hm, hbooks.trans (keepsBooks_move hsteady.owned hm hleaves)⟩

/-- As long as nothing is taken out, the generation stays. -/
theorem generation_after_steady (hs : s.world.Owned) (hr : r.index < s.world.rolls.size)
    (hms : s.Along (StaysWithin r) ms) (htakes : s.Along (TakesNothing r) ms) :
    ((s.after ms).world.roll r).generation = (s.world.roll r).generation := by
  have hrun := along_induction
    (p := fun s' => Steady r s s' ∧ (s'.world.roll r).generation = (s.world.roll r).generation)
    (along_and hms htakes) ⟨⟨hs, hr, rfl, rfl⟩, rfl⟩
  refine (hrun ?_).2
  rintro s' m ⟨hsteady, hgeneration⟩ ⟨hm, htakes⟩
  have haccount := generation_move hsteady.owned.wellFormed m r
  rw [htakes.removes, htakes.clears, (hsteady.move hm).reallocations_eq,
    hsteady.reallocations_eq] at haccount
  exact ⟨hsteady.move hm, (Nat.add_right_cancel haccount).trans hgeneration⟩

/-- **As many elements as there are empty slots can be added,** whatever is taken out in between. -/
theorem along_staysWithin (hs : s.world.Owned) (hr : r.index < s.world.rolls.size)
    (hms : s.Along (KeepsSlots r) ms)
    (hroom : (s.world.roll r).length + count (appends · r) s ms ≤ (s.world.roll r).capacity) :
    s.Along (StaysWithin r) ms := by
  induction ms generalizing s with
  | nil => trivial
  | cons m ms ih =>
    obtain ⟨hm, hms⟩ := hms
    replace hroom : (s.world.roll r).length
        + ((s.appends r m).toNat + count (appends · r) (s.move m) ms)
          ≤ (s.world.roll r).capacity := hroom
    have hwithin : StaysWithin r s m := by
      refine ⟨hm, fun happends => ?_⟩
      rw [happends, Bool.toNat_true] at hroom
      omega
    refine ⟨hwithin, ih (owned_move hs m) (issued_move hs.wellFormed hr m) hms ?_⟩
    have hlength := length_elements_move hs r m
    have hold : (s.world.elements r).length = _ := (hs.wellFormed r).length_elements
    have hnew : ((s.move m).world.elements r).length = _ :=
      ((owned_move hs m).wellFormed r).length_elements
    have hmore : ((s.move m).world.roll r).length
        ≤ (s.world.roll r).length + (s.appends r m).toNat := by
      rw [← hold, ← hnew]
      split at hlength
      · next hadds =>
        rw [appends_of_adds hs hadds, hlength]
        exact Nat.le_refl _
      · exact Nat.le_add_right_of_le hlength
    rw [(staysWithin_move hs hr hwithin).1]
    omega

/-! ### How much room there is -/

/-- A roll that is made with a capacity has that many slots, and all of them are empty. -/
theorem room_of_makes {n : Whole} {name : String} (hmakes : c.Makes s v)
    (hv : v.toWhole? = some n) (htold : s.failure? c (some name) = none) :
    let s' := s.move (.call c (some name))
    let r : RollId := ⟨s.world.rolls.size⟩
    r.index < s'.world.rolls.size ∧ (s'.world.roll r).length = 0 ∧
      (s'.world.roll r).capacity = n.toNat := by
  intro s' r
  obtain ⟨p, hpolicy⟩ := Act.policy_of_newRoll (by
    rw [← Act.newRollFor_number hv, ← failure?_makes hmakes, htold])
  obtain ⟨-, hissued, -⟩ := kept_makes hmakes hpolicy htold
  obtain ⟨-, capacity, l, hcapacity, hcreate, hrolls⟩ := made_eq hmakes hpolicy htold
  obtain rfl : some n = capacity :=
    Option.some.inj ((Value.capacity?_eq_some.mpr hv).symm.trans hcapacity)
  have hroll : s'.world.roll r = l := World.roll_issue_self hrolls rfl
  rw [hroll, Roll.create_eq_ok hcreate]
  exact ⟨hissued, rfl, List.length_replicate⟩

/-- Room for so many elements is enough for them. -/
theorem reallocations_of_room {n : Nat} (hs : s.world.Owned) (hr : r.index < s.world.rolls.size)
    (hn : n ≤ (s.world.roll r).capacity) (hms : s.Along (KeepsSlots r) ms)
    (hroom : (s.world.roll r).length + count (appends · r) s ms ≤ n) :
    ((s.after ms).world.roll r).reallocations = (s.world.roll r).reallocations :=
  (steady_after hs hr (along_staysWithin hs hr hms (Nat.le_trans hroom hn))).reallocations_eq

/-- **A roll does not grow as long as there is room in it.** This holds of every roll of a reachable
session, asked directly or through guards. -/
theorem room_suffices (hs : s.Reachable) (hr : r.index < s.world.rolls.size) :
    let l := s.world.roll r
    (∀ ms, s.Along (StaysWithin r) ms →
      let l' := (s.after ms).world.roll r
      l'.capacity = l.capacity ∧ l'.reallocations = l.reallocations ∧
      -- every element that should be added is
      s.Along (fun s m => s.appends r m = true → s.hears m = some (.ok .null)) ms ∧
      -- if nothing else grows either, then no growth is logged, and none is counted in any tally
      (s.Along (LeavesOthers r) ms →
        (s.after ms).world.log.filterMap Notice.growth? = s.world.log.filterMap Notice.growth? ∧
        ∀ t : TallyId, t.index < s.world.tallies.size →
          (s.after ms).world.tally t = s.world.tally t) ∧
      -- as long as nothing is taken out, every bookmark is as good as before
      (s.Along (TakesNothing r) ms → ∀ b : Bookmark, b.roll = r →
        (s.after ms).world.isCurrent b = s.world.isCurrent b)) ∧
    -- room that was made by hand is enough for the elements that it was made for
    (∀ c keep asked v (n : Whole), c.request? s = some (asked, .reserve, [v]) →
      asked.rollId? = some r → v.toWhole? = some n → s.failure? c keep = none →
      let s' := s.move (.call c keep)
      n.toNat ≤ (s'.world.roll r).capacity ∧
      ∀ ms, s'.Along (KeepsSlots r) ms →
        (s'.world.roll r).length + count (appends · r) s' ms ≤ n.toNat →
        ((s'.after ms).world.roll r).reallocations = (s'.world.roll r).reallocations) ∧
    -- and so is that of a roll that was made with a capacity
    (∀ c v (n : Whole) name, c.Makes s v → v.toWhole? = some n → s.failure? c (some name) = none →
      let s' := s.move (.call c (some name))
      let new : RollId := ⟨s.world.rolls.size⟩
      (s'.world.roll new).capacity = n.toNat ∧
      ∀ ms, s'.Along (KeepsSlots new) ms → count (appends · new) s' ms ≤ n.toNat →
        ((s'.after ms).world.roll new).reallocations = (s'.world.roll new).reallocations) ∧
    -- a clearing gives storage back down to the default, or leaves it, and is never a growth
    (∀ c keep asked, c.request? s = some (asked, .clear, []) → asked.rollId? = some r →
      let s' := s.move (.call c keep)
      (s'.world.roll r).capacity
        = (if s.world.truth l.policy.releaseOnClear ∧ l.policy.defaultCapacity < l.capacity then
            l.policy.defaultCapacity
          else l.capacity) ∧
      (s'.world.roll r).capacity ≤ l.capacity ∧
      (s'.world.roll r).reallocations = l.reallocations ∧
      s'.world.log.filterMap Notice.growth? = s.world.log.filterMap Notice.growth? ∧
      ∀ t : TallyId, t.index < s.world.tallies.size → s'.world.tally t = s.world.tally t) := by
  intro l
  have howned := hs.owned
  refine ⟨fun ms hms => ?_, fun c keep asked v n hrequest hasked hv htold => ?_,
    fun c v n name hmakes hv htold => ?_, fun c keep asked hrequest hasked => ?_⟩
  · have hsteady := steady_after howned hr hms
    refine ⟨hsteady.capacity_eq, hsteady.reallocations_eq,
      along_mono (fun _ _ => hears_of_appends) hms, fun hothers => ?_, fun htakes b hb => ?_⟩
    · have hbooks := keepsBooks_after howned hr hms hothers
      exact ⟨hbooks.log_eq, hbooks.tally_eq⟩
    · unfold World.isCurrent
      rw [hb, generation_after_steady howned hr hms htakes]
  · have hcapacity := capacity_reserve hrequest hasked hv htold
    have hmoved := owned_move howned (.call c keep)
    have hissued := issued_move howned.wellFormed hr (.call c keep)
    have hroom : n.toNat ≤ ((s.move (.call c keep)).world.roll r).capacity :=
      hcapacity ▸ Nat.le_max_right _ _
    exact ⟨hroom, fun ms hms => reallocations_of_room hmoved hissued hroom hms⟩
  · obtain ⟨hissued, hempty, hcapacity⟩ := room_of_makes hmakes hv htold
    have hmoved := owned_move howned (.call c (some name))
    refine ⟨hcapacity, fun ms hms hroom =>
      reallocations_of_room hmoved hissued (Nat.le_of_eq hcapacity.symm) hms ?_⟩
    rw [hempty, Nat.zero_add]
    exact hroom
  · have hcapacity := capacity_clear hrequest hasked keep
    obtain ⟨hcount, hbooks⟩ := keepsBooks_of_clear howned hrequest r keep
    refine ⟨hcapacity, ?_, hcount, hbooks.log_eq, hbooks.tally_eq⟩
    rw [hcapacity]
    split
    · next hreleases => exact Nat.le_of_lt hreleases.2
    · exact Nat.le_refl _

/-- In a roll with three slots and one element, another element is added, one is taken out, and one
more is added; there are still three slots, and no growth is logged. -/
theorem room_suffices_three :
    let s := initial.after
      [.call (.serve .makeRoll [.int 0 3]) (some "a"), .call (.ask "a" .add [.text 0 "x"]) none]
    let adding := Move.call (.ask "a" .add [.text 1 "y"]) none
    let ms := [adding, .call (.ask "a" .remove []) none, adding]
    s.Reachable ∧ 0 < s.world.rolls.size ∧ s.Along (StaysWithin ⟨0⟩) ms ∧
      s.Along (LeavesOthers ⟨0⟩) ms ∧ ((s.after ms).world.roll ⟨0⟩).capacity = 3 ∧
      ((s.after ms).world.roll ⟨0⟩).reallocations = 0 ∧ s.hears adding = some (.ok .null) ∧
      (s.after ms).world.log.filterMap Notice.growth? = [] := by
  intro s adding ms
  have hreachable : s.Reachable := ⟨_, rfl⟩
  have hissued : 0 < s.world.rolls.size := by decide +kernel
  have hkeeps : s.Along (KeepsSlots ⟨0⟩) ms :=
    ⟨keepsSlots_ask _ _ nofun nofun, keepsSlots_ask _ _ nofun nofun,
      keepsSlots_ask _ _ nofun nofun, trivial⟩
  have hroom : (s.world.roll ⟨0⟩).length + count (appends · ⟨0⟩) s ms
      ≤ (s.world.roll ⟨0⟩).capacity := by decide +kernel
  have hwithin := along_staysWithin hreachable.owned hissued hkeeps hroom
  have hothers : s.Along (LeavesOthers ⟨0⟩) ms :=
    ⟨leavesOthers_of_request rfl rfl, leavesOthers_of_request rfl rfl,
      leavesOthers_of_request rfl rfl, trivial⟩
  have hslots : (s.world.roll ⟨0⟩).capacity = 3 := by decide +kernel
  have hcount : (s.world.roll ⟨0⟩).reallocations = 0 := by decide +kernel
  have hlog : s.world.log.filterMap Notice.growth? = [] := by decide +kernel
  have hasks : s.appends ⟨0⟩ adding = true := by decide +kernel
  obtain ⟨hcapacity, hgrowths, hhears, hbooks, -⟩ :=
    (room_suffices hreachable hissued).1 ms hwithin
  clear_value s
  exact ⟨hreachable, hissued, hwithin, hothers, hcapacity.trans hslots, hgrowths.trans hcount,
    hhears.1 hasks, (hbooks hothers).1.trans hlog⟩

end Session

end TextRoll
