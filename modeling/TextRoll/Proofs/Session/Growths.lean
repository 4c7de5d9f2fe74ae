/-
TextRoll/Proofs/Session/Growths.lean

Every growth of storage is accounted for.

When the storage of a roll grows, four things take note of it: the two counters of the roll, the
log, and the tally of the innermost profiled block around the request.  `Placed.Grew` says that a
growth does all of that and nothing else, `Placed.Quiet` that a move without a growth does
none of it, and `growth_law` that every move of a script is one or the other.

By induction over the moves the notes agree at every moment of a script (`Runs.reallocations_eq`,
`Runs.growths_logged`, `Runs.sums`): the count of a roll is the number of its growths, the log
lists all growths in order, and the tally of a profiled block has summed up exactly those that it
was innermost for, as long as nobody has told it of others by hand.
-/
import TextRoll.Proofs.Session.Generations
import TextRoll.Proofs.Session.Placing

namespace TextRoll

namespace World

variable {w w' : World} {e : Event} {r : RollId}

/-- Storage of a roll that there was before is reallocated just when it grows. -/
theorem Occurs.grew_iff (h : w.Occurs e w') (hw : w.WellFormed) (hr : r.index < w.rolls.size) :
    (w.roll r).capacity < (w'.roll r).capacity
      ↔ (w.roll r).reallocations < (w'.roll r).reallocations := by
  rcases h.fate hw r with ⟨-, hretains⟩ | ⟨-, hsheds⟩ | ⟨rfl, -, -⟩
  · exact hretains.grew_iff.symm
  · have hcapacity := hsheds.capacity_le
    have hreallocations := hsheds.reallocations_eq
    omega
  · cases h with
    | created hunused hrolls =>
      rw [roll_issue_of_ne hrolls (Nat.ne_of_lt hr)]
      simp

/-- Making another roll leaves the rolls that there were. -/
theorem Occurs.roll_eq (h : w.Occurs e w') (he : e = .still ∨ e = .created)
    (hr : r.index < w.rolls.size) : w'.roll r = w.roll r := by
  rcases he with rfl | rfl
  · cases h with
    | still hrolls => exact roll_of_rolls_eq hrolls r
  · cases h with
    | created hunused hrolls => exact roll_issue_of_ne hrolls (Nat.ne_of_lt hr)

end World

namespace Posting

/-- The roll whose storage grew, if that was posted. -/
def grown? : Posting → Option RollId
  | grew r _ => some r
  | nothing | noted _ | told .. | chose _ => none

theorem grown?_eq_some {p : Posting} {r : RollId} : p.grown? = some r ↔ ∃ g, p = .grew r g := by
  cases p with
  | grew r' g => simp [grown?]
  | nothing | noted | told | chose => simp [grown?]

/-- From and to how many slots storage grew, if that was posted. -/
def growth? : Posting → Option (Nat × Nat)
  | grew _ g => some (g.before, g.after.toNat)
  | nothing | noted _ | told .. | chose _ => none

theorem growths_eq (p : Posting) (r : RollId) :
    p.growths r = if p.grown? = some r then 1 else 0 := by
  cases p with
  | grew r' g =>
    show (if r' = r then 1 else 0) = if some r' = some r then 1 else 0
    simp
  | nothing | noted | told | chose => rfl

end Posting

/-- The records of growths among those that are posted are those of posted growths. -/
theorem World.Accounts.growths_noted {w w' : World} {p : Posting} (h : w.Accounts p w') :
    p.notices.filterMap Notice.growth? = p.growth?.toList := by
  cases p with
  | noted n => exact List.filterMap_cons_none (h.noted n rfl)
  | nothing | grew | told | chose => rfl

namespace Placed

/-! ### Growths -/

/-- The roll whose storage is reallocated in a move, if there is one. -/
def grown? (x : Placed) : Option RollId :=
  ((List.range x.after.world.rolls.size).map RollId.mk).find? fun r =>
    (x.session.world.roll r).reallocations < (x.after.world.roll r).reallocations

/-- From and to how many slots storage grows in a move, if it does. -/
def growth? (x : Placed) : Option (Nat × Nat) :=
  x.grown?.map fun r => ((x.session.world.roll r).capacity, (x.after.world.roll r).capacity)

/-- Whether a move tells a tally of a growth by hand. -/
def tells (x : Placed) (t : TallyId) : Bool :=
  match x.session.request? x.move with
  | some (.tally t' _, .recordGrowth, _) => t' == t
  | _ => false

/-- The storage of a roll grows, everything takes note of that, and nothing else happens to any
count, to the log or to any tally. -/
structure Grew (x : Placed) (r : RollId) : Prop where
  lt : (x.session.world.roll r).capacity < (x.after.world.roll r).capacity
  asked : ∃ asked verb args, x.session.request? x.move = some (asked, verb, args) ∧
    asked.rollId? = some r ∧ verb ∈ [.add, .addBuffer, .reserve]
  reallocations_eq :
    (x.after.world.roll r).reallocations = (x.session.world.roll r).reallocations + 1
  generation_eq : (x.after.world.roll r).generation = (x.session.world.roll r).generation + 1
  others_eq : ∀ r', r' ≠ r →
    (x.after.world.roll r').reallocations = (x.session.world.roll r').reallocations
  log_eq : ∃ n : Notice, n.level = .detail ∧
    n.growth? = some ((x.session.world.roll r).capacity, (x.after.world.roll r).capacity) ∧
    x.after.world.log = x.session.world.log ++ [n]
  /-- The innermost tally has one more event, with the slots before and after. -/
  counted : ∀ t, x.innermost = some t → ∃ m n : Number,
    (x.after.world.tally t).events = (x.session.world.tally t).events ++ [(m, n)] ∧
    m.toInt? = some ((x.session.world.roll r).capacity : Int) ∧
    n.toInt? = some ((x.after.world.roll r).capacity : Int)
  /-- All other tallies are as they were. -/
  spared : ∀ t : TallyId, t.index < x.session.world.tallies.size → x.innermost ≠ some t →
    x.after.world.tally t = x.session.world.tally t

/-- No storage grows: no count goes up, the log tells of no growth, and no tally changes but one
that is told something by hand. -/
structure Quiet (x : Placed) : Prop where
  reallocations_eq : ∀ r,
    (x.after.world.roll r).reallocations = (x.session.world.roll r).reallocations
  log_eq : x.after.world.log.filterMap Notice.growth?
    = x.session.world.log.filterMap Notice.growth?
  spared : ∀ t : TallyId, t.index < x.session.world.tallies.size → x.tells t = false →
    x.after.world.tally t = x.session.world.tally t

/-- The growths in some moves that a tally was innermost for, in order. -/
def growthsUnder (t : TallyId) (xs : List Placed) : List (Nat × Nat) :=
  (xs.filter fun x => x.innermost = some t).filterMap growth?

theorem growthsUnder_cons (t : TallyId) (x : Placed) (xs : List Placed) :
    growthsUnder t (x :: xs)
      = (if x.innermost = some t then x.growth?.toList else []) ++ growthsUnder t xs := by
  unfold growthsUnder
  by_cases ht : x.innermost = some t
  · rw [if_pos ht, List.filter_cons_of_pos (by simpa using ht)]
    cases hgrowth : x.growth? with
    | none => exact List.filterMap_cons_none hgrowth
    | some g => exact List.filterMap_cons_some hgrowth
  · rw [if_neg ht, List.filter_cons_of_neg (by simpa using ht)]
    rfl

variable {x : Placed} {p : Posting}

/-- What alone has a property is found. -/
theorem find?_eq_some_of_unique {α : Type} {f : α → Bool} {as : List α} {a : α} (hmem : a ∈ as)
    (h : ∀ b, f b = true ↔ b = a) : as.find? f = some a := by
  cases hfind : as.find? f with
  | none => exact absurd ((h a).mpr rfl) (List.find?_eq_none.mp hfind a hmem)
  | some b => rw [(h b).mp (List.find?_some hfind)]

/-- The roll whose storage is reallocated is the one that it is posted for. -/
theorem grown?_eq (h : x.session.world.Accounts p x.after.world) : x.grown? = p.grown? := by
  have hgrows : ∀ r, (x.session.world.roll r).reallocations < (x.after.world.roll r).reallocations
      ↔ p.grown? = some r := by
    intro r
    rw [h.reallocations_eq r, p.growths_eq r]
    split <;> simp_all
  unfold grown?
  cases hp : p.grown? with
  | some r =>
    rw [hp] at hgrows
    refine find?_eq_some_of_unique ?_ fun b => ?_
    · cases p with
      | grew r' g =>
        obtain rfl : r' = r := Option.some.inj hp
        exact List.mem_map.mpr ⟨r'.index, List.mem_range.mpr (h.grew r' g rfl).1, rfl⟩
      | nothing | noted | told | chose => cases hp
    · rw [decide_eq_true_iff, hgrows b, Option.some.injEq, eq_comm]
  | none =>
    rw [hp] at hgrows
    refine List.find?_eq_none.mpr fun r _ hr => ?_
    cases (hgrows r).mp (of_decide_eq_true hr)

/-- The slots of a growth are those that are posted. -/
theorem growth?_eq (h : x.session.world.Accounts p x.after.world) : x.growth? = p.growth? := by
  unfold growth?
  rw [grown?_eq h]
  cases p with
  | grew r g =>
    obtain ⟨-, hbefore, hafter, -⟩ := h.grew r g rfl
    show some (_, _) = some (g.before, g.after.toNat)
    rw [hbefore, hafter]
  | nothing | noted | told | chose => rfl

end Placed

namespace Session

variable {s s' : Session} {m : Move} {t : Option TallyId} {xs : List Placed}

/-- Storage of a roll that there is already is reallocated just when it grows. -/
theorem grew_iff_move (hs : s.world.WellFormed) (m : Move) {r : RollId}
    (hr : r.index < s.world.rolls.size) :
    (s.world.roll r).capacity < ((s.move m).world.roll r).capacity
      ↔ (s.world.roll r).reallocations < ((s.move m).world.roll r).reallocations := by
  obtain ⟨e, e', he', hpasses, -⟩ := move_events hs m
  obtain _ | ⟨hfirst, _ | ⟨hsecond, hnil⟩⟩ := hpasses
  cases hnil
  rw [hsecond.roll_eq he' (Nat.lt_of_lt_of_le hr hfirst.rolls_le)]
  exact hfirst.grew_iff hs hr

/-- A request for storage takes nothing from a roll. -/
theorem takes_nothing {r : RollId} {asked : Value} {verb : Verb} {args : List Value}
    (hrequest : s.request? m = some (asked, verb, args))
    (hverb : verb ∈ [.add, .addBuffer, .reserve]) :
    s.removes r m = false ∧ s.clears r m = false := by
  unfold removes clears does
  rw [hrequest]
  simp only [List.mem_cons, List.not_mem_nil, or_false] at hverb
  rcases hverb with rfl | rfl | rfl <;> simp

/-! ### What a move does -/

/-- A growth that is posted is noted by everything that should. -/
theorem grew_of_posted (hs : s.world.Owned) (hforce : s.world.ambient.tally = t)
    (hprofiles : s.Profiles t) {r : RollId} {g : Growth} (hfollows : s.Follows m (.grew r g))
    (h : s.world.Accounts (.grew r g) (s.move m).world) : (⟨s, m, t⟩ : Placed).Grew r := by
  obtain ⟨-, hbefore, hafter, hlt⟩ := h.grew r g rfl
  obtain ⟨asked, verb, args, hrequest, hasked, hverb⟩ := hfollows.grew r g rfl
  have hgrowths : ∀ r', (Posting.grew r g).growths r' = if r = r' then 1 else 0 := fun _ => rfl
  have hreallocations : ((s.move m).world.roll r).reallocations
      = (s.world.roll r).reallocations + 1 := by
    rw [h.reallocations_eq r, hgrowths, if_pos rfl]
  refine ⟨?_, ⟨asked, verb, args, hrequest, hasked, hverb⟩, hreallocations, ?_, ?_, ?_, ?_, ?_⟩
  · show (s.world.roll r).capacity < ((s.move m).world.roll r).capacity
    rw [← hbefore, ← hafter]
    exact hlt
  · have hgeneration := generation_move hs.wellFormed m r
    obtain ⟨hremoves, hclears⟩ := @takes_nothing s m r _ _ _ hrequest hverb
    rw [hremoves, hclears] at hgeneration
    show ((s.move m).world.roll r).generation = (s.world.roll r).generation + 1
    simp only [Bool.toNat_false] at hgeneration
    omega
  · intro r' hr'
    show ((s.move m).world.roll r').reallocations = _
    rw [h.reallocations_eq r', hgrowths, if_neg (Ne.symm hr')]
    rfl
  · refine ⟨.grew g.before g.after.toNat, rfl, ?_, h.log_eq⟩
    rw [hbefore, hafter]
    rfl
  · rintro place rfl
    obtain ⟨hissued, hcounts⟩ := hprofiles place rfl
    have htally : (s.move m).world.tally place
        = (s.world.tally place).afterRecord place (.ofInt g.before) (g.after.valueAs g.mark) :=
      (h.tally_eq place hissued).trans (if_pos hforce)
    have hfits : g.after.toNat < unaffordableSlots :=
      hafter ▸ ((owned_move hs m).wellFormed r).allowed.lt_unaffordable
    show ∃ m' n : Number, ((s.move m).world.tally place).events = _ ∧
      m'.toInt? = some ((s.world.roll r).capacity : Int) ∧
      n.toInt? = some (((s.move m).world.roll r).capacity : Int)
    rw [htally, ← hbefore, ← hafter]
    exact hcounts.growth_counted g.mark hlt hfits
  · intro place hissued hne
    exact (h.tally_eq place hissued).trans (if_neg (hforce ▸ hne))

/-- Where no growth is posted, nothing takes note of one. -/
theorem quiet_of_posted {p : Posting} (hp : p.grown? = none) (hfollows : s.Follows m p)
    (h : s.world.Accounts p (s.move m).world) : (⟨s, m, t⟩ : Placed).Quiet := by
  refine ⟨fun r => ?_, ?_, fun place hissued htells => ?_⟩
  · show ((s.move m).world.roll r).reallocations = _
    rw [h.reallocations_eq r, p.growths_eq r, hp]
    rfl
  · show (s.move m).world.log.filterMap Notice.growth? = _
    rw [h.log_eq, List.filterMap_append, h.growths_noted]
    cases p with
    | grew => cases hp
    | nothing | noted | told | chose => exact List.append_nil _
  · refine (h.tally_eq place hissued).trans ?_
    cases p with
    | grew => cases hp
    | nothing | noted | chose => rfl
    | told place' before after =>
      obtain ⟨start, hrequest⟩ := hfollows.told place' before after rfl
      refine if_neg ?_
      rintro rfl
      unfold Placed.tells at htells
      dsimp only at htells
      rw [hrequest] at htells
      simp at htells

/-- **What a move does.** Either the storage of a roll grows and everything takes note of it, or
nothing grows and nothing takes note of a growth. -/
theorem growth_law (hs : s.world.Owned) (hforce : s.world.ambient.tally = t)
    (hprofiles : s.Profiles t) (m : Move) :
    match (⟨s, m, t⟩ : Placed).grown? with
    | some r => (⟨s, m, t⟩ : Placed).Grew r
    | none => (⟨s, m, t⟩ : Placed).Quiet := by
  obtain ⟨p, hfollows, haccounts⟩ := accounts_move hs.wellFormed m
  rw [@Placed.grown?_eq ⟨s, m, t⟩ p haccounts]
  cases p with
  | grew r g => exact grew_of_posted hs hforce hprofiles hfollows haccounts
  | nothing | noted | told | chose => exact quiet_of_posted rfl hfollows haccounts

/-- A tally that is not told by hand goes on summing up the growths that it is innermost for. -/
theorem sums_move (hs : s.world.Owned) (hforce : s.world.ambient.tally = t) (m : Move)
    {place : TallyId} (hissued : place.index < s.world.tallies.size) {gs : List (Nat × Nat)}
    (hsums : (s.world.tally place).Sums gs) (hnever : (⟨s, m, t⟩ : Placed).tells place = false) :
    place.index < (s.move m).world.tallies.size ∧ ((s.move m).world.tally place).Sums
      (gs ++ if t = some place then (⟨s, m, t⟩ : Placed).growth?.toList else []) := by
  obtain ⟨p, hfollows, haccounts⟩ := accounts_move hs.wellFormed m
  refine ⟨Nat.lt_of_lt_of_le hissued haccounts.tallies_le, ?_⟩
  rw [@Placed.growth?_eq ⟨s, m, t⟩ p haccounts]
  cases p with
  | grew r g =>
    have htally := haccounts.tally_eq place hissued
    obtain ⟨-, -, -, hlt⟩ := haccounts.grew r g rfl
    split
    · next ht =>
      rw [htally.trans (if_pos (hforce.trans ht))]
      exact hsums.growth_counted g.mark hlt
    · next ht =>
      rw [htally.trans (if_neg (hforce ▸ ht)), List.append_nil]
      exact hsums
  | nothing | noted | told | chose =>
    have hquiet := @quiet_of_posted s m t _ rfl hfollows haccounts
    have htally : (s.move m).world.tally place = s.world.tally place :=
      hquiet.spared place hissued hnever
    rw [htally, (by split <;> rfl : (if t = some place then _ else []) = []), List.append_nil]
    exact hsums

/-! ### What a run adds up to -/

namespace Runs

/-- What holds where a move of a run is made. -/
theorem mem (h : s.Runs xs s') (hs : s.world.Owned) {x : Placed} (hx : x ∈ xs) :
    x.session.world.Owned ∧ x.session.world.ambient.tally = x.innermost ∧
      x.session.Profiles x.innermost := by
  induction h with
  | nil => cases hx
  | cons hforce hprofiles _ ih =>
    rcases List.mem_cons.mp hx with rfl | hx
    · exact ⟨hs, hforce, hprofiles⟩
    · exact ih (owned_move hs _) hx

/-- **The count of a roll** is that of its growths. -/
theorem reallocations_eq (h : s.Runs xs s') (hs : s.world.Owned) (r : RollId) :
    (s'.world.roll r).reallocations
      = (s.world.roll r).reallocations + xs.countP fun x => x.grown? = some r := by
  induction h with
  | nil => rfl
  | @cons s s' m t xs hforce hprofiles _ ih =>
    obtain ⟨p, -, haccounts⟩ := accounts_move hs.wellFormed m
    rw [ih (owned_move hs m), haccounts.reallocations_eq r, p.growths_eq r, List.countP_cons,
      @Placed.grown?_eq ⟨s, m, t⟩ p haccounts]
    simp only [decide_eq_true_eq]
    omega

/-- **The log** tells of all growths, in order. -/
theorem growths_logged (h : s.Runs xs s') (hs : s.world.Owned) :
    s'.world.log.filterMap Notice.growth?
      = s.world.log.filterMap Notice.growth? ++ xs.filterMap Placed.growth? := by
  induction h with
  | nil => exact (List.append_nil _).symm
  | @cons s s' m t xs hforce hprofiles _ ih =>
    obtain ⟨p, -, haccounts⟩ := accounts_move hs.wellFormed m
    have hgrowth := @Placed.growth?_eq ⟨s, m, t⟩ p haccounts
    rw [ih (owned_move hs m), haccounts.log_eq, List.filterMap_append, haccounts.growths_noted,
      ← hgrowth, List.append_assoc]
    cases hx : (⟨s, m, t⟩ : Placed).growth? with
    | none => rw [List.filterMap_cons_none hx]; rfl
    | some g => rw [List.filterMap_cons_some hx]; rfl

/-- **A tally** that is told of nothing by hand sums up the growths that it is innermost for. -/
theorem sums (h : s.Runs xs s') (hs : s.world.Owned) {place : TallyId}
    (hissued : place.index < s.world.tallies.size) {gs : List (Nat × Nat)}
    (hsums : (s.world.tally place).Sums gs) (hnever : ∀ x ∈ xs, x.tells place = false) :
    (s'.world.tally place).Sums (gs ++ Placed.growthsUnder place xs) := by
  induction h generalizing gs with
  | nil => exact (List.append_nil gs).symm ▸ hsums
  | @cons s s' m t xs hforce hprofiles _ ih =>
    obtain ⟨hissued', hsums'⟩ :=
      sums_move hs hforce m hissued hsums (hnever _ List.mem_cons_self)
    rw [Placed.growthsUnder_cons, ← List.append_assoc]
    exact ih (owned_move hs m) hissued' hsums' fun x hx => hnever x (List.mem_cons_of_mem _ hx)

end Runs

/-! ### Scripts -/

/-- **Every growth is accounted for,** at every moment of every script. Let `past` be what has
happened so far.

* The tally in force was always that of the innermost profiled block around the move.
* A move makes a roll grow just when the roll has more slots afterwards.  Then the roll has been
  asked for storage, everything takes note of the growth, and nothing else happens
  (`Placed.Grew`); after any other move there is no trace of a growth (`Placed.Quiet`).
* The count of a roll is the number of its growths, and the log tells of all growths in order.
* The tally that a profiled block began with has summed up the growths since then that it was
  innermost for, unless it was told of others by hand. -/
theorem growths_accounted (steps : List Step) {past future : List Placed}
    (hrun : scriptPlaced steps initial = past ++ future) :
    let now := initial.after (past.map Placed.move)
    (future = [] → now = (runScript steps initial).2) ∧
    (∀ x ∈ past, x.session.world.ambient.tally = x.innermost ∧
      (∀ r, r.index < x.session.world.rolls.size →
        ((x.session.world.roll r).capacity < (x.after.world.roll r).capacity
          ↔ x.grown? = some r)) ∧
      match x.grown? with
      | some r => x.Grew r
      | none => x.Quiet) ∧
    (∀ r, (now.world.roll r).reallocations = past.countP fun x => x.grown? = some r) ∧
    now.world.log.filterMap Notice.growth? = past.filterMap Placed.growth? ∧
    ∀ before x since, past = before ++ x :: since →
      x.session = initial.after (before.map Placed.move) ∧
      ∀ keep, x.move = .enter .profiled keep →
        let t : TallyId := ⟨x.session.world.tallies.size⟩
        (∀ y ∈ since, y.tells t = false) →
          (now.world.tally t).Sums (Placed.growthsUnder t since) := by
  have howned := reachable_initial.owned
  have hscript := runs_scriptPlaced steps howned rfl
  rw [hrun] at hscript
  obtain ⟨s', hpast, hfuture⟩ := hscript.split
  obtain rfl := hpast.eq_after
  intro now
  refine ⟨?_, ?_, ?_, ?_, ?_⟩
  · rintro rfl
    exact hfuture.eq_after.symm
  · intro x hx
    obtain ⟨hs, hforce, hprofiles⟩ := hpast.mem howned hx
    refine ⟨hforce, fun r hr => ?_, growth_law hs hforce hprofiles x.move⟩
    obtain ⟨p, -, haccounts⟩ := accounts_move hs.wellFormed x.move
    rw [Placed.grown?_eq haccounts]
    refine (grew_iff_move hs.wellFormed x.move hr).trans ?_
    rw [haccounts.reallocations_eq r, p.growths_eq r]
    split <;> simp_all
  · intro r
    rw [hpast.reallocations_eq howned r]
    exact Nat.zero_add _
  · exact (hpast.growths_logged howned).trans (List.nil_append _)
  · rintro before x since rfl
    obtain ⟨s, hbefore, hrest⟩ := hpast.split
    obtain _ | ⟨hforce, hprofiles, hsince⟩ := hrest
    refine ⟨hbefore.eq_after, ?_⟩
    rintro keep rfl t hnever
    have hs := hbefore.owned howned
    obtain ⟨inside, henter⟩ : ∃ inside, s.enter .profiled keep = .ok inside := ⟨_, rfl⟩
    obtain ⟨hissued, hzero⟩ := tally_enter_profiled henter
    rw [move_enter henter] at hsince
    exact hsince.sums (owned_enter hs henter) hissued (hzero ▸ Tally.sums_zero) hnever

/-- Storage that grows in a profiled block, in another one within it, and in a separate block: the
roll counts three growths, and the outer tally has summed up the first. -/
theorem growths_accounted_nested :
    let steps : List Step := [.call (.serve .makeRoll [.int 0 0]) (some "a"),
      .block .profiled (some "outer") false [.call (.ask "a" .add [.text 1 "x"]) none,
        .block .profiled (some "inner") false [.call (.ask "a" .reserve [.int 2 5]) none],
        .block .separate none false [.call (.ask "a" .reserve [.int 3 7]) none]]]
    let now := (runScript steps initial).2
    (now.world.roll ⟨0⟩).reallocations = 3 ∧
      now.world.log.filterMap Notice.growth? = [(0, 1), (1, 5), (5, 7)] ∧
      (now.world.tally ⟨0⟩).Sums [(0, 1)] := by
  intro steps now
  obtain ⟨hnow, -, hcount, hlog, htally⟩ :=
    growths_accounted steps (List.append_nil (scriptPlaced steps initial)).symm
  rw [hnow rfl] at hcount hlog htally
  have hthree : (scriptPlaced steps initial).countP (fun x => x.grown? = some ⟨0⟩) = 3 := by
    decide +kernel
  have hlisted : (scriptPlaced steps initial).filterMap Placed.growth?
      = [(0, 1), (1, 5), (5, 7)] := by decide +kernel
  refine ⟨(hcount ⟨0⟩).trans hthree, hlog.trans hlisted, ?_⟩
  -- the outer block begins right after the roll was made
  let made := initial.move (.call (.serve .makeRoll [.int 0 0]) (some "a"))
  obtain ⟨since, hsplit⟩ : ∃ since, scriptPlaced steps initial
      = [⟨initial, .call (.serve .makeRoll [.int 0 0]) (some "a"), none⟩] ++
        ⟨made, .enter .profiled (some "outer"), none⟩ :: since := ⟨_, rfl⟩
  have hsince : since = (scriptPlaced steps initial).drop 2 := by rw [hsplit]; rfl
  have hplace : made.world.tallies.size = 0 := by decide +kernel
  have hsums := (htally _ _ since hsplit).2 _ rfl
  dsimp only at hsums
  rw [hplace, hsince] at hsums
  have hnever : ∀ y ∈ (scriptPlaced steps initial).drop 2, y.tells ⟨0⟩ = false := by
    decide +kernel
  have hcounted : Placed.growthsUnder ⟨0⟩ ((scriptPlaced steps initial).drop 2) = [(0, 1)] := by
    decide +kernel
  exact hcounted ▸ hsums hnever

end Session

end TextRoll
