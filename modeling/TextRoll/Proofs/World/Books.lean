/-
TextRoll/Proofs/World/Books.lean

The books of a world, and what is posted in them.

Beside its rolls and texts a world keeps books: the tallies, the surroundings, the log, and the
count of reallocations that every roll carries.  One step leaves one of five things there
(`Posting`): nothing at all, a record of something other than a growth, a growth of one roll,
what a tally was told by hand, or another policy.  `World.Posts w p w'` says what the posting `p`
changes in the books between `w` and `w'`, and that it changes nothing else.

A growth is the only posting that is entered in several places: in the count of the roll, in the
log, and in the tally that is in force (`posts_grew`).  What a tally has counted is never struck out
(`World.Remembers`).
-/
import TextRoll.Proofs.Act.OfRoll
import TextRoll.Proofs.World.Counting
import TextRoll.Proofs.World.Refusing

namespace TextRoll

/-- From and to how many slots storage grew, if the record tells of that. -/
def Notice.growth? : Notice → Option (Nat × Nat)
  | grew before after => some (before, after)
  | _ => none

/-- What is left in the books in one step. -/
inductive Posting
  | nothing
  /-- A record of something other than a growth. -/
  | noted (n : Notice)
  /-- The storage of a roll grew. -/
  | grew (r : RollId) (g : Growth)
  /-- A tally was told of a growth by hand. -/
  | told (t : TallyId) (before after : Value)
  /-- A policy was put in force. -/
  | chose (v : Value)

namespace Posting

/-- The records that a posting adds to the log. -/
def notices : Posting → List Notice
  | noted n => [n]
  | grew _ g => [.grew g.before g.after.toNat]
  | nothing | told .. | chose _ => []

/-- The policy that a posting puts in force. -/
def policy? : Posting → Option Value
  | chose v => some v
  | nothing | noted _ | grew .. | told .. => none

/-- What becomes of a tally; a growth is counted in the tally that is in force. -/
def tallied (inForce : Option TallyId) (t : TallyId) (x : Tally) : Posting → Tally
  | grew _ g =>
    if inForce = some t then x.afterRecord t (.ofInt g.before) (g.after.valueAs g.mark) else x
  | told t' before after => if t' = t then x.afterRecord t before after else x
  | nothing | noted _ | chose _ => x

/-- How often the storage of a roll grows. -/
def growths (r : RollId) : Posting → Nat
  | grew r' _ => if r' = r then 1 else 0
  | nothing | noted _ | told .. | chose _ => 0

end Posting

namespace World

variable {w w' w'' : World} {p : Posting} {r : RollId}

/-- What a posting changes in the log, the tallies that there are, and the counts of the rolls, and
that it changes nothing else there. -/
structure Accounts (w : World) (p : Posting) (w' : World) : Prop where
  log_eq : w'.log = w.log ++ p.notices
  tally_eq : ∀ t : TallyId, t.index < w.tallies.size →
    w'.tally t = p.tallied w.ambient.tally t (w.tally t)
  tallies_le : w.tallies.size ≤ w'.tallies.size
  reallocations_eq : ∀ r, (w'.roll r).reallocations = (w.roll r).reallocations + p.growths r
  /-- A record that is noted is not one of a growth. -/
  noted : ∀ n, p = .noted n → n.growth? = none
  /-- A growth is from the slots there were to the slots there are, and these are more. -/
  grew : ∀ r g, p = .grew r g → r.index < w'.rolls.size ∧ g.before = (w.roll r).capacity ∧
    g.after.toNat = (w'.roll r).capacity ∧ g.before < g.after.toNat

/-- The same, and what a posting changes in the surroundings. -/
structure Posts (w : World) (p : Posting) (w' : World) : Prop extends w.Accounts p w' where
  ambient_eq : w'.ambient = { w.ambient with policy := p.policy?.getD w.ambient.policy }

/-! ### Each posting -/

/-- Where the books are as they were, nothing was posted. -/
theorem posts_nothing (hlog : w'.log = w.log) (hambient : w'.ambient = w.ambient)
    (htallies : w'.tallies = w.tallies)
    (hrolls : ∀ r, (w'.roll r).reallocations = (w.roll r).reallocations) : w.Posts .nothing w' where
  log_eq := hlog.trans (List.append_nil _).symm
  ambient_eq := hambient
  tally_eq t _ := by
    unfold tally
    rw [htallies]
    rfl
  tallies_le := Nat.le_of_eq (congrArg Arena.size htallies.symm)
  reallocations_eq := hrolls
  noted := nofun
  grew := nofun

theorem Undisturbed.posts (h : w.Undisturbed w') : w.Posts .nothing w' :=
  posts_nothing h.log_eq h.ambient_eq h.tallies_eq fun r => by rw [h.roll_eq]

/-- What is posted after reading is posted as if nothing had been read. -/
theorem Undisturbed.posts_of (hu : w.Undisturbed w') (h : w'.Posts p w'') : w.Posts p w'' where
  log_eq := by rw [h.log_eq, hu.log_eq]
  ambient_eq := by rw [h.ambient_eq, hu.ambient_eq]
  tally_eq t ht := by
    have htally : w'.tally t = w.tally t := by
      unfold tally
      rw [hu.tallies_eq]
    rw [h.tally_eq t (hu.tallies_eq ▸ ht), hu.ambient_eq, htally]
  tallies_le := hu.tallies_eq ▸ h.tallies_le
  reallocations_eq r := by rw [h.reallocations_eq, hu.roll_eq]
  noted := h.noted
  grew r g hp := hu.roll_eq r ▸ h.grew r g hp

/-- Replacing a roll by one that grew as often is not posted. -/
theorem posts_setRoll {l : Roll BufferId} (h : l.reallocations = (w.roll r).reallocations) :
    w.Posts .nothing (w.setRoll r l) := by
  refine posts_nothing rfl rfl rfl fun r' => ?_
  by_cases hr : r' = r
  · subst hr
    rw [roll_put_self rfl, h]
  · rw [roll_put_of_ne rfl hr]

/-- A record that is not of a growth, where nothing else was posted. -/
theorem Posts.note {n : Notice} (h : w.Posts .nothing w') (hn : n.growth? = none) :
    w.Posts (.noted n) (w'.note n) where
  log_eq := by
    show w'.log ++ [n] = w.log ++ [n]
    rw [h.log_eq]
    exact congrArg (· ++ [n]) (List.append_nil _)
  ambient_eq := h.ambient_eq
  tally_eq := h.tally_eq
  tallies_le := h.tallies_le
  reallocations_eq := h.reallocations_eq
  noted := by
    rintro n' ⟨⟩
    exact hn
  grew := nofun

theorem growth?_of_notice? {fault : Fault} {n : Notice} (h : fault.notice? = some n) :
    n.growth? = none := by
  have hlevel := Fault.level_of_notice? h
  cases n with
  | grew => cases hlevel
  | cleared | overLimit | realOverLimit | outOfMemory => rfl

/-- A refusal leaves at most a record. -/
theorem posts_refused (w : World) (fault : Fault) :
    ∃ p, (p = .nothing ∨ ∃ n, p = .noted n) ∧ w.Posts p (w.refused fault) := by
  unfold refused
  cases hn : fault.notice? with
  | none => exact ⟨.nothing, .inl rfl, (Undisturbed.refl w).posts⟩
  | some n =>
    exact ⟨.noted n, .inr ⟨n, rfl⟩, (Undisturbed.refl w).posts.note (growth?_of_notice? hn)⟩

@[simp] theorem tally_put_self {t : TallyId} {x : Tally} : (w.setTally t x).tally t = x :=
  w.tallies.get_put_self t.index x

theorem tally_put_of_ne {t t' : TallyId} {x : Tally} (h : t' ≠ t) :
    (w.setTally t x).tally t' = w.tally t' :=
  w.tallies.get_put_of_ne x fun hindex => h (congrArg TallyId.mk hindex)

theorem tallies_le_setTally (w : World) (t : TallyId) (x : Tally) :
    w.tallies.size ≤ (w.setTally t x).tallies.size := by
  show _ ≤ (w.tallies.put t.index x).size
  rw [Arena.size_put_eq_max]
  exact Nat.le_max_left ..

/-- What a tally becomes when it is told something. -/
theorem posts_told (w : World) (t : TallyId) (before after : Value) :
    w.Posts (.told t before after) (w.setTally t ((w.tally t).afterRecord t before after)) where
  log_eq := (List.append_nil _).symm
  ambient_eq := rfl
  tally_eq t' _ := by
    show _ = if t = t' then _ else _
    by_cases ht : t = t'
    · subst ht
      rw [tally_put_self, if_pos rfl]
    · rw [tally_put_of_ne (Ne.symm ht), if_neg ht]
  tallies_le := w.tallies_le_setTally t _
  reallocations_eq _ := rfl
  noted := nofun
  grew := nofun

/-- What recording a growth leaves in the log, the surroundings and the tallies. -/
theorem log_recordGrowth (w : World) (g : Growth) :
    (w.recordGrowth g).log = w.log ++ [.grew g.before g.after.toNat] := by
  unfold recordGrowth
  split <;> rfl

theorem ambient_recordGrowth (w : World) (g : Growth) :
    (w.recordGrowth g).ambient = w.ambient := by
  unfold recordGrowth
  split <;> rfl

theorem tallies_le_recordGrowth (w : World) (g : Growth) :
    w.tallies.size ≤ (w.recordGrowth g).tallies.size := by
  unfold recordGrowth
  split
  · exact w.tallies_le_setTally _ _
  · exact Nat.le_refl _

theorem tally_recordGrowth (w : World) (g : Growth) (t : TallyId) :
    (w.recordGrowth g).tally t
      = if w.ambient.tally = some t then
          (w.tally t).afterRecord t (.ofInt g.before) (g.after.valueAs g.mark)
        else w.tally t := by
  unfold recordGrowth
  cases hforce : w.ambient.tally with
  | none => exact (if_neg nofun).symm
  | some t' =>
    by_cases ht : t' = t
    · subst ht
      rw [if_pos rfl]
      exact tally_put_self
    · rw [if_neg fun h => ht (Option.some.inj h)]
      exact tally_put_of_ne (Ne.symm ht)

/-- A growth is counted without a look at the rolls. -/
theorem recordGrowth_setRoll (w : World) (r : RollId) (l : Roll BufferId) (g : Growth) :
    (w.setRoll r l).recordGrowth g = (w.recordGrowth g).setRoll r l := by
  have hambient : (w.setRoll r l).ambient = w.ambient := rfl
  unfold recordGrowth
  rw [hambient]
  cases w.ambient.tally <;> rfl

/-- A growth is counted, logged, and leaves a roll that has grown once more. -/
theorem posts_grew {g : Growth} {l : Roll BufferId}
    (htallies : w'.tallies = (w.recordGrowth g).tallies) (hambient : w'.ambient = w.ambient)
    (hlog : w'.log = (w.recordGrowth g).log) (hrolls : w'.rolls = w.rolls.put r.index l)
    (hbefore : g.before = (w.roll r).capacity) (hafter : g.after.toNat = l.capacity)
    (hlt : g.before < g.after.toNat)
    (hcount : l.reallocations = (w.roll r).reallocations + 1) : w.Posts (.grew r g) w' where
  log_eq := hlog.trans (w.log_recordGrowth g)
  ambient_eq := hambient
  tally_eq t _ := by
    show w'.tallies.get t.index = _
    rw [htallies]
    exact w.tally_recordGrowth g t
  tallies_le := by
    rw [htallies]
    exact w.tallies_le_recordGrowth g
  reallocations_eq r' := by
    show _ = _ + if r = r' then 1 else 0
    by_cases hr : r = r'
    · subst hr
      rw [roll_put_self hrolls, if_pos rfl, hcount]
    · rw [roll_put_of_ne hrolls (Ne.symm hr), if_neg hr, Nat.add_zero]
  noted := nofun
  grew := by
    rintro r' g' ⟨⟩
    refine ⟨?_, hbefore, ?_, hlt⟩
    · rw [hrolls, Arena.size_put_eq_max]
      exact Nat.lt_of_lt_of_le (Nat.lt_succ_self _) (Nat.le_max_right ..)
    · rw [roll_put_self hrolls, hafter]

/-! ### What was counted -/

/-- Every growth that was counted in a tally still is, in its place. -/
def Remembers (w w' : World) : Prop := ∀ t, (w.tally t).events <+: (w'.tally t).events

theorem Remembers.growth?_eq (h : w.Remembers w') {t : TallyId} {place : Nat}
    (hplace : place < (w.tally t).events.length) :
    (w'.tally t).events[place]? = (w.tally t).events[place]? := by
  obtain ⟨more, hmore⟩ := h t
  rw [← hmore, List.getElem?_append_left hplace]

theorem remembers_of_tallies_eq (h : w'.tallies = w.tallies) : w.Remembers w' := by
  intro t
  have htally : w'.tally t = w.tally t := congrArg (·.get t.index) h
  exact htally ▸ List.prefix_rfl

theorem remembers_addTally (w : World) (x : Tally) : w.Remembers (w.addTally x).2 := by
  intro t
  by_cases ht : t.index = w.tallies.size
  · -- in a place that is still free nothing was counted
    unfold tally
    rw [w.tallies.get_of_size_le (Nat.le_of_eq ht.symm)]
    exact List.nil_prefix
  · have htally : (w.addTally x).2.tally t = w.tally t := w.tallies.get_issue_of_ne x ht
    exact htally ▸ List.prefix_rfl

theorem remembers_recordGrowth (w : World) (g : Growth) : w.Remembers (w.recordGrowth g) := by
  intro t
  rw [tally_recordGrowth]
  split
  · exact (w.tally t).events_afterRecord _ _ _
  · exact List.prefix_rfl

end World

end TextRoll
