/-
TextRoll/Proofs/Session/Sweeps.lean

Walking along a roll and taking out what is wanted.

A client that holds a roll rewinds it.  Then, as long as the roll has an element, it looks at the
current one and takes it out if its text is wanted; if not, it goes on to the next element, and
is done when there is none.  `Sweeps` describes such a loop from its beginning to its end, each
request as it is answered, so a sweep that does not end, or that is told of a failure, is none.

When the last element is taken out, the cursor falls back to an element that was passed before.  So
neither the cursor nor the number of elements behind it says how far a sweep has come.  What does
is which elements were passed and which are still to come (`Session.Halfway`), and the induction
is on the latter: each round takes one of them out or passes it (`Halfway.sweeps`).
-/
import TextRoll.Proofs.Roll.Parting
import TextRoll.Proofs.Session.Holding

namespace TextRoll

namespace Session

variable {s s' s'' : Session} {name t t' : String} {r : RollId} {p : String → Bool} {b : BufferId}
  {kept todo rest : List BufferId}

/-! ### The loop -/

/-- The requests that ask whether there is an element, and for the current one. -/
def looking (name : String) : List Move := [.ask name .truth, .ask name .current]

/-- There is an element, and the current one has this text. -/
structure Looks (s : Session) (name t : String) : Prop where
  truth : s.hears (.ask name .truth) = some (.ok (.bool true))
  current : (s.move (.ask name .truth)).hears (.ask name .current) = some (.ok (.buffer t))

/-- What a client has to show for a sweep. -/
structure Haul where
  /-- The texts that it looked at. -/
  seen : List String
  /-- The elements that were handed out to it. -/
  taken : List BufferId
  /-- What it was told each time it tried to go on. -/
  steps : List Bool

/-- **The loop,** from one session to another: what is wanted is taken out, and what is not is
passed. -/
inductive Sweeps (name : String) (p : String → Bool) : Session → Haul → Session → Prop
  /-- There is no element left. -/
  | emptied {s : Session} (htruth : s.hears (.ask name .truth) = some (.ok (.bool false))) :
      Sweeps name p s ⟨[], [], []⟩ (s.move (.ask name .truth))
  | taken {s s' : Session} {t : String} {b : BufferId} {haul : Haul} (hlooks : s.Looks name t)
      (hp : p t = true) (hremove : (s.after (looking name)).handedOut (.ask name .remove) = [b])
      (hrest : Sweeps name p ((s.after (looking name)).move (.ask name .remove)) haul s') :
      Sweeps name p s ⟨t :: haul.seen, b :: haul.taken, haul.steps⟩ s'
  | passed {s s' : Session} {t : String} {haul : Haul} (hlooks : s.Looks name t)
      (hp : p t = false)
      (hadvance : (s.after (looking name)).hears (.ask name .advance) = some (.ok (.bool true)))
      (hrest : Sweeps name p ((s.after (looking name)).move (.ask name .advance)) haul s') :
      Sweeps name p s ⟨t :: haul.seen, haul.taken, true :: haul.steps⟩ s'
  /-- The element that was passed is the last one. -/
  | stopped {s : Session} {t : String} (hlooks : s.Looks name t) (hp : p t = false)
      (hadvance : (s.after (looking name)).hears (.ask name .advance) = some (.ok (.bool false))) :
      Sweeps name p s ⟨[t], [], [false]⟩ ((s.after (looking name)).move (.ask name .advance))

theorem Looks.text_eq (h : s.Looks name t) (h' : s.Looks name t') : t' = t := by
  have hsame := h.current.symm.trans h'.current
  cases hsame
  rfl

theorem Looks.not_emptied (h : s.Looks name t) :
    s.hears (.ask name .truth) ≠ some (.ok (.bool false)) := by
  rw [h.truth]
  nofun

/-- **What the roll answers decides every turn of the loop.** -/
theorem Sweeps.unique {haul haul' : Haul} (h : Sweeps name p s haul s')
    (h' : Sweeps name p s haul' s'') : haul' = haul ∧ s'' = s' := by
  induction h generalizing haul' s'' with
  | emptied htruth =>
    cases h' with
    | emptied => exact ⟨rfl, rfl⟩
    | taken hlooks | passed hlooks | stopped hlooks => exact absurd htruth hlooks.not_emptied
  | taken hlooks hp hremove hrest ih =>
    cases h' with
    | emptied htruth => exact absurd htruth hlooks.not_emptied
    | taken hlooks' hp' hremove' hrest' =>
      obtain rfl := hlooks.text_eq hlooks'
      obtain ⟨rfl, rfl⟩ := ih hrest'
      cases hremove.symm.trans hremove'
      exact ⟨rfl, rfl⟩
    | passed hlooks' hp' | stopped hlooks' hp' =>
      rw [hlooks.text_eq hlooks', hp] at hp'
      cases hp'
  | passed hlooks hp hadvance hrest ih =>
    cases h' with
    | emptied htruth => exact absurd htruth hlooks.not_emptied
    | taken hlooks' hp' =>
      rw [hlooks.text_eq hlooks', hp] at hp'
      cases hp'
    | passed hlooks' hp' hadvance' hrest' =>
      obtain rfl := hlooks.text_eq hlooks'
      obtain ⟨rfl, rfl⟩ := ih hrest'
      exact ⟨rfl, rfl⟩
    | stopped hlooks' hp' hadvance' => cases hadvance.symm.trans hadvance'
  | stopped hlooks hp hadvance =>
    cases h' with
    | emptied htruth => exact absurd htruth hlooks.not_emptied
    | taken hlooks' hp' =>
      rw [hlooks.text_eq hlooks', hp] at hp'
      cases hp'
    | passed hlooks' hp' hadvance' => cases hadvance.symm.trans hadvance'
    | stopped hlooks' =>
      obtain rfl := hlooks.text_eq hlooks'
      exact ⟨rfl, rfl⟩

/-! ### Halfway through -/

/-- Between two sessions a roll has lost so many elements, one after the other, and no text has
changed. -/
structure Wears (s : Session) (r : RollId) (n : Nat) (s' : Session) : Prop where
  keepsTexts : s.world.KeepsTexts s'.world
  worn : (s.world.roll r).Worn n (s'.world.roll r)

theorem Wears.refl (s : Session) (r : RollId) : s.Wears r 0 s := ⟨.refl _, .refl _⟩

theorem Wears.trans {n n' : Nat} (h : s.Wears r n s') (h' : s'.Wears r n' s'') :
    s.Wears r (n + n') s'' := ⟨h.keepsTexts.trans h'.keepsTexts, h.worn.trans h'.worn⟩

/-- Some elements were passed, and the others are still to come. -/
structure Halfway (s : Session) (name : String) (r : RollId) (kept todo : List BufferId) :
    Prop where
  owned : s.world.Owned
  holds : s.Holds name r
  parted : (s.world.roll r).Parted kept todo

/-- The elements that are left have the texts that they had. -/
theorem Halfway.text_eq {n : Nat} {text : BufferId → String} {left : List BufferId}
    (h : s.Halfway name r kept todo) (hwears : s.Wears r n s')
    (htext : ∀ b ∈ kept ++ todo, s.world.text b = text b) (hleft : left ⊆ kept ++ todo) :
    ∀ b ∈ left, s'.world.text b = text b := by
  intro b hb
  have helements : s.world.elements r = kept ++ todo := h.parted.elements_eq
  have hissued := h.owned.issued r b (helements ▸ hleft hb)
  exact (hwears.keepsTexts.text_eq b hissued).trans (htext b (hleft hb))

/-- Looking changes nothing. -/
theorem Halfway.look (h : s.Halfway name r kept todo)
    (hb : (s.world.elements r)[(s.world.roll r).cursor]? = some b) :
    s.Looks name (s.world.text b) ∧ (s.after (looking name)).Halfway name r kept todo ∧
      s.Wears r 0 (s.after (looking name)) := by
  have hne : (s.world.roll r).length ≠ 0 := by
    have hlt := (List.getElem?_eq_some_iff.mp hb).1
    have hlength : (s.world.elements r).length = _ := (h.owned.wellFormed r).length_elements
    omega
  have htruth := h.holds.answers_truth
  have hcurrent := h.holds.answers_current h.owned.wellFormed hb
  have hread := s.world.undisturbed_collapse b
  have hlooked : s.after (looking name) = { s with world := s.world.collapse b } := by
    show (s.move (.ask name .truth)).move (.ask name .current) = _
    rw [htruth.move_eq]
    exact hcurrent.move_eq
  rw [hlooked]
  refine ⟨⟨?_, ?_⟩, ⟨hread.occurs.owned h.owned, h.holds, ?_⟩, ⟨hread.keepsTexts, ?_⟩⟩
  · rw [htruth.hears_eq, bne_iff_ne.mpr hne]
    rfl
  · rw [htruth.move_eq]
    exact hcurrent.hears_eq
  · exact hread.roll_eq r ▸ h.parted
  · exact hread.roll_eq r ▸ .refl _

/-- A request that only sets the roll leaves all texts and all registers. -/
theorem halfway_setRoll {n : Nat} {l : Roll BufferId} {m : Move} (hs : s.world.Owned)
    (hheld : s.Holds name r) (hmove : s.move m = { s with world := s.world.setRoll r l })
    (hparted : l.Parted kept todo) (hworn : (s.world.roll r).Worn n l) :
    (s.move m).Halfway name r kept todo ∧ s.Wears r n (s.move m) := by
  have hroll : (s.world.setRoll r l).roll r = l := World.roll_put_self rfl
  have howned := owned_move hs m
  rw [hmove] at howned ⊢
  exact ⟨⟨howned, hheld, hroll.symm ▸ hparted⟩, World.keepsTexts_of_buffers_eq rfl,
    hroll.symm ▸ hworn⟩

/-- A roll that was rewound has all its elements to come. -/
theorem halfway_rewound (hs : s.world.Owned) (hheld : s.Holds name r) :
    (s.move (.ask name .rewind)).Halfway name r [] (s.world.elements r) ∧
      s.Wears r 0 (s.move (.ask name .rewind)) :=
  halfway_setRoll hs hheld hheld.answers_rewind.move_eq (Roll.parted_rewind _)
    (Roll.worn_moveTo _ 0)

/-- Taking out the first of the elements to come. -/
theorem Halfway.take (h : s.Halfway name r kept (b :: rest)) :
    s.handedOut (.ask name .remove) = [b] ∧
      (s.move (.ask name .remove)).Halfway name r kept rest ∧
      s.Wears r 1 (s.move (.ask name .remove)) := by
  have hwell := h.owned.wellFormed r
  have hlt : (s.world.roll r).cursor < (s.world.roll r).length := by
    rw [← hwell.length_elements]
    exact (List.getElem?_eq_some_iff.mp h.parted.current_eq).1
  have hanswers := h.holds.answers_remove h.owned.wellFormed h.parted.current_eq
  exact ⟨hanswers.handedOut_eq, halfway_setRoll h.owned h.holds hanswers.move_eq
    (h.parted.without hwell) (hwell.worn_without hlt)⟩

/-- Passing the first of the elements to come, if it is not the last. -/
theorem Halfway.pass (h : s.Halfway name r kept (b :: rest)) (hrest : rest ≠ []) :
    s.hears (.ask name .advance) = some (.ok (.bool true)) ∧
      (s.move (.ask name .advance)).Halfway name r (kept ++ [b]) rest ∧
      s.Wears r 0 (s.move (.ask name .advance)) := by
  have hanswers := h.holds.answers_advance
  rw [(h.owned.wellFormed r).advance_eq h.parted, if_neg hrest] at hanswers
  exact ⟨hanswers.hears_eq, halfway_setRoll h.owned h.holds hanswers.move_eq
    (h.parted.moveTo hrest) (Roll.worn_moveTo _ _)⟩

/-- Behind the last element there is none to go on to. -/
theorem Halfway.stop (h : s.Halfway name r kept [b]) :
    s.hears (.ask name .advance) = some (.ok (.bool false)) ∧
      (s.move (.ask name .advance)).Halfway name r kept [b] ∧
      s.Wears r 0 (s.move (.ask name .advance)) := by
  have hanswers := h.holds.answers_advance
  rw [(h.owned.wellFormed r).advance_eq h.parted, if_pos rfl] at hanswers
  exact ⟨hanswers.hears_eq, halfway_setRoll h.owned h.holds hanswers.move_eq h.parted
    (.refl _)⟩

/-! ### What a sweep yields -/

/-- What a client has to show for the rest of a sweep, where `kept` were passed before and `todo`
were still to come: it has what was wanted of these, and it looked at each of them. -/
structure Haul.Covers (haul : Haul) (p : String → Bool) (text : BufferId → String)
    (kept todo : List BufferId) : Prop where
  taken_eq : haul.taken = todo.filter fun b => p (text b)
  /-- If the last one was wanted, the last that is left is looked at once more. -/
  seen_eq : haul.seen = todo.map text ++ (if todo.getLast?.all fun b => p (text b) then
      ((kept ++ todo.filter fun b => !p (text b)).getLast?.map text).toList
    else [])
  steps_eq : haul.steps = List.replicate (todo.dropLast.countP fun b => !p (text b)) true
    ++ (if (kept ++ todo.filter fun b => !p (text b)) = [] then [] else [false])

namespace Haul.Covers

variable {text : BufferId → String} {haul : Haul}

theorem nothing : (⟨[], [], []⟩ : Haul).Covers p text [] [] := ⟨rfl, rfl, rfl⟩

theorem again : (⟨[text b], [], [false]⟩ : Haul).Covers p text (kept ++ [b]) [] where
  taken_eq := rfl
  seen_eq := by simp
  steps_eq := by simp

theorem stopped (hp : p (text b) = false) :
    (⟨[text b], [], [false]⟩ : Haul).Covers p text kept [b] where
  taken_eq := by simp [hp]
  seen_eq := by simp [hp]
  steps_eq := by simp [hp]

theorem take (hp : p (text b) = true) (h : haul.Covers p text kept rest) :
    (⟨text b :: haul.seen, b :: haul.taken, haul.steps⟩ : Haul).Covers p text kept
      (b :: rest) where
  taken_eq := by simp [hp, h.taken_eq]
  seen_eq := by
    -- without more to come the last one is the one that was taken
    cases rest with
    | nil => simp [hp, h.seen_eq]
    | cons b' rest => simp [hp, h.seen_eq, List.getLast?_cons_cons]
  steps_eq := by
    cases rest with
    | nil => simp [hp, h.steps_eq]
    | cons b' rest => simp [hp, h.steps_eq]

theorem pass (hp : p (text b) = false) (hrest : rest ≠ [])
    (h : haul.Covers p text (kept ++ [b]) rest) :
    (⟨text b :: haul.seen, haul.taken, true :: haul.steps⟩ : Haul).Covers p text kept
      (b :: rest) where
  taken_eq := by simp [hp, h.taken_eq]
  seen_eq := by
    obtain ⟨b', rest, rfl⟩ := List.exists_cons_of_ne_nil hrest
    simp [hp, h.seen_eq, List.getLast?_cons_cons]
  steps_eq := by
    obtain ⟨b', rest, rfl⟩ := List.exists_cons_of_ne_nil hrest
    simp [hp, h.steps_eq, List.replicate_succ]

/-- Where nothing is wanted, each element is looked at once, and all but the last are passed. -/
theorem of_none (h : haul.Covers p text [] todo) (hnot : ∀ b ∈ todo, p (text b) = false) :
    haul.seen = todo.map text ∧ haul.taken = [] ∧
      haul.steps = List.replicate (todo.length - 1) true
        ++ (if todo = [] then [] else [false]) := by
  have hleft : (todo.filter fun b => !p (text b)) = todo :=
    List.filter_eq_self.mpr fun b hb => by rw [hnot b hb]; rfl
  have htaken : (todo.filter fun b => p (text b)) = [] :=
    List.filter_eq_nil_iff.mpr fun b hb => by simp [hnot b hb]
  have hpassed : (todo.dropLast.countP fun b => !p (text b)) = todo.dropLast.length :=
    List.countP_eq_length.mpr fun b hb => by simp [hnot b (List.dropLast_subset todo hb)]
  refine ⟨?_, h.taken_eq.trans htaken, ?_⟩
  · rw [h.seen_eq, hleft]
    rcases List.eq_nil_or_concat todo with rfl | ⟨front, b, rfl⟩
    · rfl
    · simp [hnot b (by simp)]
  · rw [h.steps_eq, hpassed, hleft, List.length_dropLast, List.nil_append]

end Haul.Covers

/-! ### From beginning to end -/

variable {text : BufferId → String}

/-- A round in which the first of the elements to come is wanted. -/
theorem Halfway.takes (h : s.Halfway name r kept (b :: rest)) (hp : p (s.world.text b) = true) :
    ∃ next, next.Halfway name r kept rest ∧ s.Wears r 1 next ∧
      ∀ haul s', Sweeps name p next haul s' →
        Sweeps name p s ⟨s.world.text b :: haul.seen, b :: haul.taken, haul.steps⟩ s' := by
  obtain ⟨hlooks, hlooked, hwears⟩ := h.look h.parted.current_eq
  obtain ⟨hout, hafter, hwears'⟩ := hlooked.take
  exact ⟨_, hafter, hwears.trans hwears', fun haul s' => .taken hlooks hp hout⟩

/-- A round in which it is not, and is not the last. -/
theorem Halfway.passes (h : s.Halfway name r kept (b :: rest)) (hp : p (s.world.text b) = false)
    (hrest : rest ≠ []) :
    ∃ next, next.Halfway name r (kept ++ [b]) rest ∧ s.Wears r 0 next ∧
      ∀ haul s', Sweeps name p next haul s' →
        Sweeps name p s ⟨s.world.text b :: haul.seen, haul.taken, true :: haul.steps⟩ s' := by
  obtain ⟨hlooks, hlooked, hwears⟩ := h.look h.parted.current_eq
  obtain ⟨hadvance, hafter, hwears'⟩ := hlooked.pass hrest
  exact ⟨_, hafter, hwears.trans hwears', fun haul s' => .passed hlooks hp hadvance⟩

/-- The last round: the last element is not wanted, and there is none to go on to. -/
theorem Halfway.ends (h : s.Halfway name r kept [b]) (hp : p (s.world.text b) = false) :
    ∃ s', Sweeps name p s ⟨[s.world.text b], [], [false]⟩ s' ∧
      s'.Halfway name r (kept ++ [b]) [] ∧ s.Wears r 0 s' := by
  obtain ⟨hlooks, hlooked, hwears⟩ := h.look h.parted.current_eq
  obtain ⟨hadvance, hstopped, hwears'⟩ := hlooked.stop
  exact ⟨_, .stopped hlooks hp hadvance,
    ⟨hstopped.owned, hstopped.holds, Roll.Parted.last_iff.mp hstopped.parted⟩,
    hwears.trans hwears'⟩

/-- Without elements there is no round. -/
theorem Halfway.ends_empty (h : s.Halfway name r [] []) :
    ∃ s', Sweeps name p s ⟨[], [], []⟩ s' ∧ s'.Halfway name r [] [] ∧ s.Wears r 0 s' := by
  have htruth := h.holds.answers_truth
  have hzero : (s.world.roll r).length = 0 := by
    rw [← (h.owned.wellFormed r).length_elements, h.parted.elements_eq]
    rfl
  have hempty : s.hears (.ask name .truth) = some (.ok (.bool false)) := by
    rw [htruth.hears_eq, hzero]
    rfl
  have hsame : s.move (.ask name .truth) = s := htruth.move_eq
  refine ⟨_, .emptied hempty, ?_⟩
  rw [hsame]
  exact ⟨h, .refl s r⟩

/-- **The rest of a sweep,** from any moment between two rounds: it ends, it has what was wanted of
the elements that were to come, and the others are left behind those that were passed before. -/
theorem Halfway.sweeps (h : s.Halfway name r kept todo)
    (htext : ∀ b ∈ kept ++ todo, s.world.text b = text b)
    (hkept : ∀ b ∈ kept, p (text b) = false) :
    ∃ haul s', Sweeps name p s haul s' ∧ haul.Covers p text kept todo ∧
      s'.Halfway name r (kept ++ todo.filter fun b => !p (text b)) [] ∧
      s.Wears r haul.taken.length s' := by
  induction todo generalizing s kept with
  | nil =>
    rw [List.filter_nil, List.append_nil]
    rcases List.eq_nil_or_concat kept with rfl | ⟨passed, b, rfl⟩
    · obtain ⟨s', hsweeps, hend, hwears⟩ := h.ends_empty (p := p)
      exact ⟨_, s', hsweeps, .nothing, hend, hwears⟩
    · -- what was to come behind the last one that was passed has been taken out
      rw [List.concat_eq_append] at h htext hkept ⊢
      have hsame := htext b (by simp)
      have hlast : s.Halfway name r passed [b] :=
        ⟨h.owned, h.holds, Roll.Parted.last_iff.mpr h.parted⟩
      obtain ⟨s', hsweeps, hend, hwears⟩ := hlast.ends (p := p) (hsame ▸ hkept b (by simp))
      exact ⟨_, s', hsweeps, hsame ▸ .again, hend, hwears⟩
  | cons b rest ih =>
    have hsame := htext b (by simp)
    cases hp : p (text b) with
    | true =>
      have hleft : kept ++ rest ⊆ kept ++ b :: rest :=
        ((List.sublist_cons_self b rest).append_left kept).subset
      obtain ⟨next, hnext, hwears, hround⟩ := h.takes (p := p) (hsame ▸ hp)
      obtain ⟨haul, s', hsweeps, hcovers, hend, hlater⟩ :=
        ih hnext (h.text_eq hwears htext hleft) hkept
      refine ⟨_, s', hround haul s' hsweeps, hsame ▸ hcovers.take hp, ?_, ?_⟩
      · simpa [hp] using hend
      · rw [List.length_cons, Nat.add_comm]
        exact hwears.trans hlater
    | false =>
      by_cases hrest : rest = []
      · subst hrest
        obtain ⟨s', hsweeps, hend, hwears⟩ := h.ends (p := p) (hsame ▸ hp)
        refine ⟨_, s', hsweeps, hsame ▸ .stopped hp, ?_, hwears⟩
        simpa [hp] using hend
      · have hkept' : ∀ b' ∈ kept ++ [b], p (text b') = false := by
          simpa [or_imp, forall_and, hp] using hkept
        have hleft : kept ++ [b] ++ rest ⊆ kept ++ b :: rest :=
          List.append_cons kept b rest ▸ List.Subset.refl _
        obtain ⟨next, hnext, hwears, hround⟩ := h.passes (p := p) (hsame ▸ hp) hrest
        obtain ⟨haul, s', hsweeps, hcovers, hend, hlater⟩ :=
          ih hnext (h.text_eq hwears htext hleft) hkept'
        refine ⟨_, s', hround haul s' hsweeps, hsame ▸ hcovers.pass hp hrest, ?_, ?_⟩
        · simpa [hp] using hend
        · exact Nat.zero_add haul.taken.length ▸ hwears.trans hlater

/-- **Walking along a roll and taking out what is wanted ends,** and takes out nothing else.  This
holds of every roll of a reachable session, held directly or through guards, and of whatever texts
are wanted. -/
theorem sweep_exact (hs : s.Reachable) (hheld : s.Holds name r) (p : String → Bool) :
    let begun := s.move (.ask name .rewind)
    let elements := s.world.elements r
    ∃ haul ended,
      -- the loop ends without a failure, and this is the only way in which it goes
      Sweeps name p begun haul ended ∧
      (∀ haul' ended', Sweeps name p begun haul' ended' → haul' = haul ∧ ended' = ended) ∧
      -- it has a round for each element, and at most one more
      elements.length ≤ haul.seen.length ∧ haul.seen.length ≤ elements.length + 1 ∧
      -- what is handed out is what was wanted, and what is left are the others, both in order
      haul.taken = elements.filter (fun b => p (s.world.text b)) ∧
      ended.world.elements r = elements.filter (fun b => !p (s.world.text b)) ∧
      ended.world.texts r = (s.world.texts r).filter (fun t => !p t) ∧
      (∀ b ∈ elements, ended.world.text b = s.world.text b) ∧
      (ended.world.roll r).capacity = (s.world.roll r).capacity ∧
      -- where nothing is wanted, each element is looked at once, and all but the last are passed
      ((∀ t ∈ s.world.texts r, p t = false) →
        haul.seen = s.world.texts r ∧
        haul.steps = List.replicate (elements.length - 1) true
          ++ (if elements = [] then [] else [false]) ∧
        -- and in the end the roll is as it was, with its cursor at the last element
        ended.world.texts r = s.world.texts r ∧
        ended.world.roll r = { s.world.roll r with
          cursor := elements.length - 1
          cursorOrigin := (ended.world.roll r).cursorOrigin
          moves := (ended.world.roll r).moves }) := by
  intro begun elements
  have howned := hs.owned
  obtain ⟨hbegun, hrewound⟩ := halfway_rewound howned hheld
  have htext : ∀ b ∈ elements, begun.world.text b = s.world.text b := fun b hb =>
    hrewound.keepsTexts.text_eq b (howned.issued r b hb)
  obtain ⟨haul, ended, hsweeps, hcovers, hend, hwears⟩ := hbegun.sweeps (p := p) htext nofun
  have hall := hrewound.trans hwears
  have hkept : ∀ b ∈ elements, ended.world.text b = s.world.text b := fun b hb =>
    hall.keepsTexts.text_eq b (howned.issued r b hb)
  have hleft : ended.world.elements r = elements.filter fun b => !p (s.world.text b) := by
    have helements : ended.world.elements r = _ := hend.parted.elements_eq
    rw [helements, List.append_nil, List.nil_append]
  have htexts : ended.world.texts r = (s.world.texts r).filter fun t => !p t := by
    show (ended.world.elements r).map ended.world.text = (elements.map s.world.text).filter _
    rw [hleft, List.filter_map]
    exact List.map_congr_left fun b hb => hkept b (List.mem_of_mem_filter hb)
  have hseen := hcovers.seen_eq
  refine ⟨haul, ended, hsweeps, fun _ _ h => hsweeps.unique h, ?_, ?_, hcovers.taken_eq, hleft,
    htexts, hkept, hall.worn.capacity_eq, fun hnone => ?_⟩
  · rw [hseen, List.length_append, List.length_map]
    exact Nat.le_add_right _ _
  · rw [hseen, List.length_append, List.length_map]
    refine Nat.add_le_add_left ?_ _
    split
    · exact Option.length_toList_le
    · exact Nat.zero_le _
  · have hnot : ∀ b ∈ elements, p (s.world.text b) = false := fun b hb =>
      hnone _ (List.mem_map_of_mem hb)
    obtain ⟨hlooked, hnothing, hpassed⟩ := hcovers.of_none hnot
    have hothers : (elements.filter fun b => !p (s.world.text b)) = elements :=
      List.filter_eq_self.mpr fun b hb => by rw [hnot b hb]; rfl
    have hsame : ended.world.elements r = elements := hleft.trans hothers
    have hworn := hall.worn
    rw [hnothing] at hworn
    have hroll := (howned.wellFormed r).eq_of_worn (hend.owned.wellFormed r) hworn hsame
    have hcursor : (ended.world.roll r).cursor = elements.length - 1 := by
      rw [hend.parted.cursor_eq, List.append_nil, List.nil_append, hothers]
      exact Nat.min_eq_right (Nat.sub_le _ 1)
    refine ⟨hlooked, hpassed, ?_, hcursor ▸ hroll⟩
    rw [htexts]
    exact List.filter_eq_self.mpr fun t ht => by rw [hnone t ht]; rfl

/-- Of three texts the first and the last are wanted.  When the last one is taken out, the cursor
falls back to the one that was passed, and the loop ends there. -/
theorem sweep_exact_fallback :
    let s := initial.after
      [.call (.serve .makeRoll []) (some "a"), .call (.ask "a" .add [.text 0 "x"]) none,
        .call (.ask "a" .add [.text 1 "y"]) none, .call (.ask "a" .add [.text 2 "x"]) none]
    s.Reachable ∧ s.Holds "a" ⟨0⟩ ∧ ∃ haul ended,
      Sweeps "a" (· == "x") (s.move (.ask "a" .rewind)) haul ended ∧ haul.taken = [⟨0⟩, ⟨2⟩] ∧
        ended.world.elements ⟨0⟩ = [⟨1⟩] ∧ ended.world.texts ⟨0⟩ = ["y"] := by
  intro s
  have hreachable : s.Reachable := ⟨_, rfl⟩
  have hheld : s.Holds "a" ⟨0⟩ := ⟨.roll ⟨0⟩, rfl, rfl⟩
  have helements : s.world.elements ⟨0⟩ = [⟨0⟩, ⟨1⟩, ⟨2⟩] := by decide +kernel
  have htexts : s.world.texts ⟨0⟩ = ["x", "y", "x"] := by decide +kernel
  have hwanted : ([⟨0⟩, ⟨1⟩, ⟨2⟩] : List BufferId).map (s.world.text ·) = ["x", "y", "x"] := by
    rw [← helements]
    exact htexts
  obtain ⟨haul, ended, hsweeps, -, -, -, htaken, hleft, hothers, -⟩ :=
    sweep_exact hreachable hheld (· == "x")
  clear_value s
  simp only [List.map_cons, List.map_nil, List.cons.injEq, and_true] at hwanted
  obtain ⟨h₀, h₁, h₂⟩ := hwanted
  rw [helements] at htaken hleft
  rw [htexts] at hothers
  refine ⟨hreachable, hheld, haul, ended, hsweeps, htaken.trans ?_, hleft.trans ?_, hothers⟩
  · simp [h₀, h₁, h₂]
  · simp [h₀, h₁, h₂]

end Session

end TextRoll
