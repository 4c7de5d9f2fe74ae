/-
TextRoll/Proofs/Session/LazyWalks.lean

A lazy walk while its roll changes.

A walk over a roll may be asked for its next element at any moments of a run, and in between
anything may happen to the roll.  How far the walk has come depends on these moments alone
(`Session.progressOf`): the first one fixes how many elements are to be handed out, each of them
takes a turn, and the first one that fails ends the walk.  By induction over the run this is what
the walk is left as (`walk_after`); what the next asking comes to then follows from the roll at
that moment (`asked_after`).

So an asking tells of the slot whose turn it is as it is by then, and `walks_interleaved` lists all
that can come of it.  If nothing is taken out of the roll meanwhile, these are the elements that
there were at the first moment, in order.
-/
import TextRoll.Proofs.Session.Askings
import TextRoll.Proofs.Session.Losses
import TextRoll.Proofs.Session.Watching

namespace TextRoll

namespace Session

variable {s : Session} {k : WalkId} {r : RollId} {m : Move} {ms : List Move}
  {xs : List (Session × Move)}

/-- The moments of a run at which a walk is asked for its next element: the session by then, and the
move that asks. -/
def askings (s : Session) (k : WalkId) : List Move → List (Session × Move)
  | [] => []
  | m :: ms => (if s.asksNext k m then [(s, m)] else []) ++ askings (s.move m) k ms

/-- The move goes along a walk one element at a time, if at all. -/
def OneByOne (k : WalkId) (s : Session) (m : Move) : Prop :=
  s.movesWalk k m = true → s.asksNext k m = true

instance (k : WalkId) (s : Session) (m : Move) : Decidable (OneByOne k s m) :=
  inferInstanceAs (Decidable (_ → _))

/-- Whether a move at one of some moments fails. -/
def anyFails (xs : List (Session × Move)) : Bool := xs.any fun x => x.1.fails x.2

/-- The session at the first of some moments, or this one if there are none. -/
def firstOf (xs : List (Session × Move)) (s : Session) : Session :=
  (xs.head?.map Prod.fst).getD s

/-- The text of the buffer that a move shows, if it shows one. -/
def bufferShown? (s : Session) (m : Move) : Option String :=
  match s.hears m with
  | some (.ok (.buffer text)) => some text
  | _ => none

/-- The texts of the buffers that some moves show, in order. -/
def buffersShown (xs : List (Session × Move)) : List String :=
  xs.filterMap fun x => x.1.bufferShown? x.2

/-- How far a walk over a roll has come that was asked for its next element at these moments. -/
def progressOf (r : RollId) (xs : List (Session × Move)) : Progress :=
  match xs with
  | [] => .unstarted
  | (s, _) :: _ => if anyFails xs then .finished else .running xs.length (s.world.roll r).length

/-! ### Moments -/

theorem askings_concat (s : Session) (k : WalkId) (ms : List Move) (m : Move) :
    s.askings k (ms ++ [m])
      = s.askings k ms ++ if (s.after ms).asksNext k m then [(s.after ms, m)] else [] := by
  induction ms generalizing s with
  | nil => exact List.append_nil _
  | cons m' ms ih =>
    rw [List.cons_append, askings, ih, ← List.append_assoc]
    rfl

@[simp] theorem anyFails_concat (xs : List (Session × Move)) (s : Session) (m : Move) :
    anyFails (xs ++ [(s, m)]) = (anyFails xs || s.fails m) := by
  simp [anyFails]

@[simp] theorem buffersShown_concat (xs : List (Session × Move)) (s : Session) (m : Move) :
    buffersShown (xs ++ [(s, m)]) = buffersShown xs ++ (s.bufferShown? m).toList := by
  cases hshown : s.bufferShown? m <;> simp [buffersShown, hshown]

theorem firstOf_concat (xs : List (Session × Move)) (s s' : Session) (m : Move) :
    firstOf (xs ++ [(s, m)]) s' = firstOf xs s := by
  cases xs <;> rfl

theorem firstOf_of_ne_nil (h : xs ≠ []) (s s' : Session) : firstOf xs s = firstOf xs s' := by
  cases xs with
  | nil => exact absurd rfl h
  | cons x xs => rfl

theorem progressOf_concat (r : RollId) (xs : List (Session × Move)) (s : Session) (m : Move) :
    progressOf r (xs ++ [(s, m)])
      = if anyFails xs || s.fails m then .finished
        else .running (xs.length + 1) ((firstOf xs s).world.roll r).length := by
  rw [← anyFails_concat]
  cases xs with
  | nil => rfl
  | cons x xs => simp [progressOf, firstOf]

theorem fails_of_hears {fault : Fault} (h : s.hears m = some (.error fault)) :
    s.fails m = true ∧ s.bufferShown? m = none := by
  unfold fails bufferShown?
  rw [h]
  exact ⟨rfl, rfl⟩

theorem shows_of_hears {text : String} (h : s.hears m = some (.ok (.buffer text))) :
    s.fails m = false ∧ s.bufferShown? m = some text := by
  unfold fails bufferShown?
  rw [h]
  exact ⟨rfl, rfl⟩

/-- The first moment splits the run. -/
theorem exists_firstOf (h : s.askings k ms ≠ []) (s' : Session) :
    ∃ made m later, ms = made ++ m :: later ∧ (s.after made).asksNext k m = true ∧
      firstOf (s.askings k ms) s' = s.after made := by
  induction ms generalizing s with
  | nil => exact absurd rfl h
  | cons m ms ih =>
    by_cases hasks : s.asksNext k m = true
    · refine ⟨[], m, ms, rfl, hasks, ?_⟩
      simp [askings, hasks, firstOf]
    · have hlater : s.askings k (m :: ms) = (s.move m).askings k ms := by simp [askings, hasks]
      rw [hlater] at h ⊢
      obtain ⟨made, m', later, rfl, hasks', hfirst⟩ := ih h
      exact ⟨m :: made, m', later, rfl, hasks', hfirst⟩

/-- Where a walk is asked in a run, there is a moment at which it is. -/
theorem askings_ne_nil {made later : List Move} (h : (s.after made).asksNext k m = true) :
    s.askings k (made ++ m :: later) ≠ [] := by
  induction made generalizing s with
  | nil =>
    replace h : s.asksNext k m = true := h
    simp [askings, h]
  | cons m' made ih =>
    intro hnil
    exact ih h (List.append_eq_nil_iff.mp hnil).2

/-! ### How far the walk has come -/

/-- Askings that went well leave a walk at the turn after them. -/
theorem walksAt_of_progressOf (h : s.world.walk k = .overRoll r (progressOf r xs))
    (hfine : anyFails xs = false) :
    s.world.WalksAt k r xs.length ((firstOf xs s).world.roll r).length := by
  cases xs with
  | nil => exact .inl ⟨h, rfl, rfl⟩
  | cons x xs =>
    refine .inr (h.trans ?_)
    simp [progressOf, hfine, firstOf]

/-- An asking that failed leaves a walk finished. -/
theorem progressOf_of_anyFails (hfailed : anyFails xs = true) :
    progressOf r xs = .finished := by
  cases xs with
  | nil => cases hfailed
  | cons x xs => simp [progressOf, hfailed]

/-- What an asking comes to, if the walk has come as far as it should have. -/
theorem asked_of_progressOf (hs : s.world.Owned) (hm : s.asksNext k m = true)
    (hwalk : s.world.walk k = .overRoll r (progressOf r xs)) :
    (anyFails xs = true ∧ s.hears m = some (.error .exhausted) ∧
        (s.move m).world.walk k = .overRoll r .finished) ∨
      (anyFails xs = false ∧
        s.AskedAt m k r xs.length ((firstOf xs s).world.roll r).length) := by
  cases hfailed : anyFails xs with
  | true =>
    rw [progressOf_of_anyFails hfailed] at hwalk
    obtain ⟨hhears, hwalk'⟩ := asked_of_finished hm hwalk
    exact .inl ⟨rfl, hhears, hwalk'⟩
  | false => exact .inr ⟨rfl, asked_of_walksAt hs hm (walksAt_of_progressOf hwalk hfailed)⟩

/-- An asking that fails ends the walk, and shows nothing; one that goes well shows a text, and
takes the walk to the next turn. -/
theorem AskedAt.fails_or_shows {turn bound : Nat} (h : s.AskedAt m k r turn bound) :
    (s.fails m = true ∧ s.bufferShown? m = none ∧
        (s.move m).world.walk k = .overRoll r .finished) ∨
      (turn < bound ∧ s.fails m = false ∧ (∃ text, s.bufferShown? m = some text) ∧
        (s.move m).world.walk k = .overRoll r (.running (turn + 1) bound)) := by
  cases h with
  | copied hturn htext hhears hnew hwalk =>
    obtain ⟨hfine, hshows⟩ := shows_of_hears hhears
    exact .inr ⟨hturn, hfine, ⟨_, hshows⟩, hwalk⟩
  | finished _ hhears hwalk | empty _ _ _ hhears hwalk | missing _ _ hhears hwalk =>
    obtain ⟨hfails, hshows⟩ := fails_of_hears hhears
    exact .inl ⟨hfails, hshows, hwalk⟩

/-- **One asking** takes the walk as far as it should. -/
theorem walk_asksNext (hs : s.world.Owned) (hm : s.asksNext k m = true)
    (hwalk : s.world.walk k = .overRoll r (progressOf r xs)) :
    (s.move m).world.walk k = .overRoll r (progressOf r (xs ++ [(s, m)])) := by
  rw [progressOf_concat]
  rcases asked_of_progressOf hs hm hwalk with ⟨hfailed, -, hwalk'⟩ | ⟨hfine, hasked⟩
  · rw [hfailed]
    exact hwalk'
  · rw [hfine]
    rcases hasked.fails_or_shows with ⟨hfails, -, hwalk'⟩ | ⟨-, hgoes, -, hwalk'⟩
    · rw [hfails]
      exact hwalk'
    · rw [hgoes]
      exact hwalk'

/-- Where there is no walk, there is one over nothing; any other has a place. -/
theorem lt_size_of_walk (h : s.world.walk k ≠ .overItems .items []) :
    k.index < s.world.walks.size := by
  by_contra hnone
  exact h (s.world.walks.get_of_size_le (Nat.le_of_not_lt hnone))

/-- Unless it is asked for its next element, a walk stays where it is. -/
theorem walk_move_of_oneByOne (hplaced : s.world.walk k ≠ .overItems .items [])
    (hm : OneByOne k s m) (hasks : s.asksNext k m = false) :
    (s.move m).world.walk k = s.world.walk k := by
  have hleaves : s.movesWalk k m = false := by
    by_contra hmoves
    rw [hm (by simpa using hmoves)] at hasks
    cases hasks
  exact (leavesWalk_move hleaves (lt_size_of_walk hplaced)).2

/-- **Any run** leaves a walk as far as its askings take it. -/
theorem walk_after (hs : s.world.Owned) (hwalk : s.world.walk k = .overRoll r .unstarted)
    (hms : s.Along (OneByOne k) ms) :
    (s.after ms).world.walk k = .overRoll r (progressOf r (s.askings k ms)) := by
  induction ms using List.reverseRecOn with
  | nil => exact hwalk
  | append_singleton ms m ih =>
    obtain ⟨hbefore, hm, -⟩ := along_append.mp hms
    have hnow := ih hbefore
    rw [askings_concat, after_append]
    cases hasks : (s.after ms).asksNext k m with
    | true => exact walk_asksNext (owned_after hs ms) hasks hnow
    | false =>
      have hplaced : (s.after ms).world.walk k ≠ .overItems .items [] := by
        rw [hnow]
        nofun
      simpa using (walk_move_of_oneByOne hplaced hm hasks).trans hnow

/-- **What an asking after a run comes to.** -/
theorem asked_after (hs : s.world.Owned) (hwalk : s.world.walk k = .overRoll r .unstarted)
    (hms : s.Along (OneByOne k) ms) (hm : (s.after ms).asksNext k m = true) :
    let xs := s.askings k ms
    let now := s.after ms
    (anyFails xs = true ∧ now.hears m = some (.error .exhausted)) ∨
      (anyFails xs = false ∧
        now.AskedAt m k r xs.length ((firstOf xs now).world.roll r).length) := by
  intro xs now
  rcases asked_of_progressOf (owned_after hs ms) hm (walk_after hs hwalk hms) with
    ⟨hfailed, hhears, -⟩ | hgoes
  · exact .inl ⟨hfailed, hhears⟩
  · exact .inr hgoes

/-! ### What the walk hands out -/

theorem owned_firstOf (hs : s.world.Owned) (k : WalkId) (ms : List Move) :
    (firstOf (s.askings k ms) (s.after ms)).world.Owned := by
  by_cases hnone : s.askings k ms = []
  · rw [hnone]
    exact owned_after hs ms
  · obtain ⟨made, -, -, -, -, hfirst⟩ := exists_firstOf hnone (s.after ms)
    rw [hfirst]
    exact owned_after hs made

/-- **A walk hands out as many elements as there were** when the first one was asked for, or fewer;
and as long as no asking fails, each of them hands out one. -/
theorem length_buffersShown (hs : s.world.Owned)
    (hwalk : s.world.walk k = .overRoll r .unstarted) (hms : s.Along (OneByOne k) ms) :
    let xs := s.askings k ms
    (buffersShown xs).length ≤ ((firstOf xs (s.after ms)).world.roll r).length ∧
      (anyFails xs = false → (buffersShown xs).length = xs.length) := by
  induction ms using List.reverseRecOn with
  | nil => exact ⟨Nat.zero_le _, fun _ => rfl⟩
  | append_singleton ms m ih =>
    obtain ⟨hbefore, hm, -⟩ := along_append.mp hms
    obtain ⟨hle, hfine⟩ := ih hbefore
    dsimp only
    rw [askings_concat]
    by_cases hasks : (s.after ms).asksNext k m = true
    · rw [if_pos hasks, firstOf_concat, anyFails_concat, buffersShown_concat]
      rcases asked_after hs hwalk hbefore hasks with ⟨hfailed, hhears⟩ | ⟨hno, hasked⟩
      · obtain ⟨hfails, hshows⟩ := fails_of_hears hhears
        simp [hfails, hshows, hle]
      · rcases hasked.fails_or_shows with ⟨hfails, hshows, -⟩ | ⟨hturn, -, ⟨text, hshows⟩, -⟩
        · simp [hfails, hshows, hle]
        · have hmany := hfine hno
          simp only [hshows, Option.toList_some, List.length_append, List.length_singleton]
          omega
    · rw [if_neg hasks, List.append_nil]
      refine ⟨?_, hfine⟩
      by_cases hnone : s.askings k ms = []
      · rw [hnone]
        exact Nat.zero_le _
      · rwa [firstOf_of_ne_nil hnone _ (s.after ms)]

/-- Where the elements that there were are there still, a turn shows the one whose turn it is. -/
theorem AskedAt.bufferShown?_eq {turn : Nat} {texts : List String} (hs : s.world.Owned)
    (h : s.AskedAt m k r turn texts.length) (hstart : texts <+: s.world.texts r) :
    s.bufferShown? m = texts[turn]? ∧ (s.fails m = true → texts.length ≤ turn) := by
  have hwell := hs.wellFormed r
  have hlength : texts.length ≤ (s.world.roll r).length :=
    World.length_texts hwell ▸ hstart.length_le
  cases h with
  | finished hover hhears =>
    obtain ⟨-, hshows⟩ := fails_of_hears hhears
    exact ⟨hshows.trans (List.getElem?_eq_none hover).symm, fun _ => hover⟩
  | copied hturn htext hhears =>
    obtain ⟨hfine, hshows⟩ := shows_of_hears hhears
    obtain ⟨rest, hrest⟩ := hstart
    rw [← hrest, List.getElem?_append_left hturn] at htext
    exact ⟨hshows.trans htext.symm, fun hfails => by rw [hfine] at hfails; cases hfails⟩
  | empty hturn hle => exact absurd hle (Nat.not_le.mpr (Nat.lt_of_lt_of_le hturn hlength))
  | missing hturn hle =>
    have hroom := Nat.le_trans hlength hwell.length_le
    exact absurd hle (Nat.not_le.mpr (Nat.lt_of_lt_of_le hturn hroom))

/-- **If no element goes, the walk hands out those there were,** in order, and fails only when all
have been handed out. -/
theorem buffersShown_eq_take (hs : s.world.Owned)
    (hwalk : s.world.walk k = .overRoll r .unstarted) (hms : s.Along (OneByOne k) ms)
    (hspares : ∀ made m later, ms = made ++ m :: later → s.askings k made ≠ [] →
      (s.after made).SparesElements r m) :
    let xs := s.askings k ms
    let first := firstOf xs (s.after ms)
    first.world.texts r <+: (s.after ms).world.texts r ∧
      buffersShown xs = (first.world.texts r).take xs.length ∧
      (anyFails xs = true → (first.world.texts r).length ≤ xs.length) := by
  induction ms using List.reverseRecOn with
  | nil => exact ⟨List.prefix_rfl, rfl, nofun⟩
  | append_singleton ms m ih =>
    obtain ⟨hbefore, hm, -⟩ := along_append.mp hms
    obtain ⟨hstart, hshown, hfails⟩ := ih hbefore fun made m' later hmade =>
      hspares made m' (later ++ [m]) (by rw [hmade, List.append_assoc, List.cons_append])
    have hnow := owned_after hs ms
    dsimp only
    rw [askings_concat, after_append, after_cons, after_nil]
    by_cases hasks : (s.after ms).asksNext k m = true
    · rw [if_pos hasks, firstOf_concat, anyFails_concat, buffersShown_concat, hshown,
        List.length_append, List.length_singleton, texts_asksNext hnow hasks r, List.take_add_one]
      have hlength := World.length_texts ((owned_firstOf hs k ms).wellFormed r)
      rcases asked_after hs hwalk hbefore hasks with ⟨hfailed, hhears⟩ | ⟨hfine, hasked⟩
      · -- the turns were over before
        have hover := hfails hfailed
        rw [(fails_of_hears hhears).2, List.getElem?_eq_none hover]
        exact ⟨hstart, rfl, fun _ => Nat.le_succ_of_le hover⟩
      · rw [← hlength] at hasked
        obtain ⟨hshows, hover⟩ := hasked.bufferShown?_eq hnow hstart
        rw [hshows, hfine, Bool.false_or]
        exact ⟨hstart, rfl, fun hno => Nat.le_succ_of_le (hover hno)⟩
    · rw [if_neg hasks, List.append_nil]
      by_cases hnone : s.askings k ms = []
      · rw [hnone]
        exact ⟨List.prefix_rfl, rfl, nofun⟩
      · rw [firstOf_of_ne_nil hnone _ (s.after ms)]
        exact ⟨hstart.trans (texts_prefix_move hnow (hspares ms m [] rfl hnone)), hshown, hfails⟩

/-- If there are fewer slots than when the first element was asked for, storage was given back
since. -/
theorem exists_releases_since (hs : s.world.Owned)
    (h : ((s.after ms).world.roll r).capacity
      < ((firstOf (s.askings k ms) (s.after ms)).world.roll r).capacity) :
    ∃ made m later, ms = made ++ m :: later ∧ s.askings k made ≠ [] ∧
      (s.after made).Releases r m := by
  have hsome : s.askings k ms ≠ [] := by
    intro hnone
    rw [hnone] at h
    exact Nat.lt_irrefl _ h
  obtain ⟨made, m, later, rfl, hasks, hfirst⟩ := exists_firstOf hsome (s.after ms)
  have hmade := owned_after hs made
  rw [hfirst, ← roll_asksNext hmade.wellFormed hasks, after_append, after_cons] at h
  obtain ⟨made', m', later', rfl, hreleases⟩ := exists_releases (owned_move hmade m) h
  refine ⟨made ++ m :: made', m', later', by simp, askings_ne_nil hasks, ?_⟩
  rwa [after_append, after_cons]

/-! ### The main statement -/

/-- A walk that is begun over a roll is lazy, and has a place of its own; no text is touched. -/
theorem walk_begun {target : String} (htarget : s.register target = .ok (.roll r)) (name : String) :
    let k : WalkId := ⟨s.world.walks.size, .slots⟩
    let started := s.move (.call (.ask target .walk []) (some name))
    started.register name = .ok (.walk k) ∧ started.world.walk k = .overRoll r .unstarted ∧
      ∀ r', started.world.texts r' = s.world.texts r' := by
  intro k started
  have hperform : ((Call.ask target .walk []).perform s).run s.world
      = .ok (.roll r, .draft (.walk (.overRoll r .unstarted))) s.world := by
    rw [run_perform_ask htarget rfl]
    rfl
  refine ⟨register_move_call hperform, ?_⟩
  have hworld : started.world = (s.world.addWalk (.overRoll r .unstarted)).2 := by
    show (s.move (.call (.ask target .walk []) (some name))).world = _
    rw [world_move_call, hperform]
    rfl
  rw [hworld]
  exact ⟨s.world.walks.get_issue_self _, fun r' => rfl⟩

/-- **A lazy walk while its roll changes.**  In whatever run a walk over a roll is asked for its
next element, and whatever happens in between, each asking looks at the slot whose turn it is as it
is by then; how many turns there are is fixed by the first one. -/
theorem walks_interleaved (hs : s.Reachable) {target : String}
    (htarget : s.register target = .ok (.roll r)) (name : String) :
    let k : WalkId := ⟨s.world.walks.size, .slots⟩
    let started := s.move (.call (.ask target .walk []) (some name))
    started.register name = .ok (.walk k) ∧
    -- what is asked of walks spares all elements, and so does what is asked of the roll, unless it
    -- is to take elements out
    (∀ (s' : Session) m asked verb args, s'.request? m = some (asked, verb, args) →
      (∃ k', asked = .walk k') ∨
        asked.rollId? = some r ∧ verb ∉ [.remove, .removeAt, .clear] → s'.SparesElements r m) ∧
    ∀ ms : List Move, started.Along (OneByOne k) ms →
      let now := started.after ms
      let asked := started.askings k ms
      let first := firstOf asked now
      let bound := (first.world.roll r).length
      -- no more elements are handed out than there were when the first one was asked for
      (buffersShown asked).length ≤ bound ∧
      -- they are those, in order, if since then none was taken out and none was edited
      ((∀ made m later, ms = made ++ m :: later → started.askings k made ≠ [] →
          (started.after made).SparesElements r m) →
        buffersShown asked = (first.world.texts r).take asked.length ∧
          (bound ≤ asked.length → buffersShown asked = first.world.texts r)) ∧
      -- whatever comes next, asking once more changes no roll
      ∀ m, now.asksNext k m = true →
        let l := now.world.roll r
        let turn := asked.length
        (∀ r', (now.move m).world.roll r' = now.world.roll r' ∧
          (now.move m).world.texts r' = now.world.texts r') ∧
        -- after a failure, or when all turns are over, there is nothing more to come
        (anyFails asked = true ∨ bound ≤ turn → now.hears m = some (.error .exhausted)) ∧
        -- before that it hands out a copy of what the slot has by now
        (anyFails asked = false → turn < bound →
          (turn < l.length → ∃ text, (now.world.texts r)[turn]? = some text ∧
            now.hears m = some (.ok (.buffer text)) ∧ now.KeepsNew m text) ∧
          (l.length ≤ turn → turn < l.capacity →
            now.hears m = some (.error (.emptySlot "copy"))) ∧
          -- a slot that is not there any more went when storage was given back
          (l.capacity ≤ turn → now.hears m = some (.error .missingSlot) ∧
            ∃ made m' later, ms = made ++ m' :: later ∧ started.askings k made ≠ [] ∧
              (started.after made).Releases r m')) := by
  intro k started
  obtain ⟨hregister, hwalk, -⟩ := walk_begun htarget name
  have howned : started.world.Owned := (hs.move _).owned
  refine ⟨hregister, fun s' m asked verb args hrequest hasked => ?_, fun ms hms => ?_⟩
  · rcases hasked with ⟨k', rfl⟩ | ⟨hasked, hverb⟩
    · exact sparesElements_of_walk hrequest
    · exact sparesElements_of_request hrequest hasked hverb
  intro now asked first bound
  have hnow : now.world.Owned := owned_after howned ms
  have hfirst : (first.world.roll r).WellFormed := (owned_firstOf howned k ms).wellFormed r
  refine ⟨(length_buffersShown howned hwalk hms).1, fun hspares => ?_, fun m hasks => ?_⟩
  · obtain ⟨-, hshown, -⟩ := buffersShown_eq_take howned hwalk hms hspares
    refine ⟨hshown, fun hover => hshown.trans (List.take_of_length_le ?_)⟩
    rwa [World.length_texts hfirst]
  · intro l turn
    have hwell : l.WellFormed := hnow.wellFormed r
    refine ⟨fun r' => ⟨roll_asksNext hnow.wellFormed hasks r', texts_asksNext hnow hasks r'⟩, ?_⟩
    rcases asked_after howned hwalk hms hasks with ⟨hfailed, hhears⟩ | ⟨hfine, hasked⟩
    · refine ⟨fun _ => hhears, fun hfine => ?_⟩
      rw [hfailed] at hfine
      cases hfine
    · obtain ⟨hover, hturns⟩ := hasked.told hwell
      refine ⟨fun h => hover (h.resolve_left (Bool.eq_false_iff.mp hfine)), fun _ hturn => ?_⟩
      obtain ⟨hcopied, hempty, hmissing⟩ := hturns hturn
      refine ⟨hcopied, hempty, fun hle => ⟨hmissing hle, exists_releases_since howned ?_⟩⟩
      -- there was room for all elements when the first one was asked for
      exact Nat.lt_of_le_of_lt hle (Nat.lt_of_lt_of_le hturn hfirst.length_le)

/-- While a walk goes over three texts the first one is taken out: the walk misses the second, and
finds nothing at its third turn. -/
theorem walks_interleaved_removed :
    let s := initial.after
      [.call (.serve .makeRoll []) (some "a"), .call (.ask "a" .add [.text 0 "x"]) none,
        .call (.ask "a" .add [.text 1 "y"]) none, .call (.ask "a" .add [.text 2 "z"]) none]
    let started := s.move (.call (.ask "a" .walk []) (some "w"))
    let k : WalkId := ⟨s.world.walks.size, .slots⟩
    let next : Move := .call (.ask "w" .next []) none
    let ms : List Move := [next, .call (.ask "a" .removeAt [.int 3 0]) none, next]
    s.Reachable ∧ s.register "a" = .ok (.roll ⟨0⟩) ∧ started.Along (OneByOne k) ms ∧
      started.register "w" = .ok (.walk k) ∧ buffersShown (started.askings k ms) = ["x", "z"] ∧
      (started.after ms).hears next = some (.error (.emptySlot "copy")) ∧
      (started.after (ms ++ [next])).hears next = some (.error .exhausted) := by
  intro s started k next ms
  have hreachable : s.Reachable := ⟨_, rfl⟩
  have hregister : s.register "a" = .ok (.roll ⟨0⟩) := rfl
  have hms : started.Along (OneByOne k) ms := by decide +kernel
  have hms' : started.Along (OneByOne k) (ms ++ [next]) := by decide +kernel
  have hshown : buffersShown (started.askings k ms) = ["x", "z"] := by decide +kernel
  obtain ⟨hwalk, -, hruns⟩ := walks_interleaved hreachable hregister "w"
  obtain ⟨-, -, hturns⟩ := (hruns ms hms).2.2 next (by decide +kernel)
  obtain ⟨-, hempty, -⟩ := hturns (by decide +kernel) (by decide +kernel)
  obtain ⟨-, hover, -⟩ := (hruns (ms ++ [next]) hms').2.2 next (by decide +kernel)
  exact ⟨hreachable, hregister, hms, hwalk, hshown,
    hempty (by decide +kernel) (by decide +kernel), hover (.inl (by decide +kernel))⟩

end Session

end TextRoll
