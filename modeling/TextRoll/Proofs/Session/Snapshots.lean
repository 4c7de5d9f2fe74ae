/-
TextRoll/Proofs/Session/Snapshots.lean

Walks over guarded rolls are snapshots.

A walk over a guarded roll has copies of all texts from the start.  Whatever happens to the roll, to
its elements or to buffers that the walk handed out before, each asking takes the next copy
(`asked_of_copies`), so after any run the walk has those that are left (`copies_after`), and what it
was told is known from the number of askings alone (`hears_after`).

What is kept of such an asking is a buffer of its own.  It never becomes an element of a roll, so
nobody who edits it changes any (`keepsApart_of_copy`).

A walk over a plain roll looks at each slot when its turn comes.  As long as no move changes a text
of the roll, it is told the same (`lazy_hears_after`).
-/
import TextRoll.Proofs.Session.LazyWalks
import TextRoll.Proofs.Session.Ownership

namespace TextRoll

namespace Session

variable {s : Session} {k : WalkId} {r : RollId} {m : Move} {ms : List Move} {texts : List String}

/-! ### What is told -/

/-- What the moves at some moments are told, in order. -/
def heardAt (xs : List (Session × Move)) : List (Option (Except Fault Shown)) :=
  xs.map fun x => x.1.hears x.2

/-- What is told of the element at a place among some texts: a buffer with the text, or that there
is none left. -/
def turnOf (texts : List String) (turn : Nat) : Option (Except Fault Shown) :=
  match texts[turn]? with
  | some text => some (.ok (.buffer text))
  | none => some (.error .exhausted)

/-- What a number of askings are told: the texts, in order, and after that there is none left. -/
def turnsOf (texts : List String) (count : Nat) : List (Option (Except Fault Shown)) :=
  (List.range count).map (turnOf texts)

theorem heardAt_concat (xs : List (Session × Move)) (s : Session) (m : Move) :
    heardAt (xs ++ [(s, m)]) = heardAt xs ++ [s.hears m] := by
  simp [heardAt]

theorem turnsOf_succ (texts : List String) (count : Nat) :
    turnsOf texts (count + 1) = turnsOf texts count ++ [turnOf texts count] := by
  simp [turnsOf, List.range_succ]

theorem turnOf_of_length_le {turn : Nat} (h : texts.length ≤ turn) :
    turnOf texts turn = some (.error .exhausted) := by
  unfold turnOf
  rw [List.getElem?_eq_none h]

theorem turnOf_drop (texts : List String) (turn : Nat) :
    turnOf (texts.drop turn) 0 = turnOf texts turn := by
  simp [turnOf]

/-! ### What is kept -/

/-- What is kept of a move is a new buffer with a text.  It is never stored in a roll, and whatever
it is asked, every roll keeps its content. -/
def KeepsApart (s : Session) (m : Move) (text : String) : Prop :=
  ∀ c name, m = .call c (some name) → ∃ b : BufferId,
    (s.move m).register name = .ok (.buffer b) ∧ s.world.buffers.size ≤ b.index ∧
      (s.move m).world.text b = text ∧ (s.move m).NeverStored b ∧
      ∀ ms m' asked verb args, let now := (s.move m).after ms
        now.request? m' = some (asked, verb, args) → now.world.standsFor? asked = some b →
          ∀ r, (now.move m').world.content r = now.world.content r

/-- Asking what stands for no element of a roll leaves the content of the roll. -/
theorem content_of_nothing (hs : s.world.Owned) (h : s.deed r m = .nothing) :
    (s.move m).world.content r = s.world.content r := by
  obtain ⟨hcontent, -⟩ := move_reacts hs r m
  rw [h] at hcontent
  exact hcontent

/-- Only rolls and their elements are of any concern to a roll. -/
theorem deed_of_not_mem {asked : Value} {verb : Verb} {args : List Value} {b : BufferId}
    (hrequest : s.request? m = some (asked, verb, args))
    (hstands : s.world.standsFor? asked = some b) (hb : b ∉ s.world.elements r) :
    s.deed r m = .nothing := by
  have hasked : asked.rollId? ≠ some r := by
    cases asked with
    | buffer | bookmark => nofun
    | _ => cases hstands
  have hplace : (s.world.elements r).idxOf? b = none := List.idxOf?_eq_none_iff.mpr hb
  unfold deed
  rw [hrequest]
  simp [hasked, hstands, hplace]

/-- A copy that is kept is a buffer of its own. -/
theorem keepsApart_of_copy (hs : s.world.Owned) {c : Call} {asked : Value} {text : Text}
    {w : World} (hperform : (c.perform s).run s.world = .ok (asked, .copy text) w)
    (hread : s.world.Undisturbed w) (keep : Option String) :
    s.KeepsApart (.call c keep) text.content := by
  intro c' name hcall
  cases hcall
  obtain ⟨b, hregister, hle, htext, hloose⟩ := kept_of_copy hs hperform hread name
  have hkept : (s.move (.call c (some name))).world.Owned := owned_move hs _
  refine ⟨b, hregister, hle, htext, neverStored_of_loose hkept hloose, ?_⟩
  intro ms m' asked' verb args now hrequest hstands r
  have hnow : now.world.Owned := owned_after hkept ms
  have hout : b ∉ now.world.elements r := (loose_after hkept hloose ms).not_mem r
  exact content_of_nothing hnow (deed_of_not_mem hrequest hstands hout)

/-! ### Walks over copies -/

/-- **An asking of a walk over copies** takes the next one, if there is one left. -/
theorem asked_of_copies (hs : s.world.Owned) (hasks : s.asksNext k m = true) {copies : List Text}
    (hwalk : s.world.walk k = .overCopies copies) :
    s.hears m = turnOf (copies.map Text.content) 0 ∧
      (s.move m).world.walk k = .overCopies (copies.drop 1) ∧
      ∀ text ∈ copies.head?, s.KeepsApart m text.content := by
  cases copies with
  | nil =>
    obtain ⟨hhears, hwalk'⟩ := asked_of_error hasks (Act.run_next_copies_nil hwalk) rfl
    exact ⟨hhears, hwalk'.trans hwalk, nofun⟩
  | cons text rest =>
    have hnext := Act.run_next_copies hwalk
    obtain ⟨hhears, -, hwalk'⟩ := asked_of_copy hs hasks hnext
    refine ⟨hhears, hwalk'.trans (World.walk_setWalk _ k _), fun text' htext => ?_⟩
    cases htext
    have hread := (reads_next k s.world hs.wellFormed).ok hnext
    obtain ⟨c, keep, asked, rfl, hperform⟩ := run_asksNext hasks
    rw [hnext] at hperform
    exact keepsApart_of_copy hs hperform hread keep

/-- **After any run** a walk over copies has those that are left, and it was told of the others. -/
theorem copies_after (hs : s.world.Owned) {copies : List Text}
    (hwalk : s.world.walk k = .overCopies copies) (hms : s.Along (OneByOne k) ms) :
    (s.after ms).world.walk k = .overCopies (copies.drop (s.askings k ms).length) ∧
      heardAt (s.askings k ms)
        = turnsOf (copies.map Text.content) (s.askings k ms).length := by
  induction ms using List.reverseRecOn with
  | nil => exact ⟨hwalk, rfl⟩
  | append_singleton ms m ih =>
    obtain ⟨hbefore, hm, -⟩ := along_append.mp hms
    obtain ⟨hnow, hheard⟩ := ih hbefore
    rw [askings_concat, after_append]
    cases hasks : (s.after ms).asksNext k m with
    | true =>
      obtain ⟨hhears, hwalk', -⟩ := asked_of_copies (owned_after hs ms) hasks hnow
      rw [List.drop_drop] at hwalk'
      rw [List.map_drop, turnOf_drop] at hhears
      rw [if_pos rfl, List.length_append, List.length_singleton]
      refine ⟨hwalk', ?_⟩
      rw [heardAt_concat, turnsOf_succ, hheard, hhears]
    | false =>
      have hplaced : (s.after ms).world.walk k ≠ .overItems .items [] := by
        rw [hnow]
        nofun
      simpa using ⟨(walk_move_of_oneByOne hplaced hm hasks).trans hnow, hheard⟩

/-! ### Lazy walks over rolls that keep their texts -/

/-- The move leaves the texts of a roll. -/
def LeavesTexts (r : RollId) (s : Session) (m : Move) : Prop :=
  (s.move m).world.texts r = s.world.texts r

/-- At every moment of a run that leaves the texts of a roll they are the same. -/
theorem texts_after (htexts : s.world.texts r = texts) (hms : s.Along (LeavesTexts r) ms) :
    (s.after ms).world.texts r = texts :=
  along_induction (p := fun s => s.world.texts r = texts) hms htexts
    fun _ _ hnow hleaves => hleaves.trans hnow

/-- At the first moment a walk was asked, there were as many elements as there are now. -/
theorem length_firstOf (hs : s.world.Owned) (htexts : s.world.texts r = texts)
    (hleaves : s.Along (LeavesTexts r) ms) :
    ((firstOf (s.askings k ms) (s.after ms)).world.roll r).length = texts.length := by
  have hfirst : (firstOf (s.askings k ms) (s.after ms)).world.texts r = texts := by
    by_cases hnone : s.askings k ms = []
    · rw [hnone]
      exact texts_after htexts hleaves
    · obtain ⟨made, m, later, rfl, -, hfirst⟩ := exists_firstOf hnone (s.after ms)
      rw [hfirst]
      exact texts_after htexts (along_append.mp hleaves).1
  have hlength := World.length_texts ((owned_firstOf hs k ms).wellFormed r)
  rw [← hlength, hfirst]

/-- A turn shows the text that the roll has there, if there is one. -/
theorem AskedAt.hears_eq {turn : Nat} (hs : s.world.Owned) (htexts : s.world.texts r = texts)
    (h : s.AskedAt m k r turn texts.length) : s.hears m = turnOf texts turn := by
  have hlength : texts.length = (s.world.roll r).length :=
    htexts ▸ World.length_texts (hs.wellFormed r)
  obtain ⟨hover, hturns⟩ := h.told (hs.wellFormed r)
  by_cases hturn : turn < texts.length
  · obtain ⟨text, htext, hhears, -⟩ := (hturns hturn).1 (hlength ▸ hturn)
    rw [htexts] at htext
    unfold turnOf
    rw [hhears, htext]
  · have hle := Nat.le_of_not_lt hturn
    rw [hover hle, turnOf_of_length_le hle]

/-- **A lazy walk over a roll that keeps its texts** is told of them, one after the other. -/
theorem lazy_hears_after (hs : s.world.Owned) (hwalk : s.world.walk k = .overRoll r .unstarted)
    (htexts : s.world.texts r = texts) (hms : s.Along (OneByOne k) ms)
    (hleaves : s.Along (LeavesTexts r) ms) :
    heardAt (s.askings k ms) = turnsOf texts (s.askings k ms).length ∧
      (anyFails (s.askings k ms) = true → texts.length ≤ (s.askings k ms).length) := by
  induction ms using List.reverseRecOn with
  | nil => exact ⟨rfl, nofun⟩
  | append_singleton ms m ih =>
    obtain ⟨hbefore, hm, -⟩ := along_append.mp hms
    obtain ⟨hleft, -⟩ := along_append.mp hleaves
    obtain ⟨hheard, hover⟩ := ih hbefore hleft
    rw [askings_concat]
    cases hasks : (s.after ms).asksNext k m with
    | true =>
      have hnow := owned_after hs ms
      have hsame := texts_after htexts hleft
      rw [if_pos rfl, List.length_append, List.length_singleton, heardAt_concat, turnsOf_succ,
        hheard, anyFails_concat]
      rcases asked_after hs hwalk hbefore hasks with ⟨hfailed, hhears⟩ | ⟨hfine, hasked⟩
      · have hle := hover hfailed
        rw [hhears, turnOf_of_length_le hle]
        exact ⟨rfl, fun _ => Nat.le_succ_of_le hle⟩
      · rw [length_firstOf hs htexts hleft] at hasked
        obtain ⟨-, hfails⟩ := hasked.bufferShown?_eq hnow (hsame ▸ List.prefix_rfl)
        rw [hasked.hears_eq hnow hsame, hfine, Bool.false_or]
        exact ⟨rfl, fun h => Nat.le_succ_of_le (hfails h)⟩
    | false => simpa using ⟨hheard, hover⟩

/-! ### The main statement -/

/-- Reading buffers moves no walk on. -/
theorem walks_collapseAll (w : World) (bs : List BufferId) :
    (w.collapseAll bs).walks = w.walks := by
  induction bs generalizing w with
  | nil => rfl
  | cons b bs ih => exact ih (w.collapse b)

/-- A walk that is begun over a guarded roll has copies of all its texts, and a place of its own. -/
theorem snapshot_begun (hs : s.world.Owned) {target : String} {mark : Mark} {depth : Nat}
    (htarget : s.register target = .ok (.guarded mark depth r)) (name : String) :
    let k : WalkId := ⟨s.world.walks.size, .items⟩
    let started := s.move (.call (.ask target .walk []) (some name))
    started.register name = .ok (.walk k) ∧
      started.world.walk k = .overCopies ((s.world.elements r).map s.world.built) := by
  intro k started
  let read := s.world.collapseAll (s.world.elements r)
  let copies := (s.world.elements r).map s.world.built
  have hrun : (Act.ask (.guarded mark depth r) .walk []).run s.world
      = .ok (.draft (.walk (.overCopies copies))) read :=
    Act.run_bind_ok (fun texts => pure (Answer.draft (.walk (.overCopies texts))))
      (Act.run_textsOf (hs.wellFormed r) "copy")
  have hperform : ((Call.ask target .walk []).perform s).run s.world
      = .ok (.guarded mark depth r, .draft (.walk (.overCopies copies))) read := by
    rw [run_perform_ask htarget rfl, hrun]
  have hplace : (read.addWalk (.overCopies copies)).1 = k := by
    show WalkId.mk read.walks.size _ = _
    rw [walks_collapseAll]
    rfl
  have hworld : started.world = (read.addWalk (.overCopies copies)).2 := by
    show (s.move (.call (.ask target .walk []) (some name))).world = _
    rw [world_move_call, hperform]
    rfl
  refine ⟨?_, ?_⟩
  · rw [← hplace]
    exact register_move_call hperform
  · rw [← hplace, hworld]
    exact read.walks.get_issue_self _

/-- **A walk over a guarded roll is a snapshot.**  Whatever happens after it is begun, each asking
hands out a buffer of its own with the next of the texts that there were at that moment, until there
is none left; what is told depends on the number of askings alone. -/
theorem snapshots_isolated (hs : s.Reachable) {target : String} {mark : Mark} {depth : Nat}
    (htarget : s.register target = .ok (.guarded mark depth r)) (name : String) :
    let texts := s.world.texts r
    let k : WalkId := ⟨s.world.walks.size, .items⟩
    let started := s.move (.call (.ask target .walk []) (some name))
    -- these are the texts that the guarded roll tells when the walk is begun
    (∀ m, s.request? m = some (.guarded mark depth r, .texts, []) →
      s.hears m = some (.ok (.list (texts.map .text)))) ∧
    started.register name = .ok (.walk k) ∧
    (∀ ms, started.Along (OneByOne k) ms →
      let now := started.after ms
      let count := (started.askings k ms).length
      heardAt (started.askings k ms) = turnsOf texts count ∧
      -- any other run in which it is asked as often is told the same
      (∀ ms', started.Along (OneByOne k) ms' → (started.askings k ms').length = count →
        heardAt (started.askings k ms') = heardAt (started.askings k ms)) ∧
      ∀ m, now.asksNext k m = true →
        now.hears m = turnOf texts count ∧
        (∀ text, texts[count]? = some text → now.KeepsApart m text) ∧
        ∀ r', (now.move m).world.content r' = now.world.content r') ∧
    -- a lazy walk over the same roll is told the same, as long as the roll keeps its texts
    ∀ target', s.register target' = .ok (.roll r) →
      let k' : WalkId := ⟨s.world.walks.size, .slots⟩
      let started' := s.move (.call (.ask target' .walk []) (some name))
      started'.register name = .ok (.walk k') ∧
      (∀ s' : Session, s'.Reachable → ∀ m, s'.deed r m = .nothing → LeavesTexts r s' m) ∧
      ∀ ms ms', started.Along (OneByOne k) ms → started'.Along (OneByOne k') ms' →
        started'.Along (LeavesTexts r) ms' →
        (started'.askings k' ms').length = (started.askings k ms).length →
        heardAt (started'.askings k' ms') = heardAt (started.askings k ms) := by
  intro texts k started
  have howned := hs.owned
  have hstarted : started.world.Owned := owned_move howned _
  obtain ⟨hregister, hwalk⟩ := snapshot_begun howned htarget name
  have hcopies : ((s.world.elements r).map s.world.built).map Text.content = texts :=
    List.map_map
  have hruns {ms : List Move} (hms : started.Along (OneByOne k) ms) :
      heardAt (started.askings k ms) = turnsOf texts (started.askings k ms).length :=
    hcopies ▸ (copies_after hstarted hwalk hms).2
  refine ⟨fun m hrequest => ?_, hregister, fun ms hms => ⟨hruns hms, ?_, ?_⟩, ?_⟩
  · exact hears_of_told hrequest
      (Act.obeys_texts howned (.guarded depth) (.guarded mark depth r)).tells
  · intro ms' hms' hcount
    rw [hruns hms', hruns hms, hcount]
  · intro m hasks
    have hnow : (started.after ms).world.Owned := owned_after hstarted ms
    obtain ⟨hwalk', -⟩ := copies_after hstarted hwalk hms
    obtain ⟨hhears, -, hkeeps⟩ := asked_of_copies hnow hasks hwalk'
    rw [List.map_drop, hcopies, turnOf_drop] at hhears
    refine ⟨hhears, fun text htext => ?_, fun r' => ?_⟩
    · rw [← hcopies, List.getElem?_map] at htext
      obtain ⟨copy, hcopy, rfl⟩ := Option.map_eq_some_iff.mp htext
      exact hkeeps copy (List.head?_drop ▸ hcopy)
    · exact (occurs_asksNext hnow.wellFormed hasks).content_of_still hnow r'
  · intro target' htarget' k' started'
    obtain ⟨hregister', hwalk', htexts⟩ := walk_begun htarget' name
    refine ⟨hregister', ?_, ?_⟩
    · intro s' hs' m hdeed
      exact congrArg Content.texts (content_of_nothing hs'.owned hdeed)
    · intro ms ms' hms hms' hleaves hcount
      have hlazy := (lazy_hears_after (owned_move howned _) hwalk' (htexts r) hms' hleaves).1
      rw [hlazy, hruns hms, hcount]

/-- While a walk goes over a guarded roll of two texts, the roll is cleared and filled anew, and the
first buffer that was handed out is edited.  The walk hands out the second text all the same. -/
theorem snapshots_isolated_cleared :
    let s := initial.after
      [.call (.serve .makeRoll []) (some "a"), .call (.ask "a" .add [.text 0 "x"]) none,
        .call (.ask "a" .add [.text 1 "y"]) none,
        .call (.serve .makeGuard [.register "a"]) (some "g")]
    let started := s.move (.call (.ask "g" .walk []) (some "w"))
    let k : WalkId := ⟨s.world.walks.size, .items⟩
    let next : Move := .call (.ask "w" .next []) (some "b")
    let ms : List Move :=
      [next, .call (.ask "a" .clear []) none, .call (.ask "b" .append [.text 2 "!"]) none,
        .call (.ask "a" .add [.text 3 "z"]) none, next, next]
    s.Reachable ∧ s.register "g" = .ok (.guarded (.kept 1) 0 ⟨0⟩) ∧
      started.Along (OneByOne k) ms ∧ (started.after ms).world.texts ⟨0⟩ = ["z"] ∧
      heardAt (started.askings k ms)
        = [some (.ok (.buffer "x")), some (.ok (.buffer "y")), some (.error .exhausted)] ∧
      (started.after ms).hears next = some (.error .exhausted) := by
  intro s started k next ms
  have hreachable : s.Reachable := ⟨_, rfl⟩
  have hregister : s.register "g" = .ok (.guarded (.kept 1) 0 ⟨0⟩) := rfl
  have hms : started.Along (OneByOne k) ms := by decide +kernel
  obtain ⟨-, -, hruns, -⟩ := snapshots_isolated hreachable hregister "w"
  obtain ⟨hheard, -, hturns⟩ := hruns ms hms
  have hasks : (started.after ms).asksNext k next = true := by decide +kernel
  obtain ⟨hhears, -⟩ := hturns next hasks
  have htexts : s.world.texts ⟨0⟩ = ["x", "y"] := by decide +kernel
  have hcount : (started.askings k ms).length = 3 := by decide +kernel
  have hnow : (started.after ms).world.texts ⟨0⟩ = ["z"] := by decide +kernel
  rw [htexts, hcount] at hheard hhears
  exact ⟨hreachable, hregister, hms, hnow, hheard, hhears⟩

end Session

end TextRoll
