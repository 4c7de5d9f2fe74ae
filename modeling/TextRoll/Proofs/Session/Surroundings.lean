/-
TextRoll/Proofs/Session/Surroundings.lean

What surrounds the use of a roll.

The surroundings of a run are the policies put in force in between, and the blocks that its moves
are grouped into: blocks with a policy, blocks with a tally, and blocks run separately
(`Move.Surrounds`).  They change nothing but the books, and the registers that their tallies are
kept in (`besides_move`); and what was counted they leave as it was.

So take a session and two runs from it with the same own moves, which use rolls, bookmarks, guards,
buffers and walks that are there and make no new roll.  If nothing they use holds a tally or its
list of growths (`Session.Apart`), then they report the same in both runs, and leave every roll the
same (`surroundings_irrelevant`).  Nor does it matter what becomes of the log: it is one of the
books.  Without this condition that fails, since clearing asks for the truth of whatever was given
as the choice about storage, and that may be a list of growths (`surroundings_show`).
-/
import TextRoll.Proofs.Session.Capacities
import TextRoll.Proofs.Session.Watching

namespace TextRoll

/-! ### The surroundings -/

/-- The move belongs to the surroundings: it puts a policy in force, or begins or ends a block, and
keeps what it keeps in a hidden register. -/
def Move.Surrounds (hidden : List String) : Move → Prop
  | .call (.serve service _) none => service = .usePolicy ∨ service = .resetPolicy
  | .enter (.policy _) _ | .enter .separate _ => True
  | .enter .profiled keep | .finish keep => ∀ name, keep = some name → name ∈ hidden
  | .leave (.policy _) _ | .leave .profiled _ | .leave .separate _ => True
  | .call .. | .enter (.editing _) _ | .leave (.editing _) _ => False

namespace Session

variable {view : View} {hidden : List String} {s s' s'' : Session}

/-- The sessions differ in nothing besides the books and the hidden registers, and what was counted
in the one is still counted in the other. -/
structure Besides (hidden : List String) (s s' : Session) : Prop where
  buffers_eq : s'.world.buffers = s.world.buffers
  rolls_eq : s'.world.rolls = s.world.rolls
  walks_eq : s'.world.walks = s.world.walks
  serial_eq : s'.world.serial = s.world.serial
  remembers : s.world.Remembers s'.world
  registers_eq : s'.registers.filter (·.1 ∉ hidden) = s.registers.filter (·.1 ∉ hidden)

namespace Besides

theorem refl (hidden : List String) (s : Session) : s.Besides hidden s :=
  ⟨rfl, rfl, rfl, rfl, World.remembers_of_tallies_eq rfl, rfl⟩

theorem withAmbient (h : s.Besides hidden s') (a : Ambient) :
    s.Besides hidden (s'.withAmbient a) :=
  ⟨h.buffers_eq, h.rolls_eq, h.walks_eq, h.serial_eq, h.remembers, h.registers_eq⟩

theorem addTally (h : s.Besides hidden s') (t : Tally) :
    s.Besides hidden { s' with world := (s'.world.addTally t).2 } :=
  ⟨h.buffers_eq, h.rolls_eq, h.walks_eq, h.serial_eq,
    fun t' => (h.remembers t').trans (s'.world.remembers_addTally t t'), h.registers_eq⟩

theorem keep (h : s.Besides hidden s') {register : Option String}
    (hregister : ∀ name, register = some name → name ∈ hidden) (v : Value) :
    s.Besides hidden (s'.keep register v) := by
  cases register with
  | none => exact h
  | some name =>
    have hname := hregister name rfl
    refine ⟨h.buffers_eq, h.rolls_eq, h.walks_eq, h.serial_eq, h.remembers,
      Eq.trans ?_ h.registers_eq⟩
    show List.filter _ ((name, v) :: s'.registers.filter (·.1 != name)) = _
    rw [List.filter_cons_of_neg (by simpa using hname), List.filter_filter]
    refine List.filter_congr fun x _ => ?_
    by_cases hx : x.1 = name
    · simp [hx, hname]
    · simp [hx]

end Besides

/-- Putting a policy in force does only that, or fails and does nothing. -/
theorem besides_policy {service : Service} (h : service = .usePolicy ∨ service = .resetPolicy)
    (args : List Operand) : s.Besides hidden (s.move (.call (.serve service args) none)) := by
  -- with any other number of arguments it is refused before anything happens
  have hserve : ∀ vs w, ∃ a, (Act.serve service vs).run w = .ok Answer.nothing
      { w with ambient := a } ∨ ∃ fault, (Act.serve service vs).run w = .error fault w := by
    intro vs w
    rcases h with rfl | rfl
    · match vs with
      | [v] => exact ⟨{ w.ambient with policy := v }, .inl rfl⟩
      | [] | _ :: _ :: _ => exact ⟨w.ambient, .inr ⟨_, rfl⟩⟩
    · match vs with
      | [] => exact ⟨{ w.ambient with policy := .policy Policy.standard }, .inl rfl⟩
      | _ :: _ => exact ⟨w.ambient, .inr ⟨_, rfl⟩⟩
  show s.Besides hidden ((Call.serve service args).run none s).2
  cases hargs : s.resolveItems args with
  | error fault =>
    have hrun : ((Call.serve service args).perform s).run s.world = .error fault s.world := by
      unfold Call.perform
      dsimp only
      rw [hargs]
      rfl
    rw [run_call_error hrun]
    exact .refl hidden s
  | ok vs =>
    have hrun : ((Call.serve service args).perform s).run s.world = _ :=
      run_perform_serve hargs s.world
    obtain ⟨a, hok | ⟨fault, herror⟩⟩ := hserve vs s.world
    · rw [hok] at hrun
      rw [run_call_ok hrun]
      exact (Besides.refl hidden s).withAmbient a
    · rw [herror] at hrun
      rw [run_call_error hrun]
      exact .refl hidden s

/-- **The surroundings change nothing** besides the books and the hidden registers. -/
theorem besides_move {m : Move} (hm : m.Surrounds hidden) (s : Session) :
    s.Besides hidden (s.move m) := by
  have hrefl := Besides.refl hidden s
  cases m with
  | call c keep =>
    cases c with
    | serve service args =>
      cases keep with
      | none => exact besides_policy hm args
      | some name => exact hm.elim
    | ask | identify | configure => cases keep <;> exact hm.elim
  | enter scope keep =>
    cases scope with
    | policy p =>
      cases hp : s.resolve p with
      | error fault =>
        have henter : s.enter (.policy p) keep = .error fault := by
          show (s.resolve p).map _ = _
          rw [hp]
          rfl
        rw [move_enter_error henter]
        exact hrefl
      | ok v =>
        have henter : s.enter (.policy p) keep
            = .ok (s.withAmbient { s.world.ambient with policy := v }) := by
          show (s.resolve p).map _ = _
          rw [hp]
          rfl
        rw [move_enter henter]
        exact hrefl.withAmbient _
    | profiled => exact ((hrefl.addTally _).keep hm _).withAmbient _
    | separate => exact hrefl.withAmbient _
    | editing target => exact hm.elim
  | leave scope before =>
    cases scope with
    | policy | profiled | separate => exact hrefl.withAmbient _
    | editing target => exact hm.elim
  | finish keep => exact hrefl.keep hm _

/-- What differs in nothing that the view compares may take the place of a session that matches. -/
theorem Matches.of_besides (h : Matches view hidden s s') (hbooks : ¬view.books)
    (hsame : s'.Besides hidden s'') : Matches view hidden s s'' where
  world := h.world.of_books rfl hsame.buffers_eq rfl hsame.rolls_eq rfl hsame.walks_eq rfl
    hsame.serial_eq (fun hview => (hbooks hview).elim) (fun hview => (hbooks hview).elim)
    fun _ => ⟨World.remembers_of_tallies_eq rfl, hsame.remembers⟩
  registers_eq := hsame.registers_eq.trans h.registers_eq
  within := h.within

/-! ### What has nothing to do with the books -/

/-- The view leaves the books out, and what it looks at holds no tally and no list of growths: the
choices of the rolls about storage, what the walks have still to hand out, and the registers that
are not hidden.  They may hold growths that the view knows, and these were counted already. -/
structure Apart (view : View) (hidden : List String) (s : Session) : Prop where
  books : ¬view.books
  release : ∀ r, view.rolls r → ∃ n, (s.world.roll r).policy.releaseOnClear.Within view n
  walks : ∀ k, view.walks k → ∃ n, (s.world.walk k).Within view n
  /-- Walks that are still to begin are looked at. -/
  fresh : ∀ k : WalkId, s.world.walks.size ≤ k.index → view.walks k
  growths : ∀ t place, view.growths t place → place < (s.world.tally t).events.length
  registers : ∀ x ∈ s.registers, x.1 ∉ hidden → ∃ n, x.2.Within view n

/-- Where all that is named has a place, the session matches itself. -/
theorem Apart.matches_self (h : s.Apart view hidden) (hself : Matches View.full [] s s) :
    Matches view hidden s s where
  world :=
    { toAlike := .refl _ _
      -- what is named has a place in the view of everything, and is apart from the books here
      sound :=
        { issued := hself.world.sound.issued
          release := fun r hr =>
            have ⟨_, hrelease⟩ := h.release r hr
            .of_full _ hrelease (hself.world.sound.release r trivial)
          walks := fun k hk =>
            have ⟨_, hwalk⟩ := h.walks k hk
            hwalk.of_full (hself.world.sound.walks k trivial)
          fresh := h.fresh
          growths := fun _ => h.growths
          policy := fun hview => (h.books hview).elim }
      size_le := Nat.le_refl _ }
  registers_eq := rfl
  within := fun x hx hname =>
    have ⟨_, hregister⟩ := h.registers x hx hname
    .of_full _ hregister (hself.within x hx List.not_mem_nil)

/-! ### Two runs -/

/-- What a move reports, and the texts and all else of a roll after it. -/
def aftermath (r : RollId) (s : Session) (m : Move) : Option Report × List String × Roll BufferId :=
  (s.report? m, (s.move m).world.texts r, (s.move m).world.roll r)

theorem asides_of_forall {may : Session → Move → Prop} {stages : List Stage} :
    ∀ {s : Session}, (∀ m, .aside m ∈ stages → ∀ t, may t m) → s.Asides may stages := by
  induction stages with
  | nil => exact fun _ => trivial
  | cons stage rest ih =>
    intro s h
    have hrest : ∀ m, .aside m ∈ rest → ∀ t, may t m := fun m hm =>
      h m (List.mem_cons_of_mem _ hm)
    cases stage with
    | own m => exact ih hrest
    | aside m => exact ⟨h m List.mem_cons_self s, ih hrest⟩

/-- With any surroundings, what is seen of the own moves is what is seen without them. -/
theorem watch_surrounded (hself : Matches View.full [] s s) (hs : s.Apart view hidden)
    {stages : List Stage} (hown : s.Along (Move.Fits view hidden) (ownMoves stages))
    (haside : ∀ m, .aside m ∈ stages → m.Surrounds hidden) (r : RollId) :
    s.watch (aftermath r) stages = s.trace (aftermath r) (ownMoves stages) := by
  have hkept : ∀ t t' m, Matches view hidden t t' → Move.Fits view hidden t m →
      aftermath r t' m = aftermath r t m ∧ Matches view hidden (t.move m) (t'.move m) := by
    intro t t' m h hm
    have hmoved := (h.move hm).world
    refine ⟨?_, h.move hm⟩
    unfold aftermath
    rw [h.report?_eq hm, hmoved.texts_eq, hmoved.roll_eq]
  have hasides : s.Asides (fun _ m => m.Surrounds hidden) stages :=
    asides_of_forall fun m hm _ => haside m hm
  exact (watch_eq_trace hkept (fun _ t' _ h hm => h.of_besides hs.books (besides_move hm t')) stages
    s s (hs.matches_self hself) hown hasides).1

/-- **Rolls do not depend on their surroundings.**  From any session of an orderly run, take two
runs with the same own moves and any surroundings.  Where nothing that the own moves use holds a
tally or its list of growths, and none of them makes a roll or asks what is in force, each reports
the same in both runs, and each roll has the same texts, slots, cursor and counters and the same
policy after it.  Whatever happens, a roll is governed by the policy that was in force when it was
made. -/
theorem surroundings_irrelevant {past : List Move} (hpast : initial.Orderly past) :
    let s := initial.after past
    (∀ view hidden stages stages', s.Apart view hidden → ownMoves stages' = ownMoves stages →
      s.Along (Move.Fits view hidden) (ownMoves stages) →
      (∀ m, .aside m ∈ stages ++ stages' → m.Surrounds hidden) →
      ∀ r, s.watch (aftermath r) stages' = s.watch (aftermath r) stages) ∧
    ∀ c v p name, c.Makes s v → s.world.ambient.policy = .policy p →
      s.failure? c (some name) = none → ∀ ms,
      ((s.move (.call c (some name))).after ms).Governed ⟨s.world.rolls.size⟩ p := by
  intro s
  have hself : Matches View.full [] s s :=
    hpast.matches_self past List.prefix_rfl past List.prefix_rfl
  constructor
  · intro view hidden stages stages' hs hsame hown haside r
    -- in both runs the own moves show what they show without any surroundings
    have hplain := watch_surrounded hself hs hown
      (fun m hm => haside m (List.mem_append_left _ hm)) r
    have hother := watch_surrounded hself hs (hsame ▸ hown)
      (fun m hm => haside m (List.mem_append_right _ hm)) r
    rw [hplain, hother, hsame]
  · intro c v p name hmakes hpolicy htold ms
    exact governed_of_made (reachable_initial.after past).owned hmakes hpolicy htold ms

theorem within_of_rollId? {n : Nat} {v : Value} (h : v.rollId?.isSome) : v.Within view n := by
  cases v with
  | roll | guarded =>
    unfold Value.Within
    trivial
  | _ => cases h

theorem within_of_toWhole? {n : Nat} {v : Value} (h : v.toWhole?.isSome) : v.Within view n := by
  cases v with
  | int | bool =>
    unfold Value.Within
    trivial
  | _ => cases h

/-- A roll is made while growth triples and clearing gives storage back.  It is then used by itself,
and again while growths are counted and other policies are put in force, and at last separately. -/
theorem surroundings_irrelevant_nested :
    let before := initial.after (scriptMoves [
      .call (.configure false [("growth_factor", .int 0 3), ("default_capacity", .int 1 1),
        ("release_on_clear", .bool true)]) (some "c"),
      .call (.configure false [("max_capacity", .int 2 0)]) (some "d"),
      .call (.serve .usePolicy [.register "c"]) none] initial)
    let s := before.move (.call (.serve .makeRoll []) (some "l"))
    let x : Move := .call (.ask "l" .add [.text 3 "x"]) none
    let y : Move := .call (.ask "l" .add [.text 4 "y"]) none
    let z : Move := .call (.ask "l" .clear []) none
    let plain : List Stage := [.own x, .own y, .own z]
    let counted : Ambient := ⟨s.world.ambient.policy, some ⟨0⟩⟩
    let grouped : List Stage := [.aside (.enter .profiled (some "t")), .own x,
      .aside (.enter (.policy (.register "d")) none), .own y,
      .aside (.leave (.policy (.register "d")) counted), .aside (.finish none),
      .aside (.leave .profiled s.world.ambient),
      .aside (.call (.serve .resetPolicy []) none), .aside (.enter .separate none), .own z,
      .aside (.leave .separate Ambient.initial), .aside (.finish none)]
    s.watch (aftermath ⟨0⟩) grouped = s.watch (aftermath ⟨0⟩) plain ∧
      (s.watch (aftermath ⟨0⟩) grouped).map (·.2.2.capacity) = [1, 3, 1] ∧
      ∃ p, before.world.ambient.policy = .policy p ∧ (s.after [x, y]).Governed ⟨0⟩ p := by
  intro before s x y z plain counted grouped
  let view : View := ⟨False, fun _ => True, fun _ => True, fun _ _ => False⟩
  let hidden := ["t", "c", "d"]
  have hbefore := orderly_scriptMoves [
    .call (.configure false [("growth_factor", .int 0 3), ("default_capacity", .int 1 1),
      ("release_on_clear", .bool true)]) (some "c"),
    .call (.configure false [("max_capacity", .int 2 0)]) (some "d"),
    .call (.serve .usePolicy [.register "c"]) none] initial
  have hpast := hbefore.concat (m := .call (.serve .makeRoll []) (some "l")) nofun
  have hregisters : ∀ x ∈ s.registers, x.1 ∉ hidden → x.2.rollId?.isSome := by decide +kernel
  have hrelease : (s.world.roll ⟨0⟩).policy.releaseOnClear.toWhole?.isSome := by decide +kernel
  have hs : s.Apart view hidden :=
    { books := id
      release := fun r _ => by
        refine ⟨0, ?_⟩
        obtain ⟨_ | index⟩ := r
        · exact within_of_toWhole? hrelease
        · rw [show s.world.roll ⟨index + 1⟩ = default from
            s.world.rolls.get_of_size_le (Nat.le_add_left 1 index)]
          trivial
      walks := fun k _ => ⟨0, by
        rw [show s.world.walk k = default from s.world.walks.get_of_size_le (Nat.zero_le _)]
        exact trivial⟩
      fresh := fun _ _ => trivial
      growths := nofun
      registers := fun x hx hname => ⟨0, within_of_rollId? (hregisters x hx hname)⟩ }
  have hfits : ∀ t verb args, verb ≠ .withCapacity → Operand.AllAvoid hidden args →
      Move.Fits view hidden t (.call (.ask "l" verb args) none) := fun t verb args hverb hargs =>
    ⟨⟨⟨by decide, hargs⟩, fun h => (hverb h).elim, fun _ _ _ _ => trivial⟩, nofun⟩
  have hown : s.Along (Move.Fits view hidden) (ownMoves plain) :=
    ⟨hfits _ _ _ nofun ⟨trivial, trivial⟩, hfits _ _ _ nofun ⟨trivial, trivial⟩,
      hfits _ _ _ nofun trivial, trivial⟩
  have haside : ∀ m, .aside m ∈ plain ++ grouped → m.Surrounds hidden := by
    intro m hm
    simp only [plain, grouped, List.cons_append, List.nil_append, List.mem_cons, reduceCtorEq,
      Stage.aside.injEq, List.not_mem_nil, or_false, false_or] at hm
    rcases hm with rfl | rfl | rfl | rfl | rfl | rfl | rfl | rfl | rfl <;>
      simp [Move.Surrounds, hidden]
  refine ⟨?_, by decide +kernel, ?_⟩
  · have hirrelevant := (surroundings_irrelevant hpast).1 view hidden plain grouped
    rw [after_append] at hirrelevant
    exact hirrelevant hs rfl hown haside ⟨0⟩
  · have hkind : before.world.ambient.policy.kind = .policy := by decide +kernel
    cases hpolicy : before.world.ambient.policy with
    | policy p =>
      have hmakes : Call.Makes before (.serve .makeRoll []) .null := .roll rfl
      have hgoverned := (surroundings_irrelevant hbefore).2 _ _ p "l" hmakes hpolicy
      exact ⟨p, rfl, hgoverned (Option.isNone_iff_eq_none.mp (by decide +kernel)) [x, y]⟩
    | _ => rw [hpolicy] at hkind; cases hkind

/-- **Surroundings may show** in a choice about storage that is a list of growths.  Growths are
counted, and a roll is made that gives its storage back when the list of these growths has entries.
It takes an element and is cleared.  By itself that is one growth, so storage is given back; where
the growth is counted by a tally of its own, the list stays empty and the storage is kept. -/
theorem surroundings_show :
    let past : List Move := [.enter .profiled (some "t"), .call (.ask "t" .events []) (some "e"),
      .call (.configure false [("default_capacity", .int 0 0), ("release_on_clear", .register "e")])
        (some "c"),
      .call (.serve .usePolicy [.register "c"]) none, .call (.serve .makeRoll []) (some "l")]
    let s := initial.after past
    let x : Move := .call (.ask "l" .add [.text 1 "x"]) none
    let z : Move := .call (.ask "l" .clear []) none
    let plain : List Stage := [.own x, .own z]
    let grouped : List Stage := [.aside (.enter .profiled none), .own x,
      .aside (.leave .profiled s.world.ambient), .own z]
    initial.Orderly past ∧ ownMoves grouped = ownMoves plain ∧
      (∀ m, .aside m ∈ plain ++ grouped → m.Surrounds []) ∧
      (s.watch (aftermath ⟨0⟩) plain).map (·.2.2.capacity) = [1, 0] ∧
      (s.watch (aftermath ⟨0⟩) grouped).map (·.2.2.capacity) = [1, 1] ∧
      s.watch (aftermath ⟨0⟩) grouped ≠ s.watch (aftermath ⟨0⟩) plain := by
  intro past s x z plain grouped
  have hplain : (s.watch (aftermath ⟨0⟩) plain).map (·.2.2.capacity) = [1, 0] := by decide +kernel
  have hgrouped : (s.watch (aftermath ⟨0⟩) grouped).map (·.2.2.capacity) = [1, 1] := by
    decide +kernel
  refine ⟨?_, rfl, ?_, hplain, hgrouped, fun hsame => ?_⟩
  · refine orderly_of_forall fun m hm scope before => ?_
    simp only [past, List.mem_cons, List.not_mem_nil, or_false] at hm
    rcases hm with rfl | rfl | rfl | rfl | rfl <;> nofun
  · intro m hm
    simp only [plain, grouped, List.cons_append, List.nil_append, List.mem_cons, reduceCtorEq,
      Stage.aside.injEq, List.not_mem_nil, or_false, false_or] at hm
    rcases hm with rfl | rfl <;> simp [Move.Surrounds]
  · rw [hsame, hplain] at hgrouped
    cases hgrouped

end Session

end TextRoll
