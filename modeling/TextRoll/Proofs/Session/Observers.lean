/-
TextRoll/Proofs/Session/Observers.lean

Reading is not observable.

Into any orderly run from the beginning, reads may be inserted at any points: requests whose verb
only reads, comparisons, and asking what is in force, whether they succeed or fail, with nothing
kept of what they answer (`Session.Reads`).  All other moves report the same and log the same, and
in the end everything is the same but for the pieces that buffers keep their texts in
(`observers_unobservable`).

A read leaves a session that matches the one without it in the view of everything (`reads_aside`),
and moves made in matching sessions cannot tell them apart (`Matches.report?_eq`, `Matches.move`).
-/
import TextRoll.Proofs.Act.Observing
import TextRoll.Proofs.Session.Watching

namespace TextRoll

namespace Session

variable {s s' : Session} {m : Move} {c : Call}

/-! ### Reads -/

/-- The move is a read, and nothing is kept of it: it asks for something that is only read, and not
for all that is left of a walk. -/
def Reads (s : Session) : Move → Prop
  | .call (.ask target verb _) none =>
    verb.isRead = true ∧ ∀ asked, s.register target = .ok asked → ¬verb.Drains asked
  | .call (.serve service _) none => service.isRead = true
  | _ => False

/-- Where a read is made, what it asks and is given has a place; so it only observes. -/
theorem observes_perform (h : Matches View.full [] s s') (hc : s'.Reads (.call c none)) :
    Act.Observes s.world.buffers.size Act.Anything (c.perform s') := by
  cases c with
  | ask target verb args =>
    have hsame := h.register_eq (List.not_mem_nil : target ∉ [])
    obtain ⟨-, hwithin⟩ := h.gives_register (List.not_mem_nil : target ∉ [])
    obtain ⟨hargs, -, hwithin'⟩ := h.resolveItems args (Operand.allAvoid_nil args)
    unfold Call.perform
    dsimp only
    rw [hargs]
    refine Act.Observes.bind (.ofExcept_of fun asked hasked => hasked) fun asked hasked => ?_
    refine Act.Observes.bind (.ofExcept_of hwithin') fun vs hvs => ?_
    exact (Act.observes_ask (hwithin asked (hsame ▸ hasked)) hvs hc.1 (hc.2 asked hasked)).bind
      fun _ _ => .done _
  | serve service args =>
    obtain ⟨hargs, -, hwithin⟩ := h.resolveItems args (Operand.allAvoid_nil args)
    unfold Call.perform
    dsimp only
    rw [hargs]
    refine Act.Observes.bind (.ofExcept_of hwithin) fun vs hvs => ?_
    exact (Act.observes_serve hvs hc).bind fun _ _ => .done _
  | identify | configure => exact hc.elim

/-- **A read aside leaves a session that matches.** -/
theorem reads_aside (h : Matches View.full [] s s') (hm : s'.Reads m) :
    Matches View.full [] s (s'.move m) := by
  -- only calls that keep nothing are reads
  obtain ⟨c, rfl⟩ : ∃ c, m = .call c none := by
    cases m with
    | call c keep =>
      cases keep with
      | none => exact ⟨c, rfl⟩
      | some name => cases c <;> exact hm.elim
    | enter | leave | finish => exact hm.elim
  have hworld : s'.world.Alike View.full (s'.move (.call c none)).world := by
    have hobserves := observes_perform h hm s'.world (h.world.toAlike.sound h.world.sound)
      h.world.size_eq
    rw [world_move_call]
    cases hrun : (c.perform s').run s'.world with
    | ok result w =>
      rw [hrun] at hobserves
      exact hobserves.2
    | error fault w =>
      rw [hrun] at hobserves
      exact hobserves
  -- nothing is kept, so no register changes
  have hregisters : (s'.move (.call c none)).registers = s'.registers := by
    show (c.run none s').2.registers = _
    cases hrun : (c.perform s').run s'.world with
    | ok result w => rw [run_call_ok hrun]
    | error fault w => rw [run_call_error hrun]
  exact
    { world := ⟨h.world.toAlike.trans hworld, h.world.sound, h.world.size_le⟩
      registers_eq := by rw [hregisters, h.registers_eq]
      within := h.within }

/-! ### What shows -/

/-- What shows of a move: its report, and the records that it adds to the log. -/
def observation (s : Session) (m : Move) : Option Report × List Notice :=
  (s.report? m, (s.move m).world.log.drop s.world.log.length)

/-- A move shows the same in sessions that match in the view of everything. -/
theorem Matches.observation_eq (h : Matches View.full [] s s') (hm : m.Fits View.full [] s) :
    s'.observation m = s.observation m := by
  unfold observation
  rw [h.report?_eq hm, (h.move hm).world.log_eq trivial, h.world.log_eq trivial]

/-- What is shown of the registers in the end is the same in sessions that match. -/
theorem Matches.remainders_eq (h : Matches View.full [] s s') :
    s'.remainders = s.remainders := by
  have hregisters : s'.registers = s.registers := by simpa using h.registers_eq
  have hlike := h.world.toAlike
  unfold remainders
  rw [hregisters]
  refine List.map_congr_left fun ⟨name, v⟩ hx => congrArg (Prod.mk name) ?_
  have hv := h.within (name, v) hx List.not_mem_nil
  unfold remainder
  rw [World.shown_eq_of_alike hlike v hv, World.standing_eq_of_alike hlike v]
  cases v with
  | buffer b =>
    dsimp only
    rw [(hlike.buffer_alike b).length_eq]
  | _ => rfl

/-- **Observers are unobservable.**  Wherever reads are inserted into a run, all other moves report
the same and log the same records.  In the end the registers hold and show the same, and the world
is the same but for the pieces in which buffers keep their texts. -/
theorem observers_unobservable {stages : List Stage}
    (horderly : initial.Orderly (ownMoves stages)) (hreads : initial.Asides Reads stages) :
    let plain := initial.after (ownMoves stages)
    let observed := initial.through stages
    initial.watch observation stages = initial.trace observation (ownMoves stages) ∧
      observed.registers = plain.registers ∧
      observed.remainders = plain.remainders ∧
      observed.world.buffers.size = plain.world.buffers.size ∧
      (∀ b, observed.world.built b = plain.world.built b) ∧
      observed.world.rolls = plain.world.rolls ∧
      observed.world.walks = plain.world.walks ∧
      observed.world.tallies = plain.world.tallies ∧
      observed.world.ambient = plain.world.ambient ∧
      observed.world.log = plain.world.log ∧
      observed.world.serial = plain.world.serial := by
  intro plain observed
  have hown : ∀ s s' m, Matches View.full [] s s' → Move.Fits View.full [] s m →
      s'.observation m = s.observation m ∧ Matches View.full [] (s.move m) (s'.move m) :=
    fun _ _ _ h hm => ⟨h.observation_eq hm, h.move hm⟩
  have haside : ∀ s s' m, Matches View.full [] s s' → s'.Reads m →
      Matches View.full [] s (s'.move m) := fun _ _ _ => reads_aside
  obtain ⟨hwatch, hend⟩ := watch_eq_trace hown haside stages initial initial matches_initial
    horderly.along_fits hreads
  have hlike := hend.world.toAlike
  exact ⟨hwatch, by simpa using hend.registers_eq, hend.remainders_eq, hlike.size_eq,
    hlike.built_eq, hlike.rolls_eq, hlike.walks_eq, hlike.tallies_eq trivial,
    hlike.ambient_eq trivial, hlike.log_eq trivial, hlike.serial_eq⟩

/-- A buffer is put together from two pieces, and meanwhile read in several ways, once in vain; the
pieces it ends up with differ, its text does not. -/
theorem observers_unobservable_build :
    let script : List Step := [.call (.serve .makeBuffer []) (some "b"),
      .call (.ask "b" .append [.text 0 "x"]) none, .call (.ask "b" .append [.text 1 "y"]) none,
      .call (.ask "b" .append [.text 2 "z"]) none]
    let stages := (scriptMoves (script.take 3) initial).map Stage.own ++
      [.aside (.call (.ask "b" .build []) none), .aside (.call (.ask "b" .current []) none),
        .aside (.call (.serve .equal [.register "b", .text 3 "xy"]) none),
        .own (.call (.ask "b" .append [.text 2 "z"]) none)]
    ownMoves stages = scriptMoves script initial ∧
      initial.watch observation stages = initial.trace observation (scriptMoves script initial) ∧
      ((initial.through stages).world.buffer ⟨0⟩).parts = ["xy", "z"] ∧
      ((runScript script initial).2.world.buffer ⟨0⟩).parts = ["x", "y", "z"] := by
  intro script stages
  have hown : ownMoves stages = scriptMoves script initial := rfl
  have hdrains : ∀ verb : Verb, verb ≠ .elements → verb ≠ .contains → ∀ asked, ¬verb.Drains asked :=
    fun verb helements hcontains asked hdrains => hdrains.1.elim helements hcontains
  have hreads : initial.Asides Reads stages :=
    ⟨⟨rfl, fun asked _ => hdrains .build nofun nofun asked⟩,
      ⟨rfl, fun asked _ => hdrains .current nofun nofun asked⟩, rfl, trivial⟩
  exact ⟨hown, hown ▸ (observers_unobservable (hown ▸ orderly_scriptMoves _ _) hreads).1,
    by decide +kernel, by decide +kernel⟩

end Session

end TextRoll
