/-
TextRoll/Proofs/Session/Atomicity.lean

A request to a roll succeeds, or it might as well not have been made.

In a reachable session, a call to a roll, to a guard or to a bookmark that fails leaves the
registers, the rolls, the texts, the bookmarks that are current, the tallies, the walks and the
surroundings as they were (`failures_atomic`).  The one trace that it can leave is a warning in the
log, and that is there exactly if storage could not grow.

The warning is left before the failure is put into words.  So it stays if the words cannot be found
because the slots that were asked for are too long a number, and then the caller is told of that
number and not of storage.
-/
import Mathlib.Algebra.Ring.Int.Defs
import TextRoll.Proofs.Act.Failing
import TextRoll.Proofs.Session.Events

namespace TextRoll

namespace World

variable {w w' : World} {fault : Fault}

/-- What refused storage leaves in the log. -/
theorem log_refused (w : World) (fault : Fault) :
    (w.refused fault).log = w.log ++ fault.notice?.toList := by
  unfold refused
  cases fault.notice? with
  | none => exact (List.append_nil _).symm
  | some n => rfl

/-- But for the log, a refusal leaves the world as it is. -/
theorem refused_eq (w : World) (fault : Fault) :
    w.refused fault = { w with log := (w.refused fault).log } := by
  unfold refused
  split <;> rfl

/-- Between the worlds before and after a request that failed there is at most a record. -/
theorem Failed.undisturbed (h : w.Failed fault w') :
    w.Peeked { w' with log := w.log } ∧ w'.log = w.log ++ fault.notice?.toList := by
  obtain ⟨w₁, hpeeked, rfl⟩ := h.refused
  constructor
  · rw [refused_eq]
    show w.Peeked { w₁ with log := w.log }
    rw [← hpeeked.log_eq]
    exact hpeeked
  · rw [log_refused, hpeeked.log_eq]

/-- The record of a failure is a warning, and is there exactly if storage is what failed. -/
theorem Failed.log_eq (h : w.Failed fault w') :
    if fault.isAllocation then ∃ n : Notice, n.level = .warning ∧ w'.log = w.log ++ [n]
    else w'.log = w.log := by
  have hlog := h.undisturbed.2
  rw [← h.logged]
  cases hn : fault.notice? with
  | none =>
    rw [hn] at hlog
    exact hlog.trans (List.append_nil _)
  | some n =>
    rw [hn] at hlog
    exact ⟨n, Fault.level_of_notice? hn, hlog⟩

/-- Whether a bookmark is current is up to the rolls. -/
theorem isCurrent_of_rolls_eq (h : w'.rolls = w.rolls) (m : Bookmark) :
    w'.isCurrent m = w.isCurrent m := by
  unfold isCurrent
  rw [roll_of_rolls_eq h]

end World

namespace Session

variable {s : Session} {c : Call} {asked : Value} {verb : Verb} {args : List Value}

/-- What a call tells and leaves when its request fails. -/
theorem call_fails (hrequest : c.request? s = some (asked, verb, args)) (keep : Option String)
    {refusal : World.Refusal} (hfails : ((Step.call c keep).run s).1.refusal? = some refusal) :
    ∃ fault w', (Act.ask asked verb args).run s.world = .error fault w' ∧
      refusal = w'.refusal fault ∧ ((Step.call c keep).run s).2 = { s with world := w' } := by
  obtain ⟨target, operands, rfl, htarget, hargs⟩ := request?_eq_some hrequest
  have hperform := @run_perform_ask s target verb operands asked args htarget hargs s.world
  replace hfails : ((Call.ask target verb operands).run keep s).1.refusal? = some refusal := hfails
  show ∃ fault w', _ ∧ _ ∧ ((Call.ask target verb operands).run keep s).2 = { s with world := w' }
  cases hrun : (Act.ask asked verb args).run s.world with
  | error fault w' =>
    rw [hrun] at hperform
    rw [run_call_error hperform] at hfails ⊢
    exact ⟨fault, w', rfl, (Option.some.inj hfails).symm, rfl⟩
  | ok answer w' =>
    rw [hrun] at hperform
    rw [run_call_ok hperform] at hfails
    cases hfails

/-- **A request that fails leaves no trace but a warning.** Whatever is asked of a roll, of a guard
or of a bookmark and with whatever arguments: when it fails, everything is as it was before. The
log has one more record, a warning, exactly if the request failed because storage could not grow.
That is what is told if all numbers in the failure can be written out. -/
theorem failures_atomic (hs : s.Reachable) (hrequest : c.request? s = some (asked, verb, args))
    (hasked : asked.IsHandle) (keep : Option String) {refusal : World.Refusal}
    (hfails : ((Step.call c keep).run s).1.refusal? = some refusal) :
    let s' := ((Step.call c keep).run s).2
    s'.registers = s.registers ∧
      s'.world.rolls = s.world.rolls ∧
      (∀ b, s'.world.built b = s.world.built b) ∧
      (∀ m, s'.world.isCurrent m = s.world.isCurrent m) ∧
      s'.world.tallies = s.world.tallies ∧
      s'.world.walks = s.world.walks ∧
      s'.world.ambient = s.world.ambient ∧
      s'.world.serial = s.world.serial ∧
      ∃ fault : Fault,
        (Act.ask asked verb args).run s.world = .error fault s'.world ∧
        refusal.fault = (if fault.mentioned.all s'.world.isWritable then fault
          else .tooManyDigits) ∧
        if fault.isAllocation then
          ∃ n : Notice, n.level = .warning ∧ s'.world.log = s.world.log ++ [n]
        else s'.world.log = s.world.log := by
  obtain ⟨fault, w', hrun, rfl, hafter⟩ := call_fails hrequest keep hfails
  have hfailed := Act.failsCleanly_ask hasked verb args s.world hs.owned.wellFormed fault w' hrun
  obtain ⟨hpeeked, -⟩ := hfailed.undisturbed
  rw [hafter]
  exact ⟨rfl, hpeeked.rolls_eq, hpeeked.built_eq,
    fun m => World.isCurrent_of_rolls_eq hpeeked.rolls_eq m, hpeeked.tallies_eq, hpeeked.walks_eq,
    hpeeked.ambient_eq, hpeeked.serial_eq, fault, hrun, fault.fault_refusal w', hfailed.log_eq⟩

/-- A roll with one element and no room for another: adding one more fails because storage cannot
grow, which can be put into words, and there is a warning in the log and nothing else. -/
theorem failures_atomic_full :
    let s := initial.after
      [.call (.configure false [("max_capacity", .int 0 1)]) (some "p"),
        .call (.serve .usePolicy [.register "p"]) none, .call (.serve .makeRoll []) (some "a"),
        .call (.ask "a" .add [.text 1 "x"]) none]
    let c : Call := .ask "a" .add [.text 2 "y"]
    let ran := (Step.call c none).run s
    (s.world.roll ⟨0⟩).length = 1 ∧
      ran.1.refusal?.map (·.fault.isAllocation) = some true ∧
      ran.2.world.rolls = s.world.rolls ∧
      ∃ n : Notice, n.level = .warning ∧ ran.2.world.log = s.world.log ++ [n] := by
  intro s c ran
  have hreachable : s.Reachable := ⟨_, rfl⟩
  have hlength : (s.world.roll ⟨0⟩).length = 1 := by decide +kernel
  have hfails : ran.1.refusal?.map (·.fault.isAllocation) = some true := by decide +kernel
  have hrequest : c.request? s = some (.roll ⟨0⟩, .add, [.text (.marked "y" (.written 2))]) := rfl
  obtain ⟨refusal, hrefusal, hallocation⟩ := Option.map_eq_some_iff.mp hfails
  have hatomic := failures_atomic hreachable hrequest trivial none hrefusal
  -- from here on it does not matter what the session is
  clear_value s c
  obtain ⟨-, hrolls, -, -, -, -, -, -, fault, -, htold, hlog⟩ := hatomic
  have hstorage : fault.isAllocation = true := by
    rw [htold] at hallocation
    split at hallocation
    · exact hallocation
    · cases hallocation
  rw [if_pos hstorage] at hlog
  exact ⟨hlength, hfails, hrolls, hlog⟩

/-- The warning can stand in the log without the caller being told of storage: a roll with two
slots, a limit of two and a growth factor of 4300 digits refuses a third element by telling that a
number is too long. -/
theorem failures_atomic_unwritable :
    let s := initial.after
      [.call (.configure false
          [("growth_factor", .int 0 (5 * 10 ^ 4299)), ("max_capacity", .int 1 2)]) (some "p"),
        .call (.serve .usePolicy [.register "p"]) none, .call (.serve .makeRoll []) (some "a"),
        .call (.ask "a" .add [.text 2 "x"]) none, .call (.ask "a" .add [.text 3 "y"]) none]
    let ran := (Step.call (.ask "a" .add [.text 4 "z"]) none).run s
    ran.1.refusal?.map (·.fault.isAllocation) = some false ∧
      ran.2.world.log = s.world.log ++ [.overLimit (10 ^ 4300) 2] ∧
      (Notice.overLimit (10 ^ 4300) 2).level = .warning := by
  decide +kernel

end Session

end TextRoll
