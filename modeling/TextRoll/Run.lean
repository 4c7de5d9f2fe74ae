/-
TextRoll/Run.lean

Running scripts.

Every step reports what it shows or why it failed, the state of the roll that it
asked, and the reports of its body.  A step that fails does not end the script.
A block that propagates ends with its first failing step and fails the same way;
any other block goes on.
-/
import TextRoll.Policy
import TextRoll.Session
import TextRoll.Shown

namespace TextRoll

/-! ### Reports -/

/-- What a step reports: what it shows or why it failed, the state of the roll that it asked, and
the reports of its body. -/
inductive Report
  | mk (outcome : Except World.Refusal Shown) (standing : Option World.Standing)
      (body : Option (List Report))

namespace Report

/-- What a step shows, or why it failed. -/
def outcome : Report → Except World.Refusal Shown
  | mk outcome _ _ => outcome

/-- Why a step failed, if it did. -/
def refusal? (r : Report) : Option World.Refusal :=
  match r.outcome with
  | .ok _ => none
  | .error refusal => some refusal

end Report

/-! ### Running a call -/

/-- The policy with some fields, passing over unknown names or not. -/
def Policy.configure (lenient : Bool) (fields : List (String × Value)) : Except Fault Policy :=
  if lenient then Policy.ofKnownFields? fields else Policy.ofFields? fields

/-- Carries out a call: what was asked, if anything was, and the answer. -/
def Call.perform (s : Session) : Call → Act (Value × Answer)
  | .ask target verb args => do
    let asked ← ofExcept (s.register target)
    let args ← ofExcept (s.resolveItems args)
    return (asked, ← Act.ask asked verb args)
  | .serve service args => do
    let args ← ofExcept (s.resolveItems args)
    return (.null, ← Act.serve service args)
  | .identify x y => do
    let v ← ofExcept (s.resolve x)
    let w ← ofExcept (s.resolve y)
    return (.null, .value (.bool (v.same w)))
  | .configure lenient fields => do
    let fields ← ofExcept (s.resolveEntries fields)
    return (.null, .value (.policy (← ofExcept (Policy.configure lenient fields))))

/-- The value that a call asks, if it asks one. -/
def Call.asked? (s : Session) : Call → Option Value
  | .ask target _ _ => (s.register target).toOption
  | _ => none

/-- Makes one request and keeps its answer. -/
def Call.run (c : Call) (keep : Option String) (s : Session) : Report × Session :=
  let standing (w : World) := (c.asked? s).bind w.standing
  match (c.perform s).run s.world with
  | .error fault w => (.mk (.error (w.refusal fault)) (standing w) none, { s with world := w })
  | .ok (asked, answer) w =>
    let report := .mk (.ok (w.shownAnswer answer)) (standing w) none
    match keep with
    | none => (report, { s with world := w })
    | some _ =>
      let (v, kept) := w.adopt asked answer
      (report, { s with world := kept }.keep keep v)

/-! ### Running a script -/

mutual

/-- Runs one step. -/
def Step.run : Step → Session → Report × Session
  | .call c keep, s => c.run keep s
  | .block scope keep propagate body, s =>
    let standing (w : World) := (scope.asked? s).bind w.standing
    match s.enter scope keep with
    | .error fault => (.mk (.error (s.world.refusal fault)) (standing s.world) none, s)
    | .ok inside =>
      let (reports, failure, ended) := Step.runBody propagate body inside
      let after := ended.leave scope s.world.ambient
      match failure with
      | some refusal => (.mk (.error refusal) (standing after.world) (some reports), after)
      | none =>
        (.mk (.ok .null) (standing after.world) (some reports),
          after.keep (scope.keptAtEnd keep) .null)
  termination_by structural step => step

/-- Runs the steps of a block, and tells why the block failed, if it did. -/
def Step.runBody (propagate : Bool) : List Step → Session →
    List Report × Option World.Refusal × Session
  | [], s => ([], none, s)
  | step :: rest, s =>
    let (report, next) := step.run s
    match propagate, report.refusal? with
    | true, some refusal => ([report], some refusal, next)
    | _, _ =>
      let (reports, failure, ended) := Step.runBody propagate rest next
      (report :: reports, failure, ended)
  termination_by structural steps => steps

end

/-- The report of an outermost step, with the records that were logged during it. -/
structure Entry where
  report : Report
  log : List Notice

/-- Runs the outermost steps of a script; the records of a step are those that it added and that can
be put into words. -/
def runScript : List Step → Session → List Entry × Session
  | [], s => ([], s)
  | step :: rest, s =>
    let (report, next) := step.run s
    let (entries, ended) := runScript rest next
    let added := next.world.log.drop s.world.log.length
    (⟨report, added.filter Notice.isWritable⟩ :: entries, ended)

/-- What is shown of a register when a script has ended. -/
structure Remainder where
  shown : Shown
  standing : Option World.Standing
  /-- The number of characters of a buffer. -/
  length : Option Nat

namespace Session

/-- What is shown of a value when a script has ended. -/
def remainder (s : Session) (v : Value) : Remainder where
  shown := s.world.shown v
  standing := s.world.standing v
  length := match v with
    | .buffer b => some (s.world.buffer b).length
    | _ => none

/-- What is shown of the registers when a script has ended. -/
def remainders (s : Session) : List (String × Remainder) :=
  s.registers.map fun (name, v) => (name, s.remainder v)

end Session

end TextRoll
