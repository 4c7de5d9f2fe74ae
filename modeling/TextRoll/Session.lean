/-
TextRoll/Session.lean

Sessions: a world together with named registers.

An operand stands for a value once the registers are known.  Entering a block
puts its scope in place, and leaving it takes the scope away again; both change
only the ambient part of the world and the register that the scope fills.

Guards do not keep each other out here, since the steps of a script come one after
the other.  There is one kind of script for which this makes a difference: a
separate block inside an editing block that asks the same guard would wait for ever.
-/
import TextRoll.Request
import TextRoll.Script

namespace TextRoll

/-- The world, and what the registers hold. -/
structure Session where
  world : World
  registers : List (String × Value)

namespace Session

/-- Nothing has happened and no register is set. -/
def initial : Session := ⟨World.initial, []⟩

/-- Sets a register. -/
def keep (s : Session) (register : Option String) (v : Value) : Session :=
  match register with
  | none => s
  | some name => { s with registers := (name, v) :: s.registers.filter (·.1 != name) }

/-- What a register holds. -/
def register (s : Session) (name : String) : Except Fault Value :=
  match s.registers.lookup name with
  | some v => .ok v
  | none => .error (.unsetRegister name)

/-- The octets with some numbers. -/
def octets? (numbers : List Int) : Except Fault (List Nat) :=
  if numbers.all fun n => 0 ≤ n && n < 256 then .ok (numbers.map Int.toNat)
  else .error .octetsOutOfRange

mutual

/-- The value that an operand stands for; what is written out is marked by its place. -/
def resolve (s : Session) : Operand → Except Fault Value
  | .null => return .null
  | .bool b => return .bool b
  | .int place n => return .int (.written place) n
  | .real place x => return .real (.written place) x
  | .constant x => return .real .word x
  | .text place content => return .text (.marked content (.written place))
  | .bytes place numbers => return .bytes (.written place) (← octets? numbers)
  | .list place items => return .list (.written place) (← s.resolveItems items)
  | .record place entries => return .record (.written place) (← s.resolveEntries entries)
  | .register name => s.register name

/-- The values that operands stand for. -/
def resolveItems (s : Session) : List Operand → Except Fault (List Value)
  | [] => return []
  | x :: xs => return (← s.resolve x) :: (← s.resolveItems xs)

/-- The values that named operands stand for. -/
def resolveEntries (s : Session) : List (String × Operand) → Except Fault (List (String × Value))
  | [] => return []
  | (name, x) :: xs => return (name, ← s.resolve x) :: (← s.resolveEntries xs)

end

end Session

/-! ### Entering and leaving a block -/

/-- The current element of a roll, the buffer itself. -/
def Act.currentBuffer (r : RollId) : Act BufferId := do
  let l ← roll r
  let i ← ofExcept (l.currentIndex "current_ref")
  followTo ⟨r, .ofInt i, .ofInt l.generation⟩ "append"

namespace Session

/-- Replaces what a block can replace for a while. -/
def withAmbient (s : Session) (a : Ambient) : Session :=
  { s with world := { s.world with ambient := a } }

/-- Puts a scope in place; what it hands out is kept in a register. -/
def enter (s : Session) (scope : Scope) (keep : Option String) : Except Fault Session :=
  let ambient := s.world.ambient
  match scope with
  | .policy p =>
    (s.resolve p).map fun v => s.withAmbient { ambient with policy := v }
  | .profiled =>
    let (t, w) := s.world.addTally Tally.zero
    let kept := { s with world := w }.keep keep (.tally t [])
    .ok (kept.withAmbient { ambient with tally := some t })
  | .separate => .ok (s.withAmbient Ambient.initial)
  | .editing target =>
    match s.register target with
    | .error fault => .error fault
    | .ok (.guarded _ (_ + 1) _) =>
      -- between the guard and the roll stands another guard, which hands out no bookmarks
      .error (.missingAttribute .guarded Verb.bookmark.name)
    | .ok (.guarded _ 0 r) =>
      match (Act.currentBuffer r).run s.world with
      | .ok b w => .ok ({ s with world := w }.keep keep (.buffer b))
      | .error fault _ => .error fault
    | .ok v => .error (.missingAttribute v.kind "edit_current")

/-- Takes a scope away again; `before` is what was in place when it was put there. -/
def leave (s : Session) (scope : Scope) (before : Ambient) : Session :=
  match scope with
  | .policy _ => s.withAmbient { s.world.ambient with policy := before.policy }
  | .profiled => s.withAmbient { s.world.ambient with tally := before.tally }
  | .separate => s.withAmbient before
  | .editing _ => s

end Session

/-- The value that a block asks, if it asks one. -/
def Scope.asked? (s : Session) : Scope → Option Value
  | .editing target => (s.register target).toOption
  | _ => none

/-- The register that a block sets when it has run well; the others set theirs when they begin. -/
def Scope.keptAtEnd (scope : Scope) (keep : Option String) : Option String :=
  match scope with
  | .policy _ | .separate => keep
  | .profiled | .editing _ => none

end TextRoll
