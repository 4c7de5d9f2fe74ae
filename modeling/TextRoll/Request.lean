/-
TextRoll/Request.lean

Requests to any value, and requests to the library itself.
-/
import TextRoll.Request.OfBookmark
import TextRoll.Request.OfBuffer
import TextRoll.Request.OfFigures
import TextRoll.Request.OfRoll

namespace TextRoll

namespace Act

/-- Asks a value something. -/
def ask (asked : Value) (verb : Verb) (args : List Value) : Act Answer :=
  match asked with
  | .buffer b => askBuffer b verb args
  | .roll r => askRoll r verb args
  | .guarded mark depth r => askGuarded mark depth r verb args
  | .bookmark mark m => askBookmark mark m verb args
  | .policy p => askPolicy p verb args
  | .tally t start => askTally t start verb args
  | v => askGeneral v verb args

/-! ### The library itself -/

/-- Puts a value in force as the policy of new rolls. -/
def setPolicy (v : Value) : Act Unit :=
  modify fun w => { w with ambient := { w.ambient with policy := v } }

/-- Asks the library itself something. -/
def serve (service : Service) (args : List Value) : Act Answer :=
  match service, args with
  | .makeBuffer, [] => return .copy Text.empty
  | .makeBuffer, [v] => return .copy (← ofExcept (v.asText "StringBuilder"))
  | .makeRoll, [] => return .draft (.roll (← newRoll none))
  | .makeRoll, [v] => return .draft (.roll (← newRollFor v))
  | .makeGuard, [] | .makeGuard, [.null] => return .draft (.guardedRoll (← newRoll none))
  | .makeGuard, [.roll r] => return .value (.guarded .fresh 0 r)
  | .makeGuard, [.guarded _ depth r] => return .value (.guarded .fresh (depth + 1) r)
  | .makeGuard, [v] => throw (.missingAttribute v.kind Verb.texts.name)
  | .makeBookmark, [.roll r, index, generation] =>
    return .value (.bookmark .fresh ⟨r, index, generation⟩)
  | .makeBookmark, [v, _, _] => throw (.missingAttribute v.kind Verb.generation.name)
  | .makeTally, start => return .draft (.tally start)
  | .activePolicy, [] => return .value (← get).ambient.policy
  | .usePolicy, [v] => do
    setPolicy v
    return .nothing
  | .resetPolicy, [] => do
    setPolicy (.policy Policy.standard)
    return .nothing
  | .activeTally, [] =>
    return .value (match (← get).ambient.tally with
      | some t => .tally t []
      | none => .null)
  | .equal, [v, w] => return .value (.bool (← equal v w))
  | .unequal, [v, w] => return .value (.bool !(← equal v w))
  | .raise, [v] => do throw (.raised ((← get).written v))
  | service, _ => throw (.badArguments service.name)

end Act

end TextRoll
