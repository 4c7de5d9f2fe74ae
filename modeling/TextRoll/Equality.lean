/-
TextRoll/Equality.lean

Equality by content.

To compare two values, the first is asked whether it knows how to compare itself
with the second (`Act.offer`).  If it does not, the second is asked about the
first; if neither knows, two numbers are compared as numbers, and all else is equal
only if it is one and the same.  A buffer knows buffers and texts, a roll knows
rolls, a guarded roll knows guarded and plain ones.  Lists, records, policies and
tallies are compared part by part, the growths of a tally as a list of growths.  A
growth knows growths only: it is a pair and no list.

Parts are said to agree (`Act.agree`) when they are equal or one and the same.  That
is more than equality (`Act.equal`) for just one thing, a number that is undefined.
-/
import TextRoll.Act

namespace TextRoll

/-- Whether some values are growths with given numbers, in the same order. -/
def World.areGrowths (w : World) : List (Number × Number) → List Value → Bool
  | [], [] => true
  | g :: gs, .growth t i :: vs => Tally.sameGrowth g (w.growth t i) && w.areGrowths gs vs
  | _, _ => false

namespace Act

/-- What the first of two values knows about being equal to the second. -/
def offer : Value → Value → Act (Option Bool)
  | .buffer a, .buffer b => do
    let mine ← textOf a
    let theirs ← textOf b
    return some (mine == theirs)
  | .buffer a, .text t => return some ((← textOf a) == t.content)
  | .text t, .text u => return some (t.content == u.content)
  | .bytes _ xs, .bytes _ ys => return some (xs == ys)
  | .roll a, .roll b => do
    let mine ← texts a
    let theirs ← texts b
    return some (mine == theirs)
  | .guarded _ _ a, .roll b | .guarded _ _ a, .guarded _ _ b => do
    let theirs ← texts b
    let mine ← texts a
    return some (mine == theirs)
  | .growth a i, .growth b j => do
    let w ← get
    return some (Tally.sameGrowth (w.growth a i) (w.growth b j))
  | .growths a, .growths b => do
    let w ← get
    return some (Tally.sameGrowths (w.tally a).events (w.tally b).events)
  | .growths a, .list _ ys | .list _ ys, .growths a => do
    let w ← get
    return some (w.areGrowths (w.tally a).events ys)
  | _, _ => return none

/-- Asks both values in turn, and falls back on numbers and identity. -/
def agreeByOffer (v w : Value) : Act Bool := do
  match ← offer v w with
  | some answer => return answer
  | none =>
    match ← offer w v with
    | some answer => return answer
    | none =>
      match v.toNumber?, w.toNumber? with
      | some a, some b => return a.agrees b
      | _, _ => return v.same w

mutual

/-- Whether two values are equal or one and the same. -/
def agree : Value → Value → Act Bool
  | .list n xs, w =>
    match w with
    | .list _ ys => agreeItems xs ys
    | w => agreeByOffer (.list n xs) w
  | .record _ xs, w =>
    match w with
    | .record _ ys => if xs.length = ys.length then agreeEntries xs ys else return false
    | _ => return false
  | .policy ⟨_, _, d, g, m, release, _⟩, w =>
    match w with
    | .policy q =>
      if d = q.defaultCapacity ∧ g = q.growthFactor ∧ m = q.maxCapacity then
        agree release q.releaseOnClear
      else return false
    | _ => return false
  | .tally a xs, w =>
    match w with
    | .tally b ys => do
      let (t, u) := ((← get).tally a, (← get).tally b)
      if ← agreeFigures xs ys t.figures u.figures then
        return Tally.sameGrowths t.events u.events
      else return false
    | _ => return false
  | v, w => agreeByOffer v w

/-- Whether two lists hold agreeing values in the same order. -/
def agreeItems : List Value → List Value → Act Bool
  | [], ys => return ys.isEmpty
  | x :: xs, ys =>
    match ys with
    | [] => return false
    | y :: ys' => do
      if ← agree x y then agreeItems xs ys' else return false

/-- Whether every entry of one record has an agreeing one under the same name in another. -/
def agreeEntries : List (String × Value) → List (String × Value) → Act Bool
  | [], _ => return true
  | (name, x) :: xs, ys =>
    match ys.lookup name with
    | none => return false
    | some y => do
      if ← agree x y then agreeEntries xs ys else return false

/-- Whether the figures of two tallies agree one by one: two numbers as numbers, and two others as
the values that the tallies started from, which are given in the same order. -/
def agreeFigures : List Value → List Value → List Figure → List Figure → Act Bool
  | x :: xs, y :: ys, .other _ :: fs, .other _ :: gs => do
    if ← agree x y then agreeFigures xs ys fs gs else return false
  | _ :: xs, ys, f :: fs, g :: gs =>
    if f.agrees g then agreeFigures xs ys.tail fs gs else return false
  | _, _, fs, gs => return (fs.zip gs).all fun (f, g) => f.agrees g

end

/-- Whether two values are equal. -/
def equal (v w : Value) : Act Bool :=
  match v.toNumber?, w.toNumber? with
  | some a, some b => return a.sameNumber b
  | _, _ => agree v w

end Act

end TextRoll
