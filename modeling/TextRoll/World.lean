/-
TextRoll/World.lean

The world: everything that requests read and change.

Buffers, rolls, tallies and walks live in arenas and are named by their place.
The ambient part is what a block of a script can replace for a while: the policy
that new rolls take, and the tally that growth is counted in.  The log collects
records in order.

A request that makes something new hands it back as a draft, or as a fresh value.
A draft gets its place in the world, and a fresh value its mark, only when it is
kept (`World.adopt`); what nobody keeps leaves no trace.
-/
import TextRoll.Arena
import TextRoll.Buffer
import TextRoll.Notice
import TextRoll.Roll.Basic
import TextRoll.Tally
import TextRoll.Walk

namespace TextRoll

/-- What a block of a script can replace for a while. -/
structure Ambient where
  /-- The policy that new rolls take.  Anything may be put here; what is no policy is noticed only
  when a roll is made. -/
  policy : Value
  /-- The tally that growth is counted in, if any. -/
  tally : Option TallyId

/-- The standard policy, and no tally. -/
def Ambient.initial : Ambient := ⟨.policy Policy.standard, none⟩

/-- Everything that requests read and change. -/
structure World where
  buffers : Arena Buffer
  rolls : Arena (Roll BufferId)
  tallies : Arena Tally
  walks : Arena Walk
  /-- The serial number of the next thing that is kept; zero is that of the standard policy. -/
  serial : Nat
  ambient : Ambient
  log : List Notice

namespace World

/-- The world before anything happened. -/
def initial : World := ⟨default, default, default, default, 1, Ambient.initial, []⟩

instance : Inhabited World := ⟨initial⟩

/-! ### Reading -/

/-- The buffer at a place. -/
def buffer (w : World) (b : BufferId) : Buffer := w.buffers.get b.index

/-- The roll at a place. -/
def roll (w : World) (r : RollId) : Roll BufferId := w.rolls.get r.index

/-- The tally at a place. -/
def tally (w : World) (t : TallyId) : Tally := w.tallies.get t.index

/-- The walk at a place. -/
def walk (w : World) (k : WalkId) : Walk := w.walks.get k.index

/-- The text of a buffer. -/
def text (w : World) (b : BufferId) : String := (w.buffer b).text

/-- The text of a buffer with its mark. -/
def built (w : World) (b : BufferId) : Text := (w.buffer b).built b

/-- The buffers that are the elements of a roll, in order. -/
def elements (w : World) (r : RollId) : List BufferId :=
  ((w.roll r).slots.take (w.roll r).length).filterMap id

/-- The texts of the elements of a roll, in order. -/
def texts (w : World) (r : RollId) : List String := (w.elements r).map w.text

/-- Whether a bookmark still points at what it was taken at. -/
def isCurrent (w : World) (m : Bookmark) : Bool :=
  m.generation.sameNumber (.ofInt (w.roll m.roll).generation)

/-- One growth of a tally. -/
def growth (w : World) (t : TallyId) (place : Nat) : Number × Number :=
  (w.tally t).events.getD place default

/-- The growths of a tally, each named by its place. -/
def growths (w : World) (t : TallyId) : List Value :=
  (List.range (w.tally t).events.length).map (.growth t)

/-- The truth of a value: what is empty or zero is false. -/
def truth (w : World) : Value → Bool
  | .null => false
  | .bool b => b
  | .int _ n => n != 0
  | .real _ x => !x.isZero
  | .text t => t.content != ""
  | .bytes _ octets => !octets.isEmpty
  | .list _ items => !items.isEmpty
  | .record _ entries => !entries.isEmpty
  | .buffer b => !(w.buffer b).isEmpty
  | .roll r => (w.roll r).length != 0
  | .guarded _ _ r => (w.roll r).length != 0
  | .growths t => !(w.tally t).events.isEmpty
  | .bookmark .. | .policy _ | .tally .. | .growth .. | .walk _ => true

/-! ### Changing -/

/-- Replaces the buffer at a place. -/
def setBuffer (w : World) (b : BufferId) (x : Buffer) : World :=
  { w with buffers := w.buffers.put b.index x }

/-- Replaces the roll at a place. -/
def setRoll (w : World) (r : RollId) (l : Roll BufferId) : World :=
  { w with rolls := w.rolls.put r.index l }

/-- Replaces the tally at a place. -/
def setTally (w : World) (t : TallyId) (x : Tally) : World :=
  { w with tallies := w.tallies.put t.index x }

/-- Replaces the walk at a place. -/
def setWalk (w : World) (k : WalkId) (x : Walk) : World :=
  { w with walks := w.walks.put k.index x }

/-- Adds a record to the log. -/
def note (w : World) (n : Notice) : World := { w with log := w.log ++ [n] }

/-- Counts a growth in the tally in force, if there is one, and logs it. -/
def recordGrowth (w : World) (g : Growth) : World :=
  (match w.ambient.tally with
    | some t =>
      w.setTally t ((w.tally t).afterRecord t (.ofInt g.before) (g.after.valueAs g.mark))
    | none => w).note (.grew g.before g.after.toNat)

/-! ### New things -/

/-- The next free place for a buffer. -/
def freeBuffer (w : World) : BufferId := ⟨w.buffers.size⟩

/-- Gives a new buffer a place. -/
def addBuffer (w : World) (x : Buffer) : World := { w with buffers := w.buffers.issue x }

/-- Gives a new roll a place. -/
def addRoll (w : World) (l : Roll BufferId) : RollId × World :=
  (⟨w.rolls.size⟩, { w with rolls := w.rolls.issue l })

/-- Gives a new tally a place. -/
def addTally (w : World) (t : Tally) : TallyId × World :=
  (⟨w.tallies.size⟩, { w with tallies := w.tallies.issue t })

/-- Gives a new walk a place. -/
def addWalk (w : World) (k : Walk) : WalkId × World :=
  (⟨w.walks.size, k.kind⟩, { w with walks := w.walks.issue k })

/-- Uses up a serial number. -/
def nextSerial (w : World) : Nat × World := (w.serial, { w with serial := w.serial + 1 })

end World

end TextRoll
