/-
TextRoll/Proofs/Content/Machine.lean

A small machine that rolls are to be compared with.

A state of the machine (`Content`) is a list of texts and a cursor, and nothing else: no
slots, no storage, no buffers in pieces, no counters.  An `Order` is a request with all that
it says about the world taken out of it: where a request names a buffer, the order has
the text of that buffer.  `Content.obey` carries out one order and replies to it, and an
order that fails changes nothing, since a failure comes without a new state.

What happens to a roll from outside is a `Deed`: an order is given, storage for it is refused,
or somebody who holds an element edits it.  Runs of deeds (`Content.after`) leave a state
behind and a list of replies (`Content.replies`).
-/
import TextRoll.Proofs.Content.Wording
import TextRoll.Request.General

namespace TextRoll

/-- What a roll is about: the texts of its elements, and its cursor as it was set. -/
structure Content where
  texts : List String
  cursor : Whole
deriving DecidableEq

/-- What a request gives a roll to work with. -/
inductive Argument
  | text (content : String)
  | buffer (content : String)
  | whole (n : Whole)
  | real (x : Binary64)
  | other (kind : Kind)

namespace Argument

/-- The kind of the value that was given. -/
def kind : Argument → Kind
  | text _ => .text
  | buffer _ => .buffer
  | whole (.numeral _) => .int
  | whole (.truth _) => .bool
  | real _ => .real
  | other kind => kind

/-- The text that an operation was given, or the fault of giving it something else. -/
def asText (operation : String) : Argument → Except Fault String
  | text content => .ok content
  | x => .error (.textExpected operation x.kind)

/-- The text of the buffer that was given, or the fault of giving something else. -/
def asBuffer : Argument → Except Fault String
  | buffer content => .ok content
  | x => .error (.bufferExpected x.kind)

/-- The whole number that an operation was given, or the fault of giving it something else. -/
def asWhole (refused : Kind → Fault) : Argument → Except Fault Whole
  | whole n => .ok n
  | x => .error (refused x.kind)

/-- The index among so many elements that an operation was given, or the fault of giving it
something else. -/
def asIndex (length : Nat) : Argument → Except Fault Whole
  | real x => .error (.noIndex length x)
  | x => x.asWhole (.notOrdered "<=" .int ·)

/-- Whether what was given is a number of slots, or the fault of giving something else.  The content
does not tell how many slots there are, so it does not tell either whether they can be had. -/
def asSlots : Argument → Except Fault Unit
  | whole _ | real _ => .ok ()
  | x => .error (.notOrdered ">" x.kind .int)

/-- The text that can be looked for among others. -/
def sought? : Argument → Option String
  | text content | buffer content => some content
  | whole _ | real _ | other _ => none

end Argument

/-- Whether a roll is asked directly, or through a guard with `depth` further guards behind it. -/
inductive Access
  | direct
  | guarded (depth : Nat)
deriving DecidableEq

/-- The kind of thing that is asked. -/
def Access.kind : Access → Kind
  | direct => .roll
  | guarded _ => .guarded

/-- What a roll can be asked. -/
inductive Order
  | add (x : Argument)
  | addBuffer (x : Argument)
  | reserve (x : Argument)
  | clear
  | remove
  | removeAt (i : Argument)
  | seek (i : Argument)
  | advance
  | retreat
  | rewind
  | length
  | truth
  | cursor
  | current
  | get (i : Argument)
  | texts
  | elements
  | contains (x : Argument)
  | form
  | walk
  | capacity
  | bookmark
  /-- What a plain roll tells of its counters and its policy, and a request for another roll. -/
  | figure (verb : Verb)
  | hash
  | next
  | assign (name : Argument)
  /-- A word that rolls do not know, or one that came with too few or too many arguments. -/
  | unknown (verb : Verb)

/-- Whether the content of a roll tells what the order asks for. -/
def Order.isTold : Order → Bool
  | .capacity | .bookmark | .figure _ => false
  | _ => true

/-- What an order comes to, as far as the content of a roll decides it. -/
inductive Reply
  | shows (x : Shown)
  | fails (fault : Fault)
  /-- The content does not tell: the order asks for something else. -/
  | untold

namespace Content

variable (c : Content)

/-- The cursor as a place among the texts. -/
def index : Nat := c.cursor.toNat

/-- The text at a place. -/
def item (i : Nat) : String := c.texts.getD i ""

/-- The place of the current text, for an operation that needs one. -/
def currentIndex (operation : String) : Except Fault Nat :=
  if c.texts.length = 0 then .error (.emptyRoll (.ofText operation)) else .ok c.index

/-- The place that an index names, or the fault of an index that names none. -/
def checkIndex (i : Whole) : Except Fault Nat :=
  if 0 ≤ i.toInt ∧ i.toInt < c.texts.length then .ok i.toNat
  else .error (.outOfRange i.value (.ofInt c.texts.length))

/-- The content with one more text at the end. -/
def added (s : String) : Content := { c with texts := c.texts ++ [s] }

/-- The content with another text at a place. -/
def rewritten (i : Nat) (s : String) : Content := { c with texts := c.texts.set i s }

/-- The content with its cursor at a place that was counted. -/
def movedTo (i : Nat) : Content := { c with cursor := .numeral i }

/-- Where the cursor goes when the text at `i` is taken out: one back if it was behind `i`, and then
no further than the last text that is left. -/
def cursorWithout (i : Nat) : Whole :=
  let left := c.texts.length - 1
  let moved : Whole := if i < c.index then .numeral (c.index - 1 : Nat) else c.cursor
  if left ≤ moved.toNat then .numeral (left - 1 : Nat) else moved

/-- The content without the text at `i`. -/
def without (i : Nat) : Content := ⟨c.texts.eraseIdx i, c.cursorWithout i⟩

/-- Hands out something and stays as it is. -/
def telling (x : Shown) : Reply × Content := (.shows x, c)

/-- Hands out the text at a place and goes on without it. -/
def handingOut (i : Nat) : Reply × Content := (.shows (.buffer (c.item i)), c.without i)

/-- Goes to the place `i` if it may, and tells whether it did. -/
def stepping (may : Bool) (i : Nat) : Reply × Content :=
  (.shows (.bool may), if may then c.movedTo i else c)

/-- The printed form. -/
def form : Access → String
  | .direct => Printed.roll isUnprintable c.texts c.cursor
  | .guarded depth => Printed.guarded isUnprintable depth c.texts c.cursor

/-- What an order comes to, or why it fails. -/
def outcome (access : Access) : Order → Except Fault (Reply × Content)
  | .add x => (x.asText "add").map fun s => (.shows .null, c.added s)
  | .addBuffer x => x.asBuffer.map fun s => (.shows .null, c.added s)
  | .reserve x => x.asSlots.map fun _ => c.telling .null
  | .clear => .ok (.shows .null, ⟨[], .numeral 0⟩)
  | .remove => (c.currentIndex "remove").map c.handingOut
  | .removeAt i => (i.asIndex c.texts.length >>= c.checkIndex).map c.handingOut
  | .seek i => do
    let _ ← c.currentIndex "seek"
    let n ← i.asIndex c.texts.length
    let _ ← c.checkIndex n
    return (.shows .null, { c with cursor := n })
  | .advance => .ok (c.stepping (c.index + 1 < c.texts.length) (c.index + 1))
  | .retreat => .ok (c.stepping (0 < c.index) (c.index - 1))
  | .rewind => .ok (.shows .null, c.movedTo 0)
  | .length => .ok (c.telling (.int c.texts.length))
  | .truth => .ok (c.telling (.bool (c.texts.length != 0)))
  | .cursor => .ok (c.telling (.whole c.cursor))
  | .current => (c.currentIndex "current").map fun i => c.telling (.buffer (c.item i))
  | .get i =>
    (i.asIndex c.texts.length >>= c.checkIndex).map fun place =>
      c.telling (.buffer (c.item place))
  | .texts => .ok (c.telling (.list (c.texts.map .text)))
  | .elements => .ok (c.telling (.list (c.texts.map .buffer)))
  | .contains x => .ok (c.telling (.bool (x.sought?.any (· ∈ c.texts))))
  | .form => .ok (c.telling (.text (c.form access)))
  | .walk => .ok (c.telling .walk)
  | .capacity => .ok (.untold, c)
  | .bookmark =>
    match access with
    | .direct => (c.currentIndex "current_ref").map fun _ => (.untold, c)
    | .guarded _ => .error (.missingAttribute .guarded Verb.bookmark.name)
  | .figure verb =>
    match access with
    | .direct => .ok (.untold, c)
    | .guarded _ => .error (.missingAttribute .guarded verb.name)
  | .hash => .error (.unhashable access.kind)
  | .next => .error (.notIterator access.kind)
  | .assign name =>
    match name with
    | .text field => .error (.missingAttribute access.kind field)
    | name => .error (.fieldNameExpected name.kind)
  | .unknown verb => .error (.missingAttribute access.kind verb.name)

/-- **Carries out an order**: the reply, and the content from then on.  What fails changes
nothing. -/
def obey (access : Access) (order : Order) : Reply × Content :=
  match c.outcome access order with
  | .ok done => done
  | .error fault => (.fails fault, c)

end Content

/-! ### Runs -/

/-- What happens to a roll from outside. -/
inductive Deed
  | asked (access : Access) (order : Order)
  /-- Storage for what was asked is refused. -/
  | refused (fault : Fault)
  /-- Somebody who holds an element edits it. -/
  | edited (i : Nat) (text : String)
  | nothing

namespace Content

/-- What a deed comes to. -/
def react (c : Content) : Deed → Reply × Content
  | .asked access order => c.obey access order
  | .refused fault => (.fails fault, c)
  | .edited i text => (.untold, c.rewritten i text)
  | .nothing => (.untold, c)

/-- The content after some deeds, the first one first. -/
def after (c : Content) (deeds : List Deed) : Content :=
  deeds.foldl (fun c deed => (c.react deed).2) c

/-- The replies to some deeds, in order. -/
def replies (c : Content) : List Deed → List Reply
  | [] => []
  | deed :: deeds => (c.react deed).1 :: (c.react deed).2.replies deeds

variable {c : Content} {access : Access} {order : Order}

theorem obey_of_ok {done : Reply × Content} (h : c.outcome access order = .ok done) :
    c.obey access order = done := by
  unfold obey
  rw [h]

theorem obey_of_error {fault : Fault} (h : c.outcome access order = .error fault) :
    c.obey access order = (.fails fault, c) := by
  unfold obey
  rw [h]

/-! ### What orders come to -/

/-- What comes out of a step that may fail is what the step after it makes of something. -/
theorem exists_of_map {α β : Type} {x : Except Fault α} {f : α → β} {b : β}
    (h : x.map f = .ok b) : ∃ a, f a = b := by
  cases x with
  | error fault => cases h
  | ok a =>
    cases h
    exact ⟨a, rfl⟩

/-- What the content tells is shown. -/
theorem shows_of_outcome {done : Reply × Content} (h : c.outcome access order = .ok done)
    (htold : order.isTold = true) : ∃ x, done.1 = .shows x := by
  cases order with
  | capacity | bookmark | figure => cases htold
  | hash | next | unknown => cases h
  | assign name => cases name <;> cases h
  | clear | advance | retreat | rewind | length | truth | cursor | texts | elements | contains
    | form | walk =>
    cases h
    exact ⟨_, rfl⟩
  | add | addBuffer | reserve | remove | removeAt | current | get =>
    obtain ⟨a, rfl⟩ := exists_of_map h
    exact ⟨_, rfl⟩
  | seek i =>
    replace h : (c.currentIndex "seek").bind (fun _ => (i.asIndex c.texts.length).bind fun n =>
      (c.checkIndex n).map fun _ => (Reply.shows .null, { c with cursor := n })) = .ok done := h
    cases hcurrent : c.currentIndex "seek" with
    | error fault => rw [hcurrent] at h; cases h
    | ok j =>
      cases hi : i.asIndex c.texts.length with
      | error fault => rw [hcurrent, hi] at h; cases h
      | ok n =>
        rw [hcurrent, hi] at h
        obtain ⟨a, rfl⟩ := exists_of_map h
        exact ⟨_, rfl⟩

/-- Asking for what the content does not tell leaves it as it is. -/
theorem same_of_outcome {done : Reply × Content} (h : c.outcome access order = .ok done)
    (htold : order.isTold = false) : done = (.untold, c) := by
  cases order <;> cases htold
  · cases h
    rfl
  · cases access with
    | direct =>
      obtain ⟨a, rfl⟩ := exists_of_map h
      rfl
    | guarded => cases h
  · cases access with
    | direct =>
      cases h
      rfl
    | guarded => cases h

/-! ### What orders fail with -/

theorem error_of_map {α β : Type} {x : Except Fault α} {f : α → β} {fault : Fault}
    (h : x.map f = .error fault) : x = .error fault := by
  cases x with
  | ok a => cases h
  | error fault' =>
    cases h
    rfl

variable {fault : Fault} {x : Argument}

theorem isPlain_of_asText {operation : String} (h : x.asText operation = .error fault) :
    fault.IsPlain := by
  cases x <;> cases h <;> exact Fault.isPlain_of_mentioned rfl rfl

theorem isPlain_of_asBuffer (h : x.asBuffer = .error fault) : fault.IsPlain := by
  cases x <;> cases h <;> exact Fault.isPlain_of_mentioned rfl rfl

theorem isPlain_of_asWhole {refused : Kind → Fault} (hrefused : ∀ got, (refused got).IsPlain)
    (h : x.asWhole refused = .error fault) : fault.IsPlain := by
  cases x <;> cases h <;> exact hrefused _

theorem isPlain_of_currentIndex {operation : String}
    (h : c.currentIndex operation = .error fault) : fault.IsPlain := by
  unfold currentIndex at h
  split at h
  · cases h
    exact Fault.isPlain_emptyRoll operation
  · cases h

theorem isPlain_of_checkIndex {i : Whole} (h : c.checkIndex i = .error fault) :
    fault.IsPlain := by
  unfold checkIndex at h
  split at h
  · cases h
  · cases h
    exact Fault.isPlain_outOfRange _ _

theorem isPlain_of_asIndex {length : Nat} (h : x.asIndex length = .error fault) :
    fault.IsPlain := by
  unfold Argument.asIndex at h
  split at h
  · cases h
    exact Fault.isPlain_noIndex _ _
  · exact isPlain_of_asWhole (fun _ => Fault.isPlain_of_mentioned rfl rfl) h

theorem isPlain_of_asSlots (h : x.asSlots = .error fault) : fault.IsPlain := by
  cases x <;> cases h <;> exact Fault.isPlain_of_mentioned rfl rfl

/-- An index that was given may be none at all, or name nothing. -/
theorem isPlain_of_index (h : x.asIndex c.texts.length >>= c.checkIndex = .error fault) :
    fault.IsPlain := by
  cases hx : x.asIndex c.texts.length with
  | error fault' =>
    rw [hx] at h
    cases h
    exact isPlain_of_asIndex hx
  | ok i =>
    rw [hx] at h
    exact isPlain_of_checkIndex h

theorem isPlain_of_seek (h : c.outcome access (.seek x) = .error fault) : fault.IsPlain := by
  replace h : (c.currentIndex "seek").bind (fun _ => (x.asIndex c.texts.length).bind fun n =>
    (c.checkIndex n).bind fun _ => .ok (Reply.shows .null, { c with cursor := n }))
      = .error fault := h
  cases hcurrent : c.currentIndex "seek" with
  | error fault' =>
    rw [hcurrent] at h
    cases h
    exact isPlain_of_currentIndex hcurrent
  | ok i =>
    rw [hcurrent] at h
    refine isPlain_of_index (c := c) (x := x) ?_
    cases hx : x.asIndex c.texts.length with
    | error fault' =>
      rw [hx] at h
      cases h
      rfl
    | ok n =>
      rw [hx] at h
      exact error_of_map h

/-- **Orders fail for reasons of their own,** which are told in the same words everywhere. -/
theorem isPlain_of_outcome (h : c.outcome access order = .error fault) : fault.IsPlain := by
  cases order with
  | add x => exact isPlain_of_asText (error_of_map h)
  | addBuffer x => exact isPlain_of_asBuffer (error_of_map h)
  | reserve x => exact isPlain_of_asSlots (error_of_map h)
  | remove | current => exact isPlain_of_currentIndex (error_of_map h)
  | removeAt i | get i => exact isPlain_of_index (error_of_map h)
  | seek i => exact isPlain_of_seek h
  | bookmark =>
    cases access with
    | direct => exact isPlain_of_currentIndex (error_of_map h)
    | guarded =>
      cases h
      exact Fault.isPlain_of_mentioned rfl rfl
  | figure verb =>
    cases access with
    | direct => cases h
    | guarded =>
      cases h
      exact Fault.isPlain_of_mentioned rfl rfl
  | assign name =>
    cases name <;> cases h <;> exact Fault.isPlain_of_mentioned rfl rfl
  | hash | next | unknown =>
    cases h
    exact Fault.isPlain_of_mentioned rfl rfl
  | clear | advance | retreat | rewind | length | truth | cursor | texts | elements | contains
    | form | walk | capacity => cases h

end Content

end TextRoll
