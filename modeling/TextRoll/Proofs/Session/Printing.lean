/-
TextRoll/Proofs/Session/Printing.lean

Printed forms are faithful.

What is told of a buffer or of a roll that is asked for its printed form is the form of its text, or
of the texts of its elements and its cursor (`hears_printed`).  As such forms can be read back, two
of them are equal only if all of that is, be it in one session or in two.

The cursor is read back in the spelling that was given.  An index may be given as a truth value, and
then that is what is shown; so cursors that are equal as numbers can be shown differently, and equal
rolls can have different forms (`forms_tell_spelling`).  They cannot if both cursors are spelled
alike, and of two rolls with the same form all texts are the same, and so are the numbers.
-/
import TextRoll.Proofs.Session.Askings
import TextRoll.Proofs.Text.Forms

namespace TextRoll

/-- A whole number is known by its value and by whether it is spelled as a truth value. -/
theorem Whole.eq_iff (m n : Whole) : m = n ↔ m.toInt = n.toInt ∧ m.isTruth = n.isTruth := by
  constructor
  · rintro rfl
    exact ⟨rfl, rfl⟩
  · rintro ⟨hvalue, htruth⟩
    cases m with
    | numeral i =>
      cases n with
      | numeral j => exact congrArg Whole.numeral hvalue
      | truth b => cases htruth
    | truth a =>
      cases n with
      | numeral j => cases htruth
      | truth b => cases a <;> cases b <;> first | rfl | cases hvalue

/-- Whether two cursors are equal and spelled alike. -/
def Roll.SameCursor {α : Type} (l l' : Roll α) : Prop :=
  l.cursor = l'.cursor ∧ l.shownCursor.isTruth = l'.shownCursor.isTruth

theorem Roll.shownCursor_eq_iff {α : Type} (l l' : Roll α) :
    l.shownCursor = l'.shownCursor ↔ l.SameCursor l' := by
  rw [Whole.eq_iff, toInt_shownCursor, toInt_shownCursor, Int.natCast_inj]
  rfl

/-- What the printed form of a value is of, if the value is a buffer or a roll, guarded or not. -/
def World.subject? (w : World) : Value → Option Printed.Subject
  | .buffer b => some (.buffer (w.text b))
  | .roll r => some (.roll 0 (w.texts r) (w.roll r).shownCursor)
  | .guarded _ depth r => some (.roll (depth + 1) (w.texts r) (w.roll r).shownCursor)
  | _ => none

namespace Session

variable {s : Session} {m : Move} {v : Value} {x : Printed.Subject}

/-- **What is heard of a value that is asked for its printed form.** -/
theorem hears_printed (hs : s.world.Owned) (hrequest : s.request? m = some (v, .printed, []))
    (hx : s.world.subject? v = some x) :
    s.hears m = some (.ok (.text (x.form isUnprintable))) := by
  cases v with
  | buffer b =>
    cases hx
    exact hears_of_request hrequest rfl
  | roll r =>
    cases hx
    exact hears_of_told hrequest (Act.obeys_form hs rfl (.inl rfl)).tells
  | guarded mark depth r =>
    cases hx
    exact hears_of_told hrequest (Act.obeys_form hs rfl (.inl rfl)).tells
  | _ => cases hx

/-- What a roll tells of its texts and of its cursor is what its form shows. -/
theorem hears_shown (hs : s.world.Owned) {guards : Nat} {texts : List String} {cursor : Whole}
    (hx : s.world.subject? v = some (.roll guards texts cursor)) :
    (∀ m, s.request? m = some (v, .texts, []) →
      s.hears m = some (.ok (.list (texts.map .text)))) ∧
    ∀ m, s.request? m = some (v, .cursor, []) → s.hears m = some (.ok (.whole cursor)) := by
  cases v with
  | roll r =>
    cases hx
    exact ⟨fun m hrequest => hears_of_told hrequest (Act.obeys_texts hs .direct (.roll r)).tells,
      fun m hrequest => hears_of_told hrequest (Act.obeys_cursor .direct (.roll r)).tells⟩
  | guarded mark depth r =>
    cases hx
    exact ⟨fun m hrequest => hears_of_told hrequest
        (Act.obeys_texts hs (.guarded depth) (.guarded mark depth r)).tells,
      fun m hrequest => hears_of_told hrequest
        (Act.obeys_cursor (.guarded depth) (.guarded mark depth r)).tells⟩
  | _ => cases hx

/-- The kind of a value is that of its form. -/
theorem kind_of_subject? {w : World} (hx : w.subject? v = some x) : x.kind = v.kind := by
  cases v <;> cases hx <;> rfl

/-- **Printed forms are faithful.**  Whichever characters are hidden, equal forms are forms of
things of one kind with equal texts, and of rolls with equal cursors behind as many guards; all of
this can be read back. -/
theorem forms_faithful (hs : s.Reachable) :
    -- what is heard is the form of the text, or of the texts and the cursor
    (∀ m v x, s.request? m = some (v, .printed, []) → s.world.subject? v = some x →
      s.hears m = some (.ok (.text (x.form isUnprintable)))) ∧
    -- these are the texts and the cursor that are told
    (∀ v guards texts cursor, s.world.subject? v = some (.roll guards texts cursor) →
      (∀ m, s.request? m = some (v, .texts, []) →
        s.hears m = some (.ok (.list (texts.map .text)))) ∧
      ∀ m, s.request? m = some (v, .cursor, []) → s.hears m = some (.ok (.whole cursor))) ∧
    ∀ (hidden : Char → Bool) (s' : Session), s'.Reachable →
      let form (s : Session) (v : Value) := (s.world.subject? v).map (·.form hidden)
      (∀ b b', form s (.buffer b) = form s' (.buffer b') ↔ s.world.text b = s'.world.text b') ∧
      (∀ r r', form s (.roll r) = form s' (.roll r') ↔
        s.world.texts r = s'.world.texts r' ∧ (s.world.roll r).SameCursor (s'.world.roll r')) ∧
      (∀ mark depth r mark' depth' r',
        form s (.guarded mark depth r) = form s' (.guarded mark' depth' r') ↔
          depth = depth' ∧ s.world.texts r = s'.world.texts r' ∧
            (s.world.roll r).SameCursor (s'.world.roll r')) ∧
      (∀ v v', (form s v).isSome → form s v = form s' v' → v.kind = v'.kind) ∧
      ∀ v x, s.world.subject? v = some x → Printed.decode (x.form hidden) = some x := by
  refine ⟨fun m v x hrequest hx => hears_printed hs.owned hrequest hx,
    fun v guards texts cursor hx => hears_shown hs.owned hx, ?_⟩
  intro hidden s' hs' form
  refine ⟨?_, ?_, ?_, ?_, fun v x _ => Printed.decode_form hidden x⟩
  · intro b b'
    show some _ = some _ ↔ _
    rw [Option.some_inj, Printed.form_eq_iff, Printed.Subject.buffer.injEq]
  · intro r r'
    show some _ = some _ ↔ _
    rw [Option.some_inj, Printed.form_eq_iff, Printed.Subject.roll.injEq,
      Roll.shownCursor_eq_iff]
    simp
  · intro mark depth r mark' depth' r'
    show some _ = some _ ↔ _
    rw [Option.some_inj, Printed.form_eq_iff, Printed.Subject.roll.injEq,
      Roll.shownCursor_eq_iff]
    simp
  · intro v v' hsome hsame
    obtain ⟨f, hf⟩ := Option.isSome_iff_exists.mp hsome
    obtain ⟨x, hx, rfl⟩ := Option.map_eq_some_iff.mp hf
    obtain ⟨x', hx', hforms⟩ := Option.map_eq_some_iff.mp (hsame.symm.trans hf)
    obtain rfl := (Printed.form_eq_iff hidden x' x).mp hforms
    exact (kind_of_subject? hx).symm.trans (kind_of_subject? hx')

/-- Two rolls whose only elements read like the ends of forms, one in each session: as the texts
differ, so do the forms. -/
theorem forms_faithful_escaped :
    let s := initial.after [.call (.serve .makeRoll []) (some "a"),
      .call (.ask "a" .add [.text 0 "x', 'y"]) none]
    let s' := initial.after [.call (.serve .makeRoll []) (some "a"),
      .call (.ask "a" .add [.text 0 "x"]) none, .call (.ask "a" .add [.text 1 "y"]) none]
    let m : Move := .call (.ask "a" .printed []) none
    s.Reachable ∧ s'.Reachable ∧
      s.hears m = some (.ok (.text "StringList([\"x', 'y\"], cursor=0)")) ∧
      s'.hears m = some (.ok (.text "StringList(['x', 'y'], cursor=0)")) ∧
      (s.world.subject? (.roll ⟨0⟩)).map (·.form isUnprintable)
        ≠ (s'.world.subject? (.roll ⟨0⟩)).map (·.form isUnprintable) := by
  intro s s' m
  have hreachable : s.Reachable := ⟨_, rfl⟩
  have hreachable' : s'.Reachable := ⟨_, rfl⟩
  have hx : s.world.subject? (.roll ⟨0⟩) = some (.roll 0 ["x', 'y"] (.numeral 0)) := by
    decide +kernel
  have hx' : s'.world.subject? (.roll ⟨0⟩) = some (.roll 0 ["x", "y"] (.numeral 0)) := by
    decide +kernel
  obtain ⟨hheard, -, hforms⟩ := forms_faithful hreachable
  obtain ⟨hheard', -⟩ := forms_faithful hreachable'
  obtain ⟨-, hrolls, -⟩ := hforms isUnprintable s' hreachable'
  have hform : Printed.Subject.form isUnprintable (.roll 0 ["x', 'y"] (.numeral 0))
      = "StringList([\"x', 'y\"], cursor=0)" := by decide +kernel
  have hform' : Printed.Subject.form isUnprintable (.roll 0 ["x", "y"] (.numeral 0))
      = "StringList(['x', 'y'], cursor=0)" := by decide +kernel
  refine ⟨hreachable, hreachable', hform ▸ hheard m _ _ rfl hx, hform' ▸ hheard' m _ _ rfl hx', ?_⟩
  intro hsame
  have htexts := ((hrolls ⟨0⟩ ⟨0⟩).mp hsame).1
  revert htexts
  decide +kernel

/-- **Forms tell how a cursor is spelled, and how many guards there are.**  Two rolls have equal
texts and equal cursors, and so do two guarded rolls, one of which is guarded twice; their forms
differ. -/
theorem forms_tell_spelling :
    let s := initial.after [.call (.serve .makeRoll []) (some "a"),
      .call (.ask "a" .add [.text 0 "x"]) none, .call (.ask "a" .add [.text 1 "y"]) none,
      .call (.ask "a" .seek [.bool true]) none, .call (.serve .makeRoll []) (some "b"),
      .call (.ask "b" .add [.text 2 "x"]) none, .call (.ask "b" .add [.text 3 "y"]) none,
      .call (.ask "b" .seek [.int 4 1]) none,
      .call (.serve .makeGuard [.register "b"]) (some "g"),
      .call (.serve .makeGuard [.register "g"]) (some "h")]
    let printed (name : String) : Move := .call (.ask name .printed []) none
    let cursor (name : String) : Move := .call (.ask name .cursor []) none
    s.Reachable ∧ s.world.texts ⟨0⟩ = s.world.texts ⟨1⟩ ∧
      (s.world.roll ⟨0⟩).cursor = (s.world.roll ⟨1⟩).cursor ∧
      s.hears (cursor "a") = some (.ok (.bool true)) ∧
      s.hears (cursor "b") = some (.ok (.int 1)) ∧
      let told (form : String) : Option (Except Fault Shown) := some (.ok (.text form))
      s.hears (printed "a") = told "StringList(['x', 'y'], cursor=True)" ∧
      s.hears (printed "b") = told "StringList(['x', 'y'], cursor=1)" ∧
      s.hears (printed "a") ≠ s.hears (printed "b") ∧
      s.hears (printed "g") = told "LockedStringList(['x', 'y'], cursor=1)" ∧
      s.hears (printed "h") = told "LockedLockedStringList(['x', 'y'], cursor=1)" ∧
      s.hears (printed "g") ≠ s.hears (printed "h") := by
  intro s printed cursor
  have hreachable : s.Reachable := ⟨_, rfl⟩
  have hheard {name : String} {v : Value} {x : Printed.Subject} {form : String}
      (hname : s.register name = .ok v) (hx : s.world.subject? v = some x)
      (hform : x.form isUnprintable = form) : s.hears (printed name) = some (.ok (.text form)) :=
    hform ▸ hears_printed hreachable.owned (request?_ask hname rfl) hx
  have hsubject : s.world.subject? (.roll ⟨0⟩) = some (.roll 0 ["x", "y"] (.truth true)) := by
    decide +kernel
  have hother : s.world.subject? (.roll ⟨1⟩) = some (.roll 0 ["x", "y"] (.numeral 1)) := by
    decide +kernel
  have hguarded (mark : Mark) (depth : Nat) : s.world.subject? (.guarded mark depth ⟨1⟩)
      = some (.roll (depth + 1) ["x", "y"] (.numeral 1)) := by
    cases hother
    rfl
  have ha : s.hears (printed "a") = some (.ok (.text "StringList(['x', 'y'], cursor=True)")) :=
    hheard rfl hsubject (by decide +kernel)
  have hb : s.hears (printed "b") = some (.ok (.text "StringList(['x', 'y'], cursor=1)")) :=
    hheard rfl hother (by decide +kernel)
  have hg : s.hears (printed "g") = some (.ok (.text "LockedStringList(['x', 'y'], cursor=1)")) :=
    hheard rfl (hguarded (.kept 2) 0) (by decide +kernel)
  have hh : s.hears (printed "h")
      = some (.ok (.text "LockedLockedStringList(['x', 'y'], cursor=1)")) :=
    hheard rfl (hguarded (.kept 3) 1) (by decide +kernel)
  refine ⟨hreachable, by decide +kernel, by decide +kernel, rfl, rfl, ha, hb, ?_, hg, hh, ?_⟩
  · rw [ha, hb]
    simp
  · rw [hg, hh]
    simp

end Session

end TextRoll
