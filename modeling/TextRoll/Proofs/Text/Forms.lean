/-
TextRoll/Proofs/Text/Forms.lean

Reading printed forms back.

The printed form of a buffer holds its text, and that of a roll the texts of its elements and its
cursor, behind one word for each guard (`Printed.Subject`).  All of this can be read back
(`Printed.decode_form`), whatever the texts are: between the quoted texts nothing stands that could
be part of one, and the first bracket that is not inside a text is the end of the list.  So two
forms are equal only if they are forms of the same (`Printed.form_eq_iff`).
-/
import TextRoll.Printed
import TextRoll.Proofs.Text.Unquoting
import Mathlib.Data.List.Basic

namespace TextRoll

namespace Printed

/-- What a printed form is of. -/
inductive Subject
  /-- A buffer with its text. -/
  | buffer (text : String)
  /-- A roll with the texts of its elements and its cursor, behind a number of guards. -/
  | roll (guards : Nat) (texts : List String) (cursor : Whole)
deriving DecidableEq, Repr

namespace Subject

/-- The printed form. -/
def form (hidden : Char → Bool) : Subject → String
  | buffer text => Printed.buffer hidden text
  | roll 0 texts cursor => Printed.roll hidden texts cursor
  | roll (depth + 1) texts cursor => Printed.guarded hidden depth texts cursor

/-- The kind of what a form is of. -/
def kind : Subject → Kind
  | buffer _ => .buffer
  | roll 0 _ _ => .roll
  | roll (_ + 1) _ _ => .guarded

end Subject

/-! ### Reading -/

/-- Counts the guards that stand in front. -/
def readGuards : List Char → Nat × List Char
  | 'L' :: 'o' :: 'c' :: 'k' :: 'e' :: 'd' :: rest =>
    let (guards, rest') := readGuards rest
    (guards + 1, rest')
  | cs => (0, cs)

/-- Reads the quoted texts of a list, of which there is at least one, and the bracket behind
them. -/
def readTexts (cs : List Char) : Option (List String × List Char) :=
  match _ : Quoted.unquote cs with
  | some (text, ']' :: rest) => some ([String.ofList text], rest)
  | some (text, ',' :: ' ' :: rest) =>
    (readTexts rest).map fun (texts, rest') => (String.ofList text :: texts, rest')
  | _ => none
termination_by cs.length
decreasing_by
  next hread =>
    have hless := Quoted.length_lt_of_unquote hread
    simp only [List.length_cons] at hless
    omega

/-- Reads the quoted texts of a list and the bracket behind them. -/
def readList : List Char → Option (List String × List Char)
  | ']' :: rest => some ([], rest)
  | cs => readTexts cs

/-- Reads a whole number. -/
def readWhole : List Char → Whole
  | ['T', 'r', 'u', 'e'] => .truth true
  | ['F', 'a', 'l', 's', 'e'] => .truth false
  | '-' :: digits => .numeral (-(Nat.ofDigitChars 10 digits 0 : Int))
  | digits => .numeral (Nat.ofDigitChars 10 digits 0 : Int)

/-- Reads the rest of the form of a buffer. -/
def readBuffer (cs : List Char) : Option Subject := do
  let (text, _) ← Quoted.unquote cs
  return .buffer (String.ofList text)

/-- Reads the rest of the form of a roll. -/
def readRoll (guards : Nat) (cs : List Char) : Option Subject := do
  let (texts, rest) ← readList cs
  let rest ← rest.dropPrefix? ", cursor=".toList
  return .roll guards texts (readWhole rest.dropLast)

/-- Reads a form without guards in front. -/
def readBare (guards : Nat) (cs : List Char) : Option Subject :=
  (cs.dropPrefix? "StringBuilder(".toList).bind readBuffer <|>
    (cs.dropPrefix? "StringList([".toList).bind (readRoll guards)

/-- What a printed form is of. -/
def decode (form : String) : Option Subject :=
  let (guards, cs) := readGuards form.toList
  readBare guards cs

/-! ### Numbers -/

theorem readWhole_digits {cs : List Char} (h : ∀ c ∈ cs, c.isDigit = true) :
    readWhole cs = .numeral (Nat.ofDigitChars 10 cs 0 : Int) := by
  unfold readWhole
  split
  · exact absurd (h 'T' List.mem_cons_self) (by decide)
  · exact absurd (h 'F' List.mem_cons_self) (by decide)
  · exact absurd (h '-' List.mem_cons_self) (by decide)
  · rfl

/-- **A whole number is read back,** in the spelling that was given. -/
theorem readWhole_written (n : Whole) : readWhole n.written.toList = n := by
  cases n with
  | truth b => cases b <;> rfl
  | numeral n =>
    cases n with
    | ofNat m =>
      have hdigits : (Whole.numeral (Int.ofNat m)).written.toList = Nat.toDigits 10 m :=
        Nat.toList_repr
      have hdigit : ∀ c ∈ Nat.toDigits 10 m, c.isDigit = true := fun c hc =>
        Nat.isDigit_of_mem_toDigits (by decide) (by decide) hc
      rw [hdigits, readWhole_digits hdigit, Nat.ofDigitChars_ten_toDigits]
      rfl
    | negSucc m =>
      have hdigits : (Whole.numeral (Int.negSucc m)).written.toList
          = '-' :: Nat.toDigits 10 (m + 1) := by
        show ("-" ++ (m + 1).repr).toList = _
        rw [String.toList_append, Nat.toList_repr]
        rfl
      rw [hdigits]
      show Whole.numeral (-(Nat.ofDigitChars 10 (Nat.toDigits 10 (m + 1)) 0 : Int)) = _
      rw [Nat.ofDigitChars_ten_toDigits]
      rfl

/-! ### Lists -/

theorem readTexts_last {cs text rest : List Char}
    (h : Quoted.unquote cs = some (text, ']' :: rest)) :
    readTexts cs = some ([String.ofList text], rest) := by
  rw [readTexts]
  split
  · next hread =>
    rw [h] at hread
    cases hread
    rfl
  · next hread =>
    rw [h] at hread
    cases hread
  · next hnot _ => exact absurd h (hnot _ _)

theorem readTexts_more {cs text rest : List Char}
    (h : Quoted.unquote cs = some (text, ',' :: ' ' :: rest)) :
    readTexts cs
      = (readTexts rest).map fun (texts, rest') => (String.ofList text :: texts, rest') := by
  rw [readTexts]
  split
  · next hread =>
    rw [h] at hread
    cases hread
  · next hread =>
    rw [h] at hread
    cases hread
    rfl
  · next hnot => exact absurd h (hnot _ _)

/-- The texts of a list are read back, whatever follows it. -/
theorem readTexts_cons (hidden : Char → Bool) (text : String) (texts : List String)
    (rest : List Char) :
    readTexts (Quoted.encode hidden text.toList ++
        (texts.flatMap (fun t => ',' :: ' ' :: Quoted.encode hidden t.toList) ++ ']' :: rest))
      = some (text :: texts, rest) := by
  induction texts generalizing text with
  | nil =>
    refine (readTexts_last (Quoted.unquote_encode hidden text.toList _)).trans ?_
    rw [String.ofList_toList]
  | cons t texts ih =>
    rw [List.flatMap_cons, List.append_assoc]
    refine (readTexts_more (Quoted.unquote_encode hidden text.toList _)).trans ?_
    refine (congrArg (Option.map _) (ih t)).trans ?_
    rw [String.ofList_toList]
    rfl

/-- The items of a list, one by one. -/
theorem toList_intercalate_cons (form : String) (forms : List String) :
    (String.intercalate ", " (form :: forms)).toList
      = form.toList ++ forms.flatMap fun f => ',' :: ' ' :: f.toList := by
  induction forms generalizing form with
  | nil => simp
  | cons f forms ih =>
    rw [String.intercalate_cons_cons, String.toList_append, String.toList_append, ih]
    simp

/-- What begins like a quoted text is no empty list. -/
theorem readList_of_ne {c : Char} (h : c ≠ ']') (cs : List Char) :
    readList (c :: cs) = readTexts (c :: cs) := by
  unfold readList
  split
  · next heq =>
    injection heq with hfirst
    exact absurd hfirst h
  · rfl

/-- **A list of quoted texts is read back,** whatever follows it. -/
theorem readList_items (hidden : Char → Bool) (texts : List String) (rest : List Char) :
    ∃ cs, (items (texts.map (quoted hidden))).toList ++ rest = '[' :: cs ∧
      readList cs = some (texts, rest) := by
  cases texts with
  | nil => exact ⟨']' :: rest, by simp [items], rfl⟩
  | cons t texts =>
    have hmark : Quoted.mark t.toList ≠ ']' := by
      rcases Quoted.mark_cases t.toList with h | h <;> rw [h] <;> decide
    refine ⟨_, ?_, (readList_of_ne hmark _).trans (readTexts_cons hidden t texts rest)⟩
    unfold items
    rw [List.map_cons, String.toList_append, String.toList_append, toList_intercalate_cons]
    simp [quoted, Quoted.encode, List.flatMap_map]

/-! ### Forms -/

theorem readGuards_append (guards : Nat) {cs : List Char} (h : cs.head? ≠ some 'L') :
    readGuards ((List.replicate guards "Locked".toList).flatten ++ cs) = (guards, cs) := by
  induction guards with
  | zero =>
    show readGuards cs = _
    unfold readGuards
    split
    · exact absurd rfl h
    · rfl
  | succ guards ih =>
    rw [List.replicate_succ, List.flatten_cons, List.append_assoc]
    show readGuards ('L' :: 'o' :: 'c' :: 'k' :: 'e' :: 'd' :: (_ ++ cs)) = _
    rw [readGuards, ih]

theorem decode_of_toList {form : String} {guards : Nat} {cs : List Char}
    (hform : form.toList = (List.replicate guards "Locked".toList).flatten ++ cs)
    (hcs : cs.head? ≠ some 'L') : decode form = readBare guards cs := by
  unfold decode
  rw [hform, readGuards_append guards hcs]

theorem readBare_buffer (hidden : Char → Bool) (text : String) (guards : Nat) :
    readBare guards ("StringBuilder(".toList ++ (Quoted.encode hidden text.toList ++ [')']))
      = some (.buffer text) := by
  have hrest : ("StringBuilder(".toList ++ (Quoted.encode hidden text.toList ++ [')'])).dropPrefix?
      "StringBuilder(".toList = some (Quoted.encode hidden text.toList ++ [')']) :=
    List.dropPrefix?_append_of_beq _ BEq.rfl
  have hread : readBuffer (Quoted.encode hidden text.toList ++ [')']) = some (.buffer text) := by
    unfold readBuffer
    rw [Quoted.unquote_encode]
    simp
  unfold readBare
  rw [hrest, Option.bind_some, hread]
  rfl

theorem readRoll_list (guards : Nat) {cs : List Char} {texts : List String} (cursor : Whole)
    (hread : readList cs
      = some (texts, ", cursor=".toList ++ (cursor.written.toList ++ [')']))) :
    readRoll guards cs = some (.roll guards texts cursor) := by
  have hrest : (", cursor=".toList ++ (cursor.written.toList ++ [')'])).dropPrefix?
      ", cursor=".toList = some (cursor.written.toList ++ [')']) :=
    List.dropPrefix?_append_of_beq _ BEq.rfl
  unfold readRoll
  rw [hread, Option.bind_eq_bind, Option.bind_some]
  dsimp only
  rw [hrest, Option.bind_eq_bind, Option.bind_some, List.dropLast_concat, readWhole_written]
  rfl

theorem readBare_roll (guards : Nat) (cs : List Char) :
    readBare guards ("StringList([".toList ++ cs) = readRoll guards cs := by
  have hrest : ("StringList([".toList ++ cs).dropPrefix? "StringList([".toList = some cs :=
    List.dropPrefix?_append_of_beq _ BEq.rfl
  have hother : ("StringList([".toList ++ cs).dropPrefix? "StringBuilder(".toList = none := rfl
  unfold readBare
  rw [hrest, hother]
  rfl

/-- **Whatever is printed can be read back.** -/
theorem decode_form (hidden : Char → Bool) (subject : Subject) :
    decode (subject.form hidden) = some subject := by
  cases subject with
  | buffer text =>
    have hform : (Printed.buffer hidden text).toList
        = (List.replicate 0 "Locked".toList).flatten ++
          ("StringBuilder(".toList ++ (Quoted.encode hidden text.toList ++ [')'])) := by
      unfold Printed.buffer quoted
      simp
    refine (decode_of_toList hform ?_).trans (readBare_buffer hidden text 0)
    show some 'S' ≠ some 'L'
    decide
  | roll guards texts cursor =>
    obtain ⟨cs, hitems, hread⟩ :=
      readList_items hidden texts (", cursor=".toList ++ (cursor.written.toList ++ [')']))
    have hroll : (Printed.roll hidden texts cursor).toList = "StringList([".toList ++ cs := by
      unfold Printed.roll
      simp only [String.toList_append, List.append_assoc]
      exact congrArg ("StringList(".toList ++ ·) hitems
    have hform : ((Subject.roll guards texts cursor).form hidden).toList
        = (List.replicate guards "Locked".toList).flatten ++ ("StringList([".toList ++ cs) := by
      rw [← hroll]
      cases guards with
      | zero => rfl
      | succ depth =>
        show (String.join _ ++ Printed.roll hidden texts cursor).toList = _
        rw [String.toList_append, String.toList_join, List.flatMap_replicate]
    refine (decode_of_toList hform ?_).trans
      ((readBare_roll guards cs).trans (readRoll_list guards cursor hread))
    show some 'S' ≠ some 'L'
    decide

/-- **Forms are equal only if they are forms of the same.** -/
theorem form_eq_iff (hidden : Char → Bool) (x y : Subject) :
    x.form hidden = y.form hidden ↔ x = y := by
  constructor
  · intro h
    have hsame := congrArg decode h
    rw [decode_form, decode_form] at hsame
    exact Option.some.inj hsame
  · rintro rfl
    rfl

end Printed

end TextRoll
