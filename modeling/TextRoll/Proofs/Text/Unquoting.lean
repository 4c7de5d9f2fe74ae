/-
TextRoll/Proofs/Text/Unquoting.lean

Reading quoted texts back.

A quoted text is read character by character (`Quoted.read`).  Whoever reads is either between two
characters of the text, behind a backslash, or among the digits of a number, and the letter behind
the backslash says how many of these there are; so it is always clear what comes next, and the first
mark between two characters is the end.

What was quoted is read back (`Quoted.unquote_encode`), whatever follows it and whichever characters
are hidden: the one who reads need not know.
-/
import TextRoll.Text.Quoted
import Mathlib.Tactic.Ring
import Mathlib.Tactic.SplitIfs

namespace TextRoll

namespace Quoted

/-- Where one is in reading a quoted text. -/
inductive Place
  /-- Between two characters. -/
  | between
  /-- Behind a backslash. -/
  | escaped
  /-- Among the digits of a number: how many there are still, but for the last one, and what those
  before amount to. -/
  | digits (left value : Nat)

/-- The value of a hexadecimal digit. -/
def digitValue (c : Char) : Nat := if c.toNat < 0x3a then c.toNat - 0x30 else c.toNat - 0x57

/-- One more character in front of a text that was read. -/
def withChar (c : Char) : Option (List Char × List Char) → Option (List Char × List Char) :=
  Option.map fun (text, rest) => (c :: text, rest)

/-- Reads a text up to the mark at its end; yields the text and what follows the mark. -/
def read (around : Char) : Place → List Char → Option (List Char × List Char)
  | _, [] => none
  | .between, c :: cs =>
    if c = around then some ([], cs)
    else if c = '\\' then read around .escaped cs
    else withChar c (read around .between cs)
  | .escaped, c :: cs =>
    if c = 'x' then read around (.digits 1 0) cs
    else if c = 'u' then read around (.digits 3 0) cs
    else if c = 'U' then read around (.digits 7 0) cs
    else if c = 't' then withChar '\t' (read around .between cs)
    else if c = 'n' then withChar '\n' (read around .between cs)
    else if c = 'r' then withChar '\r' (read around .between cs)
    else withChar c (read around .between cs)
  | .digits 0 value, c :: cs =>
    withChar (Char.ofNat (16 * value + digitValue c)) (read around .between cs)
  | .digits (left + 1) value, c :: cs =>
    read around (.digits left (16 * value + digitValue c)) cs

/-- Reads a text that begins with its mark. -/
def unquote : List Char → Option (List Char × List Char)
  | [] => none
  | around :: cs => read around .between cs

/-! ### Numbers -/

theorem digitValue_digitChar {d : Nat} (h : d < 16) : digitValue (Nat.digitChar d) = d := by
  revert d
  decide

variable {around : Char} {hidden : Char → Bool} {cs : List Char}

/-- Digits that are not the last ones are taken into account. -/
theorem read_hexDigits (n width left value : Nat) :
    read around (.digits (left + width) value) (hexDigits n width ++ cs)
      = read around (.digits left (value * 16 ^ width + n % 16 ^ width)) cs := by
  induction width generalizing n left cs with
  | zero => simp [hexDigits, Nat.mod_one]
  | succ width ih =>
    have hdigit : digitValue (Nat.digitChar (n % 16)) = n % 16 :=
      digitValue_digitChar (Nat.mod_lt n (by decide))
    have hvalue : 16 * (value * 16 ^ width + n / 16 % 16 ^ width) + n % 16
        = value * 16 ^ (width + 1) + n % 16 ^ (width + 1) := by
      rw [Nat.pow_succ', Nat.mod_mul]
      ring
    have hleft : left + (width + 1) = left + 1 + width := by omega
    rw [hexDigits, List.append_assoc, hleft, ih]
    show read around (.digits left (16 * _ + digitValue _)) cs = _
    rw [hdigit, hvalue]

/-- A character is read back from its number, if the digits are enough. -/
theorem read_number (c : Char) {width : Nat} (hwidth : c.toNat < 16 ^ (width + 1)) :
    read around (.digits width 0) (hexDigits c.toNat (width + 1) ++ cs)
      = withChar c (read around .between cs) := by
  have hdigit : digitValue (Nat.digitChar (c.toNat % 16)) = c.toNat % 16 :=
    digitValue_digitChar (Nat.mod_lt _ (by decide))
  have hfirst : read around (.digits (0 + width) 0)
      (hexDigits (c.toNat / 16) width ++ ([Nat.digitChar (c.toNat % 16)] ++ cs)) = _ :=
    read_hexDigits (c.toNat / 16) width 0 0
  rw [Nat.zero_add, Nat.zero_mul, Nat.zero_add] at hfirst
  have hsmall : c.toNat / 16 % 16 ^ width = c.toNat / 16 := by
    rw [Nat.pow_succ] at hwidth
    exact Nat.mod_eq_of_lt (Nat.div_lt_of_lt_mul (by omega))
  rw [hexDigits, List.append_assoc, hfirst, hsmall]
  show withChar (Char.ofNat (16 * _ + digitValue _)) _ = _
  rw [hdigit, Nat.div_add_mod, Char.ofNat_toNat]
  rfl

/-! ### Characters -/

/-- No character has a number that takes more than eight digits. -/
theorem toNat_lt (c : Char) : c.toNat < 16 ^ 8 := by
  have hvalid : c.toNat < 0xd800 ∨ 0xdfff < c.toNat ∧ c.toNat < 0x110000 := c.valid
  omega

/-- What follows a backslash that is no mark. -/
theorem read_backslash (haround : around = '\'' ∨ around = '"') :
    read around .between ('\\' :: cs) = read around .escaped cs := by
  rcases haround with rfl | rfl <;> rfl

theorem read_byNumber (c : Char) (haround : around = '\'' ∨ around = '"') :
    read around .between (byNumber c ++ cs) = withChar c (read around .between cs) := by
  unfold byNumber
  split
  · next hsmall => exact (read_backslash haround).trans (read_number c hsmall)
  · split
    · next hsmall => exact (read_backslash haround).trans (read_number c hsmall)
    · exact (read_backslash haround).trans (read_number c (toNat_lt c))

/-- **One character** is read back. -/
theorem read_encodeChar (c : Char) (haround : around = '\'' ∨ around = '"') :
    read around .between (encodeChar hidden around c ++ cs)
      = withChar c (read around .between cs) := by
  unfold encodeChar
  split_ifs with hmarked htab hline hreturn hhidden
  · -- neither a mark nor a backslash is a letter that says something else
    refine (read_backslash haround).trans ?_
    have hc : c = '\'' ∨ c = '"' ∨ c = '\\' := by
      rcases hmarked with rfl | rfl
      · exact haround.imp_right .inl
      · exact .inr (.inr rfl)
    rcases hc with rfl | rfl | rfl <;> rfl
  · subst htab
    exact read_backslash haround
  · subst hline
    exact read_backslash haround
  · subst hreturn
    exact read_backslash haround
  · exact read_byNumber c haround
  · obtain ⟨hmark, hbackslash⟩ := not_or.mp hmarked
    show read around .between (c :: cs) = _
    rw [read, if_neg hmark, if_neg hbackslash]

/-! ### Texts -/

theorem mark_cases (text : List Char) : mark text = '\'' ∨ mark text = '"' := by
  unfold mark
  split
  · exact .inr rfl
  · exact .inl rfl

/-- All characters up to the mark at the end are read back. -/
theorem read_encoded (text rest : List Char) (haround : around = '\'' ∨ around = '"') :
    read around .between (text.flatMap (encodeChar hidden around) ++ around :: rest)
      = some (text, rest) := by
  induction text with
  | nil =>
    show read around .between (around :: rest) = _
    rw [read, if_pos rfl]
  | cons c text ih =>
    rw [List.flatMap_cons, List.append_assoc, read_encodeChar c haround, ih]
    rfl

/-- **What was quoted is read back,** whatever follows it. -/
theorem unquote_encode (hidden : Char → Bool) (text rest : List Char) :
    unquote (encode hidden text ++ rest) = some (text, rest) := by
  show read (mark text) .between
    (text.flatMap (encodeChar hidden (mark text)) ++ [mark text] ++ rest) = _
  rw [List.append_assoc]
  exact read_encoded text rest (mark_cases text)

/-! ### What is left -/

theorem length_lt_of_read {place : Place} {text rest : List Char}
    (h : read around place cs = some (text, rest)) : rest.length < cs.length := by
  induction cs generalizing place text with
  | nil => cases place <;> cases h
  | cons c cs ih =>
    have hlater {d : Char} (h : withChar d (read around .between cs) = some (text, rest)) :
        rest.length < (c :: cs).length := by
      obtain ⟨⟨text', rest'⟩, hread, heq⟩ := Option.map_eq_some_iff.mp h
      cases heq
      exact Nat.lt_succ_of_lt (ih hread)
    cases place with
    | between =>
      rw [read] at h
      split_ifs at h
      · cases h
        exact Nat.lt_succ_self _
      · exact Nat.lt_succ_of_lt (ih h)
      · exact hlater h
    | escaped =>
      rw [read] at h
      split_ifs at h
      iterate 3 exact Nat.lt_succ_of_lt (ih h)
      iterate 4 exact hlater h
    | digits left value =>
      cases left with
      | zero => exact hlater h
      | succ left => exact Nat.lt_succ_of_lt (ih h)

/-- Less is left than there was, so that one can go on reading. -/
theorem length_lt_of_unquote {text rest : List Char} (h : unquote cs = some (text, rest)) :
    rest.length < cs.length := by
  cases cs with
  | nil => cases h
  | cons c cs => exact Nat.lt_succ_of_lt (length_lt_of_read h)

end Quoted

end TextRoll
