/-
TextRoll/Text/Quoted.lean

Quoted texts: the form in which a text appears inside the printed form of
something else.

The text stands between two equal marks, apostrophes unless it holds an
apostrophe and no double quote.  Inside, the mark in use and the backslash are
written with a backslash before them, tab, newline and carriage return as a
backslash and a letter, and any other character that may not be shown as it is
by its number in hexadecimal.  Which characters those are is a parameter; the
number is written in the shortest of three widths, each with its own letter, so
that the end of an escape can be told without looking further.
-/

namespace TextRoll

namespace Quoted

/-- The mark that stands around a text. -/
def mark (text : List Char) : Char :=
  if '\'' ∈ text ∧ '"' ∉ text then '"' else '\''

/-- The lowercase hexadecimal digits of a number, padded to a width. -/
def hexDigits (n : Nat) : Nat → List Char
  | 0 => []
  | width + 1 => hexDigits (n / 16) width ++ [Nat.digitChar (n % 16)]

/-- A character by its number, in the shortest form that fits. -/
def byNumber (c : Char) : List Char :=
  if c.toNat < 0x100 then '\\' :: 'x' :: hexDigits c.toNat 2
  else if c.toNat < 0x10000 then '\\' :: 'u' :: hexDigits c.toNat 4
  else '\\' :: 'U' :: hexDigits c.toNat 8

/-- One character inside the marks. -/
def encodeChar (hidden : Char → Bool) (around : Char) (c : Char) : List Char :=
  if c = around ∨ c = '\\' then ['\\', c]
  else if c = '\t' then ['\\', 't']
  else if c = '\n' then ['\\', 'n']
  else if c = '\r' then ['\\', 'r']
  else if hidden c then byNumber c
  else [c]

/-- A text between its marks. -/
def encode (hidden : Char → Bool) (text : List Char) : List Char :=
  mark text :: text.flatMap (encodeChar hidden (mark text)) ++ [mark text]

end Quoted

/-- The quoted form of a text. -/
def quoted (hidden : Char → Bool) (text : String) : String :=
  String.ofList (Quoted.encode hidden text.toList)

end TextRoll
