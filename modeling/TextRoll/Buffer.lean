/-
TextRoll/Buffer.lean

Buffers: texts that are edited by appending.

A buffer keeps the pieces it was given and joins them only when its text is
asked for; joining leaves one piece behind (`collapse`), so that asking again is
cheap.  No piece is ever empty, and that is part of the type: a buffer is empty
exactly when it has no pieces, whether or not it has been joined.

A text that is the only piece keeps its mark.  A text that was joined is a new
one, and stays the same one until the next edit; hence the edits are counted.
-/
import TextRoll.Text

namespace TextRoll

/-- A text in pieces. -/
structure Buffer where
  /-- The pieces, first to last. -/
  parts : List String
  /-- The mark of the text that the buffer was given, if it was given in one piece. -/
  mark : Mark
  /-- How often a piece was added or all were dropped. -/
  edits : Nat
  /-- No piece is empty. -/
  parts_ne_empty : ∀ part ∈ parts, part ≠ ""

namespace Buffer

/-- The buffer with no text. -/
def empty : Buffer := ⟨[], .fresh, 0, by simp⟩

instance : Inhabited Buffer := ⟨empty⟩

/-- The text: all pieces joined. -/
def text (b : Buffer) : String := String.join b.parts

/-- Adds a piece at the end; an empty one is passed over. -/
def append (b : Buffer) (t : Text) : Buffer :=
  if h : t.content = "" then b
  else
    { parts := b.parts ++ [t.content]
      mark := if b.parts.isEmpty then t.mark else .fresh
      edits := b.edits + 1
      parts_ne_empty := by
        intro part hpart
        rcases List.mem_append.mp hpart with hin | hin
        · exact b.parts_ne_empty part hin
        · exact List.mem_singleton.mp hin ▸ h }

/-- The buffer with a given text. -/
def ofText (t : Text) : Buffer := empty.append t

/-- Adds a piece and ends the line. -/
def appendLine (b : Buffer) (t : Text) : Buffer := (b.append t).append (.fresh "\n")

/-- Adds pieces one after the other, all at once; empty ones are passed over. -/
def extend (b : Buffer) (pieces : List Text) : Buffer :=
  let added := pieces.filter fun t => decide (t.content ≠ "")
  { parts := b.parts ++ added.map Text.content
    mark := match b.parts, added with
      | _, [] => b.mark
      | [], [t] => t.mark
      | _, _ => .fresh
    edits := b.edits + added.length
    parts_ne_empty := by
      intro part hpart
      rcases List.mem_append.mp hpart with hin | hin
      · exact b.parts_ne_empty part hin
      · obtain ⟨t, ht, rfl⟩ := List.mem_map.mp hin
        simpa using (List.mem_filter.mp ht).2 }

/-- Drops all pieces. -/
def clear (b : Buffer) : Buffer := { empty with edits := b.edits + 1 }

/-- Where no piece is empty, only no pieces at all make an empty text. -/
theorem join_ne_empty {parts : List String} (hne : ∀ part ∈ parts, part ≠ "") (h : parts ≠ []) :
    String.join parts ≠ "" := by
  cases parts with
  | nil => exact absurd rfl h
  | cons part rest => simp [hne part (by simp)]

/-- Leaves a single piece with the whole text, or none. -/
def collapse (b : Buffer) : Buffer :=
  if h : b.parts.length ≤ 1 then b
  else
    { b with
      parts := [b.text]
      parts_ne_empty := by
        intro part hpart
        rw [List.mem_singleton.mp hpart]
        exact join_ne_empty b.parts_ne_empty (by intro hnil; simp [hnil] at h) }

/-- The text with its mark, in a buffer that lives at a place. -/
def built (b : Buffer) (place : BufferId) : Text :=
  ⟨b.text, b.mark.orElse (Text.marked b.text (.joined place b.edits)).mark⟩

/-- The number of characters, summed over the pieces. -/
def length (b : Buffer) : Nat := b.parts.foldl (fun n piece => n + piece.length) 0

/-- Whether there are no pieces. -/
def isEmpty (b : Buffer) : Bool := b.parts.isEmpty

/-! ### Each operation on the text -/

@[simp] theorem text_empty : empty.text = "" := rfl

@[simp] theorem text_append (b : Buffer) (t : Text) : (b.append t).text = b.text ++ t.content := by
  unfold append text
  split <;> simp_all

@[simp] theorem text_ofText (t : Text) : (ofText t).text = t.content := by simp [ofText]

@[simp] theorem text_appendLine (b : Buffer) (t : Text) :
    (b.appendLine t).text = b.text ++ t.content ++ "\n" := by simp [appendLine, Text.fresh]

@[simp] theorem extend_nil (b : Buffer) : b.extend [] = b := by simp [extend]

/-- Adding all at once is the same as adding one after the other. -/
@[simp] theorem extend_cons (b : Buffer) (t : Text) (rest : List Text) :
    b.extend (t :: rest) = (b.append t).extend rest := by
  by_cases ht : t.content = ""
  · simp [extend, append, ht]
  · simp only [extend, append, ht, dite_false, ne_eq, not_false_eq_true, decide_true,
      List.filter_cons_of_pos, List.map_cons, List.length_cons, List.append_assoc,
      List.singleton_append, mk.injEq, true_and]
    generalize List.filter _ rest = added
    rcases b.parts with _ | ⟨p, ps⟩ <;> cases added <;> simp <;> omega

@[simp] theorem text_extend (b : Buffer) (pieces : List Text) :
    (b.extend pieces).text = b.text ++ String.join (pieces.map Text.content) := by
  induction pieces generalizing b with
  | nil => simp
  | cons t rest ih => simp [ih, String.append_assoc]

@[simp] theorem text_clear (b : Buffer) : b.clear.text = "" := rfl

@[simp] theorem text_collapse (b : Buffer) : b.collapse.text = b.text := by
  unfold collapse
  split
  · rfl
  · simp [text]

/-- Joining the pieces does not make another text of it. -/
@[simp] theorem built_collapse (b : Buffer) (place : BufferId) :
    b.collapse.built place = b.built place := by
  unfold built
  rw [text_collapse]
  unfold collapse
  split <;> rfl

end Buffer

end TextRoll
