/-
TextRoll/Text.lean

Texts with what tells them from their equals.

What a text says is its content.  Its mark tells it from another text of the same
content.  A text that is short and plain exists just once, however it comes about
(`Text.marked`); only the written form of a number is a new text even then.
-/
import TextRoll.Mark

namespace TextRoll

/-- A text. -/
structure Text where
  content : String
  mark : Mark
deriving DecidableEq, Repr

namespace Text

instance : Inhabited Text := ⟨⟨"", .word⟩⟩

/-- Whether there is only one text with a content. -/
def isSingle (content : String) : Bool :=
  content.length ≤ 1 && content.toList.all (·.toNat < 256)

/-- A text with a mark, unless it is the only one with its content. -/
def marked (content : String) (m : Mark) : Text := ⟨content, if isSingle content then .word else m⟩

/-- A text that nothing has kept yet. -/
def fresh (content : String) : Text := marked content .fresh

/-- The empty text. -/
def empty : Text := ⟨"", .word⟩

/-- Whether two texts are one and the same. -/
def same (t u : Text) : Bool := t.content == u.content && t.mark.same u.mark

@[simp] theorem content_marked (content : String) (m : Mark) :
    (marked content m).content = content := rfl

@[simp] theorem content_fresh (content : String) : (fresh content).content = content := rfl

end Text

end TextRoll
