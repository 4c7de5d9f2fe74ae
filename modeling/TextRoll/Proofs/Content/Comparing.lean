/-
TextRoll/Proofs/Content/Comparing.lean

Comparisons with rolls, seen from their content.

Two rolls are equal, guarded or not, if their texts are (`run_equal_rolls`); cursors do not
matter, and a roll is equal to nothing else (`run_equal_other`).  A buffer is equal to a text, or to
another buffer, with the same characters (`run_equal_texts`), and to nothing that has no text
(`run_equal_textless`).
-/
import TextRoll.Proofs.Content.Reading

namespace TextRoll

namespace Act

variable {w w' : World} {r r' : RollId} {v u : Value}

/-- The act answers as expected and leaves everything as a reader would. -/
def Answers (act : Act Bool) (w : World) (expected : Bool) : Prop :=
  ∃ w', act.run w = .ok expected w' ∧ w.Undisturbed w'

theorem Answers.of_run {act : Act Bool} {expected : Bool} (h : act.run w = .ok expected w) :
    act.Answers w expected := ⟨w, h, .refl w⟩

/-- What is no number and no collection is compared by asking it and then the other. -/
theorem equal_eq_agreeByOffer (hv : v.rollId? = some r) (u : Value) :
    equal v u = agreeByOffer v u := by
  cases v <;> cases hv <;> unfold equal agree <;> rfl

/-- Reading the texts of two rolls, one after the other, and judging them. -/
theorem run_judged (hw : w.WellFormed) (r r' : RollId) (judge : List String → List String → Bool) :
    ∃ w', (texts r >>= fun first => texts r' >>= fun second =>
        pure (some (judge first second))).run w
      = .ok (some (judge (w.texts r) (w.texts r'))) w' ∧ w.Undisturbed w' := by
  have hread := w.undisturbed_collapseAll (w.elements r)
  have hread' := (w.collapseAll (w.elements r)).undisturbed_collapseAll
    ((w.collapseAll (w.elements r)).elements r')
  have hrest := run_texts (hread.wellFormed hw r')
  rw [hread.texts_eq] at hrest
  refine ⟨_, ?_, hread.trans hread'⟩
  rw [EStateM.run_bind, run_texts (hw r)]
  dsimp only
  rw [EStateM.run_bind, hrest]
  rfl

/-- A value that knows the answer is not asked twice. -/
theorem run_agreeByOffer {answer : Bool} (h : (offer v u).run w = .ok (some answer) w') :
    (agreeByOffer v u).run w = .ok answer w' := by
  unfold agreeByOffer
  rw [EStateM.run_bind, h]
  rfl

theorem run_agreeByOffer_turned {answer : Bool} (hnone : (offer v u).run w = .ok none w)
    (h : (offer u v).run w = .ok (some answer) w') : (agreeByOffer v u).run w = .ok answer w' := by
  unfold agreeByOffer
  rw [EStateM.run_bind, hnone]
  dsimp only
  rw [EStateM.run_bind, h]
  rfl

/-- **Two rolls are equal if their texts are,** whether or not they are guarded. -/
theorem run_equal_rolls (hw : w.WellFormed) (hv : v.rollId? = some r) (hu : u.rollId? = some r') :
    (equal v u).Answers w (w.texts r == w.texts r') := by
  obtain ⟨w₁, hplain, hread₁⟩ := run_judged hw r r' fun mine theirs => mine == theirs
  -- a guarded roll reads the texts of the other one first
  obtain ⟨w₂, hguarded, hread₂⟩ := run_judged hw r' r fun theirs mine => mine == theirs
  obtain ⟨w₃, hturned, hread₃⟩ := run_judged hw r r' fun theirs mine => mine == theirs
  rw [equal_eq_agreeByOffer hv]
  cases v <;> cases hv <;> cases u <;> cases hu
  · exact ⟨w₁, run_agreeByOffer hplain, hread₁⟩
  · -- a plain roll does not know guarded ones, which know it
    rw [BEq.comm]
    exact ⟨w₃, run_agreeByOffer_turned rfl hturned, hread₃⟩
  · exact ⟨w₂, run_agreeByOffer hguarded, hread₂⟩
  · exact ⟨w₂, run_agreeByOffer hguarded, hread₂⟩

/-- **A roll is equal to nothing that is no roll.** -/
theorem run_equal_other (hv : v.rollId? = some r) (hu : u.rollId? = none) (w : World) :
    (equal v u).run w = .ok false w ∧ (equal u v).run w = .ok false w := by
  constructor
  · rw [equal_eq_agreeByOffer hv]
    cases v <;> cases hv <;> cases u <;> cases hu <;> rfl
  · unfold equal agree
    cases v <;> cases hv <;> cases u <;> cases hu <;> rfl

/-- What is told of two values that are compared is whether they are equal, or whether they are
not. -/
theorem run_serve_equal {answer : Bool} (h : (equal v u).run w = .ok answer w') :
    (serve .equal [v, u]).run w = .ok (.value (.bool answer)) w' ∧
      (serve .unequal [v, u]).run w = .ok (.value (.bool !answer)) w' :=
  ⟨run_bind_ok (fun same => pure (Answer.value (.bool same))) h,
    run_bind_ok (fun same => pure (Answer.value (.bool !same))) h⟩

/-- What is told of two rolls that are compared is whether their texts are the same. -/
theorem told_equal_rolls (hw : w.WellFormed) (hv : v.rollId? = some r) (hu : u.rollId? = some r') :
    (serve .equal [v, u]).told w
        = .ok (.bool ((w.content r).texts == (w.content r').texts)) ∧
      (serve .unequal [v, u]).told w
        = .ok (.bool !((w.content r).texts == (w.content r').texts)) := by
  obtain ⟨w', hrun, -⟩ := run_equal_rolls hw hv hu
  obtain ⟨hequal, hunequal⟩ := run_serve_equal hrun
  exact ⟨told_of_ok hequal, told_of_ok hunequal⟩

/-- What is told of a roll that is compared with something else is that they are not equal. -/
theorem told_equal_other (hv : v.rollId? = some r) (hu : u.rollId? = none) (w : World) :
    (serve .equal [v, u]).told w = .ok (.bool false) ∧
      (serve .equal [u, v]).told w = .ok (.bool false) := by
  obtain ⟨hrun, hturned⟩ := run_equal_other hv hu w
  exact ⟨told_of_ok (run_serve_equal hrun).1, told_of_ok (run_serve_equal hturned).1⟩

end Act

/-! ### Texts and buffers -/

/-- What a text says, or the text in a buffer; other values have no text. -/
def World.textOf? (w : World) : Value → Option String
  | .text t => some t.content
  | .buffer b => some (w.text b)
  | _ => none

namespace Act

variable {w w' : World} {v u : Value}

/-- Texts and buffers, too, are compared by asking one and then the other. -/
theorem equal_eq_agreeByOffer_of_text {x : String} (hv : w.textOf? v = some x) (u : Value) :
    equal v u = agreeByOffer v u := by
  cases v <;> cases hv <;> unfold equal agree <;> rfl

/-- **Texts and buffers are equal if they say the same,** whichever of them is asked first. -/
theorem run_equal_texts {x y : String} (hv : w.textOf? v = some x) (hu : w.textOf? u = some y) :
    (equal v u).Answers w (x == y) := by
  rw [equal_eq_agreeByOffer_of_text hv]
  cases v <;> cases hv <;> cases u <;> cases hu
  · exact ⟨w, rfl, .refl w⟩
  · -- a text does not know buffers, which know it
    next t b =>
    have hturned : (offer (.buffer b) (.text t)).run w
        = .ok (some (w.text b == t.content)) (w.collapse b) := rfl
    rw [BEq.comm] at hturned
    exact ⟨_, run_agreeByOffer_turned rfl hturned, w.undisturbed_collapse b⟩
  · exact ⟨_, run_agreeByOffer rfl, w.undisturbed_collapse _⟩
  · next a b =>
    have hread := w.undisturbed_collapse a
    have hboth : (offer (.buffer a) (.buffer b)).run w
        = .ok (some (w.text a == (w.collapse a).text b)) ((w.collapse a).collapse b) := rfl
    rw [hread.text_eq b] at hboth
    exact ⟨_, run_agreeByOffer hboth, hread.trans (World.undisturbed_collapse _ b)⟩

/-- **A text or a buffer is equal to nothing that has no text.** -/
theorem run_equal_textless {x : String} (hv : w.textOf? v = some x) (hu : w.textOf? u = none) :
    (equal v u).run w = .ok false w ∧ (equal u v).run w = .ok false w := by
  constructor
  · rw [equal_eq_agreeByOffer_of_text hv]
    cases v <;> cases hv <;> cases u <;> cases hu <;> rfl
  · unfold equal agree
    cases v <;> cases hv <;> cases u <;> cases hu <;> rfl

end Act

end TextRoll
