/-
TextRoll/Proofs/Content/Recognizing.lean

Values agree with themselves.

A number that is undefined is equal to nothing, and a bookmark is equal only to itself; what tells
that two of them are one and the same is a mark.  A value can be recognized
(`Value.Recognizable`) if no such mark is missing anywhere in it, no record gives a name twice, and
every figure of a tally that is no number is among the values that the tally started from.
Comparing it with itself, part by part, then tells that it agrees (`Act.answers_agree_self`).
-/
import TextRoll.Proofs.Content.Comparing

namespace TextRoll

/-! ### What can be recognized -/

/-- What is undefined carries a mark. -/
def Number.Recognizable : Number → Prop
  | .real mark .undefined => mark ≠ .fresh
  | _ => True

/-- Both numbers of a growth can be recognized. -/
def Tally.GrowthRecognizable (g : Number × Number) : Prop := g.1.Recognizable ∧ g.2.Recognizable

namespace Value

variable (tallies : TallyId → Tally)

mutual

/-- Nothing in the value lacks what tells that it is itself; tallies are as given. -/
def Recognizable : Value → Prop
  | .real mark x => (Number.real mark x).Recognizable
  | .list _ items => ItemsRecognizable items
  | .record _ entries => (entries.map Prod.fst).Nodup ∧ EntriesRecognizable entries
  | .bookmark mark _ => mark ≠ .fresh
  | .policy ⟨_, _, _, _, _, release, _⟩ => Recognizable release
  | .tally t start =>
    FiguresRecognizable start (tallies t).figures ∧
      ∀ g ∈ (tallies t).events, Tally.GrowthRecognizable g
  | .growths t => ∀ g ∈ (tallies t).events, Tally.GrowthRecognizable g
  | .growth t place => Tally.GrowthRecognizable ((tallies t).events.getD place default)
  | _ => True

def ItemsRecognizable : List Value → Prop
  | [] => True
  | x :: xs => Recognizable x ∧ ItemsRecognizable xs

def EntriesRecognizable : List (String × Value) → Prop
  | [] => True
  | (_, x) :: xs => Recognizable x ∧ EntriesRecognizable xs

/-- A figure that is no number is among the values that the figures started from. -/
def FiguresRecognizable : List Value → List Figure → Prop
  | x :: xs, .other _ :: fs => Recognizable x ∧ FiguresRecognizable xs fs
  | _ :: xs, .number n :: fs => n.Recognizable ∧ FiguresRecognizable xs fs
  | _, fs => ∀ f ∈ fs, ∃ n : Number, f = .number n ∧ n.Recognizable

end

end Value

/-! ### Numbers and growths -/

/-- **A number that can be recognized agrees with itself.** -/
theorem Number.agrees_self {n : Number} (h : n.Recognizable) : n.agrees n = true := by
  cases n with
  | whole mark n => exact beq_self_eq_true n.toInt
  | real mark x =>
    cases x with
    | undefined => exact Bool.and_eq_true_iff.mpr ⟨bne_iff_ne.mpr h, beq_self_eq_true mark⟩
    | infinite negative => cases negative <;> rfl
    | finite negative significand exponent =>
      have hsame : (Position.multiple (Binary64.signed negative significand) exponent).compare
          (.multiple (Binary64.signed negative significand) exponent) = .eq := by
        simp [Position.compare]
      show (some (Position.compare _ _) == some .eq) = true
      rw [hsame]
      rfl

theorem Tally.sameGrowth_self {g : Number × Number} (h : GrowthRecognizable g) :
    sameGrowth g g = true :=
  Bool.and_eq_true_iff.mpr ⟨Number.agrees_self h.1, Number.agrees_self h.2⟩

theorem Tally.sameGrowths_self {gs : List (Number × Number)}
    (h : ∀ g ∈ gs, GrowthRecognizable g) : sameGrowths gs gs = true := by
  induction gs with
  | nil => rfl
  | cons g rest ih =>
    obtain ⟨hg, hrest⟩ := List.forall_mem_cons.mp h
    exact Bool.and_eq_true_iff.mpr ⟨sameGrowth_self hg, ih hrest⟩

/-! ### Comparing with oneself -/

/-- Where no name is given twice, what is found under a name is what is given under it. -/
theorem lookup_eq_some {entries : List (String × Value)} (h : (entries.map Prod.fst).Nodup)
    {name : String} {v : Value} : entries.lookup name = some v ↔ (name, v) ∈ entries := by
  induction entries with
  | nil => simp
  | cons entry rest ih =>
    obtain ⟨key, u⟩ := entry
    obtain ⟨hkey, hrest⟩ := List.nodup_cons.mp h
    by_cases hname : name = key
    · subst hname
      have hother : (name, v) ∉ rest := fun hmem => hkey (List.mem_map.mpr ⟨_, hmem, rfl⟩)
      simp [hother, eq_comm]
    · rw [List.lookup_cons, beq_false_of_ne hname]
      simp [ih hrest, hname]

namespace Act

variable {w : World}

theorem Answers.and_then {x y : Act Bool} (hw : w.WellFormed) (hx : x.Answers w true)
    (hy : ∀ w', w'.WellFormed → w'.tally = w.tally → y.Answers w' true) :
    Answers (do if ← x then y else return false) w true := by
  obtain ⟨w₁, hrun, hread⟩ := hx
  have htally : w₁.tally = w.tally := by
    unfold World.tally
    rw [hread.tallies_eq]
  obtain ⟨w₂, hrun', hread'⟩ := hy w₁ (hread.wellFormed hw) htally
  refine ⟨w₂, ?_, hread.trans hread'⟩
  rw [EStateM.run_bind, hrun]
  exact hrun'

/-- What a comparison comes down to, where it changes nothing. -/
theorem Answers.of_judged {act : Act Bool} {judged : Bool} (hrun : act.run w = .ok judged w)
    (h : judged = true) : act.Answers w true := h ▸ .of_run hrun

/-- A value that knows itself is asked once. -/
theorem answers_of_offer {v : Value} {judged : Bool}
    (hoffer : (offer v v).run w = .ok (some judged) w) (h : judged = true) :
    (agreeByOffer v v).Answers w true := .of_judged (run_agreeByOffer hoffer) h

theorem answers_agreeByOffer_number {v : Value} {n : Number} (hn : v.toNumber? = some n)
    (h : n.Recognizable) (w : World) : (agreeByOffer v v).Answers w true := by
  have hrun : (agreeByOffer v v).run w = .ok (n.agrees n) w := by
    cases v <;> cases hn <;> rfl
  exact .of_judged hrun (Number.agrees_self h)

theorem answers_agreeByOffer_roll {v : Value} {r : RollId} (hv : v.rollId? = some r)
    (hw : w.WellFormed) : (agreeByOffer v v).Answers w true := by
  have hequal := run_equal_rolls hw hv hv
  rw [equal_eq_agreeByOffer hv, beq_self_eq_true] at hequal
  exact hequal

-- The induction is on the value, whose parts are compared one after the other.
mutual

/-- **A value that can be recognized agrees with itself.** -/
theorem answers_agree_self : ∀ (v : Value) (w : World), w.WellFormed → v.Recognizable w.tally →
    (agree v v).Answers w true
  | .list _ xs, w, hw, h => by
    unfold Value.Recognizable at h
    unfold agree
    exact answers_agreeItems_self xs w hw h
  | .record _ xs, w, hw, h => by
    unfold Value.Recognizable at h
    unfold agree
    dsimp only
    rw [if_pos rfl]
    exact answers_agreeEntries_self xs xs w hw h.2 fun entry hentry =>
      (lookup_eq_some h.1).mpr hentry
  | .policy ⟨_, _, _, _, _, release, _⟩, w, hw, h => by
    unfold Value.Recognizable at h
    unfold agree
    dsimp only
    rw [if_pos ⟨rfl, rfl, rfl⟩]
    exact answers_agree_self release w hw h
  | .tally t xs, w, hw, h => by
    unfold Value.Recognizable at h
    unfold agree
    have hevents : ∀ w' : World, w'.WellFormed → w'.tally = w.tally →
        Answers (pure (Tally.sameGrowths (w.tally t).events (w.tally t).events)) w' true :=
      fun w' _ _ => .of_judged rfl (Tally.sameGrowths_self h.2)
    exact (answers_agreeFigures_self xs (w.tally t).figures w hw h.1).and_then hw hevents
  | .growths t, w, hw, h => by
    unfold Value.Recognizable at h
    unfold agree
    exact answers_of_offer rfl (Tally.sameGrowths_self h)
  | .growth t place, w, hw, h => by
    unfold Value.Recognizable at h
    unfold agree
    exact answers_of_offer rfl (Tally.sameGrowth_self h)
  | .int mark n, w, _, _ => by
    have h : (Number.whole mark (.numeral n)).Recognizable := trivial
    unfold agree
    exact answers_agreeByOffer_number rfl h w
  | .bool b, w, _, _ => by
    have h : (Number.whole .word (.truth b)).Recognizable := trivial
    unfold agree
    exact answers_agreeByOffer_number rfl h w
  | .real .., w, _, h => by
    unfold Value.Recognizable at h
    unfold agree
    exact answers_agreeByOffer_number rfl h w
  | .bookmark mark _, w, _, h => by
    unfold Value.Recognizable at h
    have hsame : mark.same mark = true :=
      Bool.and_eq_true_iff.mpr ⟨bne_iff_ne.mpr h, beq_self_eq_true mark⟩
    unfold agree
    exact .of_judged rfl hsame
  | .text t, w, _, _ => by
    unfold agree
    exact answers_of_offer rfl (beq_self_eq_true t.content)
  | .bytes _ xs, w, _, _ => by
    unfold agree
    exact answers_of_offer rfl (beq_self_eq_true xs)
  | .buffer b, w, _, _ => by
    have htext : w.textOf? (.buffer b) = some (w.text b) := rfl
    have hequal := run_equal_texts htext htext
    rw [equal_eq_agreeByOffer_of_text htext, beq_self_eq_true] at hequal
    unfold agree
    exact hequal
  | .roll r, w, hw, _ => by
    unfold agree
    exact answers_agreeByOffer_roll rfl hw
  | .guarded .., w, hw, _ => by
    unfold agree
    exact answers_agreeByOffer_roll rfl hw
  | .walk k, w, _, _ => by
    unfold agree
    exact .of_judged rfl (beq_self_eq_true k)
  | .null, w, _, _ => by
    unfold agree
    exact .of_run rfl

theorem answers_agreeItems_self : ∀ (xs : List Value) (w : World), w.WellFormed →
    Value.ItemsRecognizable w.tally xs → (agreeItems xs xs).Answers w true
  | [], w, _, _ => by
    unfold agreeItems
    exact .of_run rfl
  | x :: xs, w, hw, h => by
    unfold Value.ItemsRecognizable at h
    unfold agreeItems
    refine (answers_agree_self x w hw h.1).and_then hw fun w' hw' htally => ?_
    exact answers_agreeItems_self xs w' hw' (htally ▸ h.2)

theorem answers_agreeEntries_self : ∀ (xs ys : List (String × Value)) (w : World), w.WellFormed →
    Value.EntriesRecognizable w.tally xs → (∀ entry ∈ xs, ys.lookup entry.1 = some entry.2) →
    (agreeEntries xs ys).Answers w true
  | [], ys, w, _, _, _ => by
    unfold agreeEntries
    exact .of_run rfl
  | (name, x) :: xs, ys, w, hw, h, hfound => by
    unfold Value.EntriesRecognizable at h
    obtain ⟨hname, hrest⟩ := List.forall_mem_cons.mp hfound
    unfold agreeEntries
    rw [hname]
    refine (answers_agree_self x w hw h.1).and_then hw fun w' hw' htally => ?_
    exact answers_agreeEntries_self xs ys w' hw' (htally ▸ h.2) hrest

theorem answers_agreeFigures_self : ∀ (xs : List Value) (fs : List Figure) (w : World),
    w.WellFormed → Value.FiguresRecognizable w.tally xs fs →
    (agreeFigures xs xs fs fs).Answers w true
  | x :: xs, .other _ :: fs, w, hw, h => by
    unfold Value.FiguresRecognizable at h
    unfold agreeFigures
    refine (answers_agree_self x w hw h.1).and_then hw fun w' hw' htally => ?_
    exact answers_agreeFigures_self xs fs w' hw' (htally ▸ h.2)
  | _ :: xs, .number n :: fs, w, hw, h => by
    unfold Value.FiguresRecognizable at h
    unfold agreeFigures
    have hagrees : (Figure.number n).agrees (.number n) = true := Number.agrees_self h.1
    dsimp only [List.tail_cons]
    rw [if_pos hagrees]
    exact answers_agreeFigures_self xs fs w hw h.2
  | [], fs, w, _, h => by
    unfold Value.FiguresRecognizable at h
    unfold agreeFigures
    refine .of_judged rfl ?_
    rw [List.all_eq_true]
    intro pair hpair
    obtain ⟨f, hf, rfl⟩ : ∃ f ∈ fs, (f, f) = pair := by
      rwa [List.zip_eq_zipWith, List.zipWith_self, List.mem_map] at hpair
    obtain ⟨n, rfl, hn⟩ := h f hf
    exact Number.agrees_self hn
  | _ :: _, [], w, _, _ => by
    unfold agreeFigures
    exact .of_run rfl

end

end Act

end TextRoll
