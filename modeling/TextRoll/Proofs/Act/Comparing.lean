/-
TextRoll/Proofs/Act/Comparing.lean

Comparing values comes down to asking them.

Lists, records, policies and tallies are compared part by part, and every other value is asked about
the other one.  So what is true of asking two values, and of one comparison after another, is true
of every comparison (`Act.ComparedBy.agree`).  If it is true only of values of a certain sort, then
the parts of such a value must be of that sort as well (`Value.PartsAre`).
-/
import TextRoll.Equality

namespace TextRoll

/-- What holds of a value holds of its parts. -/
structure Value.PartsAre (good : Value → Prop) : Prop where
  items : ∀ {mark : Mark} {xs : List Value}, good (.list mark xs) → ∀ x ∈ xs, good x
  entries : ∀ {mark : Mark} {xs : List (String × Value)}, good (.record mark xs) →
    ∀ x ∈ xs, good x.2
  release : ∀ {p : Policy}, good (.policy p) → good p.releaseOnClear
  start : ∀ {t : TallyId} {xs : List Value}, good (.tally t xs) → ∀ x ∈ xs, good x

theorem Value.partsAre_true : Value.PartsAre fun _ => True :=
  ⟨fun _ _ _ => trivial, fun _ _ _ => trivial, fun _ => trivial, fun _ _ _ => trivial⟩

namespace Act

/-- What is true of every comparison: of one that is decided, of one after another, of asking both
values, and of looking up two tallies to compare them. -/
structure ComparedBy (good : Value → Prop) (P : Act Bool → Prop) : Prop where
  parts : Value.PartsAre good
  done : ∀ b, P (pure b)
  andThen : ∀ {x y : Act Bool}, P x → P y → P (do if ← x then y else return false)
  byOffer : ∀ {v u : Value}, good v → good u → P (agreeByOffer v u)
  tallies : ∀ {a b : TallyId} {xs ys : List Value}, good (.tally a xs) → good (.tally b ys) →
    ∀ f : Tally → Tally → Act Bool, (∀ t u, P (f t u)) →
    P (do
      let t := (← get).tally a
      let u := (← get).tally b
      f t u)

namespace ComparedBy

variable {good : Value → Prop} {P : Act Bool → Prop}

-- The induction is on the first of two values, whose parts the comparison goes through.
mutual

/-- **Comparing values comes down to asking them,** part by part. -/
theorem agree (h : ComparedBy good P) : ∀ v u : Value, good v → good u → P (Act.agree v u)
  | .list m xs, u, hv, hu => by
    unfold Act.agree
    split
    · exact h.agreeItems xs _ (h.parts.items hv) (h.parts.items hu)
    · exact h.byOffer hv hu
  | .record _ xs, u, hv, hu => by
    unfold Act.agree
    split
    · split
      · exact h.agreeEntries xs _ (h.parts.entries hv) (h.parts.entries hu)
      · exact h.done _
    · exact h.done _
  | .policy ⟨_, _, _, _, _, release, _⟩, u, hv, hu => by
    unfold Act.agree
    split
    · split
      · exact h.agree release _ (h.parts.release hv) (h.parts.release hu)
      · exact h.done _
    · exact h.done _
  | .tally a xs, u, hv, hu => by
    unfold Act.agree
    split
    · next b ys =>
      exact h.tallies hv hu (fun t u => do
        if ← Act.agreeFigures xs ys t.figures u.figures then
          return Tally.sameGrowths t.events u.events
        else return false) fun t u =>
          h.andThen (h.agreeFigures xs ys t.figures u.figures (h.parts.start hv)
            (h.parts.start hu)) (h.done _)
    · exact h.done _
  | .null, u, hv, hu | .bool _, u, hv, hu | .int .., u, hv, hu | .real .., u, hv, hu
  | .text _, u, hv, hu | .bytes .., u, hv, hu | .buffer _, u, hv, hu | .roll _, u, hv, hu
  | .guarded .., u, hv, hu | .bookmark .., u, hv, hu | .growths _, u, hv, hu
  | .growth .., u, hv, hu | .walk _, u, hv, hu => by
    unfold Act.agree
    exact h.byOffer hv hu

theorem agreeItems (h : ComparedBy good P) : ∀ xs ys : List Value, (∀ x ∈ xs, good x) →
    (∀ y ∈ ys, good y) → P (Act.agreeItems xs ys)
  | [], _, _, _ => by
    unfold Act.agreeItems
    exact h.done _
  | _ :: _, [], _, _ => by
    unfold Act.agreeItems
    exact h.done _
  | x :: xs, y :: ys, hxs, hys => by
    obtain ⟨hx, hxs⟩ := List.forall_mem_cons.mp hxs
    obtain ⟨hy, hys⟩ := List.forall_mem_cons.mp hys
    unfold Act.agreeItems
    exact h.andThen (h.agree x y hx hy) (h.agreeItems xs ys hxs hys)

theorem agreeEntries (h : ComparedBy good P) : ∀ xs ys : List (String × Value),
    (∀ x ∈ xs, good x.2) → (∀ y ∈ ys, good y.2) → P (Act.agreeEntries xs ys)
  | [], _, _, _ => by
    unfold Act.agreeEntries
    exact h.done _
  | (name, x) :: xs, ys, hxs, hys => by
    obtain ⟨hx, hxs⟩ := List.forall_mem_cons.mp hxs
    unfold Act.agreeEntries
    split
    · exact h.done _
    · next y hlookup =>
      obtain ⟨before, after, rfl, -⟩ := List.lookup_eq_some_iff.mp hlookup
      have hy : good y := hys (name, y) (List.mem_append_right before List.mem_cons_self)
      exact h.andThen (h.agree x y hx hy) (h.agreeEntries xs _ hxs hys)

theorem agreeFigures (h : ComparedBy good P) : ∀ (xs ys : List Value) (fs gs : List Figure),
    (∀ x ∈ xs, good x) → (∀ y ∈ ys, good y) → P (Act.agreeFigures xs ys fs gs)
  | x :: xs, y :: ys, .other _ :: fs, .other _ :: gs, hxs, hys => by
    obtain ⟨hx, hxs⟩ := List.forall_mem_cons.mp hxs
    obtain ⟨hy, hys⟩ := List.forall_mem_cons.mp hys
    unfold Act.agreeFigures
    exact h.andThen (h.agree x y hx hy) (h.agreeFigures xs ys fs gs hxs hys)
  | x :: xs, y :: ys, .number a :: fs, g :: gs, hxs, hys => by
    have hrest := h.agreeFigures xs ys fs gs (List.forall_mem_cons.mp hxs).2
      (List.forall_mem_cons.mp hys).2
    unfold Act.agreeFigures
    dsimp only [List.tail_cons]
    split
    · exact hrest
    · exact h.done _
  | x :: xs, y :: ys, .other got :: fs, .number a :: gs, hxs, hys => by
    have hrest := h.agreeFigures xs ys fs gs (List.forall_mem_cons.mp hxs).2
      (List.forall_mem_cons.mp hys).2
    unfold Act.agreeFigures
    dsimp only [List.tail_cons]
    split
    · exact hrest
    · exact h.done _
  | x :: xs, [], f :: fs, g :: gs, hxs, hys => by
    -- where the second list has ended, the figures are compared by themselves
    have hrest := h.agreeFigures xs [] fs gs (List.forall_mem_cons.mp hxs).2 hys
    unfold Act.agreeFigures
    dsimp only [List.tail_nil]
    split
    · exact hrest
    · exact h.done _
  | [], _, _, _, _, _ | _ :: _, [], [], _, _, _ | _ :: _, [], _ :: _, [], _, _
  | _ :: _, _ :: _, [], _, _, _ | _ :: _, _ :: _, .number _ :: _, [], _, _
  | _ :: _, _ :: _, .other _ :: _, [], _, _ => by
    unfold Act.agreeFigures
    exact h.done _

end

end ComparedBy

end Act

end TextRoll
