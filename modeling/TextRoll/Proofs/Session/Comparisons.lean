/-
TextRoll/Proofs/Session/Comparisons.lean

Equality by content is an equivalence.

Texts and buffers are compared by what they say, rolls by the texts of their elements, guarded or
not.  That is all of a value that a comparison can see, so it has a name of its own, its
substance (`World.substance?`).  Which of two values is asked first, who of them knows the other and
who has to be asked in turn makes no difference (`Act.run_equal_substance`): the two are equal if
they have the same substance, and a value with a substance is equal to nothing that has none.

As equality of substances is an equivalence, so is what a session is told about texts, buffers and
rolls.  A comparison may join the pieces of a buffer, but no substance changes, so it does not
matter what was compared before (`substance?_move_of_read`).
-/
import TextRoll.Proofs.Session.Writings

namespace TextRoll

/-- What texts, buffers and rolls are compared by. -/
inductive Substance
  | saying (text : String)
  | holding (texts : List String)
deriving DecidableEq, Repr

namespace World

variable {w w' : World} {v u : Value} {a : Substance}

/-- What a value is compared by, if it is a text, a buffer or a roll, guarded or not. -/
def substance? (w : World) : Value → Option Substance
  | .text t => some (.saying t.content)
  | .buffer b => some (.saying (w.text b))
  | .roll r | .guarded _ _ r => some (.holding (w.texts r))
  | _ => none

/-- A value with a substance has a text or is a roll, and never both. -/
theorem substance?_cases (w : World) (v : Value) :
    (∃ x, w.textOf? v = some x ∧ v.rollId? = none ∧ w.substance? v = some (.saying x)) ∨
      (∃ r, w.textOf? v = none ∧ v.rollId? = some r ∧
        w.substance? v = some (.holding (w.texts r))) ∨
      w.textOf? v = none ∧ v.rollId? = none ∧ w.substance? v = none := by
  cases v with
  | text t => exact .inl ⟨_, rfl, rfl, rfl⟩
  | buffer b => exact .inl ⟨_, rfl, rfl, rfl⟩
  | roll r => exact .inr (.inl ⟨r, rfl, rfl, rfl⟩)
  | guarded mark depth r => exact .inr (.inl ⟨r, rfl, rfl, rfl⟩)
  | _ => exact .inr (.inr ⟨rfl, rfl, rfl⟩)

/-- Nothing that a reader could do changes a substance. -/
theorem Undisturbed.substance?_eq (h : w.Undisturbed w') (v : Value) :
    w'.substance? v = w.substance? v := by
  cases v with
  | buffer b => exact congrArg (fun x => some (Substance.saying x)) (h.text_eq b)
  | roll r => exact congrArg (fun xs => some (Substance.holding xs)) (h.texts_eq r)
  | guarded mark depth r => exact congrArg (fun xs => some (Substance.holding xs)) (h.texts_eq r)
  | _ => rfl

end World

namespace Act

variable {w : World} {v u : Value} {a : Substance}

/-- **Two values are equal if they have the same substance,** whichever of them is asked first. -/
theorem run_equal_substance (hw : w.WellFormed) (hv : w.substance? v = some a) (u : Value) :
    (equal v u).Answers w (decide (w.substance? u = some a)) ∧
      (equal u v).Answers w (decide (w.substance? u = some a)) := by
  -- a text that is compared with no text, and a roll that is compared with no roll
  have hother {act act' : Act Bool} (h : act.run w = .ok false w ∧ act'.run w = .ok false w) :
      act.Answers w false ∧ act'.Answers w false := ⟨.of_run h.1, .of_run h.2⟩
  rcases w.substance?_cases v with ⟨x, hx, -, hsays⟩ | ⟨r, -, hr, hholds⟩ | ⟨-, -, hnone⟩
  · cases hsays.symm.trans hv
    rcases w.substance?_cases u with ⟨y, hy, -, hu⟩ | ⟨r, hy, -, hu⟩ | ⟨hy, -, hu⟩ <;> rw [hu]
    · have hsame : decide (some (Substance.saying y) = some (.saying x)) = (y == x) := by
        rw [Bool.eq_iff_iff]
        simp
      have hturned := run_equal_texts hx hy
      rw [BEq.comm] at hturned
      rw [hsame]
      exact ⟨hturned, run_equal_texts hy hx⟩
    · exact hother (run_equal_textless hx hy)
    · exact hother (run_equal_textless hx hy)
  · cases hholds.symm.trans hv
    rcases w.substance?_cases u with ⟨y, -, hr', hu⟩ | ⟨r', -, hr', hu⟩ | ⟨-, hr', hu⟩ <;> rw [hu]
    · exact hother (run_equal_other hr hr' w)
    · have hsame : decide (some (Substance.holding (w.texts r')) = some (.holding (w.texts r)))
          = (w.texts r' == w.texts r) := by
        rw [Bool.eq_iff_iff]
        simp
      have hturned := run_equal_rolls hw hr hr'
      rw [BEq.comm] at hturned
      rw [hsame]
      exact ⟨hturned, run_equal_rolls hw hr' hr⟩
    · exact hother (run_equal_other hr hr' w)
  · cases hnone.symm.trans hv

end Act

namespace Session

variable {s : Session} {x y z : Operand} {v u : Value} {a : Substance}

/-- The move that asks whether two operands are equal, or that asks whether they are not. -/
def compares (service : Service) (x y : Operand) (keep : Option String) : Move :=
  .call (.serve service [x, y]) keep

/-- An operand that stands for a text, a buffer or a roll. -/
def Comparable (s : Session) (x : Operand) : Prop :=
  ∃ v a, s.resolve x = .ok v ∧ s.world.substance? v = some a

theorem resolveItems_pair (hx : s.resolve x = .ok v) (hy : s.resolve y = .ok u) :
    s.resolveItems [x, y] = .ok [v, u] := by
  unfold resolveItems resolveItems resolveItems
  rw [hx, hy]
  rfl

/-- A call that only reads and hands out a value leaves every substance. -/
theorem substance?_move_of_read {c : Call} {asked answer : Value} {w : World}
    (hrun : (c.perform s).run s.world = .ok (asked, .value answer) w)
    (hread : s.world.Undisturbed w) (keep : Option String) (u : Value) :
    (s.move (.call c keep)).world.substance? u = s.world.substance? u := by
  rw [world_move_call, hrun]
  cases keep with
  | none => exact hread.substance?_eq u
  | some name =>
    -- the answer that is kept takes a serial number and nothing else
    have hkept : (w.adopt asked (.value answer)).2.substance? u = w.substance? u := by
      cases u <;> rfl
    exact hkept.trans (hread.substance?_eq u)

/-- **What is heard of a comparison,** and what it leaves. -/
theorem hears_compares {answer : Bool} (hx : s.resolve x = .ok v) (hy : s.resolve y = .ok u)
    (hanswers : (Act.equal v u).Answers s.world answer) (keep : Option String) :
    s.hears (compares .equal x y keep) = some (.ok (.bool answer)) ∧
      s.hears (compares .unequal x y keep) = some (.ok (.bool !answer)) ∧
      ∀ service ∈ [Service.equal, .unequal], ∀ v',
        (s.move (compares service x y keep)).world.substance? v' = s.world.substance? v' := by
  obtain ⟨w, hrun, hread⟩ := hanswers
  obtain ⟨hequal, hunequal⟩ := Act.run_serve_equal hrun
  have hargs := resolveItems_pair hx hy
  have hcall := run_perform_serve_ok hargs hequal
  have hcall' := run_perform_serve_ok hargs hunequal
  refine ⟨hears_of_ok hcall, hears_of_ok hcall', fun service hservice v' => ?_⟩
  simp only [List.mem_cons, List.not_mem_nil, or_false] at hservice
  rcases hservice with rfl | rfl
  · exact substance?_move_of_read hcall hread keep v'
  · exact substance?_move_of_read hcall' hread keep v'

/-- What a value with a substance is equal to, in the words of a session. -/
theorem hears_equal_iff (hs : s.world.WellFormed) (hx : s.resolve x = .ok v)
    (hv : s.world.substance? v = some a) (hy : s.resolve y = .ok u) (keep : Option String) :
    s.hears (compares .equal x y keep) = some (.ok (.bool true)) ↔
      s.world.substance? u = some a := by
  rw [(hears_compares hx hy (Act.run_equal_substance hs hv u).1 keep).1]
  simp

/-- Equality is an equivalence among texts, buffers and rolls. -/
theorem equivalence_equal (hs : s.world.WellFormed) (keep : Option String) :
    Equivalence fun x y : { x : Operand // s.Comparable x } =>
      s.hears (compares .equal x.1 y.1 keep) = some (.ok (.bool true)) where
  refl := by
    rintro ⟨x, v, a, hx, hv⟩
    exact (hears_equal_iff hs hx hv hx keep).mpr hv
  symm := by
    rintro ⟨x, v, a, hx, hv⟩ ⟨y, u, b, hy, hu⟩ hsame
    have hua := (hears_equal_iff hs hx hv hy keep).mp hsame
    exact (hears_equal_iff hs hy hua hx keep).mpr hv
  trans := by
    rintro ⟨x, v, a, hx, hv⟩ ⟨y, u, b, hy, hu⟩ ⟨z, t, c, hz, ht⟩ hxy hyz
    have hua := (hears_equal_iff hs hx hv hy keep).mp hxy
    exact (hears_equal_iff hs hx hv hz keep).mpr ((hears_equal_iff hs hy hua hz keep).mp hyz)

/-- **Equality by content is an equivalence across kinds.** In every reachable session texts,
buffers and rolls, guarded or not, are equal just if they have the same substance, whatever else is
different about them. -/
theorem equality_by_content (hs : s.Reachable) (keep : Option String) :
    -- a value with a substance is equal to what has the same one, in both orders, and to nothing
    -- else; `unequal` tells the opposite; and no comparison changes what others will tell
    (∀ x y v u a, s.resolve x = .ok v → s.resolve y = .ok u → s.world.substance? v = some a →
      let same := decide (s.world.substance? u = some a)
      s.hears (compares .equal x y keep) = some (.ok (.bool same)) ∧
      s.hears (compares .equal y x keep) = some (.ok (.bool same)) ∧
      s.hears (compares .unequal x y keep) = some (.ok (.bool !same)) ∧
      s.hears (compares .unequal y x keep) = some (.ok (.bool !same)) ∧
      ∀ service ∈ [Service.equal, .unequal], ∀ v',
        (s.move (compares service x y keep)).world.substance? v' = s.world.substance? v' ∧
        (s.move (compares service y x keep)).world.substance? v' = s.world.substance? v') ∧
    -- the substance of a buffer is what it builds, and that of a roll the texts that it tells
    (∀ b text m, s.world.substance? (.buffer b) = some (.saying text) →
      s.request? m = some (.buffer b, .build, []) → s.hears m = some (.ok (.text text))) ∧
    (∀ v texts m, s.world.substance? v = some (.holding texts) →
      s.request? m = some (v, .texts, []) → s.hears m = some (.ok (.list (texts.map .text)))) ∧
    -- so equality is reflexive, symmetric and transitive among texts, buffers and rolls
    Equivalence fun x y : { x : Operand // s.Comparable x } =>
      s.hears (compares .equal x.1 y.1 keep) = some (.ok (.bool true)) := by
  have hformed := hs.owned.wellFormed
  refine ⟨?_, ?_, ?_, equivalence_equal hformed keep⟩
  · intro x y v u a hx hy hv same
    obtain ⟨hanswers, hturned⟩ := Act.run_equal_substance hformed hv u
    obtain ⟨hequal, hunequal, hleft⟩ := hears_compares hx hy hanswers keep
    obtain ⟨hequal', hunequal', hleft'⟩ := hears_compares hy hx hturned keep
    exact ⟨hequal, hequal', hunequal, hunequal', fun service hservice v' =>
      ⟨hleft service hservice v', hleft' service hservice v'⟩⟩
  · intro b text m hv hrequest
    cases hv
    exact (readsAs_text s b).built m .build List.mem_cons_self hrequest
  · intro v texts m hv hrequest
    cases v with
    | roll r =>
      cases hv
      exact hears_of_told hrequest (Act.obeys_texts hs.owned .direct (.roll r)).tells
    | guarded mark depth r =>
      cases hv
      exact hears_of_told hrequest
        (Act.obeys_texts hs.owned (.guarded depth) (.guarded mark depth r)).tells
    | _ => cases hv

/-- A guarded roll is equal to a roll with other storage, another cursor and other counters, and a
buffer in two pieces is equal to a text; across these two sorts nothing is equal. -/
theorem equality_by_content_mixed :
    let s := initial.after
      [.call (.serve .makeRoll []) (some "a"), .call (.ask "a" .add [.text 0 "xy"]) none,
        .call (.serve .makeGuard [.register "a"]) (some "g"),
        .call (.serve .makeRoll [.int 1 1]) (some "d"), .call (.ask "d" .add [.text 2 "z"]) none,
        .call (.ask "d" .add [.text 3 "xy"]) none, .call (.ask "d" .remove []) none,
        .call (.serve .makeBuffer [.text 4 "x"]) (some "b"),
        .call (.ask "b" .append [.text 5 "y"]) none]
    let told (service : Service) (x y : Operand) := s.hears (compares service x y none)
    s.Reachable ∧ (s.world.roll ⟨0⟩).capacity ≠ (s.world.roll ⟨1⟩).capacity ∧
      (s.world.roll ⟨0⟩).generation ≠ (s.world.roll ⟨1⟩).generation ∧
      told .equal (.register "g") (.register "d") = some (.ok (.bool true)) ∧
      told .equal (.register "d") (.register "g") = some (.ok (.bool true)) ∧
      told .unequal (.register "a") (.register "d") = some (.ok (.bool false)) ∧
      told .equal (.text 6 "xy") (.register "b") = some (.ok (.bool true)) ∧
      told .equal (.register "b") (.register "g") = some (.ok (.bool false)) ∧
      told .unequal .null (.register "g") = some (.ok (.bool true)) := by
  intro s told
  have hreachable : s.Reachable := ⟨_, rfl⟩
  obtain ⟨hcompared, -⟩ := equality_by_content hreachable none
  have hxa : s.resolve (.register "a") = .ok (.roll ⟨0⟩) := rfl
  have hxd : s.resolve (.register "d") = .ok (.roll ⟨1⟩) := rfl
  have hxg : s.resolve (.register "g") = .ok (.guarded (.kept 1) 0 ⟨0⟩) := rfl
  have hxb : s.resolve (.register "b") = .ok (.buffer ⟨3⟩) := rfl
  have ha : s.world.substance? (.roll ⟨0⟩) = some (.holding ["xy"]) := by decide +kernel
  have hd : s.world.substance? (.roll ⟨1⟩) = some (.holding ["xy"]) := by decide +kernel
  have hb : s.world.substance? (.buffer ⟨3⟩) = some (.saying "xy") := by decide +kernel
  have hg : s.world.substance? (.guarded (.kept 1) 0 ⟨0⟩) = some (.holding ["xy"]) := ha
  obtain ⟨hgd, hdg, -⟩ := hcompared _ _ _ _ _ hxg hxd hg
  obtain ⟨-, -, had, -⟩ := hcompared _ _ _ _ _ hxa hxd ha
  obtain ⟨-, htext, -⟩ := hcompared _ (.text 6 "xy") _ _ _ hxb rfl hb
  obtain ⟨hbg, -⟩ := hcompared _ _ _ _ _ hxb hxg hb
  obtain ⟨-, -, -, hnull, -⟩ := hcompared _ .null _ _ _ hxg rfl hg
  rw [hd] at hgd hdg had
  rw [hg] at hbg
  exact ⟨hreachable, by decide +kernel, by decide +kernel, hgd, hdg, had, htext, hbg, hnull⟩

end Session

end TextRoll
