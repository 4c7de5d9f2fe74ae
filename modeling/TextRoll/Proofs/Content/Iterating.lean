/-
TextRoll/Proofs/Content/Iterating.lean

Walks over rolls, seen from their content.

`World.WalksOver w k r rest` says that the walk `k` will show the texts `rest` of the roll
`r`, as long as the roll is left alone.  A walk over a plain roll looks at each slot when
its turn comes; a walk over a guarded one has copies of all texts from the start.  Nobody
can tell which: a walk that begins has all texts before it (`walksOver_started`), each turn
shows the next one (`told_next_cons`) until there is none (`told_next_nil`), and going to the
end shows what is left (`told_elements`).
-/
import TextRoll.Proofs.Act.Walking
import TextRoll.Proofs.Content.Reading

namespace TextRoll

namespace World

variable {w w' : World} {k : WalkId} {r : RollId} {turn bound : Nat} {rest : List String}

/-- The walk goes over the roll, it is the turn of the slot `turn`, and it ends before `bound`.  A
walk that has not started yet fixes its end when it starts. -/
def WalksAt (w : World) (k : WalkId) (r : RollId) (turn bound : Nat) : Prop :=
  (w.walk k = .overRoll r .unstarted ∧ turn = 0 ∧ bound = (w.roll r).length) ∨
    w.walk k = .overRoll r (.running turn bound)

/-- The texts that a walk will show as long as its roll is left alone. -/
inductive WalksOver (w : World) (k : WalkId) (r : RollId) (rest : List String) : Prop
  /-- One slot after the other. -/
  | slots {turn bound : Nat} (hwalk : w.WalksAt k r turn bound) (hturn : turn ≤ bound)
      (hbound : bound ≤ (w.texts r).length) (hrest : ((w.texts r).take bound).drop turn = rest)
  /-- Copies that were made before. -/
  | copies {texts : List Text} (hwalk : w.walk k = .overCopies texts)
      (hrest : texts.map Text.content = rest)
  /-- There is nothing more to come. -/
  | finished (hwalk : w.walk k = .overRoll r .finished) (hrest : rest = [])

/-- A walk can hand out as many elements as it has texts to show. -/
theorem WalksOver.remaining_eq (h : w.WalksOver k r rest) : w.remaining k = rest.length := by
  unfold remaining
  cases h with
  | slots hwalksAt hturn hbound hrest =>
    rw [← hrest, List.length_drop, List.length_take, Nat.min_eq_left hbound]
    rcases hwalksAt with ⟨hwalk, rfl, rfl⟩ | hwalk
    · rw [hwalk]
      rfl
    · rw [hwalk]
  | copies hwalk hrest =>
    rw [hwalk, ← hrest]
    exact (List.length_map _).symm
  | finished hwalk hrest => rw [hwalk, hrest]; rfl

end World

namespace Act

variable {w w' : World} {k : WalkId} {r : RollId} {turn bound : Nat} {t : String}
  {rest : List String} {asked : Value}

/-! ### One turn -/

/-- The next turn of a walk over a roll. -/
theorem run_next (h : w.WalksAt k r turn bound) :
    (next k).run w = (takeTurn k r turn bound).run w := by
  unfold next
  rw [EStateM.run_bind, EStateM.run_get]
  dsimp only
  rcases h with ⟨hwalk, rfl, rfl⟩ | hwalk
  · rw [hwalk]
    rfl
  · rw [hwalk]

/-- A turn within the roll hands out a copy of the element whose turn it is. -/
theorem run_next_turn (hr : (w.roll r).WellFormed) (h : w.WalksAt k r turn bound)
    (hturn : turn < bound) (hlt : turn < (w.elements r).length) :
    ∃ w', (next k).run w = .ok (.copy (w.built (w.elements r)[turn])) w' ∧ w.Undisturbed w' ∧
      w'.WalksAt k r (turn + 1) bound := by
  refine ⟨_, (run_next h).trans (run_takeTurn hturn (hr.layout.stored_eq "copy" hlt)), ?_, ?_⟩
  · exact (w.undisturbed_setWalk k _).trans
      ((World.undisturbed_collapse _ _).trans (World.undisturbed_setWalk _ k _))
  · exact .inr (World.walk_setWalk _ k _)

/-- Whose turn it is comes first among those that are left. -/
theorem drop_take_eq_cons {α : Type} {xs : List α} (hturn : turn < bound)
    (hbound : bound ≤ xs.length) :
    (xs.take bound).drop turn = xs[turn] :: (xs.take bound).drop (turn + 1) := by
  have hlt : turn < (xs.take bound).length := by
    rw [List.length_take]
    omega
  rw [List.drop_eq_getElem_cons hlt, List.getElem_take]

/-- A turn hands out a copy of the next text. -/
theorem run_next_cons (hr : (w.roll r).WellFormed) (h : w.WalksOver k r (t :: rest)) :
    ∃ text w', (next k).run w = .ok (.copy text) w' ∧ text.content = t ∧ w.Undisturbed w' ∧
      w'.WalksOver k r rest := by
  cases h with
  | @slots turn bound hwalk hturn hbound hrest =>
    -- there is a text to come, so the turn is not past the end
    have hlt : turn < bound := by
      refine Nat.lt_of_le_of_ne hturn fun heq => ?_
      rw [heq, List.drop_of_length_le (List.length_take_le _ _)] at hrest
      cases hrest
    have hlength : (w.texts r).length = (w.elements r).length := List.length_map _
    have hplace : turn < (w.elements r).length := by omega
    rw [drop_take_eq_cons hlt hbound] at hrest
    injection hrest with htext hrest
    obtain ⟨w', hrun, hread, hwalk'⟩ := run_next_turn hr hwalk hlt hplace
    rw [← hread.texts_eq] at hbound hrest
    refine ⟨_, w', hrun, ?_, hread, .slots hwalk' hlt hbound hrest⟩
    have hmap : (w.texts r)[turn] = w.text (w.elements r)[turn] := List.getElem_map w.text
    exact hmap.symm.trans htext
  | @copies texts hwalk hrest =>
    cases texts with
    | nil => cases hrest
    | cons text texts =>
      injection hrest with htext hrest
      exact ⟨text, w.setWalk k (.overCopies texts), run_next_copies hwalk, htext,
        w.undisturbed_setWalk k _, .copies (World.walk_setWalk _ k _) hrest⟩
  | finished hwalk hrest => cases hrest

/-- Past the last text there is nothing to hand out, then and ever after. -/
theorem run_next_nil (h : w.WalksOver k r []) :
    ∃ w', (next k).run w = .error .exhausted w' ∧ w.Undisturbed w' ∧ w'.WalksOver k r [] := by
  cases h with
  | @slots turn bound hwalk hturn hbound hrest =>
    have hle : bound ≤ turn := by
      have hlength := congrArg List.length hrest
      rw [List.length_drop, List.length_take, Nat.min_eq_left hbound] at hlength
      exact Nat.le_of_sub_eq_zero hlength
    exact ⟨_, (run_next hwalk).trans (run_takeTurn_exhausted hle w), w.undisturbed_setWalk k _,
      .finished (World.walk_setWalk w k _) rfl⟩
  | @copies texts hwalk hrest =>
    obtain rfl := List.map_eq_nil_iff.mp hrest
    exact ⟨w, run_next_copies_nil hwalk, .refl w, .copies hwalk rfl⟩
  | finished hwalk hrest =>
    refine ⟨w, ?_, .refl w, .finished hwalk rfl⟩
    unfold next
    rw [EStateM.run_bind, EStateM.run_get]
    dsimp only
    rw [hwalk]
    rfl

/-! ### To the end -/

/-- The turns that are left, one after the other. -/
theorem run_drainCount (hw : w.WellFormed) (h : w.WalksOver k r rest) :
    ∃ (texts : List Text) (w' : World),
      (drainCount k rest.length).run w = .ok (texts.map Item.copy) w' ∧
      texts.map Text.content = rest ∧ w.Undisturbed w' ∧ w'.WalksOver k r [] := by
  induction rest generalizing w with
  | nil =>
    refine ⟨[], w.finishWalk k, rfl, rfl, w.undisturbed_setWalk k _, ?_⟩
    have hwalk : (w.finishWalk k).walk k = _ := World.walk_setWalk w k _
    cases h with
    | slots hwalksAt hturn hbound hrest =>
      rcases hwalksAt with ⟨hwas, -⟩ | hwas <;>
        exact .finished (by rw [hwalk, hwas]) rfl
    | copies hwas hrest =>
      have hnone : (w.finishWalk k).walk k = .overCopies [] := by rw [hwalk, hwas]
      exact .copies hnone rfl
    | finished hwas hrest => exact .finished (by rw [hwalk, hwas]) rfl
  | cons t rest ih =>
    obtain ⟨text, w₁, hnext, htext, hread, hrest⟩ := run_next_cons (hw r) h
    obtain ⟨texts, w₂, hdrain, htexts, hread', hend⟩ := ih (hread.wellFormed hw) hrest
    refine ⟨text :: texts, w₂, ?_, by rw [List.map_cons, htext, htexts], hread.trans hread', hend⟩
    show EStateM.run
      (next k >>= fun x => drainCount k rest.length >>= fun xs => pure (x :: xs)) w = _
    rw [EStateM.run_bind, hnext]
    dsimp only
    rw [EStateM.run_bind, hdrain]
    rfl

/-! ### What is told of a walk -/

/-- **A turn shows the next text,** and the walk goes on with the others. -/
theorem told_next_cons (hr : (w.roll r).WellFormed) (h : w.WalksOver k r (t :: rest)) :
    (ask (.walk k) .next []).told w = .ok (.buffer t) ∧
      ((ask (.walk k) .next []).worldAfter w).content r = w.content r ∧
      ((ask (.walk k) .next []).worldAfter w).WalksOver k r rest := by
  obtain ⟨text, w', hnext, htext, hread, hrest⟩ := run_next_cons hr h
  have hask : (ask (.walk k) .next []).run w = .ok (.copy text) w' := by
    show EStateM.run (next k >>= fun x => pure (Answer.item x)) w = _
    rw [EStateM.run_bind, hnext]
    rfl
  rw [told_of_ok hask, worldAfter_of_ok hask]
  exact ⟨congrArg (fun s => Except.ok (Shown.buffer s)) htext, hread.content_eq r, hrest⟩

/-- **A walk that has shown everything** fails, however often it is asked. -/
theorem told_next_nil (h : w.WalksOver k r []) :
    (ask (.walk k) .next []).told w = .error .exhausted ∧
      ((ask (.walk k) .next []).worldAfter w).content r = w.content r ∧
      ((ask (.walk k) .next []).worldAfter w).WalksOver k r [] := by
  obtain ⟨w', hnext, hread, hrest⟩ := run_next_nil h
  have hask : (ask (.walk k) .next []).run w = .error .exhausted w' := by
    show EStateM.run (next k >>= fun x => pure (Answer.item x)) w = _
    rw [EStateM.run_bind, hnext]
  rw [told_of_error hask, worldAfter_of_error hask]
  exact ⟨rfl, hread.content_eq r, hrest⟩

/-- **Going to the end** shows what is left, in order. -/
theorem told_elements (hw : w.WellFormed) (h : w.WalksOver k r rest) :
    (ask (.walk k) .elements []).told w = .ok (.list (rest.map .buffer)) ∧
      ((ask (.walk k) .elements []).worldAfter w).content r = w.content r ∧
      ((ask (.walk k) .elements []).worldAfter w).WalksOver k r [] := by
  obtain ⟨texts, w', hdrain, htexts, hread, hend⟩ := run_drainCount hw h
  have hask : (ask (.walk k) .elements []).run w = .ok (.items (texts.map .copy)) w' := by
    show EStateM.run (drainCount k (w.remaining k) >>= fun xs => pure (Answer.items xs)) w = _
    rw [h.remaining_eq, EStateM.run_bind, hdrain]
    rfl
  rw [told_of_ok hask, worldAfter_of_ok hask]
  refine ⟨congrArg (fun items => Except.ok (Shown.list items)) ?_, hread.content_eq r, hend⟩
  rw [List.map_map, ← htexts, List.map_map]
  rfl

/-- **A walk that begins has all texts before it,** whether the roll is asked for it directly or
through a guard. -/
theorem walksOver_started (hw : w.Owned) (hasked : asked.rollId? = some r) :
    ∃ walk w', (ask asked .walk []).run w = .ok (.draft (.walk walk)) w' ∧ w.Undisturbed w' ∧
      (w'.addWalk walk).2.WalksOver (w'.addWalk walk).1 r (w.texts r) := by
  cases asked <;> cases hasked
  · refine ⟨.overRoll r .unstarted, w, rfl, .refl w, ?_⟩
    refine .slots (.inl ⟨w.walks.get_issue_self _, rfl, rfl⟩) (Nat.zero_le _) ?_ ?_
    · exact Nat.le_of_eq (World.length_texts (hw.wellFormed r)).symm
    · show ((w.texts r).take (w.roll r).length).drop 0 = _
      rw [← World.length_texts (hw.wellFormed r), List.take_length, List.drop_zero]
  · next mark depth =>
    have hrun := EStateM.run_bind (s := w) (textsOf r "copy") fun texts =>
      pure (Answer.draft (.walk (.overCopies texts)))
    rw [run_textsOf (hw.wellFormed r)] at hrun
    refine ⟨_, _, hrun, w.undisturbed_collapseAll _, ?_⟩
    refine .copies (Arena.get_issue_self _ _) ?_
    rw [List.map_map]
    rfl

end Act

end TextRoll
