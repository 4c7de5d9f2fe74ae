/-
TextRoll/Proofs/Act/AgreeingKept.lean

What is kept of an answer is the same in worlds that cannot be told apart.

Whatever is kept, a value, a copy, a list of these or something newly made, gets the same place or
the same mark in matching worlds, and is within the view (`World.keptAlike_adopt`).  The view must
look at all walks that are still to come, since a walk may be kept.
-/
import TextRoll.Proofs.Act.AgreeingRolls

namespace TextRoll

theorem Value.Within.markedAs {view : View} {n : Nat} {v : Value} (h : v.Within view n)
    (mark : Mark) : (v.markedAs mark).Within view n := by
  cases v with
  | bookmark m b =>
    obtain ⟨r, index, generation⟩ := b
    exact h
  | policy p =>
    obtain ⟨m, marks, slots, times, limit, release, hle⟩ := p
    exact h
  | _ => exact h

namespace World

variable {α : Type} {view : View} {n : Nat} {w w' : World} {A : Nat → α → Prop}

/-- The same was kept in both worlds, it is within the view, and the worlds match afterwards. -/
structure KeptAlike (view : View) (A : Nat → α → Prop) (n : Nat) (kept kept' : α × World) :
    Prop where
  value_eq : kept'.1 = kept.1
  within : A kept.2.buffers.size kept.1
  worlds : kept.2.Matches view n kept'.2

theorem keptAlike_value (h : w.Matches view n w') {v : Value} (hv : v.Within view n) :
    KeptAlike view (fun m v => v.Within view m) n (w.adoptValue v) (w'.adoptValue v) where
  value_eq := congrArg (fun serial => v.markedAs (.kept serial)) h.nextSerial.1
  within := (hv.mono h.size_le).markedAs _
  worlds := h.nextSerial.2

theorem keptAlike_item (h : w.Matches view n w') {x : Item} (hx : x.Within view n) :
    KeptAlike view (fun m v => v.Within view m) n (w.adoptItem x) (w'.adoptItem x) := by
  cases x with
  | value v => exact keptAlike_value h hx
  | copy text =>
    refine ⟨congrArg Value.buffer h.freeBuffer_eq, ?_, h.addBuffer _⟩
    show w.buffers.size < (w.buffers.issue _).size
    rw [Arena.size_issue]
    exact Nat.lt_succ_self _

theorem keptAlike_items {xs : List Item} : ∀ {n : Nat} {w w' : World}, w.Matches view n w' →
    Act.ItemsWithin view n xs →
    KeptAlike view (Value.AllWithin view) n (w.adoptItems xs) (w'.adoptItems xs) := by
  induction xs with
  | nil =>
    intro n w w' h _
    exact ⟨rfl, trivial, h⟩
  | cons x xs ih =>
    intro n w w' h hxs
    have hx := keptAlike_item h (hxs x List.mem_cons_self)
    -- keeping the first item may give a copy a place, so there are more buffers for the rest
    have hrest := ih hx.worlds.full fun y hy =>
      Act.Item.Within.mono (hxs y (List.mem_cons_of_mem x hy)) hx.worlds.size_le
    refine ⟨?_, ?_, hrest.worlds.mono hx.worlds.size_le⟩
    · show (w'.adoptItem x).1 :: ((w'.adoptItem x).2.adoptItems xs).1
        = (w.adoptItem x).1 :: ((w.adoptItem x).2.adoptItems xs).1
      rw [hx.value_eq, hrest.value_eq]
    · show Value.AllWithin view _ (_ :: _)
      unfold Value.AllWithin
      exact ⟨hx.within.mono hrest.worlds.size_le, hrest.within⟩

theorem keptAlike_draft (h : w.Matches view n w') {d : Draft} (hd : d.Within view n) :
    KeptAlike view (fun m v => v.Within view m) n (w.adoptDraft d) (w'.adoptDraft d) := by
  cases d with
  | roll l =>
    have hroll := h.addRoll (hd.mono h.size_le)
    refine ⟨congrArg Value.roll hroll.1, ?_, hroll.2⟩
    show Value.Within view _ (.roll _)
    unfold Value.Within
    trivial
  | guardedRoll l =>
    have hroll := h.addRoll (hd.mono h.size_le)
    have hguard : (Value.guarded .fresh 0 (w.addRoll l).1).Within view n := by
      unfold Value.Within
      trivial
    have hkept := keptAlike_value hroll.2 hguard
    refine ⟨?_, hkept.within, hkept.worlds⟩
    show ((w'.addRoll l).2.adoptValue (.guarded .fresh 0 (w'.addRoll l).1)).1 = _
    rw [hroll.1]
    exact hkept.value_eq
  | tally start =>
    have htally := h.addTally hd.1 (Tally.ofValues start)
    refine ⟨congrArg (Value.tally · start) htally.1, ?_, htally.2⟩
    show Value.Within view _ (.tally _ start)
    unfold Value.Within
    exact ⟨hd.1, Value.AllWithin.mono htally.2.size_le _ hd.2⟩
  | walk k =>
    have hwalk := h.addWalk (Walk.Within.mono h.size_le hd)
    refine ⟨congrArg Value.walk hwalk.1, ?_, hwalk.2⟩
    show Value.Within view _ (.walk _)
    unfold Value.Within
    -- the view looks at every walk that begins from now on
    exact h.sound.fresh _ (Nat.le_refl _)

/-- **What is kept of an answer** is the same in both worlds. -/
theorem keptAlike_adopt (h : w.Matches view n w') {asked : Value} (hasked : asked.Within view n)
    {answer : Answer} (hanswer : answer.Within view n) :
    KeptAlike view (fun m v => v.Within view m) n (w.adopt asked answer)
      (w'.adopt asked answer) := by
  cases answer with
  | itself => exact ⟨rfl, hasked.mono h.size_le, h⟩
  | item x => exact keptAlike_item h hanswer
  | items xs =>
    have hitems := keptAlike_items h hanswer
    have hlist : (Value.list .fresh (w.adoptItems xs).1).Within view
        (w.adoptItems xs).2.buffers.size := by
      unfold Value.Within
      exact hitems.within
    have hkept := keptAlike_value hitems.worlds.full hlist
    refine ⟨?_, hkept.within, hkept.worlds.mono hitems.worlds.size_le⟩
    show ((w'.adoptItems xs).2.adoptValue (.list .fresh (w'.adoptItems xs).1)).1 = _
    rw [hitems.value_eq]
    exact hkept.value_eq
  | draft d => exact keptAlike_draft h hanswer

end World

end TextRoll
