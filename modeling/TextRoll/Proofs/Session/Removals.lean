/-
TextRoll/Proofs/Session/Removals.lean

Taking out some elements, in whatever order.

An element can be taken out by its index at the moment, or as the current one; which index it has
by then, and where the cursor is, depends on what was taken out before.  `TakesOut` says that a
move takes out a certain element in one of these ways, and `TakesOutInTurn` that the moves of a
run take out certain elements one after the other.

`TakesOut.step` says what one such move does, and by induction over the run `thinned_after` says
what is left of the roll.  What is left depends on which elements are gone and on nothing else, so
all orders in which they can go lead to the same (`removals_commute`).
-/
import TextRoll.Proofs.Roll.Removals
import TextRoll.Proofs.Session.Registers
import TextRoll.Proofs.Session.Turnover

namespace TextRoll

namespace Act

variable {asked v : Value} {r : RollId} {n : Whole}

theorem ask_remove (hasked : asked.rollId? = some r) (w : World) :
    (ask asked .remove []).run w = (takenFrom r (w.roll r).remove).run w := by
  cases asked <;> cases hasked <;> rfl

theorem ask_removeAt (hasked : asked.rollId? = some r) (hv : v.toWhole? = some n) (w : World) :
    (ask asked .removeAt [v]).run w = (takenFrom r ((w.roll r).removeAt n)).run w := by
  have hask : (ask asked .removeAt [v]).run w
      = EStateM.run (MonadExcept.ofExcept (v.asIndex (w.roll r).length) >>= fun i =>
          takenFrom r ((w.roll r).removeAt i)) w := by
    cases asked <;> cases hasked <;> rfl
  rw [hask, Value.asIndex_of_whole hv]
  rfl

end Act

namespace Session

variable {s : Session} {r : RollId} {m : Move} {ms ms' : List Move} {b : BufferId}
  {bs bs' : List BufferId}

/-- The buffers that the moves of a run hand out, the first one first. -/
def handedOutBy : Session → List Move → List BufferId
  | _, [] => []
  | s, m :: ms => s.handedOut m ++ handedOutBy (s.move m) ms

/-- A move asks a roll, directly or through a guard, for an element that it has: for the current
one, or for the one with some index. -/
inductive TakesOut (s : Session) (r : RollId) (m : Move) (b : BufferId) : Prop
  | current {asked : Value} (hrequest : s.request? m = some (asked, .remove, []))
      (hasked : asked.rollId? = some r)
      (hb : (s.world.elements r)[(s.world.roll r).cursor]? = some b)
  | indexed {asked v : Value} {n : Whole} (hrequest : s.request? m = some (asked, .removeAt, [v]))
      (hasked : asked.rollId? = some r) (hv : v.toWhole? = some n) (hnonneg : 0 ≤ n.toInt)
      (hb : (s.world.elements r)[n.toNat]? = some b)

/-- The moves of a run ask a roll for elements, one after the other, and do nothing else. -/
inductive TakesOutInTurn (r : RollId) : Session → List Move → List BufferId → Prop
  | nil {s : Session} : TakesOutInTurn r s [] []
  | cons {s : Session} {m : Move} {ms : List Move} {b : BufferId} {bs : List BufferId}
      (hfirst : s.TakesOut r m b) (hrest : TakesOutInTurn r (s.move m) ms bs) :
      TakesOutInTurn r s (m :: ms) (b :: bs)

/-! ### One element -/

/-- A request that hands out an element and leaves a roll behind does so whether or not the element
is kept. -/
theorem step_of_run {asked : Value} {verb : Verb} {args : List Value} {l : Roll BufferId}
    (hrequest : s.request? m = some (asked, verb, args))
    (hrun : (Act.ask asked verb args).run s.world
      = .ok (.value (.buffer b)) (s.world.setRoll r l)) :
    s.handedOut m = [b] ∧ (s.move m).world.roll r = l := by
  cases m with
  | enter | leave | finish => cases hrequest
  | call c keep =>
    obtain ⟨target, operands, rfl, htarget, hargs⟩ := request?_eq_some hrequest
    have hperform : ((Call.ask target verb operands).perform s).run s.world
        = .ok (asked, .value (.buffer b)) (s.world.setRoll r l) := by
      rw [run_perform_ask htarget hargs, hrun]
    constructor
    · simp only [handedOut, hperform]
      rfl
    · rw [world_move_call, hperform]
      cases keep <;> exact World.roll_put_self rfl

/-- **Taking out one element** hands it out, and leaves the roll without it. -/
theorem TakesOut.step (hs : s.world.Owned) (h : s.TakesOut r m b) :
    s.handedOut m = [b] ∧ ∃ i, (s.world.elements r)[i]? = some b ∧
      (s.move m).world.roll r = (s.world.roll r).without i := by
  have hwell := hs.wellFormed r
  cases h with
  | @current asked hrequest hasked hb =>
    obtain ⟨hi, hget⟩ := List.getElem?_eq_some_iff.mp hb
    have hremove : (s.world.roll r).remove
        = .ok (b, (s.world.roll r).without (s.world.roll r).cursor) := by
      rcases hwell.remove_cases with ⟨hcursor, hremove⟩ | ⟨hzero, -⟩
      · exact hget ▸ hremove
      · rw [← hwell.length_elements] at hzero
        exact absurd (Nat.lt_of_lt_of_eq hi hzero) (Nat.not_lt_zero _)
    have hrun := Act.ask_remove hasked s.world
    rw [Act.run_takenFrom, hremove] at hrun
    obtain ⟨hout, hroll⟩ := step_of_run hrequest hrun
    exact ⟨hout, _, hb, hroll⟩
  | @indexed asked v n hrequest hasked hv hnonneg hb =>
    obtain ⟨hi, hget⟩ := List.getElem?_eq_some_iff.mp hb
    have hremoveAt : (s.world.roll r).removeAt n
        = .ok (b, (s.world.roll r).without n.toNat) := by
      rcases hwell.removeAt_cases n with ⟨hn, -, hremoveAt⟩ | ⟨hout, -⟩
      · exact hget ▸ hremoveAt
      · have hlt : n.toNat < (s.world.roll r).length := hwell.length_elements ▸ hi
        unfold Whole.toNat at hlt
        omega
    have hrun := Act.ask_removeAt hasked hv s.world
    rw [Act.run_takenFrom, hremoveAt] at hrun
    obtain ⟨hout, hroll⟩ := step_of_run hrequest hrun
    exact ⟨hout, _, hb, hroll⟩

/-! ### One element after the other -/

theorem TakesOutInTurn.handedOutBy_eq (h : TakesOutInTurn r s ms bs) (hs : s.world.Owned) :
    s.handedOutBy ms = bs := by
  induction h with
  | nil => rfl
  | @cons s m ms b bs hfirst hrest ih =>
    rw [handedOutBy, (hfirst.step hs).1, ih (owned_move hs m)]
    rfl

/-- **What a run leaves of a roll** is the roll as it was without what the run took out, also if
some elements had been gone before. -/
theorem TakesOutInTurn.thinned (h : TakesOutInTurn r s ms bs) (hs : s.world.Owned)
    {l : Roll BufferId} {gone : List BufferId} (hl : l.elements.Nodup)
    (hthinned : l.Thinned gone (s.world.roll r)) :
    l.Thinned (gone ++ bs) ((s.after ms).world.roll r) := by
  induction h generalizing gone with
  | nil => simpa using hthinned
  | @cons s m ms b bs hfirst hrest ih =>
    obtain ⟨-, i, hb, hroll⟩ := hfirst.step hs
    have hstep := hthinned.without hl (hs.wellFormed r) hb
    rw [List.append_cons]
    exact ih (owned_move hs m) (hroll ▸ hstep)

theorem TakesOutInTurn.thinned_after (h : TakesOutInTurn r s ms bs) (hs : s.world.Owned) :
    (s.world.roll r).Thinned bs ((s.after ms).world.roll r) :=
  h.thinned hs (hs.nodup r) (hs.wellFormed r).thinned_nil

/-- What is taken out was there, and is taken out once. -/
theorem TakesOutInTurn.nodup_subset (h : TakesOutInTurn r s ms bs) (hs : s.world.Owned) :
    bs.Nodup ∧ bs ⊆ s.world.elements r := by
  induction h with
  | nil => simp
  | @cons s m ms b bs hfirst hrest ih =>
    obtain ⟨-, i, hb, hroll⟩ := hfirst.step hs
    obtain ⟨hnodup, hsubset⟩ := ih (owned_move hs m)
    have hmem := List.mem_of_getElem? hb
    have hstep := (hs.wellFormed r).thinned_nil.without (hs.nodup r) (hs.wellFormed r) hb
    have helements : (s.move m).world.elements r
        = (s.world.elements r).filter (· ∉ [b]) := by
      unfold World.elements
      rw [hroll]
      exact hstep.elements_eq
    rw [helements] at hsubset
    constructor
    · refine List.nodup_cons.mpr ⟨fun hagain => ?_, hnodup⟩
      simpa using hsubset hagain
    · exact List.cons_subset.mpr
        ⟨hmem, fun b' hb' => List.mem_of_mem_filter (hsubset hb')⟩

/-- Where a roll is in a register, its elements can be taken out in any order. -/
theorem exists_takesOutInTurn (hs : s.world.Owned) {name : String} {asked : Value}
    (hregister : s.register name = .ok asked) (hasked : asked.rollId? = some r)
    (hnodup : bs.Nodup) (hsubset : bs ⊆ s.world.elements r) :
    ∃ ms, TakesOutInTurn r s ms bs := by
  induction bs generalizing s with
  | nil => exact ⟨[], .nil⟩
  | cons b bs ih =>
    obtain ⟨hmem, hsubset⟩ := List.cons_subset.mp hsubset
    obtain ⟨hnot, hnodup⟩ := List.nodup_cons.mp hnodup
    obtain ⟨i, hi⟩ := List.mem_iff_getElem?.mp hmem
    let c : Call := .ask name .removeAt [.int 0 i]
    have hfirst : s.TakesOut r (.call c none) b :=
      .indexed (request?_ask hregister rfl) hasked (n := .numeral i) rfl (Int.natCast_nonneg i) hi
    have hkept : (s.move (.call c none)).register name = .ok asked :=
      (register_run_call_of_ne (Option.some_ne_none name).symm c s).trans hregister
    have hthinned := (TakesOutInTurn.cons hfirst .nil).thinned_after hs
    have hrest : bs ⊆ (s.move (.call c none)).world.elements r := by
      intro b' hb'
      have hne : b' ∉ [b] := fun h => hnot (List.mem_singleton.mp h ▸ hb')
      show b' ∈ ((s.after [.call c none]).world.roll r).elements
      rw [hthinned.elements_eq]
      exact List.mem_filter.mpr ⟨hsubset hb', decide_eq_true hne⟩
    obtain ⟨ms, hms⟩ := ih (owned_move hs _) hkept hnodup hrest
    exact ⟨_, .cons hfirst hms⟩

/-- **The order of removals does not matter,** neither for what is left nor for the cursor.  This
holds of every roll of a reachable session and of every set of its elements. -/
theorem removals_commute (hs : s.Reachable) (r : RollId) :
    -- whoever has the roll can take out any of its elements in any order
    (∀ (name : String) (asked : Value), s.register name = .ok asked → asked.rollId? = some r →
      ∀ bs : List BufferId, bs.Nodup → bs ⊆ s.world.elements r →
        ∃ ms, TakesOutInTurn r s ms bs) ∧
    ∀ (ms : List Move) (bs : List BufferId), TakesOutInTurn r s ms bs →
      let l := s.world.roll r
      let l' := (s.after ms).world.roll r
      let left := l.elements.filter (· ∉ bs)
      -- what is handed out are these elements, each of them once
      s.handedOutBy ms = bs ∧ bs.Nodup ∧ bs ⊆ l.elements ∧
      -- the rest stays in order, and no slot goes
      l'.elements = left ∧ l'.capacity = l.capacity ∧
      -- the cursor is at the first element left that was not before it, or else at the last one
      left[l'.cursor]? = ((l.elements.drop l.cursor).find? (· ∉ bs)).or left.getLast? ∧
      (left = [] → l'.cursor = 0) ∧
      -- and every other order leads to the same
      ∀ (ms' : List Move) (bs' : List BufferId), TakesOutInTurn r s ms' bs' →
        (∀ b, b ∈ bs' ↔ b ∈ bs) →
        let l'' := (s.after ms').world.roll r
        l''.elements = l'.elements ∧ l''.capacity = l'.capacity ∧ l''.cursor = l'.cursor := by
  have howned := hs.owned
  refine ⟨fun name asked hregister hasked bs => exists_takesOutInTurn howned hregister hasked, ?_⟩
  intro ms bs h l l' left
  have hthinned := h.thinned_after howned
  obtain ⟨hnodup, hsubset⟩ := h.nodup_subset howned
  refine ⟨h.handedOutBy_eq howned, hnodup, hsubset, hthinned.elements_eq, hthinned.capacity_eq,
    hthinned.current_eq, hthinned.cursor_eq_zero, ?_⟩
  intro ms' bs' h' hsame
  exact hthinned.eq_of_mem_iff (h'.thinned_after howned) fun b => (hsame b).symm

/-- Of four texts, with the cursor at the third, the third and the first are taken out in both
orders; the cursor ends at the fourth, which has the index one by then. -/
theorem removals_commute_four :
    let s := initial.after
      [.call (.serve .makeRoll []) (some "a"), .call (.ask "a" .add [.text 0 "w"]) none,
        .call (.ask "a" .add [.text 1 "x"]) none, .call (.ask "a" .add [.text 2 "y"]) none,
        .call (.ask "a" .add [.text 3 "z"]) none, .call (.ask "a" .seek [.int 4 2]) none]
    let first : Move := .call (.ask "a" .removeAt [.int 5 0]) (some "b")
    let current : Move := .call (.ask "a" .remove []) none
    s.Reachable ∧ TakesOutInTurn ⟨0⟩ s [current, first] [⟨2⟩, ⟨0⟩] ∧
      TakesOutInTurn ⟨0⟩ s [first, current] [⟨0⟩, ⟨2⟩] ∧
      s.handedOutBy [current, first] = [⟨2⟩, ⟨0⟩] ∧
      (s.after [current, first]).world.elements ⟨0⟩ = [⟨1⟩, ⟨3⟩] ∧
      ((s.after [current, first]).world.roll ⟨0⟩).cursor = 1 ∧
      ((s.after [first, current]).world.roll ⟨0⟩).cursor = 1 := by
  intro s first current
  have hreachable : s.Reachable := ⟨_, rfl⟩
  have hrun : TakesOutInTurn ⟨0⟩ s [current, first] [⟨2⟩, ⟨0⟩] :=
    .cons (.current rfl rfl rfl) (.cons (.indexed rfl rfl rfl (Int.le_refl 0) rfl) .nil)
  have hrun' : TakesOutInTurn ⟨0⟩ s [first, current] [⟨0⟩, ⟨2⟩] :=
    .cons (.indexed rfl rfl rfl (Int.le_refl 0) rfl) (.cons (.current rfl rfl rfl) .nil)
  obtain ⟨-, hruns⟩ := removals_commute hreachable ⟨0⟩
  obtain ⟨hout, -, -, helements, -, -, -, hsame⟩ := hruns _ _ hrun
  obtain ⟨-, -, hcursor⟩ := hsame _ _ hrun' (by simp [or_comm])
  have hone : ((s.after [current, first]).world.roll ⟨0⟩).cursor = 1 := rfl
  exact ⟨hreachable, hrun, hrun', hout, helements, hone, hcursor.trans hone⟩

end Session

end TextRoll
