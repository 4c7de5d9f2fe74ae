/-
TextRoll/Proofs/Act/Exhausting.lean

Walking to the end.

Whoever iterates over a value begins a walk over it, unless it is one, and asks for the next element
over and over until that fails (`World.Iterates`).  If it fails because the walk is exhausted, all
elements were handed out; any other failure cuts the walk short.  This always comes to an end
(`exists_iterates`), since with every element that is handed out one less remains (`nextFrom`).

Asking a value for its elements comes to the same (`readsItems_of_iterates`): they are those that
iterating hands out, or the fault that cuts it short.  Rolls are read all at once and walks are
drained, but nobody can tell the difference.

However it ends, a walk that was drained is over (`isOver_drain`), and stays over whatever is asked
(`isOver_ask`).
-/
import TextRoll.Proofs.Act.LeavingWalks
import TextRoll.Proofs.Act.Writing
import TextRoll.Proofs.Content.Iterating

namespace TextRoll

/-- Whether a walk has nothing more to hand out, whatever happens. -/
def Walk.isOver : Walk → Bool
  | overRoll _ .finished | overGrowths _ none | overCopies [] | overItems _ [] => true
  | _ => false

namespace World

variable {w : World} {k : WalkId}

theorem remaining_of_isOver (h : (w.walk k).isOver = true) : w.remaining k = 0 := by
  unfold remaining
  unfold Walk.isOver at h
  split at h <;> simp_all

/-- A walk that has a place and nothing more to hand out. -/
def IsOver (w : World) (k : WalkId) : Prop :=
  (w.walk k).isOver = true ∧ k.index < w.walks.size

/-- What leaves a walk that is over leaves it over. -/
theorem IsOver.of_leaves {w' : World} (h : w.IsOver k) (hleaves : w.LeavesWalk k w') :
    w'.IsOver k := by
  obtain ⟨hplaced, hsame⟩ := hleaves h.2
  exact ⟨(congrArg Walk.isOver hsame).trans h.1, hplaced⟩

theorem isOver_setWalk (w : World) (k : WalkId) {walk : Walk} (h : walk.isOver = true) :
    (w.setWalk k walk).IsOver k := by
  constructor
  · rw [walk_setWalk]
    exact h
  · show k.index < (w.walks.put k.index walk).size
    rw [Arena.size_put_eq_max]
    omega

/-- A walk that is brought to its end is over. -/
theorem isOver_finishWalk (w : World) (k : WalkId) : (w.finishWalk k).IsOver k := by
  refine w.isOver_setWalk k ?_
  cases w.walk k <;> rfl

end World

namespace Act

variable {w w' : World} {k : WalkId} {r : RollId} {v : Value} {xs : List Item} {fault : Fault}

/-! ### One element -/

theorem run_next_of_isOver (h : (w.walk k).isOver = true) :
    (next k).run w = .error .exhausted w := by
  unfold next
  rw [EStateM.run_bind, EStateM.run_get]
  dsimp only
  unfold Walk.isOver at h
  split at h <;> simp_all <;> rfl

/-- What can be wrong with a slot: it is empty, or there is none. -/
def NoElement (fault : Fault) : Prop := fault = .emptySlot "copy" ∨ fault = .missingSlot

theorem noElement_of_stored {α : Type} {l : Roll α} {i : Nat}
    (h : l.stored "copy" i = .error fault) : NoElement fault := by
  unfold Roll.stored at h
  split at h <;> cases h
  · exact .inl rfl
  · exact .inr rfl

/-- What can come of asking a walk for its next element. -/
inductive NextFrom (k : WalkId) (w : World) : Prop
  /-- It hands one out, and one less remains. -/
  | handed {x : Item} {w' : World} (hrun : (next k).run w = .ok x w')
      (hremaining : w.remaining k = w'.remaining k + 1)
  /-- None is left. -/
  | exhausted {w' : World} (hrun : (next k).run w = .error .exhausted w')
      (hremaining : w.remaining k = 0)
  /-- One should be left, but its slot has no element. -/
  | broken {fault : Fault} {w' : World} (hrun : (next k).run w = .error fault w')
      (hremaining : w.remaining k ≠ 0) (hfault : NoElement fault) (hover : w'.IsOver k)

theorem nextFrom_of_walksAt {turn bound : Nat} (hwalk : w.WalksAt k r turn bound)
    (hremaining : w.remaining k = bound - turn) : NextFrom k w := by
  have hnext := run_next hwalk
  by_cases hturn : turn < bound
  · cases hslot : (w.roll r).stored "copy" turn with
    | ok b =>
      rw [run_takeTurn hturn hslot] at hnext
      refine .handed hnext ?_
      rw [hremaining]
      simp only [World.remaining, World.walk_setWalk]
      omega
    | error fault =>
      rw [run_takeTurn_error hturn hslot] at hnext
      exact .broken hnext (by omega) (noElement_of_stored hslot) (w.isOver_setWalk k rfl)
  · rw [run_takeTurn_exhausted (Nat.le_of_not_lt hturn)] at hnext
    exact .exhausted hnext (by omega)

/-- **Every walk hands out an element and has one less to go, or it fails.** -/
theorem nextFrom (k : WalkId) (w : World) : NextFrom k w := by
  have hends (h : (w.walk k).isOver = true) : NextFrom k w :=
    .exhausted (run_next_of_isOver h) (World.remaining_of_isOver h)
  cases hwalk : w.walk k with
  | overRoll r progress =>
    cases progress with
    | unstarted =>
      exact nextFrom_of_walksAt (.inl ⟨hwalk, rfl, rfl⟩) (by simp [World.remaining, hwalk])
    | running turn bound =>
      exact nextFrom_of_walksAt (.inr hwalk) (by simp [World.remaining, hwalk])
    | finished => exact hends (congrArg Walk.isOver hwalk)
  | overGrowths t turn =>
    cases turn with
    | none => exact hends (congrArg Walk.isOver hwalk)
    | some turn =>
      have hrun := run_next_growths hwalk
      have hremaining : w.remaining k = (w.tally t).events.length - turn := by
        simp [World.remaining, hwalk]
      split at hrun
      · refine .handed hrun ?_
        rw [hremaining]
        simp only [World.remaining, World.walk_setWalk]
        show _ = (w.tally t).events.length - (turn + 1) + 1
        omega
      · exact .exhausted hrun (by omega)
  | overCopies texts =>
    cases texts with
    | nil => exact hends (congrArg Walk.isOver hwalk)
    | cons text rest =>
      exact .handed (run_next_copies hwalk) (by simp [World.remaining, hwalk])
  | overItems subject vs =>
    cases vs with
    | nil => exact hends (congrArg Walk.isOver hwalk)
    | cons v rest => exact .handed (run_next_items hwalk) (by simp [World.remaining, hwalk])

end Act

/-! ### To the end -/

/-- Some elements are handed out, one after the other, and then the walk fails. -/
inductive World.Exhausts (k : WalkId) : World → List Item → Fault → Prop
  | failed {w w' : World} {fault : Fault} (hrun : (Act.next k).run w = .error fault w') :
      Exhausts k w [] fault
  | handed {w w' : World} {x : Item} {xs : List Item} {fault : Fault}
      (hrun : (Act.next k).run w = .ok x w') (hrest : Exhausts k w' xs fault) :
      Exhausts k w (x :: xs) fault

/-- **Iterating over a value:** a walk is begun, unless the value is one, and asked for its next
element over and over until it fails. -/
inductive World.Iterates (w : World) (v : Value) : List Item → Fault → Prop
  | along {k : WalkId} {xs : List Item} {fault : Fault} (hv : v = .walk k)
      (hwalk : w.Exhausts k xs fault) : Iterates w v xs fault
  | begun {walk : Walk} {w' : World} {xs : List Item} {fault : Fault}
      (hbegun : (Act.startWalk v).run w = .ok (.draft (.walk walk)) w')
      (hwalk : (w'.addWalk walk).2.Exhausts (w'.addWalk walk).1 xs fault) : Iterates w v xs fault
  | refused {fault : Fault} {w' : World} (hrefused : (Act.startWalk v).run w = .error fault w') :
      Iterates w v [] fault

namespace Act

variable {w w' : World} {k : WalkId} {r : RollId} {v : Value} {xs : List Item} {fault : Fault}

/-- Walking to the end comes to one thing only. -/
theorem exhausts_unique (h : w.Exhausts k xs fault) {ys : List Item} {fault' : Fault}
    (h' : w.Exhausts k ys fault') : ys = xs ∧ fault' = fault := by
  induction h generalizing ys with
  | failed hrun =>
    cases h' with
    | failed hrun' =>
      rw [hrun] at hrun'
      cases hrun'
      exact ⟨rfl, rfl⟩
    | handed hrun' =>
      rw [hrun] at hrun'
      cases hrun'
  | handed hrun hrest ih =>
    cases h' with
    | failed hrun' =>
      rw [hrun] at hrun'
      cases hrun'
    | handed hrun' hrest' =>
      rw [hrun] at hrun'
      cases hrun'
      obtain ⟨rfl, rfl⟩ := ih hrest'
      exact ⟨rfl, rfl⟩

/-- **Every walk comes to an end.** -/
theorem exists_exhausts (k : WalkId) (w : World) : ∃ xs fault, w.Exhausts k xs fault := by
  -- the induction is on the number of elements that remain
  generalize hcount : w.remaining k = count
  induction count generalizing w with
  | zero =>
    cases nextFrom k w with
    | handed hrun hremaining => omega
    | exhausted hrun => exact ⟨[], _, .failed hrun⟩
    | broken hrun => exact ⟨[], _, .failed hrun⟩
  | succ count ih =>
    cases nextFrom k w with
    | @handed x w' hrun hremaining =>
      obtain ⟨xs, fault, hrest⟩ := ih w' (by omega)
      exact ⟨x :: xs, fault, .handed hrun hrest⟩
    | exhausted hrun => exact ⟨[], _, .failed hrun⟩
    | broken hrun => exact ⟨[], _, .failed hrun⟩

theorem run_drain (k : WalkId) (w : World) :
    (drain k).run w = (drainCount k (w.remaining k)).run w := rfl

/-- One more element than remains afterwards: it comes first. -/
theorem run_drain_handed {x : Item} (hrun : (next k).run w = .ok x w')
    (hremaining : w.remaining k = w'.remaining k + 1) :
    (drain k).run w = EStateM.run (drain k >>= fun xs => pure (x :: xs)) w' := by
  rw [run_drain, hremaining]
  exact run_bind_ok _ hrun

theorem run_drain_broken (hrun : (next k).run w = .error fault w')
    (hremaining : w.remaining k ≠ 0) : (drain k).run w = .error fault w' := by
  obtain ⟨count, hcount⟩ := Nat.exists_eq_succ_of_ne_zero hremaining
  rw [run_drain, hcount]
  exact run_bind_error _ hrun

/-- How reading the elements of a value can be cut short: it has none, or it is a walk that comes to
a slot without an element. -/
def CutShort (v : Value) (fault : Fault) : Prop :=
  fault = .notIterable v.kind ∨ ((∃ k, v = .walk k) ∧ NoElement fault)

theorem CutShort.plain (h : CutShort v fault) : fault.mentioned = [] := by
  rcases h with rfl | ⟨-, rfl | rfl⟩ <;> rfl

/-- What comes of reading elements: all of them, or the fault that cuts the reading short. -/
def ReadsItems (w : World) (v : Value) (xs : List Item) (fault : Fault) : Prop :=
  (fault = .exhausted ∧ ∃ w', (elements v).run w = .ok xs w') ∨
    (CutShort v fault ∧ ∃ w', (elements v).run w = .error fault w')

/-- **Draining a walk** yields what it hands out, or the fault that cuts it short. -/
theorem readsItems_of_exhausts (h : w.Exhausts k xs fault) : ReadsItems w (.walk k) xs fault := by
  induction h with
  | @failed w w' fault hrun =>
    cases nextFrom k w with
    | handed hrun' =>
      rw [hrun] at hrun'
      cases hrun'
    | exhausted hrun' hremaining =>
      rw [hrun] at hrun'
      cases hrun'
      refine .inl ⟨rfl, w.finishWalk k, ?_⟩
      show (drainCount k (w.remaining k)).run w = _
      rw [hremaining]
      rfl
    | broken hrun' hremaining hfault =>
      rw [hrun] at hrun'
      cases hrun'
      exact .inr ⟨.inr ⟨⟨k, rfl⟩, hfault⟩, _, run_drain_broken hrun hremaining⟩
  | @handed w w' x xs fault hrun hrest ih =>
    cases nextFrom k w with
    | handed hrun' hremaining =>
      rw [hrun] at hrun'
      cases hrun'
      have hdrain := run_drain_handed hrun hremaining
      rcases ih with ⟨hfault, w'', hall⟩ | ⟨hfault, w'', hno⟩
      · exact .inl ⟨hfault, w'', hdrain.trans (run_bind_ok _ hall)⟩
      · exact .inr ⟨hfault, w'', hdrain.trans (run_bind_error _ hno)⟩
    | exhausted hrun' =>
      rw [hrun] at hrun'
      cases hrun'
    | broken hrun' =>
      rw [hrun] at hrun'
      cases hrun'

end Act

/-! ### From the beginning -/

/-- What a walk will hand out if nothing happens meanwhile. -/
inductive World.Awaits (w : World) (k : WalkId) : List Item → Prop
  | slots {r : RollId} {turn bound : Nat} (hwalk : w.WalksAt k r turn bound)
      (hbound : bound ≤ (w.elements r).length) :
      Awaits w k ((((w.elements r).take bound).drop turn).map fun b => .copy (w.built b))
  | growths {t : TallyId} {turn : Nat} (hwalk : w.walk k = .overGrowths t (some turn)) :
      Awaits w k (((w.growths t).drop turn).map .value)
  | copies {texts : List Text} (hwalk : w.walk k = .overCopies texts) :
      Awaits w k (texts.map .copy)
  | items {subject : WalkKind} {vs : List Value} (hwalk : w.walk k = .overItems subject vs) :
      Awaits w k (vs.map .value)

namespace Act

variable {w w' : World} {k : WalkId} {r : RollId} {v : Value} {x : Item} {xs : List Item}
  {fault : Fault}

/-- A walk hands out the first of some elements and goes on to await the rest; without any it is
exhausted. -/
def HandsOut (k : WalkId) (w : World) : List Item → Prop
  | [] => ∃ w', (next k).run w = .error .exhausted w'
  | x :: rest => ∃ w', (next k).run w = .ok x w' ∧ w'.Awaits k rest

/-- **One step:** a walk hands out what it awaits first. -/
theorem handsOut_of_awaits (hw : w.WellFormed) (h : w.Awaits k xs) : HandsOut k w xs := by
  cases h with
  | @slots r turn bound hwalk hbound =>
    by_cases hturn : turn < bound
    · have hlt : turn < (w.elements r).length := Nat.lt_of_lt_of_le hturn hbound
      obtain ⟨w', hrun, hread, hwalk'⟩ := run_next_turn (hw r) hwalk hturn hlt
      have hrest := World.Awaits.slots hwalk' (hread.elements_eq r ▸ hbound)
      rw [hread.elements_eq, funext hread.built_eq] at hrest
      rw [drop_take_eq_cons hturn hbound, List.map_cons]
      exact ⟨w', hrun, hrest⟩
    · have hle := Nat.le_of_not_lt hturn
      have hnone : ((w.elements r).take bound).drop turn = [] :=
        List.drop_of_length_le (Nat.le_trans (List.length_take_le _ _) hle)
      rw [hnone]
      exact ⟨_, (run_next hwalk).trans (run_takeTurn_exhausted hle w)⟩
  | @growths t turn hwalk =>
    have hrun := run_next_growths hwalk
    have hlength : (w.growths t).length = (w.tally t).events.length := by simp [World.growths]
    by_cases hturn : turn < (w.tally t).events.length
    · rw [if_pos hturn] at hrun
      have hlt : turn < (w.growths t).length := hlength ▸ hturn
      have hfirst : (w.growths t)[turn] = .growth t turn := by simp [World.growths]
      rw [List.drop_eq_getElem_cons hlt, hfirst, List.map_cons]
      exact ⟨_, hrun, .growths (World.walk_setWalk w k _)⟩
    · rw [if_neg hturn] at hrun
      rw [List.drop_of_length_le (hlength ▸ Nat.le_of_not_lt hturn)]
      exact ⟨_, hrun⟩
  | @copies texts hwalk =>
    cases texts with
    | nil => exact ⟨w, run_next_of_isOver (congrArg Walk.isOver hwalk)⟩
    | cons text rest =>
      exact ⟨_, run_next_copies hwalk, .copies (World.walk_setWalk w k _)⟩
  | @items subject vs hwalk =>
    cases vs with
    | nil => exact ⟨w, run_next_of_isOver (congrArg Walk.isOver hwalk)⟩
    | cons v rest =>
      exact ⟨_, run_next_items hwalk, .items (World.walk_setWalk w k _)⟩

theorem exhausts_of_awaits (hw : w.WellFormed) (h : w.Awaits k xs) :
    w.Exhausts k xs .exhausted := by
  induction xs generalizing w with
  | nil =>
    obtain ⟨w', hrun⟩ := handsOut_of_awaits hw h
    exact .failed hrun
  | cons x xs ih =>
    obtain ⟨w', hrun, hrest⟩ := handsOut_of_awaits hw h
    have hread := (reads_next (fun _ => trivial) k w hw).ok hrun
    exact .handed hrun (ih (hread.wellFormed hw) hrest)

/-- A roll hands out copies of its elements. -/
theorem run_elements_roll (hw : w.WellFormed) (hasked : v.rollId? = some r) :
    (elements v).run w
      = .ok ((w.elements r).map fun b => .copy (w.built b)) (w.collapseAll (w.elements r)) := by
  have helements : elements v = textsOf r "copy" >>= fun texts => pure (texts.map Item.copy) := by
    cases v <;> cases hasked <;> rfl
  rw [helements, EStateM.run_bind, run_textsOf (hw r)]
  exact congrArg (EStateM.Result.ok · _) List.map_map

theorem walk_addWalk (w : World) (walk : Walk) :
    (w.addWalk walk).2.walk (w.addWalk walk).1 = walk :=
  w.walks.get_issue_self walk

/-- **A walk that is begun awaits the elements of the value.** -/
theorem awaits_begun (hw : w.WellFormed) {walk : Walk}
    (h : (startWalk v).run w = .ok (.draft (.walk walk)) w') :
    ∃ xs w'', (elements v).run w = .ok xs w'' ∧ w'.WellFormed ∧
      (w'.addWalk walk).2.Awaits (w'.addWalk walk).1 xs := by
  cases v with
  | roll r =>
    cases h
    have hlength : (w.roll r).length = (w.elements r).length := (hw r).length_elements.symm
    have hawaits := World.Awaits.slots (.inl ⟨walk_addWalk w (.overRoll r .unstarted), rfl, rfl⟩)
      (Nat.le_of_eq hlength)
    have hall : ((w.elements r).take (w.roll r).length).drop 0 = w.elements r :=
      List.take_of_length_le (Nat.le_of_eq hlength.symm)
    refine ⟨_, _, run_elements_roll hw rfl, hw, ?_⟩
    rw [← hall]
    exact hawaits
  | guarded mark depth r =>
    have hrun : (startWalk (.guarded mark depth r)).run w = _ :=
      run_bind_ok _ (run_textsOf (hw r) "copy")
    rw [hrun] at h
    cases h
    refine ⟨_, _, run_elements_roll hw rfl, (w.undisturbed_collapseAll _).wellFormed hw, ?_⟩
    have hawaits := World.Awaits.copies (walk_addWalk (w.collapseAll (w.elements r))
      (.overCopies ((w.elements r).map w.built)))
    rwa [List.map_map] at hawaits
  | growths t =>
    cases h
    exact ⟨_, _, rfl, hw, .growths (walk_addWalk w _)⟩
  | walk k => cases h
  | text | bytes | list | record | growth =>
    cases h
    exact ⟨_, _, rfl, hw, .items (walk_addWalk w _)⟩
  | _ => cases h

/-! ### Iterating -/

/-- A value that no walk can be begun over has no elements. -/
theorem run_elements_refused (hw : w.WellFormed) (h : (startWalk v).run w = .error fault w') :
    fault = .notIterable v.kind ∧ (elements v).run w = .error fault w' := by
  cases v with
  | guarded mark depth r =>
    have hrun : (startWalk (.guarded mark depth r)).run w = _ :=
      run_bind_ok _ (run_textsOf (hw r) "copy")
    rw [hrun] at h
    cases h
  | _ => cases h <;> exact ⟨rfl, rfl⟩

/-- Only a walk is not begun anew. -/
theorem startWalk_ok {answer : Answer} (hw : w.WellFormed)
    (h : (startWalk v).run w = .ok answer w') :
    (∃ k, v = .walk k) ∨ ∃ walk, answer = .draft (.walk walk) := by
  cases v with
  | walk k => exact .inl ⟨k, rfl⟩
  | guarded mark depth r =>
    have hrun : (startWalk (.guarded mark depth r)).run w = _ :=
      run_bind_ok _ (run_textsOf (hw r) "copy")
    rw [hrun] at h
    cases h
    exact .inr ⟨_, rfl⟩
  | _ => cases h <;> exact .inr ⟨_, rfl⟩

/-- **Asking a value for its elements** yields what iterating over it hands out, or the fault that
cuts that short. -/
theorem readsItems_of_iterates (hw : w.WellFormed) (h : w.Iterates v xs fault) :
    ReadsItems w v xs fault := by
  cases h with
  | along hv hwalk => exact hv ▸ readsItems_of_exhausts hwalk
  | begun hbegun hwalk =>
    obtain ⟨ys, w'', hrun, hw', hawaits⟩ := awaits_begun hw hbegun
    have hall := exhausts_of_awaits (w := (World.addWalk _ _).2) hw' hawaits
    obtain ⟨rfl, rfl⟩ := exhausts_unique hall hwalk
    exact .inl ⟨rfl, w'', hrun⟩
  | refused hrefused =>
    obtain ⟨rfl, hrun⟩ := run_elements_refused hw hrefused
    exact .inr ⟨.inl rfl, _, hrun⟩

/-- **Iterating comes to an end,** and to one only. -/
theorem exists_iterates (hw : w.WellFormed) (v : Value) :
    ∃ xs fault, w.Iterates v xs fault ∧
      ∀ ys fault', w.Iterates v ys fault' → ys = xs ∧ fault' = fault := by
  cases hstart : (startWalk v).run w with
  | error fault w' =>
    refine ⟨[], fault, .refused hstart, fun ys fault' h => ?_⟩
    cases h with
    | along hv => cases hv ▸ hstart
    | begun hbegun => cases hstart.symm.trans hbegun
    | refused hrefused =>
      cases hstart.symm.trans hrefused
      exact ⟨rfl, rfl⟩
  | ok answer w' =>
    rcases startWalk_ok hw hstart with ⟨k, rfl⟩ | ⟨walk, rfl⟩
    · obtain ⟨xs, fault, hwalk⟩ := exists_exhausts k w
      refine ⟨xs, fault, .along rfl hwalk, fun ys fault' h => ?_⟩
      cases h with
      | along hv hwalk' =>
        cases hv
        exact exhausts_unique hwalk hwalk'
      | begun hbegun => cases hbegun
      | refused hrefused => cases hrefused
    · obtain ⟨xs, fault, hwalk⟩ := exists_exhausts (w'.addWalk walk).1 (w'.addWalk walk).2
      refine ⟨xs, fault, .begun hstart hwalk, fun ys fault' h => ?_⟩
      cases h with
      | along hv => cases hv ▸ hstart
      | begun hbegun hwalk' =>
        cases hstart.symm.trans hbegun
        exact exhausts_unique hwalk hwalk'
      | refused hrefused => cases hstart.symm.trans hrefused

/-! ### Over for good -/

/-- **A walk that was drained is over,** whether or not that failed. -/
theorem isOver_drain (k : WalkId) (w : World) :
    ((drain k).worldAfter w).IsOver k := by
  generalize hcount : w.remaining k = count
  induction count generalizing w with
  | zero =>
    have hrun : (drain k).run w = .ok [] (w.finishWalk k) := by
      rw [run_drain, hcount]
      rfl
    rw [worldAfter_of_ok hrun]
    exact w.isOver_finishWalk k
  | succ count ih =>
    cases nextFrom k w with
    | @handed x w' hrun hremaining =>
      have hrest := ih w' (by omega)
      have hdrain := run_drain_handed hrun hremaining
      cases hend : (drain k).run w' with
      | ok xs w'' =>
        rw [worldAfter_of_ok hend] at hrest
        rwa [worldAfter_of_ok (hdrain.trans (run_bind_ok _ hend))]
      | error fault w'' =>
        rw [worldAfter_of_error hend] at hrest
        rwa [worldAfter_of_error (hdrain.trans (run_bind_error _ hend))]
    | exhausted hrun hremaining => omega
    | broken hrun hremaining hfault hover =>
      rwa [worldAfter_of_error (run_drain_broken hrun hremaining)]

/-- A walk that is over has nothing left to drain. -/
theorem run_drain_of_isOver (h : w.IsOver k) : (drain k).run w = .ok [] (w.finishWalk k) := by
  rw [run_drain, World.remaining_of_isOver h.1]
  rfl

/-- Going on along a walk that is over fails, or brings it to its end once more. -/
theorem isOver_ask_moves (h : w.IsOver k) {asked : Value} {verb : Verb} {args : List Value}
    (hmoves : movesWalk k asked verb args = true) :
    ((ask asked verb args).worldAfter w).IsOver k := by
  have hsame {k' : WalkId} (hindex : (k'.index == k.index) = true) (w' : World) :
      w'.IsOver k = w'.IsOver k' := by
    unfold World.IsOver World.walk
    rw [eq_of_beq hindex]
  unfold movesWalk at hmoves
  split at hmoves
  · next k' =>
    rw [hsame hmoves] at h ⊢
    have hrun : (ask (.walk k') .next []).run w = .error .exhausted w :=
      run_bind_error _ (run_next_of_isOver h.1)
    rwa [worldAfter_of_error hrun]
  · next k' =>
    rw [hsame hmoves] at h ⊢
    have hrun : (ask (.walk k') .elements []).run w = .ok (.items []) (w.finishWalk k') :=
      run_bind_ok _ (run_drain_of_isOver h)
    rw [worldAfter_of_ok hrun]
    exact w.isOver_finishWalk k'
  · next k' v =>
    rw [hsame hmoves] at h ⊢
    have hcontains : (contains v (.walk k')).run w = .ok false (w.finishWalk k') := by
      show (walkUntil k' v (w.remaining k')).run w = _
      rw [World.remaining_of_isOver h.1]
      rfl
    have hrun : (ask (.walk k') .contains [v]).run w
        = .ok (.value (.bool false)) (w.finishWalk k') := run_bind_ok _ hcontains
    rw [worldAfter_of_ok hrun]
    exact w.isOver_finishWalk k'
  · next b k' =>
    rw [hsame hmoves] at h ⊢
    have hrun := run_extend b (.walk k') w
    have helements : (elements (.walk k')).run w = .ok [] (w.finishWalk k') :=
      run_drain_of_isOver h
    rw [helements] at hrun
    show ((askBuffer b .extend [.walk k']).worldAfter w).IsOver k'
    rw [worldAfter_of_ok hrun]
    exact w.isOver_finishWalk k'
  · cases hmoves

/-- **A walk that is over stays over,** whatever is asked. -/
theorem isOver_ask (h : w.IsOver k) (asked : Value) (verb : Verb) (args : List Value) :
    ((ask asked verb args).worldAfter w).IsOver k := by
  by_cases hmoves : movesWalk k asked verb args = true
  · exact isOver_ask_moves h hmoves
  · have hleaves := leavesWalk_ask (Bool.eq_false_iff.mpr hmoves)
    cases hrun : (ask asked verb args).run w with
    | ok answer w' =>
      rw [worldAfter_of_ok hrun]
      exact h.of_leaves (hleaves.ok hrun)
    | error fault w' =>
      rw [worldAfter_of_error hrun]
      exact h.of_leaves (hleaves.error hrun)

end Act

end TextRoll
