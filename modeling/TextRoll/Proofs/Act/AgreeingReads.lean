/-
TextRoll/Proofs/Act/AgreeingReads.lean

Reading, comparing, walking and searching agree.

Texts are the same in matching worlds, whatever pieces they are kept in.  All else that these acts
look at is the same as well: rolls, the walks that are moved on, and tallies where the view compares
the books.  Where an act hands on what a value or a walk holds, this is within the view again.
-/
import TextRoll.Proofs.Act.Agreeing
import TextRoll.Proofs.Act.Reading

namespace TextRoll

namespace World

variable {view : View} {w w' : World} {n : Nat}

theorem areGrowths_eq_of_alike (h : w.Alike view w') (hbooks : view.books) :
    ∀ (events : List (Number × Number)) (vs : List Value),
      w'.areGrowths events vs = w.areGrowths events vs := by
  intro events
  induction events with
  | nil => intro vs; cases vs <;> rfl
  | cons g gs ih =>
    intro vs
    cases vs with
    | nil => rfl
    | cons v vs =>
      cases v with
      | growth t i =>
        show (Tally.sameGrowth g (w'.growth t i) && w'.areGrowths gs vs)
          = (Tally.sameGrowth g (w.growth t i) && w.areGrowths gs vs)
        rw [h.growth_eq (.inl hbooks), ih]
      | _ => rfl

/-- What an element of a roll is stored as has a place. -/
theorem Sound.stored (h : w.Sound view) {r : RollId} {wanted : String} {i : Nat} {b : BufferId}
    (hb : (w.roll r).stored wanted i = .ok b) : b.index < w.buffers.size := by
  unfold Roll.stored at hb
  split at hb
  · next a hslot =>
    cases hb
    exact h.issued r _ (List.mem_of_getElem? hslot)
  · cases hb
  · cases hb

end World

/-- What is within a view has parts that are within it. -/
theorem Value.partsAre_within {view : View} {n : Nat} :
    Value.PartsAre (Value.Within view n) where
  items h := by
    unfold Value.Within at h
    exact Value.allWithin_iff.mp h
  entries h := by
    unfold Value.Within at h
    exact Value.entriesWithin_iff.mp h
  release := Value.within_policy.mp
  start h := by
    unfold Value.Within at h
    exact Value.allWithin_iff.mp h.2

namespace Act

variable {view : View} {n : Nat} {w w' : World} {r : RollId} {k : WalkId} {v u : Value}

/-! ### Reading texts -/

theorem agrees_editBuffer (b : BufferId) {f : Buffer → Buffer}
    (hf : ∀ x y : Buffer, x.Alike y → (f x).Alike (f y)) :
    Agrees view n Whatever (editBuffer b f) :=
  .modify fun _ _ hw => hw.full.setBuffer b (hf _ _ (hw.buffer_alike b))

theorem agrees_collapse (b : BufferId) : Agrees view n Whatever (editBuffer b Buffer.collapse) :=
  agrees_editBuffer b fun x y h => ((Buffer.Alike.collapse x).symm.trans h).trans (.collapse y)

theorem agrees_built (b : BufferId) : Agrees view n Whatever (built b) :=
  .get_bind (fun _ _ hw => by rw [hw.built_eq]) fun w w' hw =>
    ((agrees_collapse b).bind fun _ => .done _) w w' hw

theorem agrees_textOf (b : BufferId) : Agrees view n Whatever (textOf b) :=
  (agrees_built b).bind fun _ => .done _

theorem agrees_textsOf (r : RollId) (wanted : String) :
    Agrees view n Whatever (textsOf r wanted) :=
  .roll_bind fun w w' hw => (Agrees.mapM fun i _ =>
    Agrees.bind (.ofExcept (.stored _ wanted i)) fun b => agrees_built b) w w' hw

theorem agrees_texts (r : RollId) : Agrees view n Whatever (texts r) :=
  (agrees_textsOf r "build").bind fun _ => .done _

/-! ### Comparing -/

theorem agrees_offer (hv : v.Within view n) (hu : u.Within view n) :
    Agrees view n Whatever (offer v u) := by
  unfold offer
  split
  · exact (agrees_textOf _).bind fun _ => (agrees_textOf _).bind fun _ => .done _
  · exact (agrees_textOf _).bind fun _ => .done _
  · exact .done _
  · exact .done _
  · exact (agrees_texts _).bind fun _ => (agrees_texts _).bind fun _ => .done _
  · exact (agrees_texts _).bind fun _ => (agrees_texts _).bind fun _ => .done _
  · exact (agrees_texts _).bind fun _ => (agrees_texts _).bind fun _ => .done _
  · unfold Value.Within at hv hu
    refine .get_bind (fun w w' hw => ?_) fun w w' hw => .pure hw trivial
    rw [hw.growth_eq hv, hw.growth_eq hu]
  · unfold Value.Within at hv
    refine .get_bind (fun w w' hw => ?_) fun w w' hw => .pure hw trivial
    rw [hw.tally_eq hv, hw.tally_eq hv]
  · unfold Value.Within at hv
    refine .get_bind (fun w w' hw => ?_) fun w w' hw => .pure hw trivial
    rw [hw.tally_eq hv, World.areGrowths_eq_of_alike hw.toAlike hv]
  · unfold Value.Within at hu
    refine .get_bind (fun w w' hw => ?_) fun w w' hw => .pure hw trivial
    rw [hw.tally_eq hu, World.areGrowths_eq_of_alike hw.toAlike hu]
  · exact .done _

theorem agrees_agreeByOffer (hv : v.Within view n) (hu : u.Within view n) :
    Agrees view n Whatever (agreeByOffer v u) := by
  refine (agrees_offer hv hu).bind fun mine => ?_
  cases mine with
  | some answer => exact .done _
  | none =>
    refine (agrees_offer hu hv).bind fun theirs => ?_
    cases theirs with
    | some answer => exact .done _
    | none =>
      dsimp only
      split <;> exact .done _

theorem comparedBy_agrees : ComparedBy (Value.Within view n) (Agrees view n Whatever) where
  parts := Value.partsAre_within
  done := .done
  andThen hx hy := hx.bind fun _ => .ite hy (.done _)
  byOffer := agrees_agreeByOffer
  tallies {a b xs ys} ha _ f hf := by
    unfold Value.Within at ha
    exact .get_bind (fun _ _ hw => by rw [hw.tally_eq ha.1]) fun w w' hw =>
      Agrees.get_bind (fun _ _ hw => by rw [hw.tally_eq ha.1])
        (fun v v' hv => hf _ _ v v' hv) w w' hw

theorem agrees_agree (v u : Value) (hv : v.Within view n) (hu : u.Within view n) :
    Agrees view n Whatever (agree v u) := comparedBy_agrees.agree v u hv hu

theorem agrees_equal (hv : v.Within view n) (hu : u.Within view n) :
    Agrees view n Whatever (equal v u) := by
  unfold equal
  split
  · exact .done _
  · exact agrees_agree v u hv hu

/-! ### Walking -/

theorem agrees_setWalk (k : WalkId) {x : Walk} (hx : x.Within view n) :
    Agrees view n Whatever (setWalk k x) :=
  .modify fun _ _ hw => hw.full.setWalk k (hx.mono hw.size_le)

/-- A walk at its end has nothing more to hand out. -/
theorem agrees_finishWalk (hk : view.walks k) :
    Agrees view n Whatever (modify (·.finishWalk k)) := by
  refine .modify fun w w' hw => ?_
  unfold World.finishWalk
  rw [hw.walk_eq]
  refine hw.full.setWalk k ?_
  have hwithin := hw.sound.walks k hk
  cases hwalk : w.walk k with
  | overRoll | overCopies => trivial
  | overGrowths => rwa [hwalk] at hwithin
  | overItems =>
    unfold Walk.Within Value.AllWithin
    trivial

theorem agrees_takeTurn (k : WalkId) (r : RollId) (turn bound : Nat) :
    Agrees view n (Item.Within view) (takeTurn k r turn bound) := by
  refine Agrees.bind (agrees_setWalk k trivial) fun _ => ?_
  refine .ite (Agrees.bind (B := Whatever) (.throw_bare rfl) fun _ => ?_) ?_ <;>
  · refine .roll_bind fun w w' hw => Agrees.bind (.ofExcept (.stored _ _ _)) (fun b => ?_) w w' hw
    exact (agrees_built b).bind fun _ => Agrees.bind (agrees_setWalk k trivial) fun _ =>
      .pure fun _ _ => trivial

theorem agrees_takeGrowth (hbooks : view.books) (k : WalkId) (t : TallyId) (turn : Nat) :
    Agrees view n (Item.Within view) (takeGrowth k t turn) := by
  refine .get_bind (fun w w' hw => by rw [hw.tally_eq hbooks]) fun w w' hw => ?_
  refine Agrees.ite ?_ ?_ w w' hw
  · refine Agrees.bind (agrees_setWalk k hbooks) fun _ => .pure fun m _ => ?_
    unfold Item.Within Value.Within
    exact .inl hbooks
  · exact Agrees.bind (agrees_setWalk k hbooks) fun _ => .throw_bare rfl

/-- **The next element of a walk** that the view looks at is within the view. -/
theorem agrees_next (hk : view.walks k) : Agrees view n (Item.Within view) (next k) := by
  -- the view looks at this walk, so what it has still to hand out is within the view
  refine .get_bind (fun w w' hw => by rw [hw.walk_eq]) fun w w' hw => ?_
  have hwithin := hw.sound.walks k hk
  split
  · exact Agrees.roll_bind (fun v v' hv => agrees_takeTurn _ _ _ _ v v' hv) w w' hw
  · exact agrees_takeTurn _ _ _ _ w w' hw
  · exact .throw hw (Fault.isNameless_of_nil rfl _ _)
  · next hwalk =>
    rw [hwalk] at hwithin
    exact agrees_takeGrowth hwithin _ _ _ w w' hw
  · exact .throw hw (Fault.isNameless_of_nil rfl _ _)
  · exact .throw hw (Fault.isNameless_of_nil rfl _ _)
  · next rest _ =>
    exact Agrees.bind (agrees_setWalk (x := .overCopies rest) k trivial)
      (fun _ => .pure fun _ _ => trivial) w w' hw
  · exact .throw hw (Fault.isNameless_of_nil rfl _ _)
  · next subject v rest hwalk =>
    rw [hwalk] at hwithin
    unfold Walk.Within Value.AllWithin at hwithin
    exact Agrees.bind (agrees_setWalk (x := .overItems subject rest) k hwithin.2)
      (fun _ => .pure (a := Item.value v) fun m hm => Value.Within.mono hm v hwithin.1) w w' hw.full

/-- As many elements are left. -/
theorem remaining_eq (hw : w.Matches view n w') (hk : view.walks k) :
    w'.remaining k = w.remaining k := by
  have hwithin := hw.sound.walks k hk
  unfold World.remaining
  rw [hw.walk_eq]
  split
  · rw [hw.roll_eq]
  · rfl
  · rfl
  · next hwalk =>
    rw [hwalk] at hwithin
    rw [hw.tally_eq hwithin]
  · rfl
  · rfl
  · rfl

/-- All of some items are within the view. -/
def ItemsWithin (view : View) (n : Nat) (xs : List Item) : Prop := ∀ x ∈ xs, x.Within view n

theorem Item.Within.mono {x : Item} {m : Nat} (h : x.Within view m) (hle : m ≤ n) :
    x.Within view n := by
  cases x with
  | value v => exact Value.Within.mono hle v h
  | copy text => trivial

theorem agrees_drainCount (hk : view.walks k) (count : Nat) :
    Agrees view n (ItemsWithin view) (drainCount k count) := by
  induction count generalizing n with
  | zero => exact (agrees_finishWalk hk).bind fun _ => .pure fun _ _ => nofun
  | succ count ih =>
    refine (agrees_next hk).bind_of fun m x _ hx => ih.bind_of fun m' xs hle hxs => ?_
    refine .pure fun m'' hle' => List.forall_mem_cons.mpr ⟨?_, fun y hy => ?_⟩
    · exact Item.Within.mono hx (Nat.le_trans hle hle')
    · exact Item.Within.mono (hxs y hy) hle'

theorem agrees_drain (hk : view.walks k) : Agrees view n (ItemsWithin view) (drain k) :=
  .get_bind (fun _ _ hw => by rw [remaining_eq hw hk]) fun w w' hw =>
    agrees_drainCount hk _ w w' hw

/-! ### Elements -/

/-- The elements of plain data are the same, and within the view. -/
theorem parts?_eq_of_alike (h : w.Alike view w') (hv : v.Within view n) :
    parts? w' v = parts? w v := by
  cases v with
  | growths t =>
    unfold Value.Within at hv
    unfold parts?
    dsimp only
    unfold World.growths
    rw [h.tally_eq hv]
  | growth t place =>
    unfold Value.Within at hv
    unfold parts?
    dsimp only
    rw [h.growth_eq hv]
  | _ => rfl

theorem parts?_within (hv : v.Within view n) {subject : WalkKind} {items : List Value}
    (h : parts? w v = some (subject, items)) : Value.AllWithin view n items := by
  rw [Value.allWithin_iff]
  cases v with
  | text t =>
    cases h
    intro x hx
    obtain ⟨c, -, rfl⟩ := List.mem_map.mp hx
    trivial
  | bytes mark octets =>
    cases h
    intro x hx
    obtain ⟨c, -, rfl⟩ := List.mem_map.mp hx
    trivial
  | list mark items =>
    cases h
    unfold Value.Within at hv
    exact Value.allWithin_iff.mp hv
  | record mark entries =>
    cases h
    intro x hx
    obtain ⟨c, -, rfl⟩ := List.mem_map.mp hx
    trivial
  | growths t =>
    cases h
    unfold Value.Within at hv
    intro x hx
    obtain ⟨c, -, rfl⟩ := List.mem_map.mp hx
    unfold Value.Within
    exact .inl hv
  | growth t place =>
    cases h
    intro x hx
    rcases List.mem_cons.mp hx with rfl | hx
    · exact Value.within_number _
    · obtain rfl := List.mem_singleton.mp hx
      exact Value.within_number _
  | _ => cases h

theorem agrees_copies {texts : Act (List Text)} (h : Agrees view n Whatever texts) :
    Agrees view n (ItemsWithin view) (do return (← texts).map .copy) :=
  h.bind fun found => .pure fun _ _ x hx => by
    obtain ⟨text, -, rfl⟩ := List.mem_map.mp hx
    trivial

/-- **The elements of a value** are within the view if the value is. -/
theorem agrees_elements (hv : v.Within view n) :
    Agrees view n (ItemsWithin view) (elements v) := by
  unfold elements
  split
  · exact agrees_copies (agrees_textsOf _ _)
  · exact agrees_copies (agrees_textsOf _ _)
  · unfold Value.Within at hv
    exact agrees_drain hv
  · refine .get_bind (fun w w' hw => by rw [parts?_eq_of_alike hw.toAlike hv]) fun w w' hw => ?_
    split
    · next subject items hparts =>
      have hitems := Value.allWithin_iff.mp (parts?_within hv hparts)
      refine .pure hw fun x hx => ?_
      obtain ⟨u, hu, rfl⟩ := List.mem_map.mp hx
      exact (hitems u hu).mono hw.size_le
    · exact .throw hw (Fault.isNameless_of_nil rfl _ _)

theorem agrees_startWalk (hv : v.Within view n) :
    Agrees view n (Answer.Within view) (startWalk v) := by
  unfold startWalk
  split
  · exact .pure fun _ _ => trivial
  · exact (agrees_textsOf _ _).bind fun _ => .pure fun _ _ => trivial
  · unfold Value.Within at hv
    exact .pure fun _ _ => hv
  · exact .pure fun _ _ => trivial
  · refine .get_bind (fun w w' hw => by rw [parts?_eq_of_alike hw.toAlike hv]) fun w w' hw => ?_
    split
    · next subject items hparts =>
      exact .pure hw (Value.AllWithin.mono hw.size_le _ (parts?_within hv hparts))
    · exact .throw hw (Fault.isNameless_of_nil rfl _ _)

/-! ### Membership -/

theorem agrees_itemAgrees {x : Item} (hx : x.Within view n) (hv : v.Within view n) :
    Agrees view n Whatever (itemAgrees x v) := by
  unfold itemAgrees
  split
  · exact agrees_agree _ _ hx hv
  · split
    · exact (agrees_textOf _).bind fun _ => .done _
    · exact .done _
    · exact .done _

theorem agrees_walkUntil (hk : view.walks k) (hv : v.Within view n) (count : Nat) :
    Agrees view n Whatever (walkUntil k v count) := by
  induction count generalizing n with
  | zero => exact (agrees_finishWalk hk).bind fun _ => .done _
  | succ count ih =>
    refine (agrees_next hk).bind_of fun m x hle hx => ?_
    exact (agrees_itemAgrees hx (hv.mono hle)).bind fun _ => .ite (.done _) (ih (hv.mono hle))

theorem agrees_rollContains (r : RollId) (v : Value) :
    Agrees view n Whatever (rollContains r v) := by
  unfold rollContains
  split
  · exact (agrees_textOf _).bind fun _ => (agrees_texts r).bind fun _ => .done _
  · exact (agrees_texts r).bind fun _ => .done _
  · exact .done _

theorem agrees_anyAgrees (hv : v.Within view n) {us : List Value}
    (hus : Value.AllWithin view n us) : Agrees view n Whatever (anyAgrees v us) := by
  induction us with
  | nil => exact .done _
  | cons u us ih =>
    unfold Value.AllWithin at hus
    exact (agrees_agree u v hus.1 hv).bind fun _ => .ite (.done _) (ih hus.2)

theorem agrees_contains (hv : v.Within view n) (hu : u.Within view n) :
    Agrees view n Whatever (contains v u) := by
  unfold contains
  split
  · exact agrees_rollContains _ v
  · exact agrees_rollContains _ v
  · unfold Value.Within at hu
    exact .get_bind (fun _ _ hw => by rw [remaining_eq hw hu]) fun w w' hw =>
      agrees_walkUntil hu hv _ w w' hw
  · refine .ofExcept ?_
    unfold textContains
    split
    · exact .ok _
    · exact .bare rfl
  · refine .ofExcept ?_
    unfold bytesContain
    split
    · exact .ok _
    · split
      · exact .ok _
      · exact .bare rfl
    · exact .bare rfl
  · refine .ofExcept ?_
    unfold recordContains
    split
    · exact .bare rfl
    · exact .ok _
    · exact .ok _
  · refine .get_bind (fun w w' hw => by rw [parts?_eq_of_alike hw.toAlike hu]) fun w w' hw => ?_
    split
    · next subject items hparts =>
      exact agrees_anyAgrees hv (parts?_within hu hparts) w w' hw
    · exact .throw hw (Fault.isNameless_of_nil rfl _ _)

end Act

end TextRoll
