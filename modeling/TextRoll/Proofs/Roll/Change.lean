/-
TextRoll/Proofs/Roll/Change.lean

What one request can do to a roll, and what survives it.

`Roll.Change l added l'` lists the ways in which a roll changes: its cursor moves to an
element or to the start, an element is appended, room is reserved, an element is taken
out, all elements are dropped.  Nothing else ever happens to a roll, so an invariant
needs one case for each of these and no more.

* `Change.wellFormed`: every change keeps `Roll.WellFormed`, which says where the
  elements, the empty slots and the cursor are.
* `Change.retains`: all changes but the last two keep every element in its slot, and
  move the generation exactly as often as storage grows (`Roll.Retains`).
-/
import TextRoll.Proofs.Roll.Layout

namespace TextRoll

/-! ### Grants -/

namespace Policy

variable {p : Policy}

/-- So many slots are within the limit, if there is one, and fit into memory. -/
structure Allows (p : Policy) (slots : Nat) : Prop where
  le_limit : ∀ limit, p.maxCapacity = some limit → slots ≤ limit
  lt_unaffordable : slots < unaffordableSlots

theorem Allows.mono {slots fewer : Nat} (h : p.Allows slots) (hle : fewer ≤ slots) :
    p.Allows fewer :=
  ⟨fun limit hlimit => Nat.le_trans hle (h.le_limit limit hlimit),
    Nat.lt_of_le_of_lt hle h.lt_unaffordable⟩

/-- The limit that a number is past is that of the policy. -/
theorem exceeded?_eq_some {wanted limit : Nat} :
    p.exceeded? wanted = some limit ↔ p.maxCapacity = some limit ∧ limit < wanted := by
  unfold exceeded?
  simp [Option.filter_eq_some_iff]

/-- Only slots that are allowed are granted. -/
theorem allows_of_grant {slots : Nat} {wanted : Whole} (h : p.grant slots wanted = .ok ()) :
    p.Allows wanted.toNat := by
  unfold grant at h
  split at h
  · cases h
  · next hnone =>
    constructor
    · intro limit hlimit
      by_contra hgt
      rw [exceeded?_eq_some.mpr ⟨hlimit, Nat.lt_of_not_le hgt⟩] at hnone
      cases hnone
    · split at h
      · cases h
      · split at h
        · cases h
        · omega

/-- Full storage always asks for more than there is. -/
theorem lt_enlarged (p : Policy) (slots : Nat) : slots < p.enlarged slots := by
  have hnext : slots < max (slots * p.growthFactor) 1 := by
    have := Nat.mul_le_mul_left slots p.two_le_growthFactor
    omega
  unfold enlarged
  cases p.maxCapacity with
  | none => exact hnext
  | some limit =>
    dsimp only
    split
    · next hclamp => exact hclamp.1
    · exact hnext

end Policy

namespace Roll

variable {α : Type} {l l' : Roll α}

/-! ### Well-formed rolls -/

/-- What every change of a roll keeps. -/
structure WellFormed (l : Roll α) : Prop where
  /-- There are at least as many slots as elements. -/
  length_le : l.length ≤ l.capacity
  /-- There are no more slots than the policy of the roll allows. -/
  allowed : l.policy.Allows l.capacity
  /-- The first slots are occupied. -/
  occupied : ∀ i, i < l.length → ∃ a, l.slots[i]? = some (some a)
  /-- All other slots are empty. -/
  vacant : ∀ i, l.length ≤ i → i < l.capacity → l.slots[i]? = some none
  /-- The cursor is at an element if there is one. -/
  cursor_lt : 0 < l.length → l.cursor < l.length
  /-- Without elements the cursor is at the start. -/
  cursor_eq_zero : l.length = 0 → l.cursor = 0

/-- Slots none of which is empty are the elements found in them. -/
theorem map_some_filterMap {slots : List (Option α)} (h : ∀ slot ∈ slots, slot.isSome) :
    (slots.filterMap id).map some = slots := by
  induction slots with
  | nil => rfl
  | cons slot rest ih =>
    obtain ⟨a, rfl⟩ := Option.isSome_iff_exists.mp (h slot List.mem_cons_self)
    have hrest := ih fun s hs => h s (List.mem_cons_of_mem _ hs)
    show some a :: (rest.filterMap id).map some = some a :: rest
    rw [hrest]

theorem WellFormed.layout (h : l.WellFormed) : l.Layout l.elements (l.capacity - l.length) := by
  have htake : l.elements.map some = l.slots.take l.length := by
    refine map_some_filterMap fun slot hslot => ?_
    obtain ⟨i, hi⟩ := List.mem_iff_getElem?.mp hslot
    rw [List.getElem?_take] at hi
    split at hi
    · next hlt =>
      obtain ⟨a, ha⟩ := h.occupied i hlt
      obtain rfl := Option.some.inj (hi.symm.trans ha)
      rfl
    · cases hi
  have hdrop : l.slots.drop l.length = List.replicate (l.capacity - l.length) none := by
    refine List.eq_replicate_iff.mpr ⟨List.length_drop, fun slot hslot => ?_⟩
    obtain ⟨i, hi⟩ := List.mem_iff_getElem?.mp hslot
    rw [List.getElem?_drop] at hi
    have hlt : l.length + i < l.capacity := (List.getElem?_eq_some_iff.mp hi).1
    exact Option.some.inj (hi.symm.trans (h.vacant _ (Nat.le_add_right ..) hlt))
  constructor
  · rw [htake, ← hdrop, List.take_append_drop]
  · have hlen := congrArg List.length htake
    rw [List.length_map, List.length_take] at hlen
    have := h.length_le
    unfold capacity at this
    omega

/-- A laid out roll is well-formed as soon as its capacity and its cursor are. -/
theorem Layout.wellFormed {as : List α} {free : Nat} (h : l.Layout as free)
    (hallowed : l.policy.Allows l.capacity)
    (hcursor : l.cursor < as.length ∨ l.cursor = 0) : l.WellFormed where
  length_le := by
    rw [h.capacity_eq, h.length_eq]
    exact Nat.le_add_right ..
  allowed := hallowed
  occupied i hi := ⟨as.get ⟨i, h.length_eq ▸ hi⟩, h.slot_eq (h.length_eq ▸ hi)⟩
  vacant i hi hlt := h.slot_eq_none (h.length_eq ▸ hi) hlt
  cursor_lt hpos := by
    rw [h.length_eq] at hpos ⊢
    omega
  cursor_eq_zero hzero := by
    rw [h.length_eq] at hzero
    omega

/-! ### Finding an element -/

theorem WellFormed.length_elements (h : l.WellFormed) : l.elements.length = l.length :=
  h.layout.length_eq.symm

/-- An index either is that of an element or is out of range. -/
theorem checkIndex_cases (l : Roll α) (i : Whole) :
    (i.toNat < l.length ∧ 0 ≤ i.toInt ∧ l.checkIndex i = .ok i.toNat) ∨
      (¬(0 ≤ i.toInt ∧ i.toInt < l.length) ∧
        l.checkIndex i = .error (.outOfRange i.value (.ofInt l.length))) := by
  unfold checkIndex
  split
  · next hi =>
    refine .inl ⟨?_, hi.1, rfl⟩
    unfold Whole.toNat
    omega
  · next hi => exact .inr ⟨hi, rfl⟩

/-- The cursor either is at an element or there is none. -/
theorem currentIndex_cases (l : Roll α) (operation : String) :
    (0 < l.length ∧ l.currentIndex operation = .ok l.cursor) ∨
      (l.length = 0 ∧ l.currentIndex operation = .error (.emptyRoll (.ofText operation))) := by
  unfold currentIndex
  split
  · next hzero => exact .inr ⟨hzero, rfl⟩
  · next hne => exact .inl ⟨Nat.pos_of_ne_zero hne, rfl⟩

/-- An element that is there can be taken out. -/
theorem WellFormed.takeSlot_eq (h : l.WellFormed) {i : Nat} (hi : i < l.elements.length) :
    l.takeSlot i = .ok (l.elements[i], l.without i) := by
  unfold takeSlot
  rw [h.layout.stored_eq "copy" hi]
  rfl

/-- The current element is taken out, unless there is none. -/
theorem WellFormed.remove_cases (h : l.WellFormed) :
    (∃ hi : l.cursor < l.elements.length,
        l.remove = .ok (l.elements[l.cursor], l.without l.cursor)) ∨
      (l.length = 0 ∧ l.remove = .error (.emptyRoll (.ofText "remove"))) := by
  have hbind : l.remove = (l.currentIndex "remove").bind l.takeSlot := rfl
  rcases l.currentIndex_cases "remove" with ⟨hpos, hok⟩ | ⟨hzero, herror⟩
  · have hi : l.cursor < l.elements.length := h.length_elements.symm ▸ h.cursor_lt hpos
    exact .inl ⟨hi, by rw [hbind, hok]; exact h.takeSlot_eq hi⟩
  · exact .inr ⟨hzero, by rw [hbind, herror]; rfl⟩

/-- The element at an index is taken out, unless there is none. -/
theorem WellFormed.removeAt_cases (h : l.WellFormed) (i : Whole) :
    (∃ hi : i.toNat < l.elements.length,
        0 ≤ i.toInt ∧ l.removeAt i = .ok (l.elements[i.toNat], l.without i.toNat)) ∨
      (¬(0 ≤ i.toInt ∧ i.toInt < l.length) ∧
        l.removeAt i = .error (.outOfRange i.value (.ofInt l.length))) := by
  have hbind : l.removeAt i = (l.checkIndex i).bind l.takeSlot := rfl
  rcases l.checkIndex_cases i with ⟨hlt, hpos, hok⟩ | ⟨hout, herror⟩
  · have hi : i.toNat < l.elements.length := h.length_elements.symm ▸ hlt
    exact .inl ⟨hi, hpos, by rw [hbind, hok]; exact h.takeSlot_eq hi⟩
  · exact .inr ⟨hout, by rw [hbind, herror]; rfl⟩

/-- The cursor is set, unless there is no element, no index or no element with that index. -/
theorem seek_cases (l : Roll α) (i : Except Fault Whole) (mark : Mark) :
    (∃ n : Whole, i = .ok n ∧ n.toNat < l.length ∧ 0 ≤ n.toInt ∧
        l.seek i mark = .ok { l with
          cursor := n.toNat, cursorOrigin := if n.isTruth then .truth else .given mark }) ∨
      (l.length = 0 ∧ l.seek i mark = .error (.emptyRoll (.ofText "seek"))) ∨
      (0 < l.length ∧ ∃ fault, i = .error fault ∧ l.seek i mark = .error fault) ∨
      (0 < l.length ∧ ∃ n : Whole, i = .ok n ∧ ¬(0 ≤ n.toInt ∧ n.toInt < l.length) ∧
        l.seek i mark = .error (.outOfRange n.value (.ofInt l.length))) := by
  have hbind : l.seek i mark = (l.currentIndex "seek").bind fun _ => i.bind fun n =>
      (l.checkIndex n).bind fun index => .ok { l with
        cursor := index, cursorOrigin := if n.isTruth then .truth else .given mark } := rfl
  rcases l.currentIndex_cases "seek" with ⟨hpos, hok⟩ | ⟨hzero, herror⟩
  · cases i with
    | error fault => exact .inr (.inr (.inl ⟨hpos, fault, rfl, by rw [hbind, hok]; rfl⟩))
    | ok n =>
      rcases l.checkIndex_cases n with ⟨hlt, hnonneg, hcheck⟩ | ⟨hout, hcheck⟩
      · refine .inl ⟨n, rfl, hlt, hnonneg, ?_⟩
        rw [hbind, hok, Except.bind, Except.bind, hcheck, Except.bind]
      · refine .inr (.inr (.inr ⟨hpos, n, rfl, hout, ?_⟩))
        rw [hbind, hok, Except.bind, Except.bind, hcheck, Except.bind]
  · exact .inr (.inl ⟨hzero, by rw [hbind, herror]; rfl⟩)

/-! ### Growing, placing, reserving -/

theorem capacity_grown {wanted : Nat} (h : l.capacity < wanted) :
    (l.grown wanted).capacity = wanted := by
  show (l.slots ++ List.replicate (wanted - l.capacity) none).length = wanted
  rw [List.length_append, List.length_replicate]
  unfold capacity at h ⊢
  omega

@[simp] theorem capacity_place (l : Roll α) (a : α) : (l.place a).capacity = l.capacity :=
  List.length_set

/-- Taking out an element leaves as many slots as there were: the last one becomes empty. -/
theorem WellFormed.capacity_without (h : l.WellFormed) {i : Nat} (hi : i < l.length) :
    (l.without i).capacity = l.capacity := by
  have hslot : i < l.slots.length := Nat.lt_of_lt_of_le hi h.length_le
  show (l.slots.eraseIdx i ++ [none]).length = l.slots.length
  rw [List.length_append, List.length_eraseIdx_of_lt hslot, List.length_singleton]
  omega

/-- The roll with storage brought to `wanted` slots, within the limit of the policy. -/
theorem WellFormed.grown (h : l.WellFormed) {wanted : Nat} (hlt : l.capacity < wanted)
    (hallowed : l.policy.Allows wanted) : (l.grown wanted).WellFormed := by
  have hlay := h.layout.grown wanted
  refine hlay.wellFormed (hallowed.mono ?_) ?_
  · have hcap := hlay.capacity_eq
    have hold := h.layout.capacity_eq
    omega
  · show l.cursor < l.elements.length ∨ l.cursor = 0
    rw [← h.layout.length_eq]
    have := h.cursor_lt
    have := h.cursor_eq_zero
    omega

theorem WellFormed.place (h : l.WellFormed) (hroom : l.length < l.capacity) (a : α) :
    (l.place a).WellFormed := by
  have hfree : l.capacity - l.length = (l.capacity - l.length - 1) + 1 := by omega
  have hlay := (hfree ▸ h.layout).place a
  refine hlay.wellFormed (h.allowed.mono (Nat.le_of_eq List.length_set)) ?_
  · show l.cursor < (l.elements ++ [a]).length ∨ l.cursor = 0
    rw [List.length_append, ← h.layout.length_eq]
    have := h.cursor_lt
    have := h.cursor_eq_zero
    omega

/-- What storage was brought to, if it was granted. -/
theorem reallocate_eq_ok {wanted : Whole} {mark : Mark} {growth : Growth}
    (h : l.reallocate wanted mark = .ok (l', growth)) :
    l' = l.grown wanted.toNat ∧ growth = ⟨l.capacity, wanted, mark⟩ ∧
      l.policy.Allows wanted.toNat := by
  unfold reallocate at h
  cases hgrant : l.policy.grant l.capacity wanted with
  | error fault => rw [hgrant] at h; cases h
  | ok u =>
    rw [hgrant] at h
    cases h
    exact ⟨rfl, rfl, Policy.allows_of_grant hgrant⟩

/-- An append either finds an empty slot or grows storage first. -/
theorem append_eq_ok {a : α} {growth : Option Growth} (h : l.append a = .ok (l', growth)) :
    (l.length ≠ l.capacity ∧ l' = l.place a ∧ growth = none) ∨
      ∃ wanted : Nat, l.length = l.capacity ∧ l.capacity < wanted ∧
        l.policy.Allows wanted ∧
        l' = (l.grown wanted).place a ∧
        growth = some ⟨l.capacity, .numeral wanted, l.policy.enlargedMark l.capacity⟩ := by
  unfold append makeRoom at h
  split at h
  · next hfull =>
    refine .inr ⟨l.policy.enlarged l.capacity, hfull, l.policy.lt_enlarged _, ?_⟩
    dsimp only at h
    cases hre : l.reallocate (.numeral (l.policy.enlarged l.capacity))
        (l.policy.enlargedMark l.capacity) with
    | error fault => rw [hre] at h; cases h
    | ok outcome =>
      obtain ⟨larger, g⟩ := outcome
      rw [hre] at h
      obtain ⟨rfl, rfl, hallowed⟩ := reallocate_eq_ok hre
      cases h
      exact ⟨hallowed, rfl, rfl⟩
  · next hroom =>
    cases h
    exact .inl ⟨hroom, rfl, rfl⟩

/-- Making room either finds enough slots or grows storage to what was asked for. -/
theorem reserve_eq_ok {capacity : Whole} {mark : Mark} {growth : Option Growth}
    (h : l.reserve capacity mark = .ok (l', growth)) :
    (capacity.toInt ≤ l.capacity ∧ l' = l ∧ growth = none) ∨
      l.capacity < capacity.toNat ∧
        l.policy.Allows capacity.toNat ∧
        l' = l.grown capacity.toNat ∧ growth = some ⟨l.capacity, capacity, mark⟩ := by
  unfold reserve at h
  split at h
  · next hlt =>
    cases hre : l.reallocate capacity mark with
    | error fault => rw [hre] at h; cases h
    | ok outcome =>
      obtain ⟨larger, g⟩ := outcome
      rw [hre] at h
      obtain ⟨rfl, rfl, hallowed⟩ := reallocate_eq_ok hre
      cases h
      exact .inr ⟨Whole.lt_toNat.mpr hlt, hallowed, rfl, rfl⟩
  · next hge =>
    cases h
    exact .inl ⟨by omega, rfl, rfl⟩

/-- The roll asks for more slots and is told why it does not get them; there are never more in a
number that has a point. -/
def Refuses (l : Roll α) (fault : Fault) : Prop :=
  (∃ wanted : Whole, l.capacity < wanted.toNat ∧
      l.policy.grant l.capacity wanted = .error fault) ∨
    ∃ x : Binary64, l.reserveReal x = .error fault

theorem reallocate_eq_error {wanted : Whole} {mark : Mark} {fault : Fault}
    (h : l.reallocate wanted mark = .error fault) :
    l.policy.grant l.capacity wanted = .error fault := by
  unfold reallocate at h
  cases hgrant : l.policy.grant l.capacity wanted with
  | error fault' =>
    rw [hgrant] at h
    cases h
    rfl
  | ok u => rw [hgrant] at h; cases h

/-- An append fails only for want of storage. -/
theorem refuses_of_append {a : α} {fault : Fault} (h : l.append a = .error fault) :
    l.Refuses fault := by
  unfold append makeRoom at h
  split at h
  · dsimp only at h
    cases hre : l.reallocate (.numeral (l.policy.enlarged l.capacity))
        (l.policy.enlargedMark l.capacity) with
    | error fault' =>
      rw [hre] at h
      cases h
      exact .inl ⟨.numeral (l.policy.enlarged l.capacity), l.policy.lt_enlarged l.capacity,
        reallocate_eq_error hre⟩
    | ok outcome => rw [hre] at h; cases h
  · cases h

/-- Making room fails only for want of storage. -/
theorem refuses_of_reserve {capacity : Whole} {mark : Mark} {fault : Fault}
    (h : l.reserve capacity mark = .error fault) : l.Refuses fault := by
  unfold reserve at h
  split at h
  · next hlt =>
    cases hre : l.reallocate capacity mark with
    | error fault' =>
      rw [hre] at h
      cases h
      exact .inl ⟨capacity, Whole.lt_toNat.mpr hlt, reallocate_eq_error hre⟩
    | ok outcome => rw [hre] at h; cases h
  · cases h

/-- A number of slots with a point is refused as the policy says. -/
theorem reserveReal_eq_error {x : Binary64} {fault : Fault} (h : l.reserveReal x = .error fault) :
    fault = l.policy.refusedReal x := by
  unfold reserveReal at h
  split at h <;> cases h
  rfl

/-! ### The changes of a roll -/

/-- What is lost in a change. -/
inductive Loss
  | nothing
  | element (i : Nat)
  | everything
deriving DecidableEq, Repr

/-- What is left of some elements. -/
def Loss.rest : Loss → List α → List α
  | nothing, as => as
  | element i, as => as.eraseIdx i
  | everything, _ => []

/-- One request can do this to a roll: some elements are lost, and some are added. -/
inductive Change (l : Roll α) : Loss → List α → Roll α → Prop
  /-- The cursor moves to an element or to the start. -/
  | moved (i : Nat) (origin : CursorOrigin) (moves : Nat) (h : i < l.length ∨ i = 0) :
      Change l .nothing [] { l with cursor := i, cursorOrigin := origin, moves := moves }
  | appended {a : α} {l' : Roll α} {growth : Option Growth}
      (h : l.append a = .ok (l', growth)) : Change l .nothing [a] l'
  | reserved {capacity : Whole} {mark : Mark} {l' : Roll α} {growth : Option Growth}
      (h : l.reserve capacity mark = .ok (l', growth)) : Change l .nothing [] l'
  | taken {i : Nat} (h : i < l.length) : Change l (.element i) [] (l.without i)
  | cleared (release : Bool) : Change l .everything [] (l.clear release)

variable {loss : Loss} {added : List α}

/-- **The elements after a change** are those that were not lost and those that were added. -/
theorem Change.elements_eq (h : Change l loss added l') (hl : l.WellFormed) :
    l'.elements = loss.rest l.elements ++ added := by
  have hlay := hl.layout
  cases h with
  | moved i origin moves hi => exact (List.append_nil _).symm
  | @appended a l' growth h =>
    rcases append_eq_ok h with ⟨hroom, rfl, -⟩ | ⟨wanted, hfull, hlt, -, rfl, -⟩
    · have hfree : l.capacity - l.length = (l.capacity - l.length - 1) + 1 := by
        have := hl.length_le
        omega
      exact ((hfree ▸ hlay).place a).elements_eq
    · have hfree : l.capacity - l.length + (wanted - l.capacity)
          = (wanted - l.capacity - 1) + 1 := by omega
      exact ((hfree ▸ hlay.grown wanted).place a).elements_eq
  | reserved h =>
    rcases reserve_eq_ok h with ⟨-, rfl, -⟩ | ⟨-, -, rfl, -⟩
    · exact (List.append_nil _).symm
    · exact (List.append_nil _).symm ▸ (hlay.grown _).elements_eq
  | @taken i hi =>
    rw [(hlay.without (hlay.length_eq ▸ hi)).elements_eq]
    exact (List.append_nil _).symm
  | cleared release => exact (hlay.clear release).elements_eq

/-- The cursor goes where an element is, or to the start. -/
theorem cursorAfterRemoval_lt {cursor i left : Nat} (h : 0 < left) :
    cursorAfterRemoval cursor i left < left := by
  unfold cursorAfterRemoval
  dsimp only
  split <;> split <;> omega

theorem cursorAfterRemoval_zero {cursor i : Nat} : cursorAfterRemoval cursor i 0 = 0 := by
  simp [cursorAfterRemoval]

/-- **Every change keeps a roll well-formed.** -/
theorem Change.wellFormed (h : Change l loss added l') (hl : l.WellFormed) : l'.WellFormed := by
  cases h with
  | moved i origin moves hi =>
    refine { hl with cursor_lt := fun hpos => ?_, cursor_eq_zero := fun hzero => ?_ }
    · have : 0 < l.length := hpos
      show i < l.length
      omega
    · have : l.length = 0 := hzero
      show i = 0
      omega
  | appended h =>
    rcases append_eq_ok h with ⟨hroom, rfl, -⟩ | ⟨wanted, hfull, hlt, hallowed, rfl, -⟩
    · exact hl.place (by have := hl.length_le; omega) _
    · -- the roll was full, so the new slots are what the element is placed in
      have hgrown := hl.grown hlt hallowed
      refine hgrown.place ?_ _
      have hlen := hgrown.layout.length_eq
      have hcap := (hl.layout.grown wanted).capacity_eq
      have hold := hl.layout.capacity_eq
      show l.length < (l.grown wanted).capacity
      omega
  | reserved h =>
    rcases reserve_eq_ok h with ⟨-, rfl, -⟩ | ⟨hlt, hallowed, rfl, -⟩
    · exact hl
    · exact hl.grown hlt hallowed
  | @taken i hi =>
    have hi' : i < l.elements.length := hl.layout.length_eq ▸ hi
    have hlay := hl.layout.without hi'
    refine hlay.wellFormed (hl.allowed.mono (Nat.le_of_eq (hl.capacity_without hi))) ?_
    · rw [List.length_eraseIdx_of_lt hi', ← hl.layout.length_eq]
      show cursorAfterRemoval l.cursor i (l.length - 1) < l.length - 1
        ∨ cursorAfterRemoval l.cursor i (l.length - 1) = 0
      rcases Nat.eq_zero_or_pos (l.length - 1) with hzero | hpos
      · right
        rw [hzero, cursorAfterRemoval_zero]
      · exact .inl (cursorAfterRemoval_lt hpos)
  | cleared release =>
    have hlay := hl.layout.clear release
    refine hlay.wellFormed (hl.allowed.mono ?_) (.inr rfl)
    have hcap := hlay.capacity_eq
    split at hcap
    · next hrel =>
      rw [hcap]
      simp only [List.length_nil]
      omega
    · rw [hcap]
      simp only [List.length_nil]
      omega

/-! ### What survives a change -/

/-- The elements of `l` are still in their slots in `l'`, and the generation went up exactly as
often as storage grew. -/
structure Retains (l l' : Roll α) : Prop where
  length_le : l.length ≤ l'.length
  capacity_le : l.capacity ≤ l'.capacity
  slot_eq : ∀ i, i < l.length → l'.slots[i]? = l.slots[i]?
  reallocations_le : l.reallocations ≤ l'.reallocations
  generation_eq : l'.generation + l.reallocations = l.generation + l'.reallocations
  /-- Storage that did not grow was not reallocated either. -/
  grew_iff : l.reallocations < l'.reallocations ↔ l.capacity < l'.capacity

namespace Retains

variable {l'' : Roll α}

theorem refl (l : Roll α) : l.Retains l :=
  ⟨Nat.le_refl _, Nat.le_refl _, fun _ _ => rfl, Nat.le_refl _, rfl, by simp⟩

theorem trans (h : l.Retains l') (h' : l'.Retains l'') : l.Retains l'' where
  length_le := Nat.le_trans h.length_le h'.length_le
  capacity_le := Nat.le_trans h.capacity_le h'.capacity_le
  slot_eq i hi := (h'.slot_eq i (Nat.lt_of_lt_of_le hi h.length_le)).trans (h.slot_eq i hi)
  reallocations_le := Nat.le_trans h.reallocations_le h'.reallocations_le
  generation_eq := by
    have := h.generation_eq
    have := h'.generation_eq
    omega
  grew_iff := by
    have := h.grew_iff
    have := h'.grew_iff
    have := h.reallocations_le
    have := h'.reallocations_le
    have := h.capacity_le
    have := h'.capacity_le
    omega

theorem grown {wanted : Nat} (hlen : l.length ≤ l.capacity) (hlt : l.capacity < wanted) :
    l.Retains (l.grown wanted) := by
  have hcap := capacity_grown hlt
  refine ⟨Nat.le_refl _, by omega, fun i hi => ?_, Nat.le_add_right .., ?_, ?_⟩
  · exact List.getElem?_append_left (Nat.lt_of_lt_of_le hi hlen)
  · show l.generation + 1 + l.reallocations = l.generation + (l.reallocations + 1)
    omega
  · rw [hcap]
    exact ⟨fun _ => hlt, fun _ => Nat.lt_succ_self _⟩

theorem place (a : α) : l.Retains (l.place a) := by
  have hcap := l.capacity_place a
  refine ⟨Nat.le_succ _, by omega, fun i hi => ?_, Nat.le_refl _, rfl, ?_⟩
  · exact List.getElem?_set_ne (by omega)
  · rw [hcap]
    exact ⟨fun h => absurd h (Nat.lt_irrefl _), fun h => absurd h (Nat.lt_irrefl _)⟩

end Retains

/-- What a change that loses something does to the counters and to the storage. -/
structure Sheds (l l' : Roll α) : Prop where
  capacity_le : l'.capacity ≤ l.capacity
  reallocations_eq : l'.reallocations = l.reallocations
  generation_eq : l'.generation = l.generation + 1

/-- **A change that loses something moves the generation on by one.** -/
theorem Change.sheds (h : Change l loss added l') (hl : l.WellFormed) (hloss : loss ≠ .nothing) :
    l.Sheds l' := by
  have hlay := hl.layout
  have hcap := hlay.capacity_eq
  cases h with
  | moved | appended | reserved => exact absurd rfl hloss
  | taken hi => exact ⟨Nat.le_of_eq (hl.capacity_without hi), rfl, rfl⟩
  | cleared release =>
    refine ⟨?_, rfl, rfl⟩
    rw [(hlay.clear release).capacity_eq, List.length_nil, Nat.zero_add]
    split <;> omega

/-- **A change that loses nothing retains all elements.** -/
theorem Change.retains (h : Change l .nothing added l') (hl : l.WellFormed) : l.Retains l' := by
  cases h with
  | moved i origin moves hi => exact { Retains.refl l with }
  | appended h =>
    rcases append_eq_ok h with ⟨-, rfl, -⟩ | ⟨wanted, -, hlt, -, rfl, -⟩
    · exact .place _
    · exact (Retains.grown hl.length_le hlt).trans (.place _)
  | reserved h =>
    rcases reserve_eq_ok h with ⟨-, rfl, -⟩ | ⟨hlt, -, rfl, -⟩
    · exact .refl _
    · exact .grown hl.length_le hlt

end Roll

end TextRoll
