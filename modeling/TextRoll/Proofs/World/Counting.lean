/-
TextRoll/Proofs/World/Counting.lean

What a tally makes of the growths that it is told of.

Whatever a tally is told by hand, it forgets no growth that it counted (`events_afterRecord`), and
its figures stay numbers if they were numbers (`Tally.Counts`).  The latter is enough for every
growth of storage to be counted: slots are so few that they can be added to any number, with a
point or without (`Counts.growth_counted`).

A tally of nothing that is told of nothing but growths of storage has all its figures right.
`Tally.Sums t gs` says that `t` has counted the growths `gs`: its figures are their number, the
slots they added together, and the most slots that one of them reached.  Telling it of one more
growth keeps this true (`Sums.growth_counted`).
-/
import Mathlib.Algebra.Ring.Int.Defs
import TextRoll.Tally

namespace TextRoll

/-! ### Numbers that are whole -/

namespace Binary64

/-- The exponent of a number with a point is at most that of the number it is nearest to. -/
theorem exponentFor_le (n d : Nat) :
    exponentFor n d ≤ max ((Nat.log2 n : Int) - Nat.log2 d - 52) leastExponent := by
  unfold exponentFor
  dsimp only
  split <;> omega

/-- Slots are so few that there is a number with a point near their number. -/
theorem ofInt_ne_infinite {n : Int} (h : n.natAbs < unaffordableSlots) (negative : Bool) :
    ofInt n ≠ infinite negative := by
  unfold ofInt nearest
  split
  · nofun
  · next hzero =>
    have hlog : Nat.log2 n.natAbs < 59 := (Nat.log2_lt hzero).mpr h
    have hexponent := exponentFor_le n.natAbs 1
    have hleast : leastExponent = -1074 := rfl
    have hgreatest : greatestExponent = 971 := rfl
    have hone : Nat.log2 1 = 0 := by decide
    rw [hone] at hexponent
    unfold ofParts
    dsimp only
    rw [if_neg (by split <;> omega)]
    nofun

end Binary64

namespace Number

/-- The number, if it is a whole one. -/
def toInt? : Number → Option Int
  | whole _ n => some n.toInt
  | real .. => none

@[simp] theorem toInt?_ofInt (n : Int) : (ofInt n).toInt? = some n := rfl

@[simp] theorem toInt?_markedAs (m : Mark) (n : Number) : (n.markedAs m).toInt? = n.toInt? := by
  cases n <;> rfl

theorem toInt?_larger {a b : Number} {m n : Int} (ha : a.toInt? = some m) (hb : b.toInt? = some n) :
    (a.larger b).toInt? = some (max m n) := by
  cases a with
  | real => cases ha
  | whole p x =>
    cases b with
    | real => cases hb
    | whole q y =>
      cases ha
      cases hb
      unfold larger
      show (if decide (x.toInt < y.toInt) = true then whole q y else whole p x).toInt? = _
      split
      · next hlt =>
        rw [Int.max_eq_right (Int.le_of_lt (of_decide_eq_true hlt))]
        rfl
      · next hge =>
        rw [Int.max_eq_left (Int.not_lt.mp fun hlt => hge (decide_eq_true hlt))]
        rfl

theorem plus?_whole {a : Number} {m n : Int} (ha : a.toInt? = some m) :
    a.plus? (ofInt n) = some (ofInt (m + n)) := by
  cases a with
  | real => cases ha
  | whole p x =>
    cases ha
    rfl

/-- So few slots are also a number with a point. -/
theorem toReal?_ofInt {n : Int} (h : n.natAbs < unaffordableSlots) :
    (ofInt n).toReal? = some (Binary64.ofInt n) := by
  unfold toReal? ofInt
  dsimp only
  rw [Whole.toInt_numeral]
  split
  · next negative hn => exact absurd hn (Binary64.ofInt_ne_infinite h negative)
  · rfl

/-- So few slots can be added to any number. -/
theorem exists_plus? (a : Number) {n : Int} (h : n.natAbs < unaffordableSlots) :
    ∃ sum, a.plus? (ofInt n) = some sum := by
  cases a with
  | whole p x => exact ⟨_, rfl⟩
  | real p x =>
    refine ⟨real .fresh (x.plus (Binary64.ofInt n)), ?_⟩
    show (do return real .fresh ((← (real p x).toReal?).plus (← (ofInt n).toReal?))) = _
    rw [toReal?_ofInt h]
    rfl

end Number

/-- The number that a figure is, if it is a whole one. -/
def Figure.toInt? : Figure → Option Int
  | number n => n.toInt?
  | other _ => none

@[simp] theorem Figure.toInt?_number (n : Number) : (number n).toInt? = n.toInt? := rfl

theorem Figure.toInt?_eq_some {f : Figure} {n : Int} (h : f.toInt? = some n) :
    ∃ x, f = number x ∧ x.toInt? = some n := by
  cases f with
  | number x => exact ⟨x, rfl, h⟩
  | other got => cases h

namespace Tally

variable {t : Tally} {place : TallyId} {before after : Value}

/-! ### Recording -/

/-- A growth is counted where everything can be added up. -/
theorem run_record_ok {m n added reallocations slots peak : Number}
    (hreallocations : t.reallocations.increased (.ofInt 1) = .ok reallocations)
    (hnumbers : numbersOf before after = .ok (m, n))
    (hadded : Fault.ofSum (n.minus? m) = .ok added)
    (hslots : t.slotsAllocated.increased added = .ok slots)
    (hpeak : t.peakCapacity.raised (n.markedAs (.figure place (t.told + 1) "after")) = .ok peak) :
    let mark := Mark.figure place (t.told + 1)
    (record place before after).run t = .ok ()
      { reallocations := .number (reallocations.markedAs (mark "reallocations"))
        slotsAllocated := .number (slots.markedAs (mark "slots"))
        peakCapacity := .number peak
        events := t.events ++ [(m.markedAs (mark "before"), n.markedAs (mark "after"))]
        told := t.told + 1 } := by
  intro mark
  unfold record
  simp only [EStateM.run_bind, EStateM.run_modify, EStateM.run_get]
  simp [hreallocations, hnumbers, hadded, hslots, hpeak, MonadExcept.ofExcept, mark]

/-- However an act on tallies ends, what was true of the tally before it is true after it. -/
def Keeps {α : Type} (P : Tally → Prop) (act : EStateM Fault Tally α) : Prop :=
  ∀ t : Tally, P t → match act.run t with
    | .ok _ t' => P t'
    | .error _ t' => P t'

namespace Keeps

variable {α β : Type} {P : Tally → Prop}

theorem bind {act : EStateM Fault Tally α} {f : α → EStateM Fault Tally β} (h : Keeps P act)
    (hf : ∀ a, Keeps P (f a)) : Keeps P (act >>= f) := by
  intro t ht
  have hact := h t ht
  rw [EStateM.run_bind]
  cases hrun : act.run t with
  | error fault t' =>
    rw [hrun] at hact
    exact hact
  | ok a t' =>
    rw [hrun] at hact
    exact hf a t' hact

theorem get_bind {f : Tally → EStateM Fault Tally α} (hf : ∀ t, Keeps P (f t)) :
    Keeps P (get >>= f) := fun t => hf t t

theorem modify {f : Tally → Tally} (h : ∀ t : Tally, P t → P (f t)) :
    Keeps P (modify f : EStateM Fault Tally Unit) := h

theorem ofExcept (outcome : Except Fault α) :
    Keeps P (MonadExcept.ofExcept outcome : EStateM Fault Tally α) := by
  intro t ht
  cases outcome <;> exact ht

/-- Recording has four steps that change the tally, and may end after each of them. -/
theorem record (htold : ∀ t n, P t → P { t with told := n })
    (hreallocations : ∀ t n, P t → P { t with reallocations := .number n })
    (hslots : ∀ t n, P t → P { t with slotsAllocated := .number n })
    (hend : ∀ t n growth, P t →
      P { t with peakCapacity := .number n, events := t.events ++ [growth] })
    (place : TallyId) (before after : Value) : Keeps P (record place before after) := by
  refine .bind (.modify fun t => htold t _) fun _ => .get_bind fun t => ?_
  refine .bind (.ofExcept _) fun reallocations => ?_
  refine .bind (.modify fun t => hreallocations t _) fun _ => ?_
  refine .bind (.ofExcept _) fun numbers => .bind (.ofExcept _) fun added => ?_
  refine .bind (.ofExcept _) fun slots => ?_
  refine .bind (.modify fun t => hslots t _) fun _ => ?_
  exact .bind (.ofExcept _) fun peak => .modify fun t => hend t _ _

/-- What recording keeps is kept by whatever the tally is told. -/
theorem afterRecord (h : Keeps P (Tally.record place before after)) (ht : P t) :
    P (t.afterRecord place before after) := by
  have hkept := h t ht
  unfold Tally.afterRecord
  cases hrun : (Tally.record place before after).run t with
  | ok u t' =>
    rw [hrun] at hkept
    exact hkept
  | error fault t' =>
    rw [hrun] at hkept
    exact hkept

end Keeps

/-- All figures are numbers. -/
structure Counts (t : Tally) : Prop where
  reallocations : ∃ n, t.reallocations = .number n
  slotsAllocated : ∃ n, t.slotsAllocated = .number n
  peakCapacity : ∃ n, t.peakCapacity = .number n

theorem counts_zero : zero.Counts := ⟨⟨_, rfl⟩, ⟨_, rfl⟩, ⟨_, rfl⟩⟩

/-- **Figures that are numbers stay numbers,** whatever a tally is told. -/
theorem Counts.afterRecord (h : t.Counts) (place : TallyId) (before after : Value) :
    (t.afterRecord place before after).Counts := by
  refine (Keeps.record ?_ ?_ ?_ ?_ place before after).afterRecord h
  · exact fun _ _ h => ⟨h.1, h.2, h.3⟩
  · exact fun _ _ h => ⟨⟨_, rfl⟩, h.2, h.3⟩
  · exact fun _ _ h => ⟨h.1, ⟨_, rfl⟩, h.3⟩
  · exact fun _ _ _ h => ⟨h.1, h.2, ⟨_, rfl⟩⟩

/-- **Nothing that was counted is forgotten,** whatever a tally is told. -/
theorem events_afterRecord (t : Tally) (place : TallyId) (before after : Value) :
    t.events <+: (t.afterRecord place before after).events := by
  have hkeeps := Keeps.record (P := fun t' => t.events <+: t'.events) (fun _ _ h => h)
    (fun _ _ h => h) (fun _ _ h => h)
    (fun _ _ _ h => h.trans (List.prefix_append _ _)) place before after
  exact hkeeps.afterRecord List.prefix_rfl

/-! ### Growths of storage -/

/-- Slots are numbers that can be told of. -/
theorem numbersOf_growth (slots : Nat) (wanted : Whole) (mark : Mark) :
    ∃ n, numbersOf (.ofInt slots) (wanted.valueAs mark) = .ok (.ofInt slots, n) ∧
      n.toInt? = some wanted.toInt ∧
      n.minus? (.ofInt slots) = some (.ofInt (wanted.toInt - slots)) := by
  cases wanted <;> exact ⟨_, rfl, rfl, rfl⟩

/-- **A tally counts every growth of storage,** if its figures are numbers. -/
theorem Counts.growth_counted (h : t.Counts) {slots : Nat} {wanted : Whole} (mark : Mark)
    (hlt : slots < wanted.toNat) (hfits : wanted.toNat < unaffordableSlots) :
    ∃ m n : Number, (t.afterRecord place (.ofInt slots) (wanted.valueAs mark)).events
        = t.events ++ [(m, n)] ∧
      m.toInt? = some (slots : Int) ∧ n.toInt? = some (wanted.toNat : Int) := by
  have hwanted : (wanted.toNat : Int) = wanted.toInt := by
    unfold Whole.toNat at hlt ⊢
    omega
  obtain ⟨n, hnumbers, hn, hminus⟩ := numbersOf_growth slots wanted mark
  obtain ⟨a, ha⟩ := h.reallocations
  obtain ⟨b, hb⟩ := h.slotsAllocated
  obtain ⟨c, hc⟩ := h.peakCapacity
  obtain ⟨more, hmore⟩ := a.exists_plus? (by decide : (1 : Int).natAbs < unaffordableSlots)
  obtain ⟨sum, hsum⟩ := b.exists_plus?
    (by omega : (wanted.toInt - slots).natAbs < unaffordableSlots)
  have hrun := @run_record_ok t place _ _ _ _ _ more sum _
    (by rw [ha]; exact congrArg Fault.ofSum hmore) hnumbers (congrArg Fault.ofSum hminus)
    (by rw [hb]; exact congrArg Fault.ofSum hsum) (by rw [hc]; rfl)
  unfold Tally.afterRecord
  rw [hrun]
  refine ⟨_, _, rfl, ?_, ?_⟩
  · rw [Number.toInt?_markedAs, Number.toInt?_ofInt]
  · rw [Number.toInt?_markedAs, hn, hwanted]

/-- The tally has counted some growths, and nothing else. -/
structure Sums (t : Tally) (gs : List (Nat × Nat)) : Prop where
  events_eq : t.events.map (fun e => (e.1.toInt?, e.2.toInt?))
    = gs.map fun g => (some (g.1 : Int), some (g.2 : Int))
  reallocations_eq : t.reallocations.toInt? = some (gs.length : Int)
  slots_eq : t.slotsAllocated.toInt? = some (gs.map fun g => (g.2 : Int) - g.1).sum
  peak_eq : t.peakCapacity.toInt? = some ((gs.map (·.2)).foldl max 0 : Nat)

theorem sums_zero : zero.Sums [] := ⟨rfl, rfl, rfl, rfl⟩

/-- **A tally that is right stays right** when it is told of one more growth of storage. -/
theorem Sums.growth_counted {gs : List (Nat × Nat)} (h : t.Sums gs) {slots : Nat} {wanted : Whole}
    (mark : Mark) (hlt : slots < wanted.toNat) :
    (t.afterRecord place (.ofInt slots) (wanted.valueAs mark)).Sums
      (gs ++ [(slots, wanted.toNat)]) := by
  have hwanted : (wanted.toNat : Int) = wanted.toInt := by
    unfold Whole.toNat at hlt ⊢
    omega
  obtain ⟨n, hnumbers, hn, hminus⟩ := numbersOf_growth slots wanted mark
  obtain ⟨a, ha, hawhole⟩ := Figure.toInt?_eq_some h.reallocations_eq
  obtain ⟨b, hb, hbwhole⟩ := Figure.toInt?_eq_some h.slots_eq
  obtain ⟨c, hc, hcwhole⟩ := Figure.toInt?_eq_some h.peak_eq
  have hrun := @run_record_ok t place _ _ _ _ _ _ _ _
    (by rw [ha]; exact congrArg Fault.ofSum (Number.plus?_whole hawhole)) hnumbers
    (congrArg Fault.ofSum hminus)
    (by rw [hb]; exact congrArg Fault.ofSum (Number.plus?_whole hbwhole)) (by rw [hc]; rfl)
  unfold Tally.afterRecord
  rw [hrun]
  constructor
  · simp [h.events_eq, hn, hwanted]
  · simp
  · simp [hwanted]
  · have hpeak := Number.toInt?_larger hcwhole
      (((Number.toInt?_markedAs (.figure place (t.told + 1) "after") n).trans hn).trans
        (congrArg some hwanted.symm))
    have hmost : ((gs ++ [(slots, wanted.toNat)]).map (·.2)).foldl max 0
        = max ((gs.map (·.2)).foldl max 0) wanted.toNat := by
      simp [List.foldl_append]
    rw [hmost]
    exact hpeak.trans (congrArg some (by omega))

end Tally

end TextRoll
