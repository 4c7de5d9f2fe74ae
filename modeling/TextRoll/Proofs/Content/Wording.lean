/-
TextRoll/Proofs/Content/Wording.lean

What the words for a fault depend on.

A fault is put into words in some world, since it may mention values of that world.  Two
worlds that have the same words for what a fault mentions have the same words for the fault
(`refusal_congr`).  A fault is plain (`Fault.IsPlain`) if it is put into the same words in
every world and has nothing to do with storage; faults that mention nothing are, and so are
those that mention only words and numbers of their own.
-/
import TextRoll.Request.General
import TextRoll.Shown

namespace TextRoll

namespace Fault

/-- Whether the fault is that storage was refused: more slots than the policy or the memory allows,
or more than can be counted, or a number that counts none. -/
def isStorage : Fault → Bool
  | allocation .. | sizeOverflow | slotsExpected _ => true
  | _ => false

/-- The fault has nothing to do with storage, and it is put into the same words in every world. -/
structure IsPlain (fault : Fault) : Prop where
  isStorage_eq : fault.isStorage = false
  refusal_eq : ∀ w w' : World, w.refusal fault = w'.refusal fault

/-- The words for a fault depend on what it mentions. -/
theorem message_congr {fault : Fault} {f g : Value → String}
    (h : ∀ v ∈ fault.mentioned, f v = g v) : fault.message f = fault.message g := by
  cases fault with
  | general text =>
    cases text with
    | none => rfl
    | some v => exact h v (List.mem_singleton_self v)
  | emptyRoll operation =>
    show f operation ++ "() on an empty StringList" = _
    rw [h operation (List.mem_singleton_self _)]
    rfl
  | outOfRange index length =>
    show "index " ++ f index ++ " out of range for StringList of length " ++ f length = _
    rw [h index List.mem_cons_self, h length (List.mem_cons_of_mem _ (List.mem_singleton_self _))]
    rfl
  | staleBookmark created current =>
    show "reference from generation " ++ f created ++ " used at generation " ++ f current = _
    rw [h created List.mem_cons_self,
      h current (List.mem_cons_of_mem _ (List.mem_singleton_self _))]
    rfl
  | negativeCapacity capacity =>
    show "capacity must be >= 0, got " ++ f capacity = _
    rw [h capacity (List.mem_singleton_self _)]
    rfl
  | allocation requested limit error =>
    have hrequested := h requested List.mem_cons_self
    have hlimit := h limit (List.mem_cons_of_mem _ (List.mem_singleton_self _))
    cases limit with
    | null => exact congrArg (fun x => "cannot allocate " ++ x ++ " slots") hrequested
    | _ =>
      show "cannot grow to " ++ f requested ++ " slots (max_capacity=" ++ f _ ++ ")" = _
      rw [hrequested, hlimit]
      rfl
  | _ => rfl

/-- The facts that a fault carries are values that it mentions. -/
theorem facts_subset (fault : Fault) : fault.facts ⊆ fault.mentioned := by
  cases fault <;> first | exact List.Subset.refl _ | exact List.nil_subset _

/-- A fault is put into the same words in two worlds that have the same words for what it
mentions. -/
theorem refusal_congr {fault : Fault} {w w' : World}
    (hwritable : ∀ v ∈ fault.mentioned, w.isWritable v = w'.isWritable v)
    (hwritten : ∀ v ∈ fault.mentioned, w.written v = w'.written v)
    (hshown : ∀ v ∈ fault.mentioned, w.shown v = w'.shown v) :
    w.refusal fault = w'.refusal fault := by
  have hall : fault.mentioned.all w.isWritable = fault.mentioned.all w'.isWritable := by
    rw [Bool.eq_iff_iff, List.all_eq_true, List.all_eq_true]
    exact forall₂_congr fun v hv => by rw [hwritable v hv]
  have hfacts : fault.facts.map w.shown = fault.facts.map w'.shown :=
    List.map_congr_left fun v hv => hshown v (fault.facts_subset hv)
  unfold World.refusal
  rw [hall]
  dsimp only
  split
  · rw [message_congr hwritten, hfacts]
  · have hnone : ∀ v ∈ Fault.tooManyDigits.mentioned, w.written v = w'.written v := nofun
    rw [message_congr hnone]
    rfl

/-- A fault that mentions nothing and is not about storage is plain. -/
theorem isPlain_of_mentioned {fault : Fault} (hstorage : fault.isStorage = false)
    (hmentioned : fault.mentioned = []) : fault.IsPlain := by
  refine ⟨hstorage, fun w w' => refusal_congr ?_ ?_ ?_⟩ <;>
    exact fun v hv => absurd (hmentioned ▸ hv) List.not_mem_nil

/-! ### Faults that are plain -/

/-- The name of an operation is the same word everywhere. -/
theorem isPlain_emptyRoll (operation : String) :
    (Fault.emptyRoll (.ofText operation)).IsPlain := by
  refine ⟨rfl, fun w w' => refusal_congr ?_ ?_ ?_⟩ <;>
    · intro v hv
      obtain rfl := List.mem_singleton.mp hv
      rfl

/-- So are whole numbers. -/
theorem isPlain_outOfRange (i : Whole) (n : Nat) :
    (Fault.outOfRange i.value (.ofInt n)).IsPlain := by
  refine ⟨rfl, fun w w' => refusal_congr ?_ ?_ ?_⟩ <;>
    · intro v hv
      replace hv : v ∈ [i.value, Value.ofInt n] := hv
      rcases List.mem_cons.mp hv with rfl | hv
      · cases i <;> rfl
      · obtain rfl := List.mem_singleton.mp hv
        rfl

/-- And so are numbers with a point. -/
theorem isPlain_noIndex (length : Nat) (x : Binary64) : (Fault.noIndex length x).IsPlain := by
  unfold noIndex
  dsimp only
  split
  · exact isPlain_of_mentioned rfl rfl
  · refine ⟨rfl, fun w w' => refusal_congr ?_ ?_ ?_⟩ <;>
      · intro v hv
        rcases List.mem_cons.mp hv with rfl | hv
        · rfl
        · obtain rfl := List.mem_singleton.mp hv
          rfl

end Fault

end TextRoll
