/-
TextRoll/Proofs/World/Refusing.lean

Refused storage, in the log and in words.

A refusal is logged before it is put into words, so the record is left whether or not the words can
be found: it is there exactly if storage is what failed (`Fault.IsLogged`).  This holds of all that
a policy refuses (`isLogged_of_grant`), and trivially of faults that have nothing to do with
storage.

What is told is another matter.  The slots that were asked for are written out there, and so is the
limit, which is a shorter number than one that exceeds it; so a refusal is told as it is just if the
slots that were asked for can be written out (`fault_refusal_pastLimit`).
-/
import TextRoll.Proofs.Roll.Change
import TextRoll.Shown

namespace TextRoll

namespace Fault

/-- Whether the fault is that storage could not grow. -/
def isAllocation : Fault → Bool
  | allocation .. => true
  | _ => false

/-- A record is left exactly if storage is what failed. -/
def IsLogged (fault : Fault) : Prop := fault.notice?.isSome = fault.isAllocation

variable {fault : Fault}

/-- What a fault is told as, if not as itself. -/
theorem fault_refusal (fault : Fault) (w : World) :
    (w.refusal fault).fault
      = if fault.mentioned.all w.isWritable then fault else .tooManyDigits := rfl

/-- What decides whether all that the wording mentions can be written out decides what is told. -/
theorem fault_refusal_of_mentioned {w : World} {writable : Bool}
    (h : fault.mentioned.all w.isWritable = writable) :
    (w.refusal fault).fault = if writable then fault else .tooManyDigits := by
  rw [fault_refusal, h]

/-- Other faults are not logged. -/
theorem isLogged_of_other (h : fault.isAllocation = false) : fault.IsLogged := by
  cases fault <;> first | rfl | cases h

/-- A record of refused storage is a warning. -/
theorem level_of_notice? {n : Notice} (h : fault.notice? = some n) : n.level = .warning := by
  unfold notice? at h
  split at h
  · split at h <;> cases h <;> rfl
  · cases h

end Fault

namespace Whole

/-- What is below a number that can be written out can be written out. -/
theorem isWritable_of_le {m n : Int} (hm : 0 ≤ m) (hle : m ≤ n) (hn : isWritable n = true) :
    isWritable m = true := by
  unfold isWritable at hn ⊢
  rw [decide_eq_true_eq] at hn ⊢
  omega

end Whole

/-- A truth value can always be written out, and so can the number it stands for. -/
theorem World.isWritable_value (w : World) (n : Whole) :
    w.isWritable n.value = Whole.isWritable n.toInt := by
  cases n with
  | numeral n => rfl
  | truth b =>
    show true = Whole.isWritable (Whole.truth b).toInt
    cases b <;> decide +kernel

/-- A number and its companion can be written out if the number can, provided that this decides
about the companion as well. -/
theorem World.all_isWritable_value {w : World} {n : Whole} {v : Value}
    (hv : Whole.isWritable n.toInt = true → w.isWritable v = true) :
    [n.value, v].all w.isWritable = Whole.isWritable n.toInt := by
  rw [List.all_cons, List.all_cons, List.all_nil, w.isWritable_value, Bool.and_true]
  cases hn : Whole.isWritable n.toInt with
  | false => rfl
  | true => exact hv hn

namespace Fault

variable {wanted : Whole}

/-- A limit is a shorter number than one that is past it. -/
theorem isWritable_limit {most : Nat} (hlt : (most : Int) < wanted.toInt) (w : World)
    (hwanted : Whole.isWritable wanted.toInt = true) : w.isWritable (.ofInt most) = true :=
  Whole.isWritable_of_le (Int.natCast_nonneg most) (Int.le_of_lt hlt) hwanted

/-- What is told of a request for more slots than a limit allows: both numbers, if they can be
written out. -/
def pastLimit (wanted : Whole) (most : Nat) : Fault :=
  if Whole.isWritable wanted.toInt then allocation wanted.value (.ofInt most) false
  else tooManyDigits

theorem fault_refusal_pastLimit {most : Nat} (hlt : (most : Int) < wanted.toInt) (w : World) :
    (w.refusal (allocation wanted.value (.ofInt most) false)).fault = pastLimit wanted most :=
  fault_refusal_of_mentioned (World.all_isWritable_value (isWritable_limit hlt w))

/-! ### What policies refuse -/

/-- **What a policy refuses for want of storage is logged.** -/
theorem isLogged_of_grant {p : Policy} {slots : Nat} (h : p.grant slots wanted = .error fault) :
    fault.IsLogged := by
  unfold Policy.grant at h
  split at h
  · cases h
    cases wanted <;> rfl
  · split at h
    · cases h
      rfl
    · split at h <;> cases h
      cases wanted <;> rfl

/-- So is a number of slots with a point that is past the limit. -/
theorem isLogged_refusedReal (p : Policy) (x : Binary64) : (p.refusedReal x).IsLogged := by
  unfold Policy.refusedReal
  split <;> rfl

end Fault

end TextRoll
