/-
TextRoll/Proofs/Session/Registers.lean

What is in the registers.

A session sets a register only where it keeps something under its name: the answer of a call, or
what a block hands out.  All other registers hold what they held.
-/
import TextRoll.Proofs.Session.Events

namespace TextRoll

namespace Session

variable {s inside : Session} {keep : Option String} {name : String}

/-- A filter on names that lets a name through does not change what is found under it. -/
theorem lookup_filter {p : String → Bool} (hname : p name = true)
    (entries : List (String × Value)) :
    (entries.filter (p ·.1)).lookup name = entries.lookup name := by
  induction entries with
  | nil => rfl
  | cons entry rest ih =>
    obtain ⟨key, x⟩ := entry
    by_cases hkey : name = key
    · subst hkey
      rw [List.filter_cons, if_pos hname, List.lookup_cons, List.lookup_cons, ih]
    · rw [List.filter_cons, List.lookup_cons, beq_false_of_ne hkey]
      split
      · rw [List.lookup_cons, beq_false_of_ne hkey]
        exact ih
      · exact ih

/-- What a register holds is in the list of them all. -/
theorem mem_registers {v : Value} (h : s.register name = .ok v) : (name, v) ∈ s.registers := by
  unfold register at h
  split at h
  · next u hlookup =>
    cases h
    obtain ⟨before, after, hregisters, -⟩ := List.lookup_eq_some_iff.mp hlookup
    rw [hregisters]
    exact List.mem_append_right before List.mem_cons_self
  · cases h

/-- Keeping something in one register leaves the others. -/
theorem register_keep_of_ne (hne : keep ≠ some name) (s : Session) (v : Value) :
    (s.keep keep v).register name = s.register name := by
  cases keep with
  | none => rfl
  | some other =>
    have hother : ¬name = other := fun h => hne (congrArg some h.symm)
    unfold Session.keep register
    dsimp only
    have hlookup : (s.registers.filter (·.1 != other)).lookup name = s.registers.lookup name :=
      lookup_filter (p := (· != other)) (by simpa using hother) s.registers
    rw [List.lookup_cons, beq_false_of_ne hother, hlookup]

theorem register_run_call_of_ne (hne : keep ≠ some name) (c : Call) (s : Session) :
    (c.run keep s).2.register name = s.register name := by
  cases hrun : (c.perform s).run s.world with
  | error fault w =>
    rw [run_call_error hrun]
    rfl
  | ok result w =>
    rw [run_call_ok hrun]
    cases keep with
    | none => rfl
    | some other => exact register_keep_of_ne hne _ _

theorem register_enter_of_ne (hne : keep ≠ some name) {scope : Scope}
    (h : s.enter scope keep = .ok inside) : inside.register name = s.register name := by
  replace h := enter_eq_ok h
  cases scope with
  | policy p =>
    obtain ⟨v, -, rfl⟩ := h
    rfl
  | profiled =>
    obtain rfl : inside = _ := h
    exact register_keep_of_ne hne _ _
  | separate =>
    obtain rfl : inside = _ := h
    rfl
  | editing target =>
    obtain ⟨mark, r, b, w, -, -, rfl⟩ := h
    exact register_keep_of_ne hne _ _

@[simp] theorem registers_leave (s : Session) (scope : Scope) (before : Ambient) :
    (s.leave scope before).registers = s.registers := by
  cases scope <;> rfl

@[simp] theorem register_leave (s : Session) (scope : Scope) (before : Ambient) (name : String) :
    (s.leave scope before).register name = s.register name := by
  unfold register
  rw [registers_leave]

/-- As many operands as there are, so many values they stand for. -/
theorem length_resolveItems {items : List Operand} {vs : List Value}
    (h : s.resolveItems items = .ok vs) : vs.length = items.length := by
  induction items generalizing vs with
  | nil =>
    cases h
    rfl
  | cons x rest ih =>
    unfold resolveItems at h
    cases hx : s.resolve x with
    | error fault => rw [hx] at h; cases h
    | ok v =>
      cases hrest : s.resolveItems rest with
      | error fault => rw [hx, hrest] at h; cases h
      | ok us =>
        rw [hx, hrest] at h
        cases h
        exact congrArg (· + 1) (ih hrest)

end Session

end TextRoll
