/-
TextRoll/Script.lean

Scripts: steps that make requests and keep answers in registers.

A step either makes one request or opens a block: a list of steps that run with
something in place around them.  A block under a policy restores the policy that
was in force before; a profiled block restores the tally; a separate block starts
from the initial surroundings and leaves those of its opener as they were; an
editing block lends out the current element of a guarded roll.

Data that is written out carries the place where it is written, which no other data
in the script has: two things that a script writes out are two, though they may be
equal.  Only a number that has a word of its own is the same wherever it is written.
-/
import TextRoll.Number.Binary64
import TextRoll.Verb

namespace TextRoll

/-- What a script writes where a value is needed: plain data, or the name of a register. -/
inductive Operand
  | null
  | bool (b : Bool)
  | int (place : Nat) (n : Int)
  | real (place : Nat) (x : Binary64)
  /-- A number with a point that is written as a word. -/
  | constant (x : Binary64)
  | text (place : Nat) (s : String)
  /-- Octets, by numbers of any size. -/
  | bytes (place : Nat) (numbers : List Int)
  | list (place : Nat) (items : List Operand)
  | record (place : Nat) (entries : List (String × Operand))
  | register (name : String)

instance : Inhabited Operand := ⟨.null⟩

/-- One request. -/
inductive Call
  /-- Asks what a register holds. -/
  | ask (target : String) (verb : Verb) (args : List Operand)
  /-- Asks the library itself. -/
  | serve (service : Service) (args : List Operand)
  /-- Asks whether two operands stand for one and the same thing. -/
  | identify (x y : Operand)
  /-- Makes a policy from fields, passing over unknown names or not. -/
  | configure (lenient : Bool) (fields : List (String × Operand))

/-- What is in place around the steps of a block. -/
inductive Scope
  /-- A policy for new rolls. -/
  | policy (p : Operand)
  /-- A new tally for growth. -/
  | profiled
  /-- The initial surroundings. -/
  | separate
  /-- The current element of a guarded roll. -/
  | editing (target : String)

/-- A step of a script; `keep` names the register for the outcome. -/
inductive Step
  | call (c : Call) (keep : Option String)
  | block (scope : Scope) (keep : Option String) (propagate : Bool) (body : List Step)

end TextRoll
