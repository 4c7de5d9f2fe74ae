/-
TextRoll/Proofs/Policy/Fields.lean

Policies are made from exactly the fields that may stand in them.

Both ways in, with or without a word about unknown names, come down to one value for each field,
a standard one where none is given (`ofGiven_eq`).  So where unknown names are passed over, neither
they nor the order of names can make a difference (`ofKnownFields?_of_perm`,
`Session.run_configure`).  There are two outcomes: a policy that tells the very values, or a fault
about the first field that does not admit its value (`Outcome`, `outcome_ofGiven`).

A policy tells only what its fields admit, so its fields make a policy again; no comparison can tell
the two apart (`equal_congr`).

Names are texts, as in every record that a script writes.  A number below its least value is
told of with the number, provided that it can be written out; else only that is told
(`Fault.belowLeast`).
-/
import Mathlib.Algebra.Ring.Int.Defs
import TextRoll.Proofs.Content.Recognizing
import TextRoll.Proofs.Session.Askings
import TextRoll.Proofs.Session.Registers

namespace TextRoll

/-- Whether a value is a count of at least `least`: a whole number, which no truth value is. -/
def Value.IsCount (least : Nat) (v : Value) : Prop := ∃ mark n, v = .int mark n ∧ (least : Int) ≤ n

/-- What is told of a number that is less than a field may be: both numbers, if it can be written
out. -/
def Fault.belowLeast (field : String) (least : Nat) (n : Int) : Fault :=
  if Whole.isWritable n then countTooSmall field least n else tooManyDigits

theorem Fault.fault_refusal_countTooSmall (field : String) (least : Nat) (n : Int) (w : World) :
    (w.refusal (countTooSmall field least n)).fault = belowLeast field least n :=
  fault_refusal_of_mentioned (Bool.and_true _)

/-- What is told of a value that is wrong for a field that is to be a count: its kind, or else its
size. -/
inductive Value.NoCount (field : String) (least : Nat) : Value → Fault → Prop
  | kind {v : Value} (h : v.kind ≠ .int) : NoCount field least v (.countExpected field v.kind)
  | size {mark : Mark} {n : Int} (h : n < least) :
    NoCount field least (.int mark n) (.belowLeast field least n)

theorem Value.NoCount.not_isCount {field : String} {least : Nat} {v : Value} {fault : Fault}
    (h : v.NoCount field least fault) : ¬v.IsCount least := by
  rintro ⟨mark, n, rfl, hleast⟩
  rcases h with hkind | hsize
  · exact hkind rfl
  · omega

namespace Policy

/-- A field of a policy. -/
inductive Field
  | defaultCapacity
  | growthFactor
  | maxCapacity
  | releaseOnClear
deriving DecidableEq, Repr

namespace Field

/-- All fields, in the order in which they are checked. -/
def all : List Field := [.defaultCapacity, .growthFactor, .maxCapacity, .releaseOnClear]

/-- The name that a value for the field is given under. -/
def name : Field → String
  | defaultCapacity => "default_capacity"
  | growthFactor => "growth_factor"
  | maxCapacity => "max_capacity"
  | releaseOnClear => "release_on_clear"

/-- The verb that asks a policy for the field. -/
def verb : Field → Verb
  | defaultCapacity => .defaultCapacity
  | growthFactor => .growthFactor
  | maxCapacity => .maxCapacity
  | releaseOnClear => .releaseOnClear

/-- The least count that the field may be. -/
def least : Field → Nat
  | growthFactor => 2
  | _ => 0

/-- What the field may be: a count, and for the limit nothing as well; the choice about clearing may
be anything. -/
def Admits : Field → Value → Prop
  | releaseOnClear, _ => True
  | maxCapacity, v => v = .null ∨ v.IsCount (least .maxCapacity)
  | f, v => v.IsCount f.least

theorem name_mem (f : Field) : f.name ∈ fieldNames := by
  cases f <;> decide

end Field

/-- What a policy tells of a field. -/
def told (p : Policy) : Field → Value
  | .defaultCapacity => .int p.marks.defaultCapacity p.defaultCapacity
  | .growthFactor => .int p.marks.growthFactor p.growthFactor
  | .maxCapacity =>
    match p.maxCapacity with
    | some limit => .int p.marks.maxCapacity limit
    | none => .null
  | .releaseOnClear => p.releaseOnClear

/-- All fields, with a value for each. -/
def fieldsOf (value : Field → Value) : List (String × Value) :=
  Field.all.map fun f => (f.name, value f)

/-- The fields of a policy, each with what the policy tells of it. -/
def entries (p : Policy) : List (String × Value) := fieldsOf p.told

/-- A policy that is asked for a field tells it. -/
theorem ask_field (p : Policy) (f : Field) :
    Act.ask (.policy p) f.verb [] = pure (.value (p.told f)) := by
  cases f <;> rfl

/-! ### Values for the fields -/

/-- No name is given twice. -/
def Distinct (fields : List (String × Value)) : Prop := (fields.map Prod.fst).Nodup

instance (fields : List (String × Value)) : Decidable (Distinct fields) :=
  inferInstanceAs (Decidable (List.Nodup _))

/-- The value for a field: the one that is given, or else the standard one. -/
def valueFor (fields : List (String × Value)) (f : Field) : Value :=
  (fields.lookup f.name).getD (standard.told f)

section Given

variable {fields fields' : List (String × Value)} {name : String} {v : Value}

theorem Distinct.filter (h : Distinct fields) (p : String × Value → Bool) :
    Distinct (fields.filter p) :=
  List.Nodup.sublist (List.filter_sublist.map Prod.fst) h

/-- Where no name is given twice, the last value under a name is the first one as well. -/
theorem given?_eq_lookup (h : Distinct fields) (name : String) :
    given? fields name = fields.lookup name := by
  unfold given?
  induction fields with
  | nil => rfl
  | cons entry rest ih =>
    obtain ⟨key, u⟩ := entry
    obtain ⟨hkey, hrest⟩ := List.nodup_cons.mp h
    rw [List.reverse_cons, List.find?_append, List.lookup_cons]
    by_cases hname : name = key
    · subst hname
      have hnone : rest.reverse.find? (·.1 == name) = none := by
        rw [List.find?_eq_none]
        intro entry hmem hsame
        exact hkey (List.mem_map.mpr ⟨entry, List.mem_reverse.mp hmem, eq_of_beq hsame⟩)
      rw [hnone]
      simp
    · rw [beq_false_of_ne hname, ← ih hrest]
      have hnone : [(key, u)].find? (·.1 == name) = none := by simp [Ne.symm hname]
      rw [hnone, Option.or_none]

/-- What is given under the known names does not depend on what else is given, nor on the order. -/
theorem lookup_eq_of_perm (h : Distinct fields)
    (hperm : (fields.filter (·.1 ∈ fieldNames)).Perm (fields'.filter (·.1 ∈ fieldNames)))
    (f : Field) :
    (fields.filter (·.1 ∈ fieldNames)).lookup f.name
      = (fields'.filter (·.1 ∈ fieldNames)).lookup f.name := by
  have hknown := h.filter (·.1 ∈ fieldNames)
  have hknown' : Distinct (fields'.filter (·.1 ∈ fieldNames)) :=
    (hperm.map Prod.fst).nodup_iff.mp hknown
  ext v
  rw [lookup_eq_some hknown, lookup_eq_some hknown', hperm.mem_iff]

end Given

/-! ### Making a policy -/

section Making

variable {fields fields' : List (String × Value)} {value : Field → Value}

/-- A policy is made from what is given for the fields, and from nothing else. -/
theorem ofGiven_congr (h : ∀ f : Field, (given? fields f.name).getD (standard.told f)
    = (given? fields' f.name).getD (standard.told f)) : ofGiven fields = ofGiven fields' := by
  have hcapacity : (given? fields "default_capacity").getD (.ofInt standard.defaultCapacity)
      = (given? fields' "default_capacity").getD (.ofInt standard.defaultCapacity) :=
    h .defaultCapacity
  have hfactor : (given? fields "growth_factor").getD (.ofInt standard.growthFactor)
      = (given? fields' "growth_factor").getD (.ofInt standard.growthFactor) := h .growthFactor
  have hlimit : (given? fields "max_capacity").getD .null
      = (given? fields' "max_capacity").getD .null := h .maxCapacity
  have hrelease : (given? fields "release_on_clear").getD standard.releaseOnClear
      = (given? fields' "release_on_clear").getD standard.releaseOnClear := h .releaseOnClear
  unfold ofGiven
  dsimp only
  rw [hcapacity, hfactor, hlimit, hrelease]

/-- So it might as well be made from one value for each field. -/
theorem ofGiven_eq (h : Distinct fields) :
    ofGiven fields = ofGiven (fieldsOf (valueFor fields)) := by
  refine ofGiven_congr fun f => ?_
  rw [given?_eq_lookup h]
  cases f <;> rfl

/-- A value is a count, or it is told why it is none. -/
theorem count?_cases (w : World) (field : String) (least : Nat) (v : Value) :
    (∃ n, count? field least v = .ok n ∧ v.IsCount least ∧ v = .int v.mark n.1) ∨
      ∃ fault, count? field least v = .error fault ∧
        v.NoCount field least (w.refusal fault).fault := by
  cases v with
  | int mark n =>
    by_cases h : (least : Int) ≤ n
    · have hn : (n.toNat : Int) = n := by omega
      refine .inl ⟨⟨n.toNat, by omega⟩, dif_pos h, ⟨mark, n, rfl, h⟩, ?_⟩
      rw [hn]
      rfl
    · refine .inr ⟨_, dif_neg h, ?_⟩
      rw [Fault.fault_refusal_countTooSmall]
      exact .size (by omega)
  | _ => exact .inr ⟨_, rfl, .kind (by simp [Value.kind])⟩

/-- A value is a limit, or it is told why it is none. -/
theorem limit?_cases (w : World) (field : String) (v : Value) :
    (∃ limit, limit? field v = .ok limit ∧ (v = .null ∨ v.IsCount 0) ∧
        v = match limit with
          | some n => .int v.mark n
          | none => .null) ∨
      v ≠ .null ∧ ∃ fault, limit? field v = .error fault ∧
        v.NoCount field 0 (w.refusal fault).fault := by
  by_cases hnull : v = .null
  · subst hnull
    exact .inl ⟨none, rfl, .inl rfl, rfl⟩
  have hlimit : limit? field v = (count? field 0 v).map (some ·.1) := by
    cases v <;> first | rfl | exact absurd rfl hnull
  rw [hlimit]
  rcases count?_cases w field 0 v with ⟨n, hn, hcount, hv⟩ | ⟨fault, hfault, hno⟩
  · exact .inl ⟨some n.1, by rw [hn]; rfl, .inr hcount, hv⟩
  · exact .inr ⟨hnull, fault, by rw [hfault]; rfl, hno⟩

/-- The field is the first one with a value that it does not admit. -/
def FirstRefused (value : Field → Value) (f : Field) : Prop :=
  ¬f.Admits (value f) ∧
    ∃ before after, Field.all = before ++ f :: after ∧ ∀ g ∈ before, g.Admits (value g)

/-- What is reported of a policy that was to be made: the policy, or why there is none. -/
def reported (w : World) (outcome : Except Fault Policy) : Except Fault Policy :=
  outcome.mapError fun fault => (w.refusal fault).fault

theorem reported_eq_ok {w : World} {outcome : Except Fault Policy} {p : Policy} :
    reported w outcome = .ok p ↔ outcome = .ok p := by
  cases outcome <;> simp [reported, Except.mapError]

/-- What can be reported of values for the fields: a policy that tells them, or why the first one
that is not admitted is no count. -/
inductive Outcome (value : Field → Value) : Except Fault Policy → Prop
  | made {p : Policy} (admits : ∀ f : Field, f.Admits (value f))
    (told_eq : ∀ f : Field, p.told f = value f) : Outcome value (.ok p)
  | refused {f : Field} {fault : Fault} (first : FirstRefused value f)
    (why : (value f).NoCount f.name f.least fault) : Outcome value (.error fault)

/-- What is admitted makes a policy. -/
theorem Outcome.made_of_admits {outcome : Except Fault Policy} (h : Outcome value outcome)
    (hadmits : ∀ f : Field, f.Admits (value f)) :
    ∃ p, outcome = .ok p ∧ ∀ f : Field, p.told f = value f := by
  cases h with
  | made _ htold => exact ⟨_, rfl, htold⟩
  | refused hfirst _ => exact absurd (hadmits _) hfirst.1

/-- Nothing else makes one. -/
theorem Outcome.admits {p : Policy} (h : Outcome value (.ok p)) (f : Field) :
    f.Admits (value f) := by
  cases h with
  | made hadmits _ => exact hadmits f

/-- **Values for the fields have the outcome that they should have.** -/
theorem outcome_ofGiven (value : Field → Value) (w : World) :
    Outcome value (reported w (ofGiven (fieldsOf value))) := by
  obtain ⟨hcapacity, hfactor, hlimit, hrelease⟩ :
      given? (fieldsOf value) "default_capacity" = some (value .defaultCapacity) ∧
      given? (fieldsOf value) "growth_factor" = some (value .growthFactor) ∧
      given? (fieldsOf value) "max_capacity" = some (value .maxCapacity) ∧
      given? (fieldsOf value) "release_on_clear" = some (value .releaseOnClear) :=
    ⟨rfl, rfl, rfl, rfl⟩
  unfold ofGiven
  dsimp only
  rw [hcapacity, hfactor, hlimit, hrelease]
  dsimp only [Option.getD_some]
  -- one field after the other, as they are checked
  rcases count?_cases w "default_capacity" 0 (value .defaultCapacity) with
    ⟨slots, hslots, hcapacity, htold⟩ | ⟨fault, hfault, hno⟩
  swap
  · rw [hfault]
    have hfirst : FirstRefused value .defaultCapacity := ⟨hno.not_isCount, [], _, rfl, nofun⟩
    exact .refused hfirst hno
  rcases count?_cases w "growth_factor" 2 (value .growthFactor) with
    ⟨times, htimes, hfactor, htold'⟩ | ⟨fault, hfault, hno⟩
  swap
  · rw [hslots, hfault]
    have hfirst : FirstRefused value .growthFactor :=
      ⟨hno.not_isCount, [.defaultCapacity], _, rfl, List.forall_mem_singleton.mpr hcapacity⟩
    exact .refused hfirst hno
  rcases limit?_cases w "max_capacity" (value .maxCapacity) with
    ⟨limit, hlimit, hmost, htold''⟩ | ⟨hnull, fault, hfault, hno⟩
  swap
  · rw [hslots, htimes, hfault]
    have hfirst : FirstRefused value .maxCapacity :=
      ⟨not_or.mpr ⟨hnull, hno.not_isCount⟩, [.defaultCapacity, .growthFactor], _, rfl,
        List.forall_mem_cons.mpr ⟨hcapacity, List.forall_mem_singleton.mpr hfactor⟩⟩
    exact .refused hfirst hno
  rw [hslots, htimes, hlimit]
  refine .made (fun f => ?_) fun f => ?_
  · cases f with
    | defaultCapacity => exact hcapacity
    | growthFactor => exact hfactor
    | maxCapacity => exact hmost
    | releaseOnClear => trivial
  · cases f with
    | defaultCapacity => exact htold.symm
    | growthFactor => exact htold'.symm
    | maxCapacity => cases limit <;> exact htold''.symm
    | releaseOnClear => rfl

/-- The names that are not known make no difference to the values for the fields. -/
theorem valueFor_filter (fields : List (String × Value)) :
    valueFor (fields.filter (·.1 ∈ fieldNames)) = valueFor fields := by
  funext f
  unfold valueFor
  have hlookup := Session.lookup_filter (p := (· ∈ fieldNames)) (decide_eq_true f.name_mem) fields
  rw [hlookup]

/-- Where all names are known, both ways in lead to the same. -/
theorem ofFields?_of_known (h : ∀ entry ∈ fields, entry.1 ∈ fieldNames) :
    ofFields? fields = ofGiven fields := by
  have hnone : fields.find? (·.1 ∉ fieldNames) = none := by
    rw [List.find?_eq_none]
    intro entry hmem hunknown
    exact of_decide_eq_true hunknown (h entry hmem)
  unfold ofFields?
  rw [hnone]

/-- A name that is not known is refused before any value is looked at. -/
theorem ofFields?_of_unknown (h : ∃ entry ∈ fields, entry.1 ∉ fieldNames) :
    ∃ name ∈ fields.map Prod.fst, name ∉ fieldNames ∧
      ofFields? fields
        = .error (if name = reservedName then .reservedField name else .unknownField name) := by
  cases hfound : fields.find? (·.1 ∉ fieldNames) with
  | none =>
    obtain ⟨entry, hmem, hunknown⟩ := h
    exact absurd (decide_eq_true hunknown) (List.find?_eq_none.mp hfound entry hmem)
  | some entry =>
    have hunknown : entry.1 ∉ fieldNames := by simpa using List.find?_some hfound
    refine ⟨entry.1, List.mem_map.mpr ⟨entry, List.mem_of_find?_eq_some hfound, rfl⟩, hunknown, ?_⟩
    unfold ofFields?
    rw [hfound]

theorem ofKnownFields?_eq (h : Distinct fields) :
    ofKnownFields? fields = ofGiven (fieldsOf (valueFor fields)) := by
  unfold ofKnownFields?
  rw [ofFields?_of_known (by simp), ofGiven_eq (h.filter _), valueFor_filter]

/-- Only the known names count, in any order. -/
theorem ofKnownFields?_of_perm (h : Distinct fields)
    (hperm : (fields.filter (·.1 ∈ fieldNames)).Perm (fields'.filter (·.1 ∈ fieldNames))) :
    ofKnownFields? fields = ofKnownFields? fields' := by
  have hknown : Distinct (fields.filter (·.1 ∈ fieldNames)) := h.filter _
  have hknown' : Distinct (fields'.filter (·.1 ∈ fieldNames)) :=
    (hperm.map Prod.fst).nodup_iff.mp hknown
  unfold ofKnownFields?
  rw [ofFields?_of_known (by simp), ofFields?_of_known (by simp), ofGiven_eq hknown,
    ofGiven_eq hknown']
  refine congrArg (fun value => ofGiven (fieldsOf value)) (funext fun f => ?_)
  unfold valueFor
  rw [lookup_eq_of_perm h hperm]

end Making

/-! ### The fields of a policy -/

section Fields

variable {p q : Policy}

/-- A policy tells what its fields may be. -/
theorem admits_told (p : Policy) (f : Field) : f.Admits (p.told f) := by
  cases f with
  | defaultCapacity => exact ⟨_, _, rfl, Int.natCast_nonneg _⟩
  | growthFactor => exact ⟨_, _, rfl, Int.ofNat_le.mpr p.two_le_growthFactor⟩
  | maxCapacity =>
    unfold told
    cases p.maxCapacity with
    | none => exact .inl rfl
    | some limit => exact .inr ⟨_, _, rfl, Int.natCast_nonneg _⟩
  | releaseOnClear => trivial

theorem valueFor_entries (p : Policy) : valueFor p.entries = p.told := by
  funext f
  cases f <;> rfl

/-- Nothing that policies tell the same of can tell them apart by comparison. -/
theorem equal_congr (h : ∀ f : Field, q.told f = p.told f) (v : Value) :
    Act.equal (.policy q) v = Act.equal (.policy p) v ∧
      Act.equal v (.policy q) = Act.equal v (.policy p) := by
  obtain ⟨mark, marks, capacity, factor, limit, release, hfactor⟩ := p
  obtain ⟨mark', marks', capacity', factor', limit', release', hfactor'⟩ := q
  obtain rfl : capacity' = capacity := Int.ofNat.inj (Value.int.inj (h .defaultCapacity)).2
  obtain rfl : factor' = factor := Int.ofNat.inj (Value.int.inj (h .growthFactor)).2
  obtain rfl : release' = release := h .releaseOnClear
  obtain rfl : limit' = limit := by
    have hlimit := h .maxCapacity
    rcases limit with - | n <;> rcases limit' with - | n'
    · rfl
    · cases hlimit
    · cases hlimit
    · exact congrArg some (Int.ofNat.inj (Value.int.inj hlimit).2)
  constructor
  · unfold Act.equal Act.agree
    cases v <;> rfl
  · cases v <;> unfold Act.equal Act.agree <;> rfl

/-- A policy that can be recognized is equal to itself. -/
theorem answers_equal_self {w : World} (hw : w.WellFormed)
    (h : (Value.policy p).Recognizable w.tally) :
    (Act.equal (.policy p) (.policy p)).Answers w true := by
  unfold Act.equal
  exact Act.answers_agree_self (.policy p) w hw h

/-- What the fields of a policy make is a policy that tells the same. -/
theorem ofKnownFields?_entries (p : Policy) :
    ∃ q, ofKnownFields? p.entries = .ok q ∧ ∀ f : Field, q.told f = p.told f := by
  have hdistinct : Distinct p.entries := by
    show fieldNames.Nodup
    decide
  rw [ofKnownFields?_eq hdistinct, valueFor_entries]
  obtain ⟨q, hq, htold⟩ := (outcome_ofGiven p.told .initial).made_of_admits p.admits_told
  exact ⟨q, reported_eq_ok.mp hq, htold⟩

end Fields

end Policy

namespace Session

variable {s : Session} {operands : List (String × Operand)} {d : List (String × Value)}

/-- Where some entries are left out, so are their values. -/
theorem resolveEntries_filter (p : String → Bool) (h : s.resolveEntries operands = .ok d) :
    s.resolveEntries (operands.filter (p ·.1)) = .ok (d.filter (p ·.1)) := by
  induction operands generalizing d with
  | nil =>
    cases h
    rfl
  | cons entry rest ih =>
    obtain ⟨name, x⟩ := entry
    unfold resolveEntries at h
    cases hx : s.resolve x with
    | error fault => rw [hx] at h; cases h
    | ok v =>
      cases hrest : s.resolveEntries rest with
      | error fault => rw [hx, hrest] at h; cases h
      | ok vs =>
        rw [hx, hrest] at h
        cases h
        specialize ih hrest
        rw [List.filter_cons, List.filter_cons]
        split
        · unfold resolveEntries
          rw [hx, ih]
          rfl
        · exact ih

/-- What a call is told that makes a policy. -/
theorem hears_configure (h : s.resolveEntries operands = .ok d) (lenient : Bool)
    (keep : Option String) :
    s.hears (.call (.configure lenient operands) keep)
      = some ((Policy.reported s.world (Policy.configure lenient d)).map
        fun p => s.world.shown (.policy p)) := by
  have hperform : ((Call.configure lenient operands).perform s).run s.world
      = match Policy.configure lenient d with
        | .ok p => .ok (.null, .value (.policy p)) s.world
        | .error fault => .error fault s.world := by
    unfold Call.perform
    dsimp only
    rw [h]
    show (MonadExcept.ofExcept (Policy.configure lenient d) >>= fun p =>
      pure (Value.null, Answer.value (.policy p)) : Act _).run s.world = _
    cases Policy.configure lenient d <;> rfl
  cases hmade : Policy.configure lenient d with
  | error fault =>
    rw [hmade] at hperform
    exact hears_of_fault hperform
  | ok p =>
    rw [hmade] at hperform
    exact hears_of_ok hperform

/-- **Passing over unknown names is the same as not giving them,** for all that a script can see. -/
theorem run_configure (h : s.resolveEntries operands = .ok d) (keep : Option String) :
    (Call.configure true operands).run keep s
      = (Call.configure false (operands.filter (·.1 ∈ Policy.fieldNames))).run keep s := by
  have hfilter := resolveEntries_filter (· ∈ Policy.fieldNames) h
  unfold Call.run
  have hperform : (Call.configure true operands).perform s
      = (Call.configure false (operands.filter (·.1 ∈ Policy.fieldNames))).perform s := by
    unfold Call.perform
    dsimp only
    rw [h, hfilter]
    rfl
  rw [hperform]
  rfl

end Session

namespace Policy

/-- **Policies are made from exactly the fields that may stand in them, by both ways in.** A number
that is less than its field may be is told of with the field, provided that it can be written
out. -/
theorem fields_exact (d : List (String × Value)) (p : Policy) :
    -- what a policy tells of its fields is what it answers when it is asked for them
    (∀ f : Field, Act.ask (.policy p) f.verb [] = pure (.value (p.told f))) ∧
    -- what is reported of making one is what a call is told that makes it
    (∀ (s : Session) lenient operands keep, s.resolveEntries operands = .ok d →
      s.hears (.call (.configure lenient operands) keep)
        = some ((reported s.world (configure lenient d)).map fun p => s.world.shown (.policy p))) ∧
    -- passing over unknown names has the outcome of not giving them
    ofKnownFields? d = ofFields? (d.filter (·.1 ∈ fieldNames)) ∧
    (∀ (s : Session) operands keep, s.resolveEntries operands = .ok d →
      (Call.configure true operands).run keep s
        = (Call.configure false (operands.filter (·.1 ∈ fieldNames))).run keep s) ∧
    -- so unknown names make no difference there, and neither does the order
    (∀ d', Distinct d → (d.filter (·.1 ∈ fieldNames)).Perm (d'.filter (·.1 ∈ fieldNames)) →
      ofKnownFields? d = ofKnownFields? d') ∧
    -- the other way in refuses an unknown name, whatever the values
    ((∃ entry ∈ d, entry.1 ∉ fieldNames) →
      ∃ name ∈ d.map Prod.fst, name ∉ fieldNames ∧ ∀ w, reported w (ofFields? d)
        = .error (if name = reservedName then .reservedField name else .unknownField name)) ∧
    -- a policy comes of it just if every field admits its value, and then it tells these values;
    -- else the report is about the first field that does not, and about a kind before a size
    (Distinct d →
      ((∃ made, ofKnownFields? d = .ok made) ↔ ∀ f : Field, f.Admits (valueFor d f)) ∧
      ∀ w, Outcome (valueFor d) (reported w (ofKnownFields? d))) ∧
    -- and the fields of a policy make an equal one: it tells the same values, no comparison tells
    -- it apart, and so it is equal to the policy if that can be recognized at all
    ∃ q, ofKnownFields? p.entries = .ok q ∧ (∀ f : Field, q.told f = p.told f) ∧
      (∀ v, Act.equal (.policy q) v = Act.equal (.policy p) v ∧
        Act.equal v (.policy q) = Act.equal v (.policy p)) ∧
      ∀ s : Session, s.Reachable → (Value.policy p).Recognizable s.world.tally →
        (Act.equal (.policy q) (.policy p)).Answers s.world true := by
  refine ⟨ask_field p, fun s lenient operands keep h => Session.hears_configure h lenient keep,
    rfl, fun s operands keep h => Session.run_configure h keep,
    fun d' => ofKnownFields?_of_perm, fun hunknown => ?_, fun hd => ?_, ?_⟩
  · obtain ⟨name, hname, hother, hrefused⟩ := ofFields?_of_unknown hunknown
    refine ⟨name, hname, hother, fun w => ?_⟩
    rw [hrefused]
    split <;> rfl
  · rw [ofKnownFields?_eq hd]
    have houtcome := outcome_ofGiven (valueFor d)
    refine ⟨⟨fun ⟨p, hp⟩ f => ?_, fun hadmits => ?_⟩, houtcome⟩
    · have hmade := houtcome .initial
      rw [hp] at hmade
      exact Outcome.admits hmade f
    · obtain ⟨p, hp, -⟩ := (houtcome .initial).made_of_admits hadmits
      exact ⟨p, reported_eq_ok.mp hp⟩
  · obtain ⟨q, hq, htold⟩ := p.ofKnownFields?_entries
    have hequal := equal_congr htold
    refine ⟨q, hq, htold, hequal, fun s hs hrecognized => ?_⟩
    rw [(hequal (.policy p)).1]
    exact answers_equal_self hs.owned.wellFormed hrecognized

/-- Of two wrong values the one that is checked first is told of, and before both a name that is no
field.  Right values make a policy, even one that holds what is undefined, and its fields make an
equal one. -/
theorem fields_exact_mixed :
    let wrong : List (String × Value) :=
      [("growth_factor", .int (.written 0) 1), ("colour", .null), ("default_capacity", .bool true)]
    let right : List (String × Value) :=
      [("max_capacity", .int (.written 1) 5), ("release_on_clear", .real (.written 2) .undefined)]
    Distinct wrong ∧ Distinct right ∧
      reported .initial (ofFields? wrong) = .error (.unknownField "colour") ∧
      reported .initial (ofKnownFields? wrong) = .error (.countExpected "default_capacity" .bool) ∧
      ofKnownFields? wrong = ofKnownFields? wrong.reverse ∧
      Session.initial.hears (.call (.configure true [("growth_factor", .int 0 1)]) none)
        = some (.error (.countTooSmall "growth_factor" 2 1)) ∧
      (Call.configure true [("max_capacity", .int 1 5), ("colour", .null)]).run none Session.initial
        = (Call.configure false [("max_capacity", .int 1 5)]).run none Session.initial ∧
      ∃ p, ofKnownFields? right = .ok p ∧ p.told .maxCapacity = .int (.written 1) 5 ∧
        p.told .growthFactor = .int .fresh 2 ∧
        ∃ q, ofKnownFields? p.entries = .ok q ∧
          (Act.equal (.policy q) (.policy p)).Answers World.initial true := by
  intro wrong right
  obtain ⟨-, -, -, -, horder, hunknown, -, -⟩ := fields_exact wrong .standard
  have hwrong : Distinct wrong := by decide
  have hright : Distinct right := by decide
  obtain ⟨name, hname, hother, hrefused⟩ :=
    hunknown ⟨("colour", .null), .tail _ (.head _), by decide⟩
  obtain rfl : name = "colour" := by
    simp only [wrong, List.map_cons, List.map_nil, List.mem_cons, List.not_mem_nil, or_false]
      at hname
    rcases hname with rfl | rfl | rfl
    · exact absurd (by decide) hother
    · rfl
    · exact absurd (by decide) hother
  have hturned := horder wrong.reverse hwrong ((List.reverse_perm wrong).filter _).symm
  have hsmall : reported .initial (configure true [("growth_factor", .int (.written 0) 1)])
      = .error (.countTooSmall "growth_factor" 2 1) := by
    have hone : Whole.isWritable 1 = true := by decide +kernel
    show Except.error (World.initial.refusal (.countTooSmall "growth_factor" 2 1)).fault = _
    rw [Fault.fault_refusal_countTooSmall]
    exact congrArg Except.error (if_pos hone)
  have hfactor := (fields_exact [("growth_factor", .int (.written 0) 1)] .standard).2.1
    Session.initial true [("growth_factor", .int 0 1)] none rfl
  rw [show Session.initial.world = World.initial from rfl, hsmall] at hfactor
  obtain ⟨-, -, -, hruns, -, -, -, -⟩ :=
    fields_exact [("max_capacity", .int (.written 1) 5), ("colour", .null)] .standard
  have hrun := hruns Session.initial [("max_capacity", .int 1 5), ("colour", .null)] none rfl
  obtain ⟨-, -, -, -, -, -, houtcome, -⟩ := fields_exact right .standard
  obtain ⟨hmade, hfit⟩ := houtcome hright
  specialize hfit .initial
  obtain ⟨p, hp⟩ := hmade.mpr fun f => by
    cases f with
    | defaultCapacity => exact ⟨.fresh, 8, rfl, by decide⟩
    | growthFactor => exact ⟨.fresh, 2, rfl, by decide⟩
    | maxCapacity => exact .inr ⟨.written 1, 5, rfl, by decide⟩
    | releaseOnClear => trivial
  rw [hp] at hfit
  cases hfit with
  | made _ htold =>
    obtain ⟨-, -, -, -, -, -, -, q, hq, -, -, hequal⟩ := fields_exact right p
    have hreachable : Session.initial.Reachable := ⟨[], rfl⟩
    have hrecognized : (Value.policy p).Recognizable World.initial.tally := by
      have hrelease : p.releaseOnClear = .real (.written 2) .undefined := htold .releaseOnClear
      unfold Value.Recognizable
      rw [hrelease]
      unfold Value.Recognizable
      exact nofun
    exact ⟨hwrong, hright, hrefused .initial, rfl, hturned, hfactor, hrun, p, hp,
      htold .maxCapacity, htold .growthFactor, q, hq,
      hequal Session.initial hreachable hrecognized⟩

/-- A number that is too small can be too long to be written out, and then no field is told of. -/
theorem fields_exact_unwritable :
    let c : Call := .configure true [("default_capacity", .int 0 (-10 ^ 4300))]
    (Session.initial.hears (.call c none) matches some (.error .tooManyDigits)) := by
  decide +kernel

end Policy

end TextRoll
