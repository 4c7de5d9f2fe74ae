/-
TextRoll/Proofs/Session/Indices.lean

Indices are checked, and all ways of reading agree.

An index is that of an element if it is at least zero and less than the length.  Any other is
refused before a slot is looked at: a negative one does not count from the end, and one of an empty
slot does not show that the slot is there (`told_get`, `told_removeAt`, `told_seek`).  The refusal
tells the index and the length.  An index may be too long a number to be written out, and then that
is what is told (`Fault.outside`).

What is at an index can be read in five ways, which all say the same: as a copy, as what is taken
out, as the current element after going there, among all texts, and as what a walk hands out when
its turn comes (`told_turned`).

What is handed out is a buffer.  What it says comes out when the answer is kept and asked for its
text (`Act.spells`).
-/
import TextRoll.Proofs.Content.Iterating
import TextRoll.Proofs.Session.Limits
import TextRoll.Proofs.Session.Refinement

namespace TextRoll

/-- A whole number gives a roll that number to work with. -/
theorem World.argument_of_whole (w : World) {v : Value} {n : Whole} (hv : v.toWhole? = some n) :
    w.argument v = .whole n := by
  cases v with
  | int mark k =>
    cases hv
    rfl
  | bool b =>
    cases hv
    rfl
  | _ => cases hv

/-- What is told of an index that is none among so many elements: the index and how many they are,
if the index can be written out. -/
def Fault.outside (n : Whole) (length : Nat) : Fault :=
  if Whole.isWritable n.toInt then outOfRange n.value (.ofInt length) else tooManyDigits

/-- A length can always be written out, since it is that of slots in memory. -/
theorem Fault.fault_refusal_outOfRange {length : Nat} (hlength : length < unaffordableSlots)
    (n : Whole) (w : World) :
    (w.refusal (outOfRange n.value (.ofInt length))).fault = outside n length := by
  have hmost : Whole.isWritable unaffordableSlots = true := by decide +kernel
  have hwritable : w.isWritable (.ofInt length) = true :=
    Whole.isWritable_of_le (Int.natCast_nonneg length)
      (Int.ofNat_le.mpr (Nat.le_of_lt hlength)) hmost
  exact fault_refusal_of_mentioned (World.all_isWritable_value fun _ => hwritable)

namespace Act

variable {w : World} {r : RollId} {asked v : Value} {verb : Verb} {args : List Value} {n : Whole}
  {act : Act Answer} {access : Access} {order : Order} {t : String} {k : WalkId}
  {rest : List String}

/-! ### What a buffer says that is handed out -/

/-- What comes of an answer that is kept and then asked for its text. -/
def spells (act : Act Answer) (asked : Value) (w : World) : Except Fault Shown :=
  match act.run w with
  | .ok answer w' =>
    let (kept, later) := w'.adopt asked answer
    (ask kept .build []).told later
  | .error fault _ => .error fault

/-- **A buffer that is handed out says what it shows,** be it an element or a copy of one. -/
theorem spells_of_told (asked : Value) (h : act.told w = .ok (.buffer t)) :
    act.spells asked w = .ok (.text t) := by
  unfold spells
  cases hrun : act.run w with
  | error fault w' =>
    rw [told_of_error hrun] at h
    cases h
  | ok answer w' =>
    rw [told_of_ok hrun] at h
    injection h with hshown
    cases answer with
    | itself | items => cases hshown
    | draft d => cases d <;> cases hshown
    | item x =>
      cases x with
      | copy text =>
        cases hshown
        show Except.ok (Shown.text ((w'.addBuffer (Buffer.ofText text)).text w'.freeBuffer)) = _
        rw [World.text_of_issue rfl, Buffer.text_ofText]
      | value v =>
        cases v with
        | buffer b =>
          cases hshown
          rfl
        | _ => cases hshown

/-! ### What a request tells -/

/-- A request that needs no storage is obeyed as on plain content. -/
theorem ask_obeys (hw : w.Owned) (hasked : asked.rollId? = some r)
    (hverb : verb ∉ [.add, .addBuffer, .reserve]) (args : List Value) :
    (ask asked verb args).Obeys w r
      ((w.content r).obey asked.access (w.order verb args)) :=
  (ask_complies hw hasked verb args).resolve_right fun h => hverb h.1

theorem Obeys.told_of_ok {x : Shown} {c : Content}
    (h : act.Obeys w r ((w.content r).obey access order))
    (houtcome : (w.content r).outcome access order = .ok (.shows x, c)) :
    act.told w = .ok x ∧ (act.worldAfter w).content r = c := by
  have htells := h.tells
  have hcontent := h.content_eq
  rw [Content.obey_of_ok houtcome] at htells hcontent
  exact ⟨htells, hcontent⟩

theorem Obeys.told_of_error {fault : Fault}
    (h : act.Obeys w r ((w.content r).obey access order))
    (houtcome : (w.content r).outcome access order = .error fault) : act.told w = .error fault := by
  have htells := h.tells
  rw [Content.obey_of_error houtcome] at htells
  exact htells

/-! ### Indices -/

/-- The index is that of an element. -/
def Inside (w : World) (r : RollId) (n : Whole) : Prop :=
  0 ≤ n.toInt ∧ n.toInt < (w.texts r).length

instance (w : World) (r : RollId) (n : Whole) : Decidable (Inside w r n) :=
  inferInstanceAs (Decidable (0 ≤ n.toInt ∧ n.toInt < (w.texts r).length))

/-- The fault of an index that is none of an element. -/
def outOfRange (w : World) (r : RollId) (n : Whole) : Fault :=
  .outOfRange n.value (.ofInt (w.texts r).length)

theorem checkIndex_content (w : World) (r : RollId) (n : Whole) :
    (w.content r).checkIndex n
      = if Inside w r n then .ok n.toNat else .error (outOfRange w r n) := rfl

/-- What a request is told that fails is its fault, put into words afterwards. -/
theorem failure?_eq (act : Act Answer) (w : World) :
    act.failure? w = match act.told w with
      | .ok _ => none
      | .error fault => some ((act.worldAfter w).refusal fault).fault := by
  unfold failure? told worldAfter
  cases act.run w <;> rfl

/-- An index is refused just where it is not that of an element. -/
theorem failure?_of_index (hr : (w.roll r).WellFormed) {x : Shown}
    (htold : act.told w = if Inside w r n then .ok x else .error (outOfRange w r n)) :
    act.failure? w = if Inside w r n then none else some (.outside n (w.texts r).length) := by
  have hlength : (w.texts r).length < unaffordableSlots := by
    rw [World.length_texts hr]
    exact Nat.lt_of_le_of_lt hr.length_le hr.allowed.lt_unaffordable
  rw [failure?_eq, htold]
  by_cases hinside : Inside w r n
  · rw [if_pos hinside, if_pos hinside]
  · rw [if_neg hinside, if_neg hinside]
    exact congrArg some (Fault.fault_refusal_outOfRange hlength n _)

/-- Where an element is handed out at an index, the index is checked and nothing else. -/
theorem told_of_checked (hobeys : act.Obeys w r ((w.content r).obey access order))
    {reply : Nat → Reply × Content}
    (hreply : ∀ i, (reply i).1 = .shows (.buffer ((w.content r).item i)))
    (houtcome : (w.content r).outcome access order = ((w.content r).checkIndex n).map reply) :
    act.told w = if Inside w r n then .ok (.buffer ((w.content r).item n.toNat))
      else .error (outOfRange w r n) := by
  rw [checkIndex_content] at houtcome
  split at houtcome
  · next hinside =>
    rw [if_pos hinside]
    have hdone : reply n.toNat = (.shows (.buffer ((w.content r).item n.toNat)),
        (reply n.toNat).2) := Prod.ext (hreply _) rfl
    exact (hobeys.told_of_ok (houtcome.trans (congrArg Except.ok hdone))).1
  · next houtside =>
    rw [if_neg houtside]
    exact hobeys.told_of_error houtcome

/-- **Reading at an index.** -/
theorem told_get (hw : w.Owned) (hasked : asked.rollId? = some r) (hv : v.toWhole? = some n) :
    (ask asked .get [v]).told w
      = if Inside w r n then .ok (.buffer ((w.content r).item n.toNat))
        else .error (outOfRange w r n) := by
  have hobeys : (ask asked .get [v]).Obeys w r _ := ask_obeys hw hasked (by decide) [v]
  have houtcome : (w.content r).outcome asked.access (w.order .get [v])
      = ((w.content r).checkIndex n).map fun i =>
        (w.content r).telling (.buffer ((w.content r).item i)) := by
    show (w.content r).outcome _ (.get (w.argument v)) = _
    rw [w.argument_of_whole hv]
    rfl
  exact told_of_checked hobeys (fun _ => rfl) houtcome

/-- **Taking out at an index.** -/
theorem told_removeAt (hw : w.Owned) (hasked : asked.rollId? = some r) (hv : v.toWhole? = some n) :
    (ask asked .removeAt [v]).told w
      = if Inside w r n then .ok (.buffer ((w.content r).item n.toNat))
        else .error (outOfRange w r n) := by
  have hobeys : (ask asked .removeAt [v]).Obeys w r _ := ask_obeys hw hasked (by decide) [v]
  have houtcome : (w.content r).outcome asked.access (w.order .removeAt [v])
      = ((w.content r).checkIndex n).map (w.content r).handingOut := by
    show (w.content r).outcome _ (.removeAt (w.argument v)) = _
    rw [w.argument_of_whole hv]
    rfl
  exact told_of_checked hobeys (fun _ => rfl) houtcome

/-- **Going to an index:** first there must be an element at all. -/
theorem told_seek (hw : w.Owned) (hasked : asked.rollId? = some r) (hv : v.toWhole? = some n) :
    (ask asked .seek [v]).told w
        = (if w.texts r = [] then .error (.emptyRoll (.ofText "seek"))
          else if Inside w r n then .ok .null else .error (outOfRange w r n)) ∧
      (Inside w r n → ((ask asked .seek [v]).worldAfter w).content r = ⟨w.texts r, n⟩) := by
  have hobeys : (ask asked .seek [v]).Obeys w r _ := ask_obeys hw hasked (by decide) [v]
  have hempty : w.texts r = [] ↔ (w.texts r).length = 0 := List.length_eq_zero_iff.symm
  have houtcome : (w.content r).outcome asked.access (w.order .seek [v])
      = ((w.content r).currentIndex "seek").bind fun _ =>
        ((w.content r).checkIndex n).bind fun _ => .ok (.shows .null, ⟨w.texts r, n⟩) := by
    show (w.content r).outcome _ (.seek (w.argument v)) = _
    rw [w.argument_of_whole hv]
    rfl
  rw [checkIndex_content] at houtcome
  by_cases hzero : w.texts r = []
  · have hcurrent : (w.content r).currentIndex "seek" = .error (.emptyRoll (.ofText "seek")) :=
      if_pos (hempty.mp hzero)
    rw [hcurrent] at houtcome
    refine ⟨?_, fun hinside => ?_⟩
    · rw [if_pos hzero]
      exact hobeys.told_of_error houtcome
    · obtain ⟨hpos, hlt⟩ := hinside
      rw [hzero] at hlt
      exact absurd hlt (Int.not_lt.mpr hpos)
  · have hcurrent : (w.content r).currentIndex "seek" = .ok (w.content r).index :=
      if_neg (mt hempty.mpr hzero)
    rw [hcurrent] at houtcome
    rw [if_neg hzero]
    by_cases hinside : Inside w r n
    · rw [if_pos hinside] at houtcome ⊢
      obtain ⟨htold, hcontent⟩ := hobeys.told_of_ok houtcome
      exact ⟨htold, fun _ => hcontent⟩
    · rw [if_neg hinside] at houtcome ⊢
      exact ⟨hobeys.told_of_error houtcome, fun h => absurd h hinside⟩

/-- Going to an index is refused because there is no element, or because of the index. -/
theorem failure?_seek (hw : w.Owned) (hasked : asked.rollId? = some r)
    (hv : v.toWhole? = some n) :
    (ask asked .seek [v]).failure? w
      = if w.texts r = [] then some (.emptyRoll (.ofText "seek"))
        else if Inside w r n then none else some (.outside n (w.texts r).length) := by
  have htold := (told_seek hw hasked hv).1
  split
  · next hempty =>
    rw [failure?_eq, htold, if_pos hempty]
    rfl
  · next hsome =>
    rw [if_neg hsome] at htold
    exact failure?_of_index (hw.wellFormed r) htold

/-- The current element is the one at the cursor. -/
theorem told_current (hw : w.Owned) (hasked : asked.rollId? = some r)
    (ht : (w.texts r)[(w.content r).index]? = some t) :
    (ask asked .current []).told w = .ok (.buffer t) := by
  have hobeys : (ask asked .current []).Obeys w r _ := ask_obeys hw hasked (by decide) []
  obtain ⟨hlt, -⟩ := List.getElem?_eq_some_iff.mp ht
  have hcurrent : (w.content r).currentIndex "current" = .ok (w.content r).index :=
    if_neg (Nat.ne_of_gt (Nat.lt_of_le_of_lt (Nat.zero_le _) hlt))
  have hitem : (w.content r).item (w.content r).index = t := by
    show (w.texts r).getD _ "" = t
    rw [List.getD_eq_getElem?_getD, ht]
    rfl
  have houtcome : (w.content r).outcome asked.access .current
      = .ok ((w.content r).telling (.buffer t)) := by
    show ((w.content r).currentIndex "current").map _ = _
    rw [hcurrent, ← hitem]
    rfl
  exact (hobeys.told_of_ok houtcome).1

/-! ### Walks -/

/-- The world after a walk was asked for the next element so many times. -/
def turned (k : WalkId) : Nat → World → World
  | 0, w => w
  | i + 1, w => turned k i ((ask (.walk k) .next []).worldAfter w)

/-- **A walk that nothing comes between** hands out one text after the other, and when there is none
left it is over. -/
theorem told_turned (hw : w.WellFormed) (h : w.WalksOver k r rest) (i : Nat) :
    (ask (.walk k) .next []).told (turned k i w)
      = match rest[i]? with
        | some t => .ok (.buffer t)
        | none => .error .exhausted := by
  induction i generalizing w rest with
  | zero =>
    cases rest with
    | nil => exact (told_next_nil h).1
    | cons t rest => exact (told_next_cons (hw r) h).1
  | succ i ih =>
    have hother : (Value.walk k).rollId? ≠ some r := nofun
    obtain ⟨e, hoccurs, -⟩ := ask_other hw hother .next []
    have hwell := hoccurs.wellFormed hw
    cases rest with
    | nil => exact ih hwell (told_next_nil h).2.2
    | cons t rest => exact ih hwell (told_next_cons (hw r) h).2.2

/-! ### An element at an index -/

/-- **What is at an index** is what is handed out there, or taken out, or current after going
there. -/
theorem read_at (hw : w.Owned) (hasked : asked.rollId? = some r) (hv : v.toWhole? = some n)
    {i : Nat} (hn : n.toInt = i) (ht : (w.texts r)[i]? = some t) :
    (ask asked .get [v]).spells asked w = .ok (.text t) ∧
      (ask asked .removeAt [v]).spells asked w = .ok (.text t) ∧
      (ask asked .seek [v]).told w = .ok .null ∧
      (ask asked .current []).spells asked ((ask asked .seek [v]).worldAfter w)
        = .ok (.text t) := by
  obtain ⟨hlt, hitem⟩ := List.getElem?_eq_some_iff.mp ht
  have hplace : n.toNat = i := by
    unfold Whole.toNat
    rw [hn, Int.toNat_natCast]
  have hinside : Inside w r n := by
    unfold Inside
    omega
  have hread : (w.content r).item n.toNat = t := by
    show (w.texts r).getD n.toNat "" = t
    rw [hplace, List.getD_eq_getElem?_getD, ht]
    rfl
  have hget := told_get hw hasked hv
  have hremove := told_removeAt hw hasked hv
  rw [if_pos hinside, hread] at hget hremove
  obtain ⟨hseek, hmoved⟩ := told_seek hw hasked hv
  rw [if_neg (List.ne_nil_of_length_pos (Nat.lt_of_le_of_lt (Nat.zero_le i) hlt)),
    if_pos hinside] at hseek
  have howned : ((ask asked .seek [v]).worldAfter w).Owned := by
    obtain ⟨e, -, hoccurs⟩ := ask_otherRoll hw.wellFormed hasked .seek [v]
    exact hoccurs.owned hw
  have hcurrent : (ask asked .current []).told ((ask asked .seek [v]).worldAfter w)
      = .ok (.buffer t) := by
    refine told_current howned hasked ?_
    show (((ask asked .seek [v]).worldAfter w).content r).texts[_]? = _
    rw [hmoved hinside]
    show (w.texts r)[n.toNat]? = some t
    rw [hplace, ht]
  exact ⟨spells_of_told asked hget, spells_of_told asked hremove, hseek,
    spells_of_told asked hcurrent⟩

/-- A text occurs in a roll if one of its elements says it; nothing but a text or a buffer does. -/
theorem told_contains (hw : w.Owned) (hasked : asked.rollId? = some r) (v : Value) :
    (ask asked .contains [v]).told w
      = .ok (.bool ((w.argument v).sought?.any (· ∈ w.texts r))) := by
  have hobeys : (ask asked .contains [v]).Obeys w r _ := ask_obeys hw hasked (by decide) [v]
  exact (hobeys.told_of_ok rfl).1

end Act

namespace Session

variable {s : Session} {r : RollId} {asked : Value}

/-- **Indices are checked exactly, and all ways of reading agree.** This holds of every roll of a
reachable session, asked directly or through guards. An index that is not that of an element is
told of with the length, provided that it can be written out. -/
theorem indices_exact (hs : s.Reachable) (hasked : asked.rollId? = some r) :
    let w := s.world
    let texts := w.texts r
    -- an index is refused exactly if it is not that of an element
    (∀ v (n : Whole), v.toWhole? = some n →
      (∀ c keep, c.request? s = some (asked, .get, [v]) → s.failure? c keep
        = if Act.Inside w r n then none else some (.outside n texts.length)) ∧
      (∀ c keep, c.request? s = some (asked, .removeAt, [v]) → s.failure? c keep
        = if Act.Inside w r n then none else some (.outside n texts.length)) ∧
      (∀ c keep, c.request? s = some (asked, .seek, [v]) → s.failure? c keep
        = if texts = [] then some (.emptyRoll (.ofText "seek"))
          else if Act.Inside w r n then none else some (.outside n texts.length)) ∧
      -- at that of an element, all ways of reading say the same
      ∀ (i : Nat) t, n.toInt = i → texts[i]? = some t →
        (Act.ask asked .get [v]).spells asked w = .ok (.text t) ∧
        (Act.ask asked .removeAt [v]).spells asked w = .ok (.text t) ∧
        (Act.ask asked .seek [v]).told w = .ok .null ∧
        (Act.ask asked .current []).spells asked ((Act.ask asked .seek [v]).worldAfter w)
          = .ok (.text t)) ∧
    -- and so do all texts at once, and a walk that hands out one after the other
    (Act.ask asked .texts []).told w = .ok (.list (texts.map .text)) ∧
    (Act.ask asked .elements []).told w = .ok (.list (texts.map .buffer)) ∧
    (∃ walk w', (Act.ask asked .walk []).run w = .ok (.draft (.walk walk)) w' ∧
      let k := (w'.addWalk walk).1
      let next := Act.ask (.walk k) .next []
      let begun := (w'.addWalk walk).2
      (∀ (i : Nat) t, texts[i]? = some t →
        next.spells (.walk k) (Act.turned k i begun) = .ok (.text t)) ∧
      ∀ i : Nat, texts.length ≤ i → next.told (Act.turned k i begun) = .error .exhausted) ∧
    -- the length is that of the texts, and what occurs in the roll is one of them
    (Act.ask asked .length []).told w = .ok (.int texts.length) ∧
    (Act.ask asked .truth []).told w = .ok (.bool (0 < texts.length)) ∧
    (∀ t : Text, (Act.ask asked .contains [.text t]).told w = .ok (.bool (t.content ∈ texts))) ∧
    (∀ b, (Act.ask asked .contains [.buffer b]).told w = .ok (.bool (w.text b ∈ texts))) ∧
    (∀ v, v.kind ≠ .text → v.kind ≠ .buffer →
      (Act.ask asked .contains [v]).told w = .ok (.bool false)) := by
  intro w texts
  have hw : w.Owned := hs.owned
  refine ⟨fun v n hv => ?_, ?_, ?_, ?_, ?_, ?_, ?_, ?_, ?_⟩
  · have hr := hw.wellFormed r
    refine ⟨fun c keep hrequest => ?_, fun c keep hrequest => ?_, fun c keep hrequest => ?_,
      fun i t hn ht => Act.read_at hw hasked hv hn ht⟩
    · rw [failure?_request hrequest]
      exact Act.failure?_of_index hr (Act.told_get hw hasked hv)
    · rw [failure?_request hrequest]
      exact Act.failure?_of_index hr (Act.told_removeAt hw hasked hv)
    · rw [failure?_request hrequest]
      exact Act.failure?_seek hw hasked hv
  · have hobeys : (Act.ask asked .texts []).Obeys w r _ := Act.ask_obeys hw hasked (by decide) []
    exact (hobeys.told_of_ok rfl).1
  · have hobeys : (Act.ask asked .elements []).Obeys w r _ :=
      Act.ask_obeys hw hasked (by decide) []
    exact (hobeys.told_of_ok rfl).1
  · obtain ⟨walk, w', hrun, hread, hover⟩ := Act.walksOver_started hw hasked
    have hwell : (w'.addWalk walk).2.WellFormed := hread.wellFormed hw.wellFormed
    refine ⟨walk, w', hrun, fun i t ht => ?_, fun i hi => ?_⟩
    · refine Act.spells_of_told _ ?_
      rw [Act.told_turned hwell hover, ht]
    · rw [Act.told_turned hwell hover, List.getElem?_eq_none hi]
  · have hobeys : (Act.ask asked .length []).Obeys w r _ := Act.ask_obeys hw hasked (by decide) []
    exact (hobeys.told_of_ok rfl).1
  · have hobeys : (Act.ask asked .truth []).Obeys w r _ := Act.ask_obeys hw hasked (by decide) []
    have hpos : (texts.length != 0) = decide (0 < texts.length) :=
      Bool.eq_iff_iff.mpr (by simp [Nat.pos_iff_ne_zero])
    rw [(hobeys.told_of_ok rfl).1]
    exact congrArg (fun b => Except.ok (Shown.bool b)) hpos
  · intro t
    rw [Act.told_contains hw hasked]
    rfl
  · intro b
    rw [Act.told_contains hw hasked]
    rfl
  · intro v htext hbuffer
    rw [Act.told_contains hw hasked]
    cases v <;> first | rfl | exact absurd rfl htext | exact absurd rfl hbuffer

/-- A roll with one element and three slots is asked through a guard: neither the index before the
element nor the one behind it is good for anything. -/
theorem indices_exact_one :
    let s := initial.after
      [.call (.serve .makeRoll [.int 0 3]) (some "a"), .call (.ask "a" .add [.text 0 "x"]) none,
        .call (.serve .makeGuard [.register "a"]) (some "g")]
    let asked := Value.guarded (.kept 1) 0 ⟨0⟩
    s.Reachable ∧ s.register "g" = .ok asked ∧ (s.world.roll ⟨0⟩).capacity = 3 ∧
      s.failure? (.ask "g" .get [.int 1 (-1)]) none
        = some (.outOfRange (.ofInt (-1)) (.ofInt 1)) ∧
      s.failure? (.ask "g" .removeAt [.int 1 1]) none
        = some (.outOfRange (.ofInt 1) (.ofInt 1)) ∧
      (Act.ask asked .get [.ofInt 0]).spells asked s.world = .ok (.text "x") := by
  intro s asked
  have hreachable : s.Reachable := ⟨_, rfl⟩
  have hasked : asked.rollId? = some ⟨0⟩ := rfl
  have hregister : s.register "g" = .ok asked := rfl
  have hslots : (s.world.roll ⟨0⟩).capacity = 3 := by decide +kernel
  have htexts : s.world.texts ⟨0⟩ = ["x"] := by decide +kernel
  have hget : (Call.ask "g" .get [.int 1 (-1)]).request? s
      = some (asked, .get, [.int (.written 1) (-1)]) := rfl
  have hremove : (Call.ask "g" .removeAt [.int 1 1]).request? s
      = some (asked, .removeAt, [.int (.written 1) 1]) := rfl
  obtain ⟨hindex, -⟩ := indices_exact hreachable hasked
  -- from here on it does not matter what the session is
  clear_value s
  obtain ⟨hbefore, -⟩ := hindex (.int (.written 1) (-1)) (.numeral (-1)) rfl
  obtain ⟨-, hbehind, -⟩ := hindex (.int (.written 1) 1) (.numeral 1) rfl
  obtain ⟨-, -, -, hread⟩ := hindex (.ofInt 0) (.numeral 0) rfl
  rw [htexts] at hbefore hbehind hread
  have hfirst : ¬Act.Inside s.world ⟨0⟩ (.numeral (-1)) := fun h => absurd h.1 (by decide)
  have hlast : ¬Act.Inside s.world ⟨0⟩ (.numeral 1) := by
    unfold Act.Inside
    rw [htexts]
    decide
  refine ⟨hreachable, hregister, hslots, ?_, ?_, (hread 0 "x" rfl rfl).1⟩
  · rw [hbefore _ none hget, if_neg hfirst]
    exact congrArg some (if_pos (by decide +kernel))
  · rw [hbehind _ none hremove, if_neg hlast]
    exact congrArg some (if_pos (by decide +kernel))

/-- An index can be too long to be written out: a roll with no element does not tell that it has
none there. -/
theorem indices_exact_unwritable :
    let s := initial.after [.call (.serve .makeRoll []) (some "a")]
    (s.world.texts ⟨0⟩).length = 0 ∧
      (s.failure? (.ask "a" .get [.int 0 (10 ^ 4300)]) none matches some .tooManyDigits) := by
  decide +kernel

end Session

end TextRoll
