/-
TextRoll/Proofs/Session/Draining.lean

The order in which elements are taken out.

A client that only ever takes out the current element gets the elements from the cursor to the end
in order, and then those before the cursor, the last one first: once nothing is left behind it, the
cursor is always at the last element.  The induction is on the requests, and what it carries is
where the cursor parts the elements (`Roll.Parted`).

Where the cursor is at the start it stays there, and a roll is a queue: texts are added at one end
and taken out at the other.  What a move adds (`Session.puts`) and takes (`Session.gets`) is read
off what it is told, and one move at a time what was taken and what is left are what there was and
what was added (`queue_move`).
-/
import TextRoll.Proofs.Roll.Parting
import TextRoll.Proofs.Session.Holding
import TextRoll.Proofs.Session.Watching

namespace TextRoll

/-- Whether an order leaves every content as it is. -/
def Order.leaves : Order → Bool
  | .add _ | .addBuffer _ | .clear | .remove | .removeAt _ | .seek _ | .advance | .retreat
  | .rewind => false
  | _ => true

namespace Content

variable {c : Content} {access : Access} {order : Order}

theorem obey_leaves (h : order.leaves = true) : (c.obey access order).2 = c := by
  cases houtcome : c.outcome access order with
  | error fault => rw [obey_of_error houtcome]
  | ok done =>
    rw [obey_of_ok houtcome]
    cases order with
    | add | addBuffer | clear | remove | removeAt | seek | advance | retreat | rewind => cases h
    | capacity | bookmark | figure => rw [same_of_outcome houtcome rfl]
    | hash | next | unknown => cases houtcome
    | assign name => cases name <;> cases houtcome
    | length | truth | cursor | texts | elements | contains | form | walk =>
      cases houtcome
      rfl
    | reserve | current | get =>
      obtain ⟨a, rfl⟩ := exists_of_map houtcome
      rfl

/-- At the start of the texts, the first one is taken out. -/
theorem obey_remove_cons {t : String} {rest : List String} (access : Access)
    (hindex : c.index = 0) (htexts : c.texts = t :: rest) :
    (c.obey access .remove).1 = .shows (.buffer t) ∧ (c.obey access .remove).2.texts = rest ∧
      (c.obey access .remove).2.index = 0 := by
  have houtcome : c.outcome access .remove = .ok (c.handingOut 0) := by
    have hcurrent : c.currentIndex "remove" = .ok 0 := by
      unfold currentIndex
      rw [htexts, hindex]
      rfl
    show (c.currentIndex "remove").map c.handingOut = _
    rw [hcurrent]
    rfl
  rw [obey_of_ok houtcome]
  refine ⟨?_, ?_, ?_⟩
  · show Reply.shows (.buffer (c.texts.getD 0 "")) = _
    rw [htexts]
    rfl
  · show c.texts.eraseIdx 0 = rest
    rw [htexts]
    rfl
  · show (c.cursorWithout 0).toNat = 0
    have hcursor : c.cursor.toNat = 0 := hindex
    unfold cursorWithout
    rw [hindex, htexts]
    dsimp only
    rw [if_neg (Nat.lt_irrefl 0), hcursor]
    split
    · next hle =>
      rw [Nat.le_zero.mp hle]
      rfl
    · exact hcursor

/-- What is added is the text that was given, of a text or of a buffer. -/
theorem obey_put {x : Argument} (c : Content) (access : Access)
    (h : order = .add x ∨ order = .addBuffer x) :
    (∃ t, x.sought? = some t ∧ c.obey access order = (.shows .null, c.added t)) ∨
      ∃ fault, c.obey access order = (.fails fault, c) := by
  rcases h with rfl | rfl
  · cases x with
    | text t => exact .inl ⟨t, rfl, rfl⟩
    | buffer | whole | real | other => exact .inr ⟨_, rfl⟩
  · cases x with
    | buffer t => exact .inl ⟨t, rfl, rfl⟩
    | text | whole | real | other => exact .inr ⟨_, rfl⟩

end Content

/-- Requests that neither add nor take something nor move the cursor leave every content. -/
theorem World.order_leaves {verb : Verb} (hverb : verb ∉ [.add, .addBuffer, .remove, .clear,
    .removeAt, .seek, .advance, .retreat, .rewind]) (w : World) (args : List Value) :
    (w.order verb args).leaves = true := by
  unfold World.order
  split <;> first | rfl | exact absurd (by decide) hverb

namespace Session

variable {s : Session} {r : RollId} {m : Move} {ms : List Move} {b : BufferId}
  {before behind : List BufferId}

/-! ### Taking out everything -/

/-- A move asks a roll to hand out its current element, directly or through a guard. -/
def AsksRemoval (r : RollId) (s : Session) (m : Move) : Prop :=
  ∃ asked, s.request? m = some (asked, .remove, []) ∧ asked.rollId? = some r

/-- Whoever holds a roll can ask it again and again. -/
theorem along_replicate_remove {name : String} (h : s.Holds name r) (n : Nat) :
    s.Along (AsksRemoval r) (List.replicate n (.ask name .remove)) := by
  induction n generalizing s with
  | zero => trivial
  | succ n ih =>
    obtain ⟨asked, hregister, hasked⟩ := id h
    exact ⟨⟨asked, request?_ask hregister rfl, hasked⟩, ih (h.ask name .remove)⟩

/-- The first element behind the cursor is handed out, and the others stay. -/
theorem removal_step (hs : s.world.Owned) (hm : AsksRemoval r s m)
    (hparted : (s.world.roll r).Parted before (b :: behind)) :
    s.handedOut m = [b] ∧ ((s.move m).world.roll r).Parted before behind ∧
      (s.world.roll r).Worn 1 ((s.move m).world.roll r) := by
  obtain ⟨asked, hrequest, hasked⟩ := hm
  have hwell := hs.wellFormed r
  have hlt : (s.world.roll r).cursor < (s.world.roll r).length := by
    rw [← hwell.length_elements]
    exact (List.getElem?_eq_some_iff.mp hparted.current_eq).1
  obtain ⟨hout, hroll⟩ := step_of_run hrequest (Act.run_ask_remove hasked hwell hparted.current_eq)
  rw [hroll]
  exact ⟨hout, hparted.without hwell, hwell.worn_without hlt⟩

/-- **Taking out everything:** first what is behind the cursor, and then backwards what is before
it. -/
theorem removals_run (hs : s.world.Owned) (hms : s.Along (AsksRemoval r) ms)
    (hparted : (s.world.roll r).Parted before behind)
    (hlength : ms.length = (before ++ behind).length) :
    s.trace handedOut ms = (behind ++ before.reverse).map (fun b => [b]) ∧
      ((s.after ms).world.roll r).Parted [] [] ∧
      (s.world.roll r).Worn ms.length ((s.after ms).world.roll r) := by
  induction ms generalizing s before behind with
  | nil =>
    obtain ⟨rfl, rfl⟩ := List.append_eq_nil_iff.mp (List.length_eq_zero_iff.mp hlength.symm)
    exact ⟨rfl, hparted, .refl _⟩
  | cons m ms ih =>
    obtain ⟨hm, hms⟩ := hms
    have hrest : ∀ before' b behind', (s.world.roll r).Parted before' (b :: behind') →
        ms.length = (before' ++ behind').length →
        s.trace handedOut (m :: ms) = ((b :: behind') ++ before'.reverse).map (fun b => [b]) ∧
          ((s.after (m :: ms)).world.roll r).Parted [] [] ∧
          (s.world.roll r).Worn (m :: ms).length ((s.after (m :: ms)).world.roll r) := by
      intro before' b behind' hparted hlength
      obtain ⟨hout, hnext, hworn⟩ := removal_step hs hm hparted
      obtain ⟨htrace, hend, hlater⟩ := ih (owned_move hs m) hms hnext hlength
      refine ⟨?_, hend, ?_⟩
      · show s.handedOut m :: (s.move m).trace handedOut ms = _
        rw [hout, htrace]
        rfl
      · rw [List.length_cons, Nat.add_comm]
        exact hworn.trans hlater
    cases behind with
    | cons b behind =>
      refine hrest before b behind hparted ?_
      simp only [List.length_append, List.length_cons] at hlength ⊢
      omega
    | nil =>
      -- nothing is left behind the cursor, so it is at the last element
      rcases List.eq_nil_or_concat before with rfl | ⟨front, b, rfl⟩
      · cases hlength
      · rw [List.concat_eq_append] at hparted hlength ⊢
        have hlast := hrest front b [] (Roll.Parted.last_iff.mpr hparted) (by
          simp only [List.length_append, List.length_cons, List.length_nil] at hlength ⊢
          omega)
        simpa using hlast

/-- From an empty roll nothing is handed out. -/
theorem removal_empty (hm : AsksRemoval r s m) (hzero : (s.world.roll r).length = 0) :
    s.hears m = some (.error (.emptyRoll (.ofText "remove"))) ∧ (s.move m).world = s.world := by
  obtain ⟨asked, hrequest, hasked⟩ := hm
  cases m with
  | enter | leave | finish => cases hrequest
  | call c keep =>
    obtain ⟨target, operands, rfl, htarget, hargs⟩ := request?_eq_some hrequest
    have hperform : ((Call.ask target .remove operands).perform s).run s.world
        = .error (.emptyRoll (.ofText "remove")) s.world := by
      rw [run_perform_ask htarget hargs, Act.run_ask_remove_empty hasked hzero]
    constructor
    · show some (((Call.ask target .remove operands).run keep s).1.outcome.mapError
        World.Refusal.fault) = _
      rw [run_call_error hperform]
      rfl
    · rw [world_move_call, hperform]

end Session

/-! ### Queues -/

/-- The text that a request puts behind the others, going by what it was given and what it was
told. -/
def World.put (w : World) : Verb → List Value → Except Fault Shown → List String
  | .add, [v], .ok _ | .addBuffer, [v], .ok _ => (w.argument v).sought?.toList
  | _, _, _ => []

/-- The text of the element that a request takes out at the cursor. -/
def Verb.got : Verb → Except Fault Shown → List String
  | .remove, .ok (.buffer t) => [t]
  | _, _ => []

theorem World.put_ok {verb : Verb} (hverb : verb = .add ∨ verb = .addBuffer) (w : World)
    (v : Value) (shown : Shown) :
    w.put verb [v] (.ok shown) = (w.argument v).sought?.toList := by
  rcases hverb with rfl | rfl <;> rfl

@[simp] theorem World.put_error (w : World) (verb : Verb) (args : List Value) (fault : Fault) :
    w.put verb args (.error fault) = [] := by
  unfold World.put
  split <;> first | rfl | contradiction

@[simp] theorem Verb.got_error (verb : Verb) (fault : Fault) : verb.got (.error fault) = [] := by
  unfold Verb.got
  split <;> first | rfl | contradiction

theorem World.put_of_ne {verb : Verb} (hadd : verb ≠ .add) (haddBuffer : verb ≠ .addBuffer)
    (w : World) (args : List Value) (told : Except Fault Shown) : w.put verb args told = [] := by
  unfold World.put
  split
  · exact absurd rfl hadd
  · exact absurd rfl haddBuffer
  · rfl

theorem Verb.got_of_ne {verb : Verb} (hremove : verb ≠ .remove) (told : Except Fault Shown) :
    verb.got told = [] := by
  unfold Verb.got
  split
  · exact absurd rfl hremove
  · rfl

namespace Act

variable {w : World} {r : RollId} {asked : Value} {verb : Verb} {args : List Value}

/-- From the first text on, what a request takes and what it leaves are what there was and what it
adds. -/
structure Queues (act : Act Answer) (w : World) (r : RollId) (verb : Verb) (args : List Value) :
    Prop where
  index_eq : ((act.worldAfter w).content r).index = 0
  texts_eq : verb.got (act.told w) ++ ((act.worldAfter w).content r).texts
    = (w.content r).texts ++ w.put verb args (act.told w)

/-- A request that fails leaves the queue. -/
theorem Queues.of_error {act : Act Answer} {fault : Fault} (hzero : (w.content r).index = 0)
    (htold : act.told w = .error fault) (hcontent : (act.worldAfter w).content r = w.content r) :
    act.Queues w r verb args := by
  refine ⟨hcontent ▸ hzero, ?_⟩
  rw [htold, hcontent, Verb.got_error, World.put_error, List.append_nil]
  rfl

/-- Adding puts a text behind the others. -/
theorem queues_put {act : Act Answer} {access : Access} {v : Value} {order : Order}
    (hzero : (w.content r).index = 0)
    (hverb : verb = .add ∨ verb = .addBuffer)
    (horder : order = .add (w.argument v) ∨ order = .addBuffer (w.argument v))
    (hobeys : act.Obeys w r ((w.content r).obey access order)) : act.Queues w r verb [v] := by
  have htells := hobeys.tells
  have hcontent := hobeys.content_eq
  rcases Content.obey_put (w.content r) access horder with
    ⟨t, hsought, hobey⟩ | ⟨fault, hobey⟩
  · rw [hobey] at htells hcontent
    replace htells : act.told w = .ok .null := htells
    refine ⟨hcontent ▸ hzero, ?_⟩
    rw [htells, hcontent, World.put_ok hverb, hsought, Verb.got_of_ne]
    · rfl
    · rcases hverb with rfl | rfl <;> nofun
  · rw [hobey] at htells hcontent
    exact .of_error hzero htells hcontent

/-- Taking out takes the first text, if there is one. -/
theorem queues_remove {act : Act Answer} {access : Access} (hzero : (w.content r).index = 0)
    (hobeys : act.Obeys w r ((w.content r).obey access .remove)) :
    act.Queues w r .remove args := by
  have htells := hobeys.tells
  have hcontent := hobeys.content_eq
  cases htexts : (w.content r).texts with
  | nil =>
    have houtcome : (w.content r).outcome access .remove
        = .error (.emptyRoll (.ofText "remove")) := by
      show ((w.content r).currentIndex "remove").map _ = _
      unfold Content.currentIndex
      rw [htexts]
      rfl
    rw [Content.obey_of_error houtcome] at htells hcontent
    exact .of_error hzero htells hcontent
  | cons t rest =>
    obtain ⟨hreply, hrest, hindex⟩ := Content.obey_remove_cons access hzero htexts
    rw [hreply] at htells
    replace htells : act.told w = .ok (.buffer t) := htells
    have hnone : w.put .remove args (.ok (.buffer t)) = [] :=
      World.put_of_ne (by decide) (by decide) w args _
    refine ⟨hcontent ▸ hindex, ?_⟩
    rw [htells, hcontent, hrest, htexts, hnone, List.append_nil]
    rfl

/-- Too few or too many arguments change nothing. -/
theorem queues_unknown {act : Act Answer} {access : Access} {verb' : Verb}
    (hzero : (w.content r).index = 0)
    (hobeys : act.Obeys w r ((w.content r).obey access (.unknown verb'))) :
    act.Queues w r verb args := .of_error hzero hobeys.tells hobeys.content_eq

/-- **What a request does to a queue.** -/
theorem ask_queues (hw : w.Owned) (hasked : asked.rollId? = some r) (args : List Value)
    (hverb : verb ∉ [.clear, .removeAt, .seek, .advance, .retreat, .rewind])
    (hzero : (w.content r).index = 0) : (ask asked verb args).Queues w r verb args := by
  rcases ask_complies hw hasked verb args with hobeys | ⟨-, fault, hrefused⟩
  · by_cases hput : verb = .add ∨ verb = .addBuffer
    · rcases args with - | ⟨v, - | ⟨u, rest⟩⟩
      · rcases hput with rfl | rfl <;> exact queues_unknown hzero hobeys
      · rcases hput with rfl | rfl
        · exact queues_put hzero (.inl rfl) (.inl rfl) hobeys
        · exact queues_put hzero (.inr rfl) (.inr rfl) hobeys
      · rcases hput with rfl | rfl <;> exact queues_unknown hzero hobeys
    · obtain ⟨hadd, haddBuffer⟩ := not_or.mp hput
      by_cases hremove : verb = .remove
      · subst hremove
        cases args with
        | nil => exact queues_remove hzero hobeys
        | cons => exact queues_unknown hzero hobeys
      · -- all other requests only read
        have hother : verb ∉ [.add, .addBuffer, .remove, .clear, .removeAt, .seek, .advance,
            .retreat, .rewind] := by
          simp only [List.mem_cons, not_or] at hverb ⊢
          exact ⟨hadd, haddBuffer, hremove, hverb⟩
        have hsame := hobeys.content_eq.trans
          (Content.obey_leaves (World.order_leaves hother w args))
        refine ⟨hsame ▸ hzero, ?_⟩
        rw [hsame, Verb.got_of_ne hremove, World.put_of_ne hadd haddBuffer, List.append_nil]
        rfl
  · exact .of_error hzero hrefused.told_eq hrefused.content_eq

end Act

namespace Session

variable {s : Session} {r : RollId} {m : Move} {ms : List Move}

/-- The text that a move puts behind the others of a roll. -/
def puts (r : RollId) (s : Session) (m : Move) : List String :=
  match s.request? m, s.told? r m with
  | some (_, verb, args), some told => s.world.put verb args told
  | _, _ => []

/-- The text of the element that a move takes out of a roll at its cursor. -/
def gets (r : RollId) (s : Session) (m : Move) : List String :=
  match s.request? m, s.told? r m with
  | some (_, verb, _), some told => verb.got told
  | _, _ => []

/-- A move does not move the cursor of a roll, takes out at most the current element, and does not
edit an element. -/
structure KeepsQueue (r : RollId) (s : Session) (m : Move) : Prop where
  unedited : ∀ i t, s.deed r m ≠ .edited i t
  unmoved : ∀ asked verb args, s.request? m = some (asked, verb, args) →
    asked.rollId? = some r → verb ∉ [.clear, .removeAt, .seek, .advance, .retreat, .rewind]

/-- Adding to a roll and taking out of it keep it a queue. -/
theorem keepsQueue_of_request {asked : Value} {verb : Verb} {args : List Value}
    (hrequest : s.request? m = some (asked, verb, args)) (hasked : asked.rollId? = some r)
    (hverb : verb ∈ [.add, .addBuffer, .remove]) : KeepsQueue r s m where
  unedited := by
    intro i t hdeed
    unfold deed at hdeed
    rw [hrequest] at hdeed
    dsimp only at hdeed
    rw [if_pos hasked] at hdeed
    unfold World.given at hdeed
    split at hdeed <;> cases hdeed
  unmoved := by
    intro asked' verb' args' heq _
    cases hrequest.symm.trans heq
    simp only [List.mem_cons, List.not_mem_nil, or_false] at hverb
    rcases hverb with rfl | rfl | rfl <;> decide

/-- **One move in a queue:** what it takes and what it leaves are what there was and what it
adds. -/
theorem queue_move (hs : s.world.Owned) (hm : KeepsQueue r s m)
    (hzero : (s.world.roll r).cursor = 0) :
    ((s.move m).world.roll r).cursor = 0 ∧
      gets r s m ++ (s.move m).world.texts r = s.world.texts r ++ puts r s m := by
  have hindex : (s.world.content r).index = 0 := (World.index_content _ r).trans hzero
  suffices hqueue : ((s.move m).world.content r).index = 0 ∧
      gets r s m ++ ((s.move m).world.content r).texts
        = (s.world.content r).texts ++ puts r s m by
    exact ⟨(World.index_content _ r).symm.trans hqueue.1, hqueue.2⟩
  by_cases hasked : ∃ asked verb args, s.request? m = some (asked, verb, args) ∧
      asked.rollId? = some r
  · obtain ⟨asked, verb, args, hrequest, hasked⟩ := hasked
    have hqueues := Act.ask_queues hs hasked args
      (hm.unmoved asked verb args hrequest hasked) hindex
    have htold : s.told? r m = some ((Act.ask asked verb args).told s.world) := by
      unfold told?
      rw [hrequest]
      exact if_pos hasked
    unfold gets puts
    rw [hrequest, htold]
    cases m with
    | enter | leave | finish => cases hrequest
    | call c keep =>
      rw [(content_move_call hs c keep r).1, worldAfter_perform hrequest]
      exact ⟨hqueues.index_eq, hqueues.texts_eq⟩
  · have hother : ∀ asked verb args, s.request? m = some (asked, verb, args) →
        asked.rollId? ≠ some r := fun asked verb args hrequest heq =>
      hasked ⟨asked, verb, args, hrequest, heq⟩
    have htold : s.told? r m = none := by
      unfold told?
      split
      · rfl
      · next asked verb args hrequest => exact if_neg (hother asked verb args hrequest)
    have hsame : (s.move m).world.content r = s.world.content r := by
      rw [(move_reacts hs r m).1]
      rcases deed_of_other hother with hdeed | ⟨i, t, hdeed⟩
      · rw [hdeed]
        rfl
      · exact absurd hdeed (hm.unedited i t)
    unfold gets puts
    rw [htold, hsame]
    cases s.request? m <;> exact ⟨hindex, (List.append_nil _).symm⟩

/-- **A queue over any run:** what was taken, in order, and what is left are what there was and what
was added, in order. -/
theorem queue_run (hs : s.world.Owned) (hms : s.Along (KeepsQueue r) ms)
    (hzero : (s.world.roll r).cursor = 0) :
    ((s.after ms).world.roll r).cursor = 0 ∧
      (s.trace (gets r) ms).flatten ++ (s.after ms).world.texts r
        = s.world.texts r ++ (s.trace (puts r) ms).flatten := by
  induction ms generalizing s with
  | nil => exact ⟨hzero, (List.append_nil _).symm⟩
  | cons m ms ih =>
    obtain ⟨hm, hms⟩ := hms
    obtain ⟨hnext, hmove⟩ := queue_move hs hm hzero
    obtain ⟨hend, hrest⟩ := ih (owned_move hs m) hms hnext
    refine ⟨hend, ?_⟩
    calc (s.trace (gets r) (m :: ms)).flatten ++ (s.after (m :: ms)).world.texts r
        = gets r s m ++ (((s.move m).trace (gets r) ms).flatten
            ++ ((s.move m).after ms).world.texts r) := List.append_assoc _ _ _
      _ = (gets r s m ++ (s.move m).world.texts r)
            ++ ((s.move m).trace (puts r) ms).flatten := by rw [hrest, List.append_assoc]
      _ = s.world.texts r ++ (s.trace (puts r) (m :: ms)).flatten := by
        rw [hmove, List.append_assoc]
        rfl

/-! ### The order -/

/-- **The order in which elements are taken out.** This holds of every roll of a reachable session,
asked directly or through guards. -/
theorem removal_order (hs : s.Reachable) (r : RollId) :
    let l := s.world.roll r
    -- as many requests as there are elements hand out all of them, first those from the cursor on
    (∀ ms, s.Along (AsksRemoval r) ms → ms.length = l.length →
      let ended := s.after ms
      s.trace handedOut ms
        = (l.elements.drop l.cursor ++ (l.elements.take l.cursor).reverse).map (fun b => [b]) ∧
      (ended.world.roll r).length = 0 ∧ (ended.world.roll r).cursor = 0 ∧
      (ended.world.roll r).capacity = l.capacity ∧
      -- and one more is refused, and changes nothing
      ∀ m, AsksRemoval r ended m →
        ended.hears m = some (.error (.emptyRoll (.ofText "remove"))) ∧
          (ended.move m).world = ended.world) ∧
    -- with the cursor at the start, what is taken and what is left are what there was and what is
    -- added
    (l.cursor = 0 → ∀ ms, s.Along (KeepsQueue r) ms →
      ((s.after ms).world.roll r).cursor = 0 ∧
        (s.trace (gets r) ms).flatten ++ (s.after ms).world.texts r
          = s.world.texts r ++ (s.trace (puts r) ms).flatten) := by
  intro l
  have howned := hs.owned
  have hwell : l.WellFormed := howned.wellFormed r
  refine ⟨fun ms hms hlength => ?_, fun hzero ms hms => queue_run howned hms hzero⟩
  rw [← hwell.length_elements, ← List.take_append_drop l.cursor l.elements] at hlength
  obtain ⟨htrace, hended, hworn⟩ := removals_run howned hms hwell.parted hlength
  have hempty : ((s.after ms).world.roll r).length = 0 := by
    rw [← ((owned_after howned ms).wellFormed r).length_elements, hended.elements_eq]
    rfl
  exact ⟨htrace, hempty, hended.cursor_eq, hworn.capacity_eq, fun m hm => removal_empty hm hempty⟩

/-- Of three elements with the cursor at the second, the second, the third and then the first are
handed out.  With the cursor at the start the first one is, and what is added comes last. -/
theorem removal_order_three :
    let s := initial.after
      [.call (.serve .makeRoll []) (some "a"), .call (.ask "a" .add [.text 0 "x"]) none,
        .call (.ask "a" .add [.text 1 "y"]) none, .call (.ask "a" .add [.text 2 "z"]) none]
    let s' := s.move (.ask "a" .advance)
    let taking := Move.ask "a" .remove
    let adding := Move.call (.ask "a" .add [.text 3 "x"]) none
    s.Reachable ∧ s'.Reachable ∧
      s'.trace handedOut [taking, taking, taking] = [[⟨1⟩], [⟨2⟩], [⟨0⟩]] ∧
      ((s'.after [taking, taking, taking]).world.roll ⟨0⟩).capacity
        = (s'.world.roll ⟨0⟩).capacity ∧
      s.trace (gets ⟨0⟩) [taking, adding] = [["x"], []] ∧
      (s.after [taking, adding]).world.texts ⟨0⟩ = ["y", "z", "x"] := by
  intro s s' taking adding
  have hreachable : s.Reachable := ⟨_, rfl⟩
  have hadvanced : s'.Reachable := hreachable.move _
  have hheld : s.Holds "a" ⟨0⟩ := ⟨.roll ⟨0⟩, rfl, rfl⟩
  have htaking : s'.Along (AsksRemoval ⟨0⟩) [taking, taking, taking] :=
    along_replicate_remove (hheld.ask "a" .advance) 3
  have htake : s.request? taking = some (.roll ⟨0⟩, .remove, []) := rfl
  have hadd : (s.move taking).request? adding = some (.roll ⟨0⟩, .add, [.text ⟨"x", .word⟩]) := rfl
  have hqueue : s.Along (KeepsQueue ⟨0⟩) [taking, adding] :=
    ⟨keepsQueue_of_request htake rfl (by decide), keepsQueue_of_request hadd rfl (by decide),
      trivial⟩
  have helements : (s'.world.roll ⟨0⟩).elements = [⟨0⟩, ⟨1⟩, ⟨2⟩] := by decide +kernel
  have hcursor : (s'.world.roll ⟨0⟩).cursor = 1 := by decide +kernel
  have hgets : s.trace (gets ⟨0⟩) [taking, adding] = [["x"], []] := by decide +kernel
  have hputs : s.trace (puts ⟨0⟩) [taking, adding] = [[], ["x"]] := by decide +kernel
  have htexts : s.world.texts ⟨0⟩ = ["x", "y", "z"] := by decide +kernel
  have hlength : (s'.world.roll ⟨0⟩).length = 3 := by decide +kernel
  obtain ⟨hdrained, -⟩ := removal_order hadvanced ⟨0⟩
  obtain ⟨htrace, -, -, hcapacity, -⟩ := hdrained _ htaking hlength.symm
  obtain ⟨-, hkept⟩ := (removal_order hreachable ⟨0⟩).2 (by decide +kernel) _ hqueue
  clear_value s'
  clear_value s
  rw [helements, hcursor] at htrace
  rw [hgets, hputs, htexts] at hkept
  exact ⟨hreachable, hadvanced, htrace, hcapacity, hgets, List.cons.inj hkept |>.2⟩

end Session

end TextRoll
