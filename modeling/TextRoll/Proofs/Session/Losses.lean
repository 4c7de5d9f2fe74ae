/-
TextRoll/Proofs/Session/Losses.lean

What it takes for a roll to lose something.

A roll loses elements only to a request to take them out, and an element loses its text only to
somebody who edits it: after any other move (`Session.SparesElements`) the texts that there were are
there still, in the same places, and what is new comes behind them (`texts_prefix_move`).  A roll
loses slots only to a clearing that gives back storage (`Session.Releases`), so somewhere in every
run after which there are fewer slots is such a clearing (`exists_releases`).
-/
import TextRoll.Proofs.Session.Peaks

namespace TextRoll

/-- What a request to a roll causes leaves all texts. -/
theorem World.Occurs.keepsTexts_of_answers {w w' : World} {e : Event} {r : RollId} {verb : Verb}
    {args : List Value} (h : w.Occurs e w') (he : e.Answers r verb args) : w.KeepsTexts w' := by
  cases h with
  | still hrolls htexts => exact htexts
  | changed hchange hrolls htexts => exact htexts
  | edited | created => exact he.elim

namespace Session

variable {s : Session} {r : RollId} {m : Move} {ms : List Move}

/-! ### Elements and their texts -/

/-- The move takes nothing out of a roll, and edits no element of it. -/
structure SparesElements (s : Session) (r : RollId) (m : Move) : Prop where
  removes : s.removes r m = false
  clears : s.clears r m = false
  edits : ∀ i text, s.deed r m = .edited i text → (s.world.texts r)[i]? = some text

/-- **A request to a roll** spares its elements, unless it is one to take them out. -/
theorem sparesElements_of_request {asked : Value} {verb : Verb} {args : List Value}
    (hrequest : s.request? m = some (asked, verb, args)) (hasked : asked.rollId? = some r)
    (hverb : verb ∉ [.remove, .removeAt, .clear]) : s.SparesElements r m := by
  simp only [List.mem_cons, List.not_mem_nil, or_false, not_or] at hverb
  obtain ⟨hremove, hremoveAt, hclear⟩ := hverb
  constructor
  · unfold removes does
    rw [hrequest]
    simp [hremove, hremoveAt]
  · unfold clears does
    rw [hrequest]
    simp [hclear]
  · intro i text hdeed
    unfold deed World.given at hdeed
    rw [hrequest] at hdeed
    dsimp only at hdeed
    rw [if_pos hasked] at hdeed
    split at hdeed <;> cases hdeed

/-- What a walk is asked spares all elements. -/
theorem sparesElements_of_walk {k : WalkId} {verb : Verb} {args : List Value}
    (hrequest : s.request? m = some (.walk k, verb, args)) : s.SparesElements r m := by
  constructor
  · unfold removes does
    rw [hrequest]
    rfl
  · unfold clears does
    rw [hrequest]
    rfl
  · intro i text hdeed
    unfold deed at hdeed
    rw [hrequest] at hdeed
    cases hdeed

/-- A request to a roll leaves the texts of all buffers, also if its answer is kept. -/
theorem keepsTexts_of_request (hs : s.world.Owned) {asked : Value} {verb : Verb}
    {args : List Value} (hrequest : s.request? m = some (asked, verb, args))
    (hasked : asked.rollId? = some r) : s.world.KeepsTexts (s.move m).world := by
  cases m with
  | enter | leave | finish => cases hrequest
  | call c keep =>
    have hdoes := does_perform s c s.world hs.wellFormed
    replace hrequest : c.request? s = some (asked, verb, args) := hrequest
    have hkept := (content_move_call hs c keep r).2
    cases hrun : (c.perform s).run s.world with
    | error fault w =>
      rw [Act.worldAfter_of_error hrun] at hkept
      cases (hdoes.error hrun).1 with
      | still hrolls htexts => exact htexts.trans hkept
    | ok result w =>
      rw [Act.worldAfter_of_ok hrun] at hkept
      obtain ⟨e, he, hoccurs⟩ := hdoes.ok hrun
      rw [hrequest] at he
      replace he : e.Fits asked verb args := he
      unfold Event.Fits at he
      rw [hasked] at he
      exact (hoccurs.keepsTexts_of_answers he).trans hkept

/-- **What is not taken out and not edited stays,** and what is added comes behind it. -/
theorem texts_prefix_move (hs : s.world.Owned) (h : s.SparesElements r m) :
    s.world.texts r <+: (s.move m).world.texts r := by
  by_cases hasked : ∃ asked verb args, s.request? m = some (asked, verb, args) ∧
      asked.rollId? = some r
  · obtain ⟨asked, verb, args, hrequest, hasked⟩ := hasked
    have htexts := keepsTexts_of_request hs hrequest hasked
    have hsame : (s.world.elements r).map (s.move m).world.text = s.world.texts r :=
      List.map_congr_left fun b hb => htexts.text_eq b (hs.issued r b hb)
    rw [← hsame]
    refine List.IsPrefix.map _ ?_
    obtain ⟨loss, htells, hrest | ⟨-, b, happended, -⟩⟩ := elements_move hs r m
    · cases loss with
      | nothing =>
        have hkept : (s.move m).world.elements r = s.world.elements r := hrest
        exact hkept ▸ List.prefix_rfl
      | element i => exact absurd htells.1 (by simp [h.removes])
      | everything => exact absurd htells.2 (by simp [h.clears])
    · exact happended ▸ List.prefix_append _ _
  · -- what is asked of something else edits one element at most
    have hother : ∀ asked verb args, s.request? m = some (asked, verb, args) →
        asked.rollId? ≠ some r := fun asked verb args hrequest heq =>
      hasked ⟨asked, verb, args, hrequest, heq⟩
    have hcontent := congrArg Content.texts (move_reacts hs r m).1
    have hsame : (s.move m).world.texts r = s.world.texts r := by
      rcases deed_of_other hother with hdeed | ⟨i, text, hdeed⟩
      · rw [hdeed] at hcontent
        exact hcontent
      · obtain ⟨hi, htext⟩ := List.getElem?_eq_some_iff.mp (h.edits i text hdeed)
        rw [hdeed] at hcontent
        exact hcontent.trans (htext ▸ List.set_getElem_self hi)
    exact hsame ▸ List.prefix_rfl

/-! ### Slots -/

/-- The move is a clearing that gives back storage. -/
structure Releases (s : Session) (r : RollId) (m : Move) : Prop where
  clears : s.clears r m = true
  release : s.world.truth (s.world.roll r).policy.releaseOnClear = true
  capacity_lt : ((s.move m).world.roll r).capacity < (s.world.roll r).capacity

/-- **Slots go only where storage is given back.** -/
theorem releases_of_lt (hs : s.world.Owned)
    (h : ((s.move m).world.roll r).capacity < (s.world.roll r).capacity) : s.Releases r m := by
  have hr : r.index < s.world.rolls.size := by
    by_contra hr
    have hnone : s.world.roll r = default := s.world.rolls.get_of_size_le (Nat.le_of_not_lt hr)
    rw [hnone] at h
    exact Nat.not_lt_zero _ h
  rcases roll_move_cases hs.wellFormed hr m with hsame | ⟨loss, bs, hchange, htells⟩
  · rw [hsame] at h
    exact absurd h (Nat.lt_irrefl _)
  · cases loss with
    | nothing => exact absurd (hchange.retains (hs.wellFormed r)).capacity_le (Nat.not_le.mpr h)
    | element i =>
      rcases hchange.slots_cases (hs.wellFormed r) with ⟨hkept, -⟩ | ⟨-, hgrown, -⟩ | ⟨hloss, -⟩ |
        ⟨hloss, -⟩
      · exact absurd hkept (Nat.ne_of_lt h)
      · exact absurd (hgrown ▸ Policy.lt_enlarged _ _) (Nat.lt_asymm h)
      · cases hloss
      · cases hloss
    | everything =>
      refine ⟨htells.2, ?_, h⟩
      obtain ⟨c, keep, asked, rfl, hrequest, hasked⟩ := clears_eq_true htells.2
      by_contra hkept
      rw [capacity_clear hrequest hasked keep, if_neg fun hboth => hkept hboth.1] at h
      exact absurd h (Nat.lt_irrefl _)

/-- Where there are fewer slots after a run, storage was given back on the way. -/
theorem exists_releases (hs : s.world.Owned)
    (h : ((s.after ms).world.roll r).capacity < (s.world.roll r).capacity) :
    ∃ made m later, ms = made ++ m :: later ∧ (s.after made).Releases r m := by
  induction ms generalizing s with
  | nil => exact absurd h (Nat.lt_irrefl _)
  | cons m ms ih =>
    by_cases hmove : ((s.move m).world.roll r).capacity < (s.world.roll r).capacity
    · exact ⟨[], m, ms, rfl, releases_of_lt hs hmove⟩
    · obtain ⟨made, m', later, rfl, hreleases⟩ :=
        ih (owned_move hs m) (Nat.lt_of_lt_of_le h (Nat.le_of_not_lt hmove))
      exact ⟨m :: made, m', later, rfl, hreleases⟩

end Session

end TextRoll
