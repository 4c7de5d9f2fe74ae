/-
TextRoll/Proofs/Act/HandingOut.lean

What rolls take in and what they hand out.

A roll that is given a buffer stores another one with the same text (`addBuffer_stores`).
An element that is taken out is handed out, the very buffer that was stored, and it is
stored no longer (`remove_hands_out`).  An edit hands out the buffer that was edited
(`yields_edit`).
-/
import TextRoll.Proofs.Act.Answering
import TextRoll.Proofs.World.Owned

namespace TextRoll

namespace Act

variable {w w' : World} {r : RollId} {b : BufferId} {answer : Answer}

/-! ### Adding and taking out -/

/-- **What is stored for a buffer is another buffer,** a new one with the same text. -/
theorem addBuffer_stores {asked : Value} (hasked : asked.rollId? = some r) (hw : w.WellFormed)
    (h : (ask asked .addBuffer [.buffer b]).run w = .ok answer w') :
    answer = .nothing ∧
      ∃ stored, w'.elements r = w.elements r ++ [stored] ∧ stored ≠ b ∧
        w'.text stored = w.text b := by
  have hask : ask asked .addBuffer [.buffer b]
      = built b >>= fun t => appendText r t >>= fun _ => pure Answer.nothing := by
    cases asked <;> cases hasked <;> rfl
  rw [hask, run_bind_ok _ (run_built b w)] at h
  obtain ⟨u, w₁, happend, hdone⟩ := bind_eq_ok h
  cases hdone
  obtain ⟨l, growth, hok, hrolls, hbuffers⟩ := appendText_eq_ok happend
  refine ⟨rfl, (w.collapse b).freeBuffer, ?_, ?_, ?_⟩
  · show (w'.roll r).elements = _
    rw [World.roll_put_self hrolls]
    exact (Roll.Change.appended hok).elements_eq (hw r)
  · -- joining the pieces of `b` does not take the next free place
    have hsize : (w.collapse b).buffers.size = max w.buffers.size (b.index + 1) :=
      w.buffers.size_put_eq_max b.index _
    intro heq
    have hindex : (w.collapse b).buffers.size = b.index := congrArg BufferId.index heq
    omega
  · rw [World.text_of_issue hbuffers, Buffer.text_ofText]
    rfl

/-- The element that is taken out of a slot is handed out and no longer stored. -/
theorem takenFrom_hands_out (hw : w.Owned) {i : Nat} (hi : i < (w.roll r).elements.length)
    {outcome : Except Fault _}
    (houtcome : outcome = .ok ((w.roll r).elements[i], (w.roll r).without i))
    (h : (takenFrom r outcome).run w = .ok answer w') :
    ∃ b, answer = .value (.buffer b) ∧ b ∈ w.elements r ∧ w'.Loose b := by
  rw [run_takenFrom, houtcome] at h
  cases h
  have hoccurs : w.Occurs (.changed r (.element i) []) (w.setRoll r ((w.roll r).without i)) :=
    occurs_changed (.taken ((hw.wellFormed r).length_elements ▸ hi)) rfl rfl
  refine ⟨_, rfl, List.getElem_mem hi, hoccurs.loose_of_lost hw (List.getElem_mem hi) ?_⟩
  have hloss : (Event.changed r (.element i) []).lossOn r = .element i := Event.lossOn_changed ..
  have hne : (Event.changed r (.element i) []).lossOn r ≠ .nothing := by
    rw [hloss]
    nofun
  -- no element is stored twice, so it is not among the rest
  have hrest := hoccurs.elements_of_loss hw.wellFormed hne
  rw [hrest, hloss]
  exact Roll.Loss.not_mem_rest (hw.nodup r) hi

/-- **What is taken out is handed out and no longer stored.** -/
theorem remove_hands_out {asked : Value} {verb : Verb} {args : List Value}
    (hasked : asked.rollId? = some r) (hverb : verb = .remove ∨ verb = .removeAt) (hw : w.Owned)
    (h : (ask asked verb args).run w = .ok answer w') :
    ∃ b, answer = .value (.buffer b) ∧ b ∈ w.elements r ∧ w'.Loose b := by
  have hwell := hw.wellFormed r
  rcases hverb with rfl | rfl
  · cases args with
    | cons => cases asked <;> cases hasked <;> cases h
    | nil =>
      have hrun : (ask asked .remove []).run w = (takenFrom r (w.roll r).remove).run w := by
        cases asked <;> cases hasked <;> rfl
      rw [hrun] at h
      rcases hwell.remove_cases with ⟨hi, hremove⟩ | ⟨-, hremove⟩
      · exact takenFrom_hands_out hw hi hremove h
      · rw [hremove] at h
        cases h
  · rcases args with - | ⟨v, - | _⟩
    · cases asked <;> cases hasked <;> cases h
    · have hrun : (ask asked .removeAt [v]).run w
          = EStateM.run (MonadExcept.ofExcept (v.asIndex (w.roll r).length) >>= fun i =>
              takenFrom r ((w.roll r).removeAt i)) w := by
        cases asked <;> cases hasked <;> rfl
      rw [hrun] at h
      cases hv : v.asIndex (w.roll r).length with
      | error fault => rw [hv] at h; cases h
      | ok i =>
        rw [hv] at h
        replace h : (takenFrom r ((w.roll r).removeAt i)).run w = .ok answer w' := h
        rcases hwell.removeAt_cases i with ⟨hi, -, hremove⟩ | ⟨-, hremove⟩
        · exact takenFrom_hands_out hw hi hremove h
        · rw [hremove] at h
          cases h
    · cases asked <;> cases hasked <;> cases h

/-- Editing a buffer hands out the buffer itself. -/
theorem yields_edit {verb : Verb} (hverb : verb ∈ [.append, .appendLine, .extend, .clear])
    (b : BufferId) (args : List Value) : Yields (· = .itself) (ask (.buffer b) verb args) := by
  simp only [List.mem_cons, List.not_mem_nil, or_false] at hverb
  rcases hverb with rfl | rfl | rfl | rfl <;> rcases args with - | ⟨v, - | _⟩
  · exact .throw _
  · exact .bind fun _ => .bind fun _ => .pure rfl
  · exact .throw _
  · exact .bind fun _ => .pure rfl
  · exact .bind fun _ => .bind fun _ => .pure rfl
  · exact .throw _
  · exact .throw _
  · exact .bind fun _ => .bind fun _ => .bind fun _ => .pure rfl
  · exact .throw _
  · exact .bind fun _ => .pure rfl
  · exact .throw _
  · exact .throw _

end Act

end TextRoll
