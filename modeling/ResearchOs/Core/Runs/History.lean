import ResearchOs.Core.Runs.Safety

/-! What later events can no longer change about a run. -/
namespace ResearchOs.Runs

/-- A later record of the same attempt. -/
structure AttemptExtends (a b : AttemptSnapshot) : Prop where
  attemptId : b.attemptId = a.attemptId
  ordinal : b.ordinal = a.ordinal
  retryOf : b.retryOf = a.retryOf
  retryDecisionId : b.retryDecisionId = a.retryDecisionId
  cancellation : a.cancellationRequested = true → b.cancellationRequested = true
  terminal : a.status ∈ terminalAttemptStatuses → b = a

/-- A later snapshot of the same run. -/
structure RunExtends (s t : RunSnapshot) : Prop where
  projectId : t.projectId = s.projectId
  runId : t.runId = s.runId
  experimentRevision : t.experimentRevision = s.experimentRevision
  workflowId : t.workflowId = s.workflowId
  digests : t.digests = s.digests
  maxAttempts : t.maxAttempts = s.maxAttempts
  consumedAuthorization : t.consumedAuthorization = s.consumedAuthorization
  cancellation : s.cancellationRequested = true → t.cancellationRequested = true
  attempts : ∀ (i : Nat) (a : AttemptSnapshot), s.attempts[i]? = some a →
    ∃ b, t.attempts[i]? = some b ∧ AttemptExtends a b
  terminal : s.status ∈ terminalRunStatuses →
    t = { s with
      lastEventId := t.lastEventId
      lastSequence := t.lastSequence
      review := t.review }
  review : s.review.reviewed = true → t.review = s.review
  cursor : s.lastSequence.val ≤ t.lastSequence.val

theorem AttemptExtends.refl (a : AttemptSnapshot) : AttemptExtends a a :=
  ⟨rfl, rfl, rfl, rfl, id, fun _ => rfl⟩

theorem AttemptExtends.trans {a b c : AttemptSnapshot} (h : AttemptExtends a b)
    (h' : AttemptExtends b c) : AttemptExtends a c := by
  refine ⟨h'.attemptId.trans h.attemptId, h'.ordinal.trans h.ordinal, h'.retryOf.trans h.retryOf,
    h'.retryDecisionId.trans h.retryDecisionId, fun hc => h'.cancellation (h.cancellation hc), ?_⟩
  intro ht
  have hb := h.terminal ht
  subst hb
  exact h'.terminal ht

theorem RunExtends.refl (s : RunSnapshot) : RunExtends s s :=
  ⟨rfl, rfl, rfl, rfl, rfl, rfl, rfl, id, fun _ a ha => ⟨a, ha, .refl a⟩, fun _ => rfl,
    fun _ => rfl, le_refl _⟩

theorem RunExtends.trans {s t u : RunSnapshot} (h : RunExtends s t) (h' : RunExtends t u) :
    RunExtends s u := by
  refine ⟨h'.projectId.trans h.projectId, h'.runId.trans h.runId,
    h'.experimentRevision.trans h.experimentRevision, h'.workflowId.trans h.workflowId,
    h'.digests.trans h.digests, h'.maxAttempts.trans h.maxAttempts,
    h'.consumedAuthorization.trans h.consumedAuthorization,
    fun hc => h'.cancellation (h.cancellation hc), ?_, ?_, ?_, le_trans h.cursor h'.cursor⟩
  · intro i a ha
    obtain ⟨b, hb, hab⟩ := h.attempts i a ha
    obtain ⟨c, hc, hbc⟩ := h'.attempts i b hb
    exact ⟨c, hc, hab.trans hbc⟩
  · intro ht
    have hst := h.terminal ht
    have htu := h'.terminal (by rw [hst]; exact ht)
    rw [htu, hst]
  · intro hr
    have hst := h.review hr
    rw [h'.review (by rw [hst]; exact hr), hst]

variable {p : RunStateProjection} {s t : RunSnapshot} {e : ResearchEvent}

/-- The record an active attempt moves to. -/
theorem Moves.extends {attempt moved : AttemptSnapshot} (h : Moves e attempt moved)
    (hu : attempt.status.unresolved) : AttemptExtends attempt moved := by
  refine ⟨h.attemptId, h.ordinal, h.retryOf, h.retryDecisionId, h.cancellation, ?_⟩
  intro ht
  exfalso
  cases hs : attempt.status <;> simp [hs] at ht hu <;> revert ht hu <;> decide

theorem replaced_extends (hs : s.Invariant) {attempt moved : AttemptSnapshot}
    (ha : ActiveAttempt s attempt) (hm : Moves e attempt moved) (i : Nat) (a : AttemptSnapshot)
    (h : s.attempts[i]? = some a) :
    ∃ b, (replaced s.attempts moved)[i]? = some b ∧ AttemptExtends a b := by
  have hmem : a ∈ s.attempts := List.mem_of_getElem? h
  by_cases hid : a.attemptId = moved.attemptId
  · have hsame : a = attempt :=
      List.inj_on_of_nodup_map hs.linked.ids hmem (List.mem_of_find?_eq_some ha.found)
        (hid.trans hm.attemptId)
    subst hsame
    exact ⟨moved, by simp [replaced, h, hid], hm.extends ha.unresolved⟩
  · exact ⟨a, by simp [replaced, h, hid], .refl a⟩

/-- One accepted update only extends the run. -/
theorem Update.extends {u : RunSnapshot} (hu : Update s e u) (hf : Follows s e)
    (hs : s.Invariant) : RunExtends s (stamped u e) := by
  have hcursor := Nat.le_of_lt hf.cursor
  have hsame : ∀ (i : Nat) (a : AttemptSnapshot), s.attempts[i]? = some a →
      ∃ b, s.attempts[i]? = some b ∧ AttemptExtends a b := fun _ a ha => ⟨a, ha, .refl a⟩
  cases hu with
  | observed =>
    exact ⟨rfl, rfl, rfl, rfl, rfl, rfl, rfl, id, hsame, fun _ => rfl, fun _ => rfl, hcursor⟩
  | started hq =>
    have ht : s.status ∉ terminalRunStatuses := by rw [hq]; decide
    exact ⟨rfl, rfl, rfl, rfl, rfl, rfl, rfl, id, hsame, fun h => absurd h ht, fun _ => rfl, hcursor⟩
  | cancelRequested ht =>
    exact ⟨rfl, rfl, rfl, rfl, rfl, rfl, rfl, fun _ => rfl, hsame, fun h => absurd h ht,
      fun _ => rfl, hcursor⟩
  | closed ht _ =>
    exact ⟨rfl, rfl, rfl, rfl, rfl, rfl, rfl, id, hsame, fun h => absurd h ht, fun _ => rfl, hcursor⟩
  | reviewed decisionId _ hr =>
    exact ⟨rfl, rfl, rfl, rfl, rfl, rfl, rfl, id, hsame, fun _ => rfl,
      fun h => absurd h (by simp [hr]), hcursor⟩
  | attemptQueued attempt ht _ =>
    refine ⟨rfl, rfl, rfl, rfl, rfl, rfl, rfl, id, ?_, fun h => absurd h ht, fun _ => rfl, hcursor⟩
    intro i a ha
    refine ⟨a, ?_, .refl a⟩
    have hi : i < s.attempts.length := (List.getElem?_eq_some_iff.mp ha).1
    rw [← ha]
    exact List.getElem?_append_left hi
  | attemptMoved ht ha hm _ =>
    exact ⟨rfl, rfl, rfl, rfl, rfl, rfl, rfl, id, replaced_extends hs ha hm,
      fun h => absurd h ht, fun _ => rfl, hcursor⟩

/-- One accepted event, on a run that has been queued. -/
theorem apply_extends (hs : s.Invariant) {state : Option RunSnapshot}
    (h : p.apply (some s) e = .ok state) :
    ∃ t, state = some t ∧ t.Invariant ∧ RunExtends s t ∧
      (if belongs e p.projectId p.runId then
        s.lastSequence.val < e.sequence.val ∧ t.lastSequence = e.sequence
      else t = s) := by
  have hreply : Reply p e (some s) (p.apply (some s) e) := apply_reply (by simpa using hs)
  rw [h] at hreply
  cases hreply with
  | foreign hb => exact ⟨s, rfl, hs, .refl s, by simp [hb]⟩
  | moved hb hf hu =>
    refine ⟨_, rfl, hu.invariant hf hs, hu.extends hf hs, ?_⟩
    rw [if_pos hb]
    exact ⟨hf.cursor, rfl⟩

/-- The sequences of the events that carry this project and run. -/
def RunStateProjection.ownSequences (p : RunStateProjection) (events : List ResearchEvent) :
    List Nat :=
  (events.filter fun e => belongs e p.projectId p.runId).map (·.sequence.val)

theorem foldlM_apply_extends {later : List ResearchEvent} :
    ∀ {s : RunSnapshot} {state : Option RunSnapshot}, s.Invariant →
      later.foldlM p.apply (some s) = .ok state →
      ∃ t, state = some t ∧ RunExtends s t ∧
        (s.lastSequence.val :: p.ownSequences later).IsChain (· < ·) ∧
        t.lastSequence.val = (p.ownSequences later).getLastD s.lastSequence.val := by
  induction later with
  | nil =>
    intro s state _ h
    cases h
    exact ⟨s, rfl, .refl s, .singleton _, rfl⟩
  | cons e later ih =>
    intro s state hs h
    obtain ⟨middle, hmiddle, hrest⟩ := Fold.foldlM_cons_eq_ok.mp h
    obtain ⟨t, rfl, ht, hst, hcursor⟩ := apply_extends hs hmiddle
    obtain ⟨u, rfl, htu, hchain, hlast⟩ := ih ht hrest
    refine ⟨u, rfl, hst.trans htu, ?_⟩
    by_cases hb : belongs e p.projectId p.runId = true
    · rw [if_pos hb] at hcursor
      rw [hcursor.2] at hchain hlast
      simp only [RunStateProjection.ownSequences, List.filter_cons, hb, if_true, List.map_cons]
        at hchain hlast ⊢
      refine ⟨.cons_cons hcursor.1 hchain, ?_⟩
      rw [hlast, List.getLastD_cons]
    · rw [if_neg hb] at hcursor
      subst hcursor
      simp only [RunStateProjection.ownSequences, List.filter_cons, hb] at hchain hlast ⊢
      exact ⟨hchain, hlast⟩

/-- Every snapshot extends every earlier one, and the cursor follows the strictly increasing
sequences of the run's own events. -/
theorem fold_history_monotone (p : RunStateProjection) (events later : List ResearchEvent)
    (s : RunSnapshot) (state : Option RunSnapshot) (hs : p.fold events = .ok (some s))
    (h : p.fold (events ++ later) = .ok state) :
    ∃ t, state = some t ∧ RunExtends s t ∧
      (s.lastSequence.val :: p.ownSequences later).IsChain (· < ·) ∧
      t.lastSequence.val = (p.ownSequences later).getLastD s.lastSequence.val := by
  obtain ⟨middle, hmiddle, hlater⟩ := Fold.foldlM_append_eq_ok.mp h
  have hsame : middle = some s := by
    have := hmiddle.symm.trans hs
    exact Except.ok.inj this
  subst hsame
  exact foldlM_apply_extends (fold_invariant hs s rfl) hlater

theorem fold_history_monotone_trial :
    ∃ s t, trialProjection.fold [trialQueued, trialStarted] = .ok (some s) ∧
      trialProjection.fold trialEvents = .ok (some t) ∧ RunExtends s t := by
  obtain ⟨t, ht, hextends, _⟩ := fold_history_monotone trialProjection [trialQueued, trialStarted]
    [trialAttemptQueued, trialAttemptFailed, trialRetryQueued] _ _ rfl rfl
  obtain rfl := Option.some.inj ht
  exact ⟨_, _, rfl, rfl, hextends⟩

end ResearchOs.Runs
