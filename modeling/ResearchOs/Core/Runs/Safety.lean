import ResearchOs.Core.Runs.Reducer
import ResearchOs.Core.Runs.Update

/-! Every snapshot the projection produces satisfies the invariant, and no event is rejected
by the final re-validation. -/
namespace ResearchOs.Runs

/-- What `apply` answers when the snapshot satisfies the invariant. -/
inductive Reply (p : RunStateProjection) (e : ResearchEvent) :
    Option RunSnapshot → Except RunError (Option RunSnapshot) → Prop
  | foreign {state : Option RunSnapshot} (h : belongs e p.projectId p.runId = false) :
      Reply p e state (.ok state)
  | unqueued : Reply p e none (.ok none)
  | opened {runId : EventIdentifier} (payload : RunQueuedPayload)
      (h : belongs e p.projectId p.runId = true) (hr : e.data.runId = some runId) :
      Reply p e none (.ok (some (queuedSnapshot e payload runId)))
  | transition {state : Option RunSnapshot} (message : String) :
      Reply p e state (.error (.transition message))
  | payload {state : Option RunSnapshot} (message : String) :
      Reply p e state (.error (.payload message))
  | moved {s u : RunSnapshot} (h : belongs e p.projectId p.runId = true) (hf : Follows s e)
      (hu : Update s e u) : Reply p e (some s) (.ok (some (stamped u e)))

variable {p : RunStateProjection} {s : RunSnapshot} {e : ResearchEvent}

theorem stamp_of_invariant {u : RunSnapshot} (h : (stamped u e).Invariant) :
    stamp u e = .ok (stamped u e) := by
  simp only [stamp, h.accepted]

/-- `_stamp` never rejects an update that a handler hands over. -/
theorem Outcome.reply {result : Except RunError RunSnapshot} (hs : s.Invariant)
    (hb : belongs e p.projectId p.runId = true) (hf : Follows s e) (h : Outcome s e result) :
    Reply p e (some s) (some <$> result) := by
  cases h with
  | transition message => exact .transition message
  | payload message => exact .payload message
  | stamped hu =>
    rw [stamp_of_invariant (hu.invariant hf hs)]
    exact .moved hb hf hu

theorem queuedSnapshot_invariant {payload : RunQueuedPayload} {runId : EventIdentifier} :
    (queuedSnapshot e payload runId).Invariant := by
  refine ⟨⟨?_, ?_, .nil, .nil⟩, Nat.zero_le _, rfl, rfl, ?_, rfl, ?_, ?_⟩
  · simp [queuedSnapshot]
  · simp [queuedSnapshot]
  · simp [queuedSnapshot]
  · simp [queuedSnapshot, noReview]
  · simp [queuedSnapshot, noReview, cursorWithin]

theorem applyFirst_reply {type : LifecycleType} {payload : LifecyclePayload}
    (hb : belongs e p.projectId p.runId = true) :
    Reply p e none (some <$> applyFirst type e payload) := by
  apply guardTransition_elim (P := fun r => Reply p e none (some <$> r)) .transition
  intro _
  cases payload with
  | runQueued payload =>
    cases hr : e.data.runId with
    | none => exact .transition _
    | some runId =>
      have haccepted : assertRunSnapshotInvariants (queuedSnapshot e payload runId) = .ok () :=
        queuedSnapshot_invariant.accepted
      simp only [validated, haccepted]
      exact .opened payload hb hr
  | _ => exact .payload _

theorem applyLifecycle_reply {type : LifecycleType} {state : Option RunSnapshot}
    (hs : ∀ s ∈ state, s.Invariant) (hb : belongs e p.projectId p.runId = true) :
    Reply p e state (some <$> RunStateProjection.applyLifecycle type state e) := by
  simp only [RunStateProjection.applyLifecycle, requireLifecycleEnvelope, bind_assoc]
  apply guardTransition_elim (P := fun r => Reply p e state (some <$> r)) .transition
  intro _
  apply guardTransition_elim (P := fun r => Reply p e state (some <$> r)) .transition
  intro _
  apply guardTransition_elim (P := fun r => Reply p e state (some <$> r)) .transition
  intro _
  unfold parseLifecyclePayload
  cases payloadModel type (.obj e.data.payload) with
  | none => exact .payload _
  | some payload =>
    cases state with
    | none => exact applyFirst_reply hb
    | some s =>
      have hinv := hs s rfl
      apply requireCursorAndBinding_elim (P := fun r => Reply p e (some s) (some <$> r)) .transition
      intro hf
      by_cases hr : type = .runReviewed
      · rw [if_pos hr]
        exact applyRunReviewed_outcome.reply hinv hb hf
      · rw [if_neg hr]
        apply guardTransition_elim (P := fun r => Reply p e (some s) (some <$> r)) .transition
        intro ht
        by_cases hrun : type ∈ LifecycleType.runTypes
        · rw [if_pos hrun]
          exact (applyRunEvent_outcome ht).reply hinv hb hf
        · rw [if_neg hrun]
          exact (applyAttemptEvent_outcome ht).reply hinv hb hf

theorem apply_reply {state : Option RunSnapshot} (hs : ∀ s ∈ state, s.Invariant) :
    Reply p e state (p.apply state e) := by
  unfold RunStateProjection.apply
  by_cases hb : belongs e p.projectId p.runId = true
  · rw [if_pos hb]
    cases ResearchEvent.lifecycleType? e with
    | some type => exact applyLifecycle_reply hs hb
    | none =>
      cases state with
      | none => exact .unqueued
      | some s =>
        apply requireCursorAndBinding_elim (P := Reply p e (some s)) .transition
        intro hf
        exact Outcome.reply (hs s rfl) hb hf (.stamped .observed)
  · rw [if_neg hb]
    exact .foreign (by simpa using hb)

/-- The invariant after one accepted event. -/
theorem Reply.invariant {state state' : Option RunSnapshot} (h : Reply p e state (.ok state'))
    (hs : ∀ s ∈ state, s.Invariant) : ∀ s ∈ state', s.Invariant := by
  cases h with
  | foreign _ => exact hs
  | unqueued => simp
  | opened payload _ _ =>
    intro s hmem
    obtain rfl := Option.some.inj hmem
    exact queuedSnapshot_invariant
  | moved _ hf hu =>
    intro s hmem
    obtain rfl := Option.some.inj hmem
    exact hu.invariant hf (hs _ rfl)

theorem foldlM_apply_invariant {events : List ResearchEvent} {state state' : Option RunSnapshot}
    (hs : ∀ s ∈ state, s.Invariant) (h : events.foldlM p.apply state = .ok state') :
    ∀ s ∈ state', s.Invariant := by
  refine Fold.foldlM_invariant (P := fun state => ∀ s ∈ state, RunSnapshot.Invariant s) ?_ hs h
  intro state e state' hstate happly
  have hreply := apply_reply (p := p) (e := e) hstate
  rw [happly] at hreply
  exact hreply.invariant hstate

theorem fold_invariant {events : List ResearchEvent} {state : Option RunSnapshot}
    (h : p.fold events = .ok state) : ∀ s ∈ state, s.Invariant :=
  foldlM_apply_invariant (by simp) h

/-- The snapshots of a projection carry its own project and run. -/
def RunStateProjection.Bound (p : RunStateProjection) (s : RunSnapshot) : Prop :=
  s.projectId = p.projectId ∧ s.runId = p.runId

theorem belongs_iff {projectId runId : EventIdentifier} :
    belongs e projectId runId = true ↔ e.data.projectId = projectId ∧ e.data.runId = some runId := by
  simp [belongs]

theorem Update.bound {u : RunSnapshot} (hu : Update s e u) :
    (stamped u e).projectId = s.projectId ∧ (stamped u e).runId = s.runId := by
  cases hu <;> exact ⟨rfl, rfl⟩

theorem Reply.bound {state state' : Option RunSnapshot} (h : Reply p e state (.ok state'))
    (hs : ∀ s ∈ state, p.Bound s) : ∀ s ∈ state', p.Bound s := by
  cases h with
  | foreign _ => exact hs
  | unqueued => simp
  | opened payload hb hr =>
    rintro s ⟨⟩
    obtain ⟨hproject, hrun⟩ := belongs_iff.mp hb
    exact ⟨hproject, Option.some.inj (hr.symm.trans hrun)⟩
  | moved hb hf hu =>
    rintro s ⟨⟩
    obtain ⟨hproject, hrun⟩ := hs _ rfl
    exact ⟨hu.bound.1.trans hproject, hu.bound.2.trans hrun⟩

/-- What one accepted event keeps. -/
theorem apply_keeps {state state' : Option RunSnapshot}
    (hs : ∀ s ∈ state, s.Invariant ∧ p.Bound s) (h : p.apply state e = .ok state') :
    ∀ s ∈ state', s.Invariant ∧ p.Bound s := by
  have hinvariant := fun s hmem => (hs s hmem).1
  have hreply := apply_reply (p := p) (e := e) hinvariant
  rw [h] at hreply
  intro s hmem
  exact ⟨hreply.invariant hinvariant s hmem, hreply.bound (fun s hmem => (hs s hmem).2) s hmem⟩

theorem fold_bound {events : List ResearchEvent} {state : Option RunSnapshot}
    (h : p.fold events = .ok state) : ∀ s ∈ state, p.Bound s := by
  suffices hall : ∀ s ∈ state, s.Invariant ∧ p.Bound s from fun s hs => (hall s hs).2
  exact Fold.foldlM_invariant
    (P := fun state => ∀ s ∈ state, RunSnapshot.Invariant s ∧ p.Bound s)
    (fun _ _ _ hstate happly => apply_keeps hstate happly) (by simp) h

theorem RunSnapshot.Invariant.unresolved_iff_active (h : s.Invariant) {a : AttemptSnapshot}
    (ha : a ∈ s.attempts) :
    a.status.unresolved ↔ s.activeAttemptId = some a.attemptId := by
  constructor
  · intro hu
    obtain ⟨earlier, heq⟩ := h.linked.eq_concat_of_unresolved ha hu
    simp [h.active, heq, Option.filter, hu]
  · intro hactive
    rw [h.active] at hactive
    obtain ⟨latest, hlatest, hid⟩ := Option.map_eq_some_iff.mp hactive
    obtain ⟨hlast, hu⟩ := Option.filter_eq_some_iff.mp hlatest
    have hsame : latest = a :=
      List.inj_on_of_nodup_map h.linked.ids (List.mem_of_getLast? hlast) ha hid
    rw [← hsame]
    simpa using hu

theorem RunSnapshot.Invariant.unresolved_is_latest (h : s.Invariant) {a : AttemptSnapshot}
    (ha : a ∈ s.attempts) (hu : a.status.unresolved) : s.attempts.getLast? = some a := by
  obtain ⟨earlier, heq⟩ := h.linked.eq_concat_of_unresolved ha hu
  simp [heq]

/-- Every produced snapshot is accepted by `assert_run_snapshot_invariants`, only its latest
attempt can be open, and the next event is only ever rejected at a guard of its handler. -/
theorem fold_snapshot_represented (p : RunStateProjection) (events : List ResearchEvent)
    (state : Option RunSnapshot) (h : p.fold events = .ok state) :
    (∀ s ∈ state, assertRunSnapshotInvariants s = .ok () ∧ s.Invariant ∧
      ∀ a ∈ s.attempts, (a.status.unresolved ↔ s.activeAttemptId = some a.attemptId) ∧
        (a.status.unresolved → s.attempts.getLast? = some a)) ∧
    ∀ event error, p.apply state event = .error error →
      ∃ message, error = .transition message ∨ error = .payload message := by
  have hinvariant := fold_invariant h
  constructor
  · intro s hs
    have hs := hinvariant s hs
    refine ⟨hs.accepted, hs, ?_⟩
    intro a ha
    exact ⟨hs.unresolved_iff_active ha, hs.unresolved_is_latest ha⟩
  · intro event error herror
    have hreply := apply_reply (p := p) (e := event) hinvariant
    rw [herror] at hreply
    cases hreply with
    | transition message => exact ⟨message, .inl rfl⟩
    | payload message => exact ⟨message, .inr rfl⟩

/-! A run whose first attempt fails and is retried. -/

def trialRun : RunBinding := ⟨⟨"project", .refl true⟩, ⟨1, .refl true⟩, ⟨"run-1", .refl true⟩⟩

def trialProjection : RunStateProjection := ⟨trialRun.projectId, trialRun.runId⟩

def trialDigest : String := "sha256:0000000000000000000000000000000000000000000000000000000000000000"

def trialQueued : ResearchEvent :=
  lifecycleEvent trialRun ⟨1, .refl true⟩ .runQueued none
    [("maxAttempts", .int 2), ("planDigest", .str trialDigest), ("registryDigest", .str trialDigest),
      ("specDigest", .str trialDigest), ("workflowId", .str "flow")]

def trialStarted : ResearchEvent := lifecycleEvent trialRun ⟨2, .refl true⟩ .runStarted none []

def trialAttemptId : EventIdentifier := ⟨"attempt-1", by decide⟩

def trialAttemptQueued : ResearchEvent :=
  lifecycleEvent trialRun ⟨3, .refl true⟩ .attemptQueued (some trialAttemptId)
    [("ordinal", .int 1), ("retryDecisionId", .null), ("retryOf", .null)]

def trialAttemptFailed : ResearchEvent :=
  lifecycleEvent trialRun ⟨4, .refl true⟩ .attemptFailed (some trialAttemptId)
    [("reasonCode", .str "crash"), ("retryHint", .str "retryable")]

def trialRetryQueued : ResearchEvent :=
  lifecycleEvent trialRun ⟨5, .refl true⟩ .attemptQueued (some ⟨"attempt-2", .refl true⟩)
    [("ordinal", .int 2), ("retryDecisionId", .str "decision-1"), ("retryOf", .str "attempt-1")]

def trialEvents : List ResearchEvent :=
  [trialQueued, trialStarted, trialAttemptQueued, trialAttemptFailed, trialRetryQueued]

theorem fold_snapshot_represented_trial :
    ∃ s, trialProjection.fold trialEvents = .ok (some s) ∧ s.attempts.length = 2 ∧
      assertRunSnapshotInvariants s = .ok () :=
  ⟨_, rfl, rfl, ((fold_snapshot_represented trialProjection trialEvents _ rfl).1 _ rfl).1⟩

end ResearchOs.Runs
