import ResearchOs.Core.Runs.Accept
import ResearchOs.Core.Runs.Reducer
import ResearchOs.Core.Runs.History

/-! Every open run can still be closed. -/
namespace ResearchOs.Runs

variable {p : RunStateProjection} {s : RunSnapshot} {e : ResearchEvent}

/-- The binding of a snapshot, for the events that follow it. -/
def RunSnapshot.binding (s : RunSnapshot) : RunBinding := ⟨s.projectId, s.experimentRevision, s.runId⟩

/-- The event of this type right after the snapshot. -/
def nextEvent (s : RunSnapshot) (h : s.lastSequence.val < cloudEventsIntegerMax)
    (type : LifecycleType) (attemptId : Option EventIdentifier) (payload : Json.Members) :
    ResearchEvent :=
  lifecycleEvent s.binding
    ⟨s.lastSequence.val + 1, inRange_iff.mpr ⟨Nat.le_add_left 1 _, Nat.succ_le_of_lt h⟩⟩
    type attemptId payload

section

variable {h : s.lastSequence.val < cloudEventsIntegerMax} {type : LifecycleType}
  {attemptId : Option EventIdentifier} {payload : Json.Members}

theorem follows_nextEvent : Follows s (nextEvent s h type attemptId payload) :=
  ⟨Nat.lt_succ_self _, rfl, rfl, rfl⟩

theorem nextEvent_carries {parsed : LifecyclePayload} (hb : p.Bound s)
    (henvelope : attemptId = none ↔ type ∈ LifecycleType.runTypes)
    (hparse : payloadModel type (.obj payload) = some parsed) :
    Carries p (nextEvent s h type attemptId payload) type attemptId parsed where
  belongs := by
    rw [← hb.1, ← hb.2]
    exact belongs_lifecycleEvent
  lifecycle := lifecycleType?_lifecycleEvent
  block := rfl
  attempt := rfl
  envelope := henvelope
  parsed := hparse

/-- An event after an open run reaches the handler of its type, and an update that the handler
hands over is accepted. -/
theorem apply_nextEvent (h : s.lastSequence.val < cloudEventsIntegerMax) (type : LifecycleType)
    (attemptId : Option EventIdentifier) (payload : Json.Members) {parsed : LifecyclePayload}
    {u : RunSnapshot} (hs : s.Invariant) (hb : p.Bound s) (ht : s.status ∉ terminalRunStatuses)
    (henvelope : attemptId = none ↔ type ∈ LifecycleType.runTypes)
    (hparse : payloadModel type (.obj payload) = some parsed) (hreview : type ≠ .runReviewed)
    (hu : Update s (nextEvent s h type attemptId payload) u)
    (hhandler : (if type ∈ LifecycleType.runTypes then
        applyRunEvent type s (nextEvent s h type attemptId payload)
      else applyAttemptEvent type s (nextEvent s h type attemptId payload) parsed) =
        stamp u (nextEvent s h type attemptId payload)) :
    p.apply (some s) (nextEvent s h type attemptId payload) =
      .ok (some (stamped u (nextEvent s h type attemptId payload))) :=
  (nextEvent_carries hb henvelope hparse).apply hs follows_nextEvent ht hreview hu hhandler

end

/-- Lifecycle events that the projection accepts one after another and that close the run. -/
def ExitsWithin (p : RunStateProjection) (n : Nat) (s : RunSnapshot) : Prop :=
  ∃ exits : List ResearchEvent, exits.length ≤ n ∧
    (∀ e ∈ exits, (ResearchEvent.lifecycleType? e).isSome) ∧
    ∃ t, exits.foldlM p.apply (some s) = .ok (some t) ∧ t.status ∈ terminalRunStatuses

theorem ExitsWithin.closed {n : Nat} (h : s.status ∈ terminalRunStatuses) : ExitsWithin p n s :=
  ⟨[], Nat.zero_le n, by simp, s, rfl, h⟩

theorem ExitsWithin.step {n : Nat} {t : RunSnapshot} (h : s.lastSequence.val < cloudEventsIntegerMax)
    {type : LifecycleType} {attemptId : Option EventIdentifier} {payload : Json.Members}
    (happly : p.apply (some s) (nextEvent s h type attemptId payload) = .ok (some t))
    (ht : ExitsWithin p n t) : ExitsWithin p (n + 1) s := by
  obtain ⟨exits, hlength, htypes, u, hfold, hu⟩ := ht
  refine ⟨nextEvent s h type attemptId payload :: exits, Nat.succ_le_succ hlength, ?_, u, ?_, hu⟩
  · intro e he
    rcases List.mem_cons.mp he with rfl | he
    · exact Option.isSome_iff_exists.mpr ⟨type, lifecycleType?_lifecycleEvent⟩
    · exact htypes e he
  · exact Fold.foldlM_cons_eq_ok.mpr ⟨some t, happly, hfold⟩

def reasonPayload : Json.Members := [("reasonCode", .str "closed")]

def failurePayload : Json.Members :=
  [("reasonCode", .str "closed"), ("retryHint", .str "not-retryable")]

def closedReason : EventIdentifier := ⟨"closed", by decide⟩

theorem validateReasonCode_reasonPayload :
    validateReasonCode (.obj reasonPayload) = some (.reasonCode closedReason) := rfl

/-! One exit for each shape of an open run. -/

theorem exits_of_succeeded (hs : s.Invariant) (hb : p.Bound s) (ht : s.status ∉ terminalRunStatuses)
    (h : s.lastSequence.val < cloudEventsIntegerMax) (hl : latestSettledAs s .succeeded) :
    ExitsWithin p 1 s := by
  have happly := apply_nextEvent h .runCompleted none [] hs hb ht (by decide) rfl (by decide)
    (.closed ht (.completed hl)) (guardTransition_of hl)
  exact .step h happly (.closed (show RunStatus.completed ∈ terminalRunStatuses by decide))

theorem exits_of_failed (hs : s.Invariant) (hb : p.Bound s) (ht : s.status ∉ terminalRunStatuses)
    (h : s.lastSequence.val < cloudEventsIntegerMax) (hl : latestSettledAs s .failed) :
    ExitsWithin p 1 s := by
  have happly := apply_nextEvent h .runFailed none reasonPayload hs hb ht (by decide)
    validateReasonCode_reasonPayload (by decide) (.closed ht (.failed hl)) (guardTransition_of hl)
  exact .step h happly (.closed (show RunStatus.failed ∈ terminalRunStatuses by decide))

/-- A run without an open attempt that is not past a success or a failure can be cancelled. -/
theorem exits_of_cancellable (hs : s.Invariant) (hb : p.Bound s)
    (ht : s.status ∉ terminalRunStatuses) (h : s.lastSequence.val + 1 < cloudEventsIntegerMax)
    (hu : unresolvedAttempt s = none)
    (hl : ∀ latest ∈ latestAttempt s, latest.status = .cancelled) : ExitsWithin p 2 s := by
  have hone : s.lastSequence.val < cloudEventsIntegerMax := by omega
  have hopen : s.status ∈ runCancelRequestStatuses := by
    cases hstatus : s.status <;> simp [hstatus, terminalRunStatuses] at ht ⊢ <;> decide
  have hrequest := apply_nextEvent hone .runCancelRequested none reasonPayload hs hb ht (by decide)
    validateReasonCode_reasonPayload (by decide) (.cancelRequested ht) (guardTransition_of hopen)
  apply ExitsWithin.step hone hrequest
  have hs' := (Update.cancelRequested (e := nextEvent s hone .runCancelRequested none reasonPayload)
    ht).invariant follows_nextEvent hs
  generalize ht' : stamped { s with cancellationRequested := true }
    (nextEvent s hone .runCancelRequested none reasonPayload) = t at hs' ⊢
  have hcancelled : t.cancellationRequested = true := by rw [← ht']; rfl
  have hopen' : t.status ∉ terminalRunStatuses := by rw [← ht']; exact ht
  have hu' : unresolvedAttempt t = none := by rw [← ht']; exact hu
  have hl' : ∀ latest ∈ latestAttempt t, latest.status = .cancelled := by rw [← ht']; exact hl
  have hb' : p.Bound t := by rw [← ht']; exact hb
  have hnext : t.lastSequence.val < cloudEventsIntegerMax := by rw [← ht']; exact h
  have hhandler : applyRunCancelled t (nextEvent t hnext .runCancelled none []) =
      stamp { t with status := .cancelled, activeAttemptId := none }
        (nextEvent t hnext .runCancelled none []) := by
    rw [applyRunCancelled, guardTransition_of hcancelled, guardTransition_of hu',
      guardTransition_of hl']
  have hclose := apply_nextEvent hnext .runCancelled none [] hs' hb' hopen' (by decide) rfl
    (by decide) (.closed hopen' (.cancelled hcancelled hu' hl')) hhandler
  exact .step hnext hclose (.closed (show RunStatus.cancelled ∈ terminalRunStatuses by decide))

theorem validateAttemptFailed_failurePayload :
    validateAttemptFailed (.obj failurePayload) =
      some (.attemptFailed closedReason .notRetryable) := rfl

theorem unresolved_iff {status : AttemptStatus} :
    status.unresolved ↔ status ∈ attemptFailedStatuses ∧ status ∉ terminalAttemptStatuses := by
  cases status <;> decide

/-- The record `attempt.failed` leaves behind. -/
def failedAttempt (attempt : AttemptSnapshot) (e : ResearchEvent) : AttemptSnapshot :=
  { attempt with
    status := .failed
    lastEventId := e.id
    lastSequence := e.sequence
    retryHint := some .notRetryable }

def failedRun (s : RunSnapshot) (attempt : AttemptSnapshot) (e : ResearchEvent) : RunSnapshot :=
  { s with
    status := .retryPending
    activeAttemptId := none
    attempts := replaced s.attempts (failedAttempt attempt e) }

theorem failedAttempt_moves (attempt : AttemptSnapshot) :
    Moves e attempt (failedAttempt attempt e) :=
  ⟨rfl, rfl, rfl, rfl, id, fun _ => rfl, fun h => absurd rfl h, rfl, rfl, .inl rfl⟩

theorem applyAttemptEvent_failed {attempt : AttemptSnapshot} {reasonCode : EventIdentifier}
    (ha : ActiveAttempt s attempt) (hid : e.data.attemptId = some attempt.attemptId) :
    applyAttemptEvent .attemptFailed s e (.attemptFailed reasonCode .notRetryable) =
      stamp (failedRun s attempt e) e := by
  have hopen := unresolved_iff.mp ha.unresolved
  rw [applyAttemptEvent_active ha hid (by decide)]
  simp only [applyActiveAttemptEvent, transitionAttempt]
  rw [guardTransition_of hopen.1]
  rfl

theorem failedRun_update {attempt : AttemptSnapshot} (ht : s.status ∉ terminalRunStatuses)
    (ha : ActiveAttempt s attempt) : Update s e (failedRun s attempt e) :=
  .attemptMoved ht ha (failedAttempt_moves attempt) (.inl rfl)

theorem RunSnapshot.Invariant.settledAs_failed (hs : s.Invariant)
    (hstatus : s.status = .retryPending) : latestSettledAs s .failed := by
  have hlatest : s.attempts.getLast?.map (·.status) = some .failed := by
    simpa [hstatus, RunStatus.admits] using hs.status
  refine ⟨hlatest, ?_⟩
  obtain ⟨latest, hlast, hfailed⟩ := Option.map_eq_some_iff.mp hlatest
  rw [unresolvedAttempt, hs.unresolved, hlast]
  simp [Option.filter, hfailed, AttemptStatus.unresolved, unresolvedAttemptStatuses]

/-- An open attempt is failed first, and then its run. -/
theorem exits_of_unresolved (hs : s.Invariant) (hb : p.Bound s)
    (ht : s.status ∉ terminalRunStatuses) (h : s.lastSequence.val + 1 < cloudEventsIntegerMax)
    {attempt : AttemptSnapshot} (ha : ActiveAttempt s attempt) : ExitsWithin p 2 s := by
  have hone : s.lastSequence.val < cloudEventsIntegerMax := by omega
  have hfail := apply_nextEvent hone .attemptFailed (some attempt.attemptId) failurePayload hs hb ht
    (by simp [LifecycleType.runTypes]) validateAttemptFailed_failurePayload (by decide)
    (failedRun_update ht ha) ((if_neg (by decide)).trans (applyAttemptEvent_failed ha rfl))
  apply ExitsWithin.step hone hfail
  apply exits_of_failed
  · exact (failedRun_update ht ha).invariant follows_nextEvent hs
  · exact hb
  · exact (show RunStatus.retryPending ∉ terminalRunStatuses by decide)
  · exact h
  · apply RunSnapshot.Invariant.settledAs_failed
    · exact (failedRun_update ht ha).invariant follows_nextEvent hs
    · rfl

theorem ExitsWithin.mono {m n : Nat} (h : ExitsWithin p m s) (hmn : m ≤ n) : ExitsWithin p n s := by
  obtain ⟨exits, hlength, hrest⟩ := h
  exact ⟨exits, le_trans hlength hmn, hrest⟩

theorem RunSnapshot.Invariant.findAttempt_of_mem (hs : s.Invariant) {attempt : AttemptSnapshot}
    (h : attempt ∈ s.attempts) : findAttempt s attempt.attemptId = some attempt := by
  cases hf : findAttempt s attempt.attemptId with
  | none => exact absurd (List.find?_eq_none.mp hf attempt h) (by simp)
  | some found =>
    have hid : found.attemptId = attempt.attemptId := by simpa using List.find?_some hf
    have hsame := List.inj_on_of_nodup_map hs.linked.ids (List.mem_of_find?_eq_some hf) h hid
    rw [hsame]

theorem activeAttempt_of_unresolved (hs : s.Invariant) {attempt : AttemptSnapshot}
    (hl : s.attempts.getLast? = some attempt) (hu : attempt.status.unresolved) :
    ActiveAttempt s attempt := by
  have hmem := List.mem_of_getLast? hl
  exact ⟨hs.findAttempt_of_mem hmem, (hs.unresolved_iff_active hmem).mp hu, hu⟩

theorem exits_of_open (hs : s.Invariant) (hb : p.Bound s) (ht : s.status ∉ terminalRunStatuses)
    (h : s.lastSequence.val + 1 < cloudEventsIntegerMax) : ExitsWithin p 2 s := by
  have hone : s.lastSequence.val < cloudEventsIntegerMax := by omega
  cases hl : s.attempts.getLast? with
  | none =>
    have hu : unresolvedAttempt s = none := by
      rw [unresolvedAttempt, hs.unresolved, hl]
      rfl
    exact exits_of_cancellable hs hb ht h hu (by simp [latestAttempt, hl])
  | some latest =>
    by_cases hopen : latest.status.unresolved
    · exact exits_of_unresolved hs hb ht h (activeAttempt_of_unresolved hs hl hopen)
    · have hu : unresolvedAttempt s = none := by
        rw [unresolvedAttempt, hs.unresolved, hl]
        simp [Option.filter, hopen]
      have hsettled : ∀ status, latest.status = status → latestSettledAs s status := by
        intro status hstatus
        exact ⟨by simp [latestAttempt, hl, hstatus], hu⟩
      cases hstatus : latest.status with
      | succeeded => exact (exits_of_succeeded hs hb ht hone (hsettled _ hstatus)).mono (by decide)
      | failed => exact (exits_of_failed hs hb ht hone (hsettled _ hstatus)).mono (by decide)
      | cancelled =>
        exact exits_of_cancellable hs hb ht h hu (by simp [latestAttempt, hl, hstatus])
      | _ => exact absurd (by rw [hstatus]; decide) hopen

/-- From every open snapshot two more events are enough to reach a terminal status. -/
theorem open_run_exits (p : RunStateProjection) (events : List ResearchEvent) (s : RunSnapshot)
    (h : p.fold events = .ok (some s)) (ht : s.status ∉ terminalRunStatuses)
    (hleft : s.lastSequence.val + 2 ≤ cloudEventsIntegerMax) :
    ∃ exits : List ResearchEvent, exits.length ≤ 2 ∧
      (∀ e ∈ exits, (ResearchEvent.lifecycleType? e).isSome) ∧
      ∃ t, p.fold (events ++ exits) = .ok (some t) ∧ t.status ∈ terminalRunStatuses := by
  have hexits := exits_of_open (fold_invariant h s rfl) (fold_bound h s rfl) ht (by omega)
  obtain ⟨exits, hlength, htypes, t, hfold, hterminal⟩ := hexits
  refine ⟨exits, hlength, htypes, t, ?_, hterminal⟩
  exact Fold.foldlM_append_eq_ok.mpr ⟨some s, h, hfold⟩

theorem open_run_exits_trial :
    ∃ exits t, trialProjection.fold (trialEvents ++ exits) = .ok (some t) ∧
      t.status ∈ terminalRunStatuses := by
  obtain ⟨exits, _, _, t, hfold, ht⟩ :=
    open_run_exits trialProjection trialEvents _ rfl (by decide) (by decide)
  exact ⟨exits, t, hfold, ht⟩

end ResearchOs.Runs
