import ResearchOs.Core.Recovery.Reconcile
import ResearchOs.Core.Runs.Start
import ResearchOs.Core.Workers.Exclusive
import ResearchOs.Core.Workers.Isolation

/-! On which lease the outcome of a run rests. -/
namespace ResearchOs.Recovery

open Runs (LifecycleType RunStateProjection RunSnapshot AttemptStatus RunStatus RunControlResult
  findAttempt startEvents startEvents_fold)
open Storage (EventLog)
open Workers (WorkerFold LeaseRecord LeaseStatus WorkQueuedPayload WorkLeasedPayload Names Live
  Grantable applyQueued applyLeased applyQueued_duplicate applyLeased_conflict active_iff_live
  duplicateWork leaseConflict mem_leases_ofRun parseRfc3339)

/-- How a settled lease ended. -/
inductive LeaseOutcome where
  | completed
  | failed (reasonCode : String)
  deriving DecidableEq, Repr

def outcome (lease : LeaseRecord) : Option LeaseOutcome :=
  match lease.status with
  | .completed => some .completed
  | .failed => some (.failed ((leaseReason lease).getD "worker.brick.failed"))
  | .leased | .expired => none

/-- The outcome of the lease that the reconciler looks at. -/
def attemptOutcome (fold : WorkerFold) (attemptId : EventIdentifier) : Option LeaseOutcome :=
  (leaseForAttempt fold attemptId).bind outcome

/-- The call of a lease, by its outcome. -/
def outcomeCall (settled : Option LeaseOutcome) (attempt : AttemptStatus) (run : RunStatus)
    (requested : Bool) : Except RecoveryError (Option RuntimeCall) :=
  match settled with
  | none => unsettledCall attempt
  | some .completed => .ok (completedCall attempt run)
  | some (.failed reasonCode) =>
    .ok (if reasonCode = cancelObserved ∧ requested = true then cancelledCall attempt run
      else if attempt ∈ openStatuses then some (.failed reasonCode) else none)

theorem reason_eq_cancelObserved (lease : LeaseRecord) :
    leaseReason lease = some cancelObserved ↔
      (leaseReason lease).getD "worker.brick.failed" = cancelObserved := by
  cases leaseReason lease with
  | none => decide
  | some reason => simp

theorem leaseCall_outcome (lease : Option LeaseRecord) (attempt : AttemptStatus) (run : RunStatus)
    (requested : Bool) :
    leaseCall lease attempt run requested = outcomeCall (lease.bind outcome) attempt run requested := by
  cases lease with
  | none => rfl
  | some lease =>
    simp only [leaseCall, Option.bind_some, outcome]
    cases hstatus : lease.status with
    | leased => rfl
    | expired => rfl
    | completed => rfl
    | failed =>
      have hreason := reason_eq_cancelObserved lease
      simp only [outcomeCall, failedCall, hreason]

/-- A running attempt tells the outcomes apart. -/
theorem outcome_of_call {settled settled' : Option LeaseOutcome}
    (h : outcomeCall settled .running .running false = outcomeCall settled' .running .running false) :
    settled = settled' := by
  rcases settled with _ | _ | reason <;> rcases settled' with _ | _ | reason' <;>
    simp_all [outcomeCall, unsettledCall, completedCall, liveStatuses, openStatuses]

/-- The types of the events that a settled lease is evidence for. -/
def settledTypes (lease : LeaseRecord) : List LifecycleType :=
  match lease.status with
  | .completed => [.attemptSucceeded, .runCompleted]
  | .failed =>
    [.attemptFailed, .runFailed] ++
      if leaseReason lease = some cancelObserved then [.attemptCancelled, .runCancelled] else []
  | .leased | .expired => []

def RuntimeCall.types : RuntimeCall → List LifecycleType
  | .succeed => [.attemptSucceeded, .runCompleted]
  | .failed _ => [.attemptFailed, .runFailed]
  | .cancelled => [.attemptCancelled, .runCancelled]

theorem leaseCall_types {lease : Option LeaseRecord} {attempt : AttemptStatus} {run : RunStatus}
    {requested : Bool} {call : RuntimeCall}
    (h : leaseCall lease attempt run requested = .ok (some call)) :
    ∃ settled, lease = some settled ∧ ∀ type ∈ call.types, type ∈ settledTypes settled := by
  cases lease with
  | none =>
    simp only [leaseCall, unsettledCall] at h
    split_ifs at h
    cases h
  | some lease =>
    refine ⟨lease, rfl, ?_⟩
    simp only [leaseCall] at h
    split at h <;> rename_i hstatus
    · have hcall : call = .succeed := by
        simp only [completedCall] at h
        split_ifs at h <;> cases h <;> rfl
      simp [hcall, RuntimeCall.types, settledTypes, hstatus]
    · simp only [Except.ok.injEq] at h
      split_ifs at h with hcancelled
      · have hcall : call = .cancelled := by
          simp only [cancelledCall] at h
          split_ifs at h <;> cases h <;> rfl
        simp [hcall, RuntimeCall.types, settledTypes, hstatus, hcancelled.1]
      · obtain ⟨reason, rfl⟩ : ∃ reason, call = .failed reason := by
          simp only [failedCall] at h
          split_ifs at h
          cases h
          exact ⟨_, rfl⟩
        simp [RuntimeCall.types, settledTypes, hstatus]
    all_goals
      simp only [unsettledCall] at h
      split_ifs at h
      cases h

/-! What the runtime appends. -/

section Appends

variable {runtime : WorkerRuntime} {log : EventLog} {type : LifecycleType} {revision : Nat}
  {reasonCode : Option String} {result : RunControlResult}

/-- An accepted append stores the event of a draft of the runtime. -/
theorem append_says (h : runtime.append log type revision reasonCode = .ok result) :
    ∃ identity payload, runtime.events type = some identity ∧
      (runtime.draft type identity payload revision).Says result.stored ∧
      Runs.appendAlone runtime.projection log
        ⟨(runtime.draft type identity payload revision).document, none⟩ = .ok result := by
  unfold WorkerRuntime.append at h
  split at h
  · cases h
  · rename_i identity hidentity
    obtain ⟨payload, -, h⟩ := Fold.bind_eq_ok.mp h
    simp only at h
    split_ifs at h
    have halone := fromControl_eq_ok.mp h
    obtain ⟨ms, hms, hevent⟩ := (Runs.appendAlone_ok halone).1.document
    rw [Runs.LifecycleDraft.draftMembers_document] at hms
    cases hms
    exact ⟨identity, payload, hidentity, Runs.LifecycleDraft.says_of_validate hevent, halone⟩

theorem append_type (h : runtime.append log type revision reasonCode = .ok result) :
    result.stored.type.val = type.text := by
  obtain ⟨identity, payload, -, hsaid, -⟩ := append_says h
  exact hsaid.type

theorem appendAll_types (types : List LifecycleType) (budget : Nat) (snapshot : RunSnapshot)
    {event : ResearchEvent}
    (h : event ∈ (runtime.appendAll revision reasonCode types budget log snapshot).1) :
    event ∈ log ∨ ∃ type ∈ types, event.type.val = type.text := by
  induction types generalizing budget log snapshot with
  | nil => exact .inl h
  | cons type rest ih =>
    cases budget with
    | zero => exact .inl h
    | succ budget =>
      unfold WorkerRuntime.appendAll at h
      split at h
      · exact .inl h
      · rename_i result hresult
        rcases ih budget result.snapshot h with hmem | ⟨type', hmem, htype⟩
        · rcases List.mem_append.mp hmem with hmem | hmem
          · exact .inl hmem
          · have hstored := List.mem_singleton.mp hmem
            have htype := append_type hresult
            rw [← hstored] at htype
            exact .inr ⟨type, List.mem_cons_self, htype⟩
        · exact .inr ⟨type', List.mem_cons_of_mem type hmem, htype⟩

theorem mem_remainingPath {attemptType runType : LifecycleType} {opened : List AttemptStatus}
    {settled attempt : AttemptStatus} {closable : List RunStatus} {run : RunStatus}
    (h : type ∈ remainingPath attemptType runType opened settled closable attempt run) :
    type ∈ [attemptType, runType] := by
  unfold remainingPath at h
  rcases List.mem_append.mp h with h | h
  · split_ifs at h
    · exact List.mem_cons.mpr (.inl (List.mem_singleton.mp h))
    · cases h
  · split_ifs at h
    · exact List.mem_cons_of_mem attemptType h
    · cases h

theorem settle_types {path : AttemptStatus → RunStatus → List LifecycleType} {budget : Nat}
    {event : ResearchEvent} (h : event ∈ (runtime.settle path revision reasonCode budget log).1) :
    event ∈ log ∨ ∃ attempt run, ∃ type ∈ path attempt run, event.type.val = type.text := by
  unfold WorkerRuntime.settle at h
  split at h
  · exact .inl h
  · rename_i snapshot hhead
    split at h
    · exact .inl h
    · rename_i attempt hattempt
      rw [WorkerRuntime.appendPath, hhead] at h
      rcases appendAll_types _ _ _ h with hmem | ⟨type, htype, heq⟩
      · exact .inl hmem
      · exact .inr ⟨attempt.status, snapshot.status, type, htype, heq⟩

theorem call_types {call : RuntimeCall} {budget : Nat} {event : ResearchEvent}
    (h : event ∈ (runtime.call revision budget log call).1) :
    event ∈ log ∨ ∃ type ∈ call.types, event.type.val = type.text := by
  cases call <;> rcases settle_types h with hmem | ⟨attempt, run, type, htype, heq⟩ <;>
    first
    | exact .inl hmem
    | exact .inr ⟨type, mem_remainingPath htype, heq⟩

end Appends

theorem reconcileCall_lease {projection : RunStateProjection} {attemptId : EventIdentifier}
    {fold : WorkerFold} {log : EventLog} {snapshot : RunSnapshot} {call : RuntimeCall}
    (h : reconcileCall projection attemptId fold log = .ok (snapshot, some call)) :
    ∃ attempt requested, leaseCall (leaseForAttempt fold attemptId) attempt snapshot.status
      requested = .ok (some call) := by
  obtain ⟨rebuilt, -, h⟩ := Fold.bind_eq_ok.mp h
  obtain ⟨recorded, -, h⟩ := Fold.bind_eq_ok.mp h
  obtain ⟨attempt, -, h⟩ := Fold.bind_eq_ok.mp h
  obtain ⟨requested, -, h⟩ := Fold.bind_eq_ok.mp h
  obtain ⟨found, hfound, h⟩ := Fold.bind_eq_ok.mp h
  cases h
  exact ⟨attempt.status, requested, hfound⟩

/-- Every event that a reconciliation appends has a settled lease of the attempt as its evidence. -/
theorem reconcile_evidence {runtime : WorkerRuntime} {fold : WorkerFold} {revision budget : Nat}
    {log : EventLog} {event : ResearchEvent}
    (h : event ∈ (reconcileWorkerRun runtime fold revision budget log).1) :
    event ∈ log ∨ ∃ lease, leaseForAttempt fold runtime.attemptId = some lease ∧
      ∃ type ∈ settledTypes lease, event.type.val = type.text := by
  unfold reconcileWorkerRun at h
  split at h
  · exact .inl h
  · exact .inl h
  · rename_i snapshot call hcall
    obtain ⟨attempt, requested, hlease⟩ := reconcileCall_lease hcall
    obtain ⟨lease, hfound, htypes⟩ := leaseCall_types hlease
    rcases call_types h with hmem | ⟨type, htype, heq⟩
    · exact .inl hmem
    · exact .inr ⟨lease, hfound, type, htypes type htype, heq⟩

/-! The isolation of one run from the others. -/

section Isolation

variable (fold : WorkerFold) (projection : RunStateProjection) (taskId attemptId : EventIdentifier)

/-- Every event of a reconciliation rests on a settled lease of the run and of the attempt. -/
def Attributed : Prop :=
  ∀ runtime : WorkerRuntime, runtime.projection = projection → runtime.attemptId = attemptId →
    ∀ revision budget log, ∀ event ∈ (reconcileWorkerRun runtime fold revision budget log).1,
      event ∈ log ∨ ∃ lease ∈ fold.leases, lease.runId = projection.runId ∧
        lease.attemptId = attemptId ∧ ∃ type ∈ settledTypes lease, event.type.val = type.text

/-- The queue and the leases of other runs neither block the work of an attempt nor lead its
reconciliation. -/
structure Isolated : Prop where
  attributed : Attributed fold projection attemptId
  called : ∀ log, reconcileCall projection attemptId fold log =
    reconcileCall projection attemptId (fold.ofRun projection.runId) log
  reconciled : ∀ runtime : WorkerRuntime, runtime.projection = projection →
    runtime.attemptId = attemptId → ∀ revision budget log,
      reconcileWorkerRun runtime fold revision budget log =
        reconcileWorkerRun runtime (fold.ofRun projection.runId) revision budget log
  queued : ∀ event payload, Names event projection.runId attemptId → payload.taskId = taskId →
    applyQueued fold event payload = .error duplicateWork →
      applyQueued (fold.ofRun projection.runId) event payload = .error duplicateWork
  leased : ∀ event payload, Names event projection.runId attemptId → payload.taskId = taskId →
    applyLeased fold event payload = .error leaseConflict →
      ∃ now, parseRfc3339 event.time = .ok now ∧
        ∃ lease ∈ fold.leases, lease.runId = projection.runId ∧ Live lease taskId attemptId now

/-- No other run has used the identifiers of the task and of the attempt to any effect. -/
structure Apart : Prop where
  queued : (fold.queuedWork taskId attemptId).isSome = true →
    ((fold.ofRun projection.runId).queuedWork taskId attemptId).isSome = true
  leased : ∀ event payload now, Names event projection.runId attemptId → payload.taskId = taskId →
    Grantable fold event payload attemptId now →
      (∃ lease ∈ fold.leases, Live lease taskId attemptId now) →
        ∃ lease ∈ fold.leases, lease.runId = projection.runId ∧ Live lease taskId attemptId now
  settled : attemptOutcome fold attemptId =
    attemptOutcome (fold.ofRun projection.runId) attemptId

end Isolation

variable {fold fold' : WorkerFold} {projection : RunStateProjection}
  {taskId attemptId : EventIdentifier}

theorem reconcileCall_congr (h : attemptOutcome fold attemptId = attemptOutcome fold' attemptId)
    (log : EventLog) :
    reconcileCall projection attemptId fold log = reconcileCall projection attemptId fold' log := by
  have houtcome : (leaseForAttempt fold attemptId).bind outcome =
      (leaseForAttempt fold' attemptId).bind outcome := h
  simp only [reconcileCall, leaseCall_outcome, houtcome]

/-- The call for a run that has just started shows the outcome that the reconciler looks at. -/
theorem reconcileCall_started (projection : RunStateProjection) (attemptId : EventIdentifier) :
    ∃ snapshot, ∀ fold, reconcileCall projection attemptId fold (startEvents projection attemptId) =
      (outcomeCall (attemptOutcome fold attemptId) .running .running false).map
        fun call => (snapshot, call) := by
  obtain ⟨snapshot, attempt, hfold, hattempt, hrunning, hstatus, hrun, hflag⟩ :=
    startEvents_fold projection attemptId
  have hrebuilt : rebuildRun projection (startEvents projection attemptId) = .ok (some snapshot) := by
    simp only [rebuildRun, hfold]
    rfl
  have hrequested : cancelRequested snapshot attemptId = false := by
    simp [cancelRequested, hattempt, hrun, hflag]
  refine ⟨snapshot, fun fold => ?_⟩
  simp only [reconcileCall, runCancelRequested, hrebuilt, bind, Except.bind, recordedRun, hattempt,
    recordedAttempt, hrunning, hstatus, hrequested, leaseCall_outcome, attemptOutcome]
  rfl

theorem attemptOutcome_of_calls
    (h : ∀ log, reconcileCall projection attemptId fold log =
      reconcileCall projection attemptId fold' log) :
    attemptOutcome fold attemptId = attemptOutcome fold' attemptId := by
  obtain ⟨snapshot, hcall⟩ := reconcileCall_started projection attemptId
  have hlog := h (startEvents projection attemptId)
  rw [hcall, hcall] at hlog
  apply outcome_of_call
  generalize outcomeCall (attemptOutcome fold attemptId) .running .running false = call at hlog ⊢
  generalize outcomeCall (attemptOutcome fold' attemptId) .running .running false = call' at hlog ⊢
  cases call <;> cases call' <;> simp_all [Except.map]

theorem reconcileWorkerRun_congr {runtime : WorkerRuntime} {revision budget : Nat} {log : EventLog}
    (h : reconcileCall runtime.projection runtime.attemptId fold log =
      reconcileCall runtime.projection runtime.attemptId fold' log) :
    reconcileWorkerRun runtime fold revision budget log =
      reconcileWorkerRun runtime fold' revision budget log := by
  simp only [reconcileWorkerRun, h]

theorem Apart.reconciled (h : Apart fold projection taskId attemptId) {runtime : WorkerRuntime}
    (hprojection : runtime.projection = projection) (hattempt : runtime.attemptId = attemptId)
    (revision budget : Nat) (log : EventLog) :
    reconcileWorkerRun runtime fold revision budget log =
      reconcileWorkerRun runtime (fold.ofRun projection.runId) revision budget log := by
  subst hprojection hattempt
  exact reconcileWorkerRun_congr (reconcileCall_congr h.settled log)

/-- The lease that the reconciler looks at is one of the run, if its outcome is. -/
theorem Apart.attributed (h : Apart fold projection taskId attemptId) :
    Attributed fold projection attemptId := by
  intro runtime hprojection hattempt revision budget log event hevent
  rw [h.reconciled hprojection hattempt] at hevent
  rcases reconcile_evidence hevent with hmem | ⟨lease, hfound, hsettled⟩
  · exact .inl hmem
  · obtain ⟨hmem, hname⟩ := List.mem_filter.mp (List.mem_of_getLast? hfound)
    obtain ⟨hmem, hrun⟩ := mem_leases_ofRun.mp hmem
    rw [hattempt] at hname
    exact .inr ⟨lease, hmem, hrun, of_decide_eq_true hname, hsettled⟩

theorem Apart.isolated (h : Apart fold projection taskId attemptId) :
    Isolated fold projection taskId attemptId where
  attributed := h.attributed
  called := reconcileCall_congr h.settled
  reconciled := fun _ hprojection hattempt => h.reconciled hprojection hattempt
  queued := by
    intro event payload hnames htask hduplicate
    rw [applyQueued_duplicate hnames, htask] at hduplicate ⊢
    exact h.queued hduplicate
  leased := by
    intro event payload hnames htask hconflict
    obtain ⟨now, hgrantable, lease, hactive⟩ := (applyLeased_conflict hnames).mp hconflict
    rw [htask] at hactive
    have hlive := (active_iff_live hactive).mp ⟨lease, rfl⟩
    exact ⟨now, hgrantable.time, h.leased event payload now hnames htask hgrantable hlive⟩

/-- A fact of the run for the attempt. -/
def attemptFact (projection : RunStateProjection) (attemptId : EventIdentifier) : ResearchEvent :=
  Runs.lifecycleEvent projection.first ⟨1, .refl true⟩ .attemptQueued (some attemptId) []

theorem attemptFact_names (projection : RunStateProjection) (attemptId : EventIdentifier) :
    Names (attemptFact projection attemptId) projection.runId attemptId :=
  ⟨rfl, rfl⟩

def anyWork (taskId : EventIdentifier) : WorkQueuedPayload where
  taskId := taskId
  imageDigest := ⟨Runs.startDigest, .refl true⟩
  imageMediaType := .pythonBrick
  runtime := .pythonSandbox
  config := []
  inputs := []
  configDigest := ⟨Runs.startDigest, .refl true⟩
  requiredAccelerators := ⟨[], .refl true⟩
  runtimeMatchesImageMediaType := rfl

theorem Isolated.apart (h : Isolated fold projection taskId attemptId) :
    Apart fold projection taskId attemptId where
  queued := by
    intro hqueued
    have hnames := attemptFact_names projection attemptId
    have hduplicate := h.queued _ (anyWork taskId) hnames rfl
    rw [applyQueued_duplicate hnames, applyQueued_duplicate hnames] at hduplicate
    exact hduplicate hqueued
  leased := by
    intro event payload now hnames htask hgrantable hlive
    obtain ⟨active, hactive⟩ := hgrantable.readable
    rw [htask] at hactive
    obtain ⟨lease, rfl⟩ := (active_iff_live hactive).mpr hlive
    rw [← htask] at hactive
    have hconflict := (applyLeased_conflict hnames).mpr ⟨now, hgrantable, lease, hactive⟩
    obtain ⟨now', htime, hown⟩ := h.leased event payload hnames htask hconflict
    rw [hgrantable.time] at htime
    cases htime
    exact hown
  settled := attemptOutcome_of_calls h.called

/-- A run is isolated from the others exactly while they keep off its identifiers. -/
theorem isolated_iff_apart (fold : WorkerFold) (projection : RunStateProjection)
    (taskId attemptId : EventIdentifier) :
    Isolated fold projection taskId attemptId ↔ Apart fold projection taskId attemptId :=
  ⟨Isolated.apart, Apart.isolated⟩

/-! One run finishes an attempt that another run of the project also has. -/

def secondRun : RunStateProjection := ⟨Workers.trialProject, ⟨"run-2", .refl true⟩⟩

theorem foreign_completion_attributed :
    ∃ fold, Workers.replayWorkers JsonText.scientific Workers.trialProject
        (Workers.twoGrantsEvents.take 9) = .ok fold ∧
      (∀ lease ∈ fold.leases, lease.runId ≠ secondRun.runId) ∧
      ¬ Isolated fold secondRun ⟨"task", by decide⟩ ⟨"attempt-1", by decide⟩ := by
  refine ⟨_, rfl, by decide, ?_⟩
  intro hisolated
  exact absurd hisolated.apart.settled (by decide)

end ResearchOs.Recovery
