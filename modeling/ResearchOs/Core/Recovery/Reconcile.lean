import ResearchOs.Core.Runs.Draft
import ResearchOs.Core.Runs.Exit
import ResearchOs.Core.Runs.History
import ResearchOs.Core.Workers.Control

/-! `WorkerRuntime`: the lifecycle events that record the outcome of a worker's attempt. -/
namespace ResearchOs.Recovery

open Runs (LifecycleType LifecycleDraft RunStateProjection RunSnapshot AttemptSnapshot
  AttemptStatus RunStatus RunControlResult)
open Storage (EventLog assigned)
open Workers (WorkerError)

/-- What the runtime and the reconciler raise; `interrupted` is a process that ends in between. -/
inductive RecoveryError where
  | worker (error : WorkerError)
  | simulation (message : String)
  | control (error : Runs.ControlError)
  | interrupted
  deriving DecidableEq, Repr

def fromControl {α : Type} : Except Runs.ControlError α → Except RecoveryError α
  | .ok a => .ok a
  | .error e => .error (.control e)

@[simp] theorem fromControl_eq_ok {α : Type} {r : Except Runs.ControlError α} {a : α} :
    fromControl r = .ok a ↔ r = .ok a := by
  cases r <;> simp [fromControl]

/-- The identities under which one attempt of one run is recorded. -/
structure WorkerRuntime where
  projection : RunStateProjection
  attemptId : EventIdentifier
  source : String
  subject : String
  streamId : String
  actorId : String
  events : LifecycleType → Option (String × String)

/-- The snapshot of `RunControl.rebuild`. -/
def rebuildRun (projection : RunStateProjection) (log : EventLog) :
    Except RecoveryError (Option RunSnapshot) :=
  fromControl (Runs.fromRun (projection.fold log))

def noSnapshot : RecoveryError := .simulation "worker runtime produced no snapshot"

def invalidDraft : RecoveryError := .simulation "event draft failed ResearchEvent validation"

def reasonPayload (reasonCode : String) : Json.Members := [("reasonCode", .str reasonCode)]

def failedPayload (reasonCode : String) : Json.Members :=
  [("reasonCode", .str reasonCode), ("retryHint", .str "not-retryable")]

/-- The payload of `_append`, outside the start of a run. -/
def outcomePayload (type : LifecycleType) (reasonCode : Option String) :
    Except RecoveryError {payload : Json.Members // ∀ p ∈ payload, p.2.canonical = true} :=
  match type with
  | .runQueued => .error (.simulation "run.queued requires a consumed authorization")
  | .attemptQueued =>
    .ok ⟨[("ordinal", .int 1), ("retryOf", .null), ("retryDecisionId", .null)],
      by simp [Json.canonical]⟩
  | .attemptFailed =>
    match reasonCode with
    | none => .error (.simulation "failed attempts require a reasonCode")
    | some reason => .ok ⟨failedPayload reason, by simp [failedPayload, Json.canonical]⟩
  | .attemptUnknown | .attemptLost | .runFailed =>
    match reasonCode with
    | none => .error (.simulation "unknown/lost/failed outcomes require a reasonCode")
    | some reason => .ok ⟨reasonPayload reason, by simp [reasonPayload, Json.canonical]⟩
  | _ => .ok ⟨[], by simp⟩

namespace WorkerRuntime

/-- `_ATTEMPT_TYPES` -/
def attemptTypes : List LifecycleType :=
  [.attemptQueued, .attemptStarted, .attemptSucceeded, .attemptFailed, .attemptUnknown,
    .attemptLost, .attemptRecovered, .attemptCancelled]

def draft (runtime : WorkerRuntime) (type : LifecycleType) (identity : String × String)
    (payload : {payload : Json.Members // ∀ p ∈ payload, p.2.canonical = true}) (revision : Nat) :
    LifecycleDraft where
  eventId := identity.1
  eventType := type
  time := identity.2
  source := runtime.source
  subject := runtime.subject
  streamId := runtime.streamId
  actorId := runtime.actorId
  actorKind := none
  projectId := runtime.projection.projectId
  experimentRevision := revision
  runId := runtime.projection.runId
  attemptId := if type ∈ attemptTypes then some runtime.attemptId else none
  payload := payload.val
  payloadIsCanonical := payload.property

/-- `_append` -/
def append (runtime : WorkerRuntime) (log : EventLog) (type : LifecycleType) (revision : Nat)
    (reasonCode : Option String) : Except RecoveryError RunControlResult :=
  match runtime.events type with
  | none => .error (.simulation "worker runtime event identities are incomplete")
  | some identity => do
    let payload ← outcomePayload type reasonCode
    let draft := runtime.draft type identity payload revision
    if (validateEventDocument (.obj (assigned draft.members Storage.firstSequence
        Storage.firstStreamVersion))).isNone then .error invalidDraft
    else fromControl (Runs.appendAlone runtime.projection log ⟨draft.document, none⟩)

/-- The loop of `_append_path`; the process ends before the append that it has no budget for. -/
def appendAll (runtime : WorkerRuntime) (revision : Nat) (reasonCode : Option String) :
    List LifecycleType → Nat → EventLog → RunSnapshot →
      EventLog × Except RecoveryError RunSnapshot
  | [], _, log, snapshot => (log, .ok snapshot)
  | _ :: _, 0, log, _ => (log, .error .interrupted)
  | type :: rest, budget + 1, log, _ =>
    match runtime.append log type revision reasonCode with
    | .error error => (log, .error error)
    | .ok result =>
      appendAll runtime revision reasonCode rest budget (log ++ [result.stored]) result.snapshot

/-- `_head` -/
def head (runtime : WorkerRuntime) (log : EventLog) : Except RecoveryError RunSnapshot := do
  let snapshot ← rebuildRun runtime.projection log
  match snapshot with
  | some snapshot => .ok snapshot
  | none => .error noSnapshot

/-- `_append_path` -/
def appendPath (runtime : WorkerRuntime) (types : List LifecycleType) (revision : Nat)
    (reasonCode : Option String) (budget : Nat) (log : EventLog) :
    EventLog × Except RecoveryError RunSnapshot :=
  match runtime.head log with
  | .error error => (log, .error error)
  | .ok snapshot => appendAll runtime revision reasonCode types budget log snapshot

end WorkerRuntime

/-- The statuses of an open attempt. -/
def openStatuses : List AttemptStatus := [.queued, .running, .lost, .unknown]

/-- The statuses of an attempt that may still succeed. -/
def liveStatuses : List AttemptStatus := [.running, .lost, .unknown]

/-- The two events of an outcome: the one of the attempt while it is open, and the one of the run
while it has a status that the event closes. -/
def remainingPath (attemptType runType : LifecycleType) (opened : List AttemptStatus)
    (settled : AttemptStatus) (closable : List RunStatus) (attempt : AttemptStatus)
    (run : RunStatus) : List LifecycleType :=
  (if attempt ∈ opened then [attemptType] else []) ++
    if run ∈ closable ∧ (attempt ∈ opened ∨ attempt = settled) then [runType] else []

/-- The path of `succeed`. -/
def succeedPath : AttemptStatus → RunStatus → List LifecycleType :=
  remainingPath .attemptSucceeded .runCompleted liveStatuses .succeeded [.running]

/-- The path of `failed`. -/
def failedPath : AttemptStatus → RunStatus → List LifecycleType :=
  remainingPath .attemptFailed .runFailed openStatuses .failed [.running, .retryPending]

/-- The path of `cancelled`. -/
def cancelledPath : AttemptStatus → RunStatus → List LifecycleType :=
  remainingPath .attemptCancelled .runCancelled openStatuses .cancelled [.running]

namespace WorkerRuntime

/-- What the three outcomes share: the path from the statuses of the head, and its appends. -/
def settle (runtime : WorkerRuntime) (path : AttemptStatus → RunStatus → List LifecycleType)
    (revision : Nat) (reasonCode : Option String) (budget : Nat) (log : EventLog) :
    EventLog × Except RecoveryError RunSnapshot :=
  match runtime.head log with
  | .error error => (log, .error error)
  | .ok snapshot =>
    match Runs.findAttempt snapshot runtime.attemptId with
    | none => (log, .error (.simulation "worker runtime attempt is missing"))
    | some attempt =>
      runtime.appendPath (path attempt.status snapshot.status) revision reasonCode budget log

/-- `succeed` -/
def succeed (runtime : WorkerRuntime) (revision budget : Nat) (log : EventLog) :
    EventLog × Except RecoveryError RunSnapshot :=
  runtime.settle succeedPath revision none budget log

/-- `failed` -/
def failed (runtime : WorkerRuntime) (reasonCode : String) (revision budget : Nat)
    (log : EventLog) : EventLog × Except RecoveryError RunSnapshot :=
  runtime.settle failedPath revision (some reasonCode) budget log

/-- `cancelled` -/
def cancelled (runtime : WorkerRuntime) (revision budget : Nat) (log : EventLog) :
    EventLog × Except RecoveryError RunSnapshot :=
  runtime.settle cancelledPath revision none budget log

end WorkerRuntime

end ResearchOs.Recovery

/-! `reconcile_worker_run`: the lifecycle events that the lease of an attempt calls for. -/
namespace ResearchOs.Recovery

open Runs (RunStateProjection RunSnapshot AttemptSnapshot AttemptStatus RunStatus findAttempt)
open Storage (EventLog)
open Workers (WorkerError WorkerFold LeaseRecord LeaseStatus)

def cancelObserved : String := "cancel-observed"

/-- The cancellation that a snapshot records for one of its attempts. -/
def cancelRequested (snapshot : RunSnapshot) (attemptId : EventIdentifier) : Bool :=
  snapshot.cancellationRequested ||
    (findAttempt snapshot attemptId).any fun attempt => attempt.cancellationRequested

/-- `run_cancel_requested` -/
def runCancelRequested (projection : RunStateProjection) (log : EventLog)
    (attemptId : EventIdentifier) : Except RecoveryError Bool := do
  let snapshot ← rebuildRun projection log
  match snapshot with
  | none => .ok false
  | some snapshot => .ok (cancelRequested snapshot attemptId)

/-- `lease_for_attempt` -/
def leaseForAttempt (fold : WorkerFold) (attemptId : EventIdentifier) : Option LeaseRecord :=
  (fold.leases.filter fun lease => lease.attemptId = attemptId).getLast?

/-- The call of the runtime that a lease leads to. -/
inductive RuntimeCall where
  | succeed
  | failed (reasonCode : String)
  | cancelled
  deriving DecidableEq, Repr

def leaseReason (lease : LeaseRecord) : Option String := lease.reasonCode.map Subtype.val

def completedCall (attempt : AttemptStatus) (run : RunStatus) : Option RuntimeCall :=
  if attempt ∈ liveStatuses then some .succeed
  else if attempt = .succeeded ∧ run = .running then some .succeed
  else none

def cancelledCall (attempt : AttemptStatus) (run : RunStatus) : Option RuntimeCall :=
  if attempt ∈ openStatuses then some .cancelled
  else if attempt = .cancelled ∧ run = .running then some .cancelled
  else none

def failedCall (lease : LeaseRecord) (attempt : AttemptStatus) : Option RuntimeCall :=
  if attempt ∈ openStatuses then
    some (.failed ((leaseReason lease).getD "worker.brick.failed"))
  else none

/-- What a lease that is neither completed nor failed leads to. -/
def unsettledCall (attempt : AttemptStatus) : Except RecoveryError (Option RuntimeCall) :=
  if attempt = .unknown then
    .error (.worker (.call "unknown execution cannot be marked success" "attempt-unknown"))
  else .ok none

/-- The call of a lease, by the statuses of the attempt and of the run. -/
def leaseCall (lease : Option LeaseRecord) (attempt : AttemptStatus) (run : RunStatus)
    (requested : Bool) : Except RecoveryError (Option RuntimeCall) :=
  match lease with
  | none => unsettledCall attempt
  | some lease =>
    match lease.status with
    | .completed => .ok (completedCall attempt run)
    | .failed =>
      .ok (if leaseReason lease = some cancelObserved ∧ requested = true then
        cancelledCall attempt run
      else failedCall lease attempt)
    | .leased | .expired => unsettledCall attempt

def recordedRun : Option RunSnapshot → Except RecoveryError RunSnapshot
  | some snapshot => .ok snapshot
  | none => .error (.worker (.call "run is not recorded" "run-missing"))

def recordedAttempt : Option AttemptSnapshot → Except RecoveryError AttemptSnapshot
  | some attempt => .ok attempt
  | none => .error (.worker (.call "attempt is not recorded" "attempt-missing"))

/-- `reconcile_worker_run` up to its call of the runtime. -/
def reconcileCall (projection : RunStateProjection) (attemptId : EventIdentifier)
    (fold : WorkerFold) (log : EventLog) : Except RecoveryError (RunSnapshot × Option RuntimeCall) := do
  let rebuilt ← rebuildRun projection log
  let snapshot ← recordedRun rebuilt
  let attempt ← recordedAttempt (findAttempt snapshot attemptId)
  let requested ← runCancelRequested projection log attemptId
  let call ← leaseCall (leaseForAttempt fold attemptId) attempt.status snapshot.status requested
  .ok (snapshot, call)

def WorkerRuntime.call (runtime : WorkerRuntime) (revision budget : Nat) (log : EventLog) :
    RuntimeCall → EventLog × Except RecoveryError RunSnapshot
  | .succeed => runtime.succeed revision budget log
  | .failed reasonCode => runtime.failed reasonCode revision budget log
  | .cancelled => runtime.cancelled revision budget log

/-- `reconcile_worker_run`, for the run and the attempt of its runtime. The process may end
before an append that the budget does not cover. -/
def reconcileWorkerRun (runtime : WorkerRuntime) (fold : WorkerFold) (revision budget : Nat)
    (log : EventLog) : EventLog × Except RecoveryError RunSnapshot :=
  match reconcileCall runtime.projection runtime.attemptId fold log with
  | .error error => (log, .error error)
  | .ok (snapshot, none) => (log, .ok snapshot)
  | .ok (_, some call) => runtime.call revision budget log call

/-! A cancellation that a run has requested stays requested. -/

open Runs (RunExtends)

variable {projection : RunStateProjection} {log later : EventLog} {attemptId : EventIdentifier}
  {s t : RunSnapshot}

theorem rebuildRun_eq_ok {state : Option RunSnapshot} :
    rebuildRun projection log = .ok state ↔ projection.fold log = .ok state := by
  rw [rebuildRun, fromControl_eq_ok]
  cases projection.fold log <;> simp [Runs.fromRun]

theorem runCancelRequested_eq_ok {requested : Bool} :
    runCancelRequested projection log attemptId = .ok requested ↔
      ∃ state, projection.fold log = .ok state ∧
        (state.any fun snapshot => cancelRequested snapshot attemptId) = requested := by
  unfold runCancelRequested
  rw [Fold.bind_eq_ok]
  refine exists_congr fun state => ?_
  rw [rebuildRun_eq_ok]
  cases state <;> simp

theorem cancelRequested_extends (ht : t.Invariant) (hextends : RunExtends s t)
    (h : cancelRequested s attemptId = true) : cancelRequested t attemptId = true := by
  simp only [cancelRequested, Bool.or_eq_true] at h ⊢
  rcases h with hrun | hattempt
  · exact .inl (hextends.cancellation hrun)
  · obtain ⟨attempt, hfound, hrequested⟩ := (Option.any_eq_true _ _).mp hattempt
    have hid : attempt.attemptId = attemptId := by simpa using List.find?_some hfound
    obtain ⟨i, hi⟩ := List.mem_iff_getElem?.mp (List.mem_of_find?_eq_some hfound)
    obtain ⟨moved, hmoved, hattempts⟩ := hextends.attempts i attempt hi
    have hsame : moved.attemptId = attemptId := hattempts.attemptId.trans hid
    have hlater := ht.findAttempt_of_mem (List.mem_of_getElem? hmoved)
    rw [hsame] at hlater
    exact .inr ((Option.any_eq_true _ _).mpr
      ⟨moved, hlater, hattempts.cancellation hrequested⟩)

/-- No later log takes a requested cancellation back. -/
theorem runCancelRequested_append (h : runCancelRequested projection log attemptId = .ok true) :
    runCancelRequested projection (log ++ later) attemptId ≠ .ok false := by
  intro hlater
  obtain ⟨state, hfold, hrequested⟩ := runCancelRequested_eq_ok.mp h
  obtain ⟨state', hfold', hrequested'⟩ := runCancelRequested_eq_ok.mp hlater
  cases state with
  | none => cases hrequested
  | some s =>
    obtain ⟨t, rfl, hextends, -⟩ := Runs.fold_history_monotone projection log later s state' hfold
      hfold'
    have hstays := cancelRequested_extends (Runs.fold_invariant hfold' t rfl) hextends hrequested
    rw [Option.any_some, hstays] at hrequested'
    cases hrequested'

end ResearchOs.Recovery
