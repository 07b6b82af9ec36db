import ResearchOs.Data.Resume
import ResearchOs.Core.Recovery.Reconcile
import ResearchOs.Core.Runs.Settle
import ResearchOs.Core.Workers.NativeOutput

/-! Reviewed native requests, and the lifecycle events that they are recorded by. The identifier of
such an event is derived from the run, the attempt and the type of the event. -/
namespace ResearchOs.Native

open Runs (LifecycleType LifecycleDraft RunStateProjection)

/-- `NativeReviewedExecutionRequest`, as far as the controls read it; `revision` is `int` of its
`revisionId`. -/
structure NativeRequest where
  projectId : EventIdentifier
  revision : Nat
  workflowId : String
  taskId : EventIdentifier
  runId : EventIdentifier
  attemptId : EventIdentifier
  workerId : EventIdentifier
  authorizationEventId : String
  authorizationSequence : String
  specDigest : String
  registryDigest : String
  planDigest : String
  decisionDigest : String
  configDigest : String

/-- The type and the payload of a lifecycle event. -/
structure LifecycleFact where
  type : LifecycleType
  payload : Json.Members
  payloadIsCanonical : ∀ p ∈ payload, p.2.canonical = true

namespace LifecycleFact

theorem nil_canonical : ∀ p ∈ ([] : Json.Members), p.2.canonical = true := by
  simp

theorem reason_canonical (reasonCode : String) :
    ∀ p ∈ [("reasonCode", Json.str reasonCode)], p.2.canonical = true := by
  simp [Json.canonical]

theorem failed_canonical (reasonCode : String) :
    ∀ p ∈ [("reasonCode", Json.str reasonCode), ("retryHint", Json.str "not-retryable")],
      p.2.canonical = true := by
  simp [Json.canonical]

theorem queued_canonical :
    ∀ p ∈ [("ordinal", Json.int 1), ("retryOf", Json.null), ("retryDecisionId", Json.null)],
      p.2.canonical = true := by
  simp [Json.canonical]

def bare (type : LifecycleType) : LifecycleFact := ⟨type, [], nil_canonical⟩

def reasoned (type : LifecycleType) (reasonCode : String) : LifecycleFact :=
  ⟨type, [("reasonCode", .str reasonCode)], reason_canonical reasonCode⟩

def attemptFailed (reasonCode : String) : LifecycleFact :=
  ⟨.attemptFailed, [("reasonCode", .str reasonCode), ("retryHint", .str "not-retryable")],
    failed_canonical reasonCode⟩

def attemptQueued : LifecycleFact :=
  ⟨.attemptQueued, [("ordinal", .int 1), ("retryOf", .null), ("retryDecisionId", .null)],
    queued_canonical⟩

end LifecycleFact

def taskFailed : String := "native-task-failed"

def outcomeUncertain : String := "native-outcome-uncertain"

def grantRevoked : String := "grant-revoked"

namespace NativeRequest

def projection (request : NativeRequest) : RunStateProjection := ⟨request.projectId, request.runId⟩

/-- `_event_id` of the remote controller. -/
def remoteEventId (request : NativeRequest) (type : LifecycleType) : String :=
  "evt.native.remote." ++ request.runId.val ++ "." ++ request.attemptId.val ++ "." ++ type.text

/-- The identifier that the local controller derives. -/
def localEventId (request : NativeRequest) (type : LifecycleType) : String :=
  "evt.native." ++ request.runId.val ++ "." ++ request.attemptId.val ++ "." ++ type.text

/-- What `_append_bound` and `_lifecycle` hand to `RunControl.append`. -/
def draft (request : NativeRequest) (eventId : LifecycleType → String) (time : String)
    (fact : LifecycleFact) : LifecycleDraft where
  eventId := eventId fact.type
  eventType := fact.type
  time := time
  source := "https://researchos.dev/projects/" ++ request.projectId.val
  subject := request.runId.val
  streamId := request.projectId.val
  actorId := request.workerId.val
  actorKind := some .system
  projectId := request.projectId
  experimentRevision := request.revision
  runId := request.runId
  attemptId := if fact.type ∈ LifecycleType.attemptTypes then some request.attemptId else none
  payload := fact.payload
  payloadIsCanonical := fact.payloadIsCanonical

/-- `_queue_rows` -/
def queueRows (request : NativeRequest) : List LifecycleFact :=
  [⟨.runQueued,
    [("workflowId", .str request.workflowId), ("specDigest", .str request.specDigest),
      ("registryDigest", .str request.registryDigest), ("planDigest", .str request.planDigest),
      ("decisionDigest", .str request.decisionDigest),
      ("authorizationEventId", .str request.authorizationEventId),
      ("authorizationSequence", .str request.authorizationSequence), ("maxAttempts", .int 1)],
    by simp [Json.canonical]⟩,
    .bare .runStarted, .attemptQueued]

end NativeRequest

/-- The event says what the draft says, but for its identifier, its time and its place. -/
def Recorded (draft : LifecycleDraft) (stored : ResearchEvent) : Prop :=
  stored.type.val = draft.eventType.text ∧
    ResearchEventData.validate (.obj draft.data) = some stored.data

instance (draft : LifecycleDraft) (stored : ResearchEvent) : Decidable (Recorded draft stored) :=
  inferInstanceAs (Decidable (_ ∧ _))

end ResearchOs.Native

/-! `reconcile_native_outcome`: a bound report of a Worker is recorded fact by fact. -/
namespace ResearchOs.Native

open JsonText (FloatText)
open Recovery (RecoveryError runCancelRequested)
open Runs (LifecycleType LifecycleDraft RunStateProjection RunSnapshot RunStatus AttemptSnapshot)
open Storage (EventLog StoreError)
open Workers

inductive Outcome where
  | completed
  | failed
  | cancelled
  | unknown
  deriving DecidableEq, Repr

inductive Observation where
  | running
  | exited
  | unknown
  deriving DecidableEq, Repr

/-- `NativeOutcomeRequest`; `start` is the rest of its start record. -/
structure NativeOutcomeRequest where
  leaseId : String
  requestDigest : String
  start : Json
  observation : Observation
  outcome : Outcome
  terminalRequiresObservedExit : outcome ≠ .unknown → observation = .exited
  deriving DecidableEq

structure OutcomeBinding where
  workerId : String
  grantId : EventIdentifier
  outcome : NativeOutcomeRequest
  deriving DecidableEq

structure OutcomeCall where
  workerId : String
  claims : Except WorkerError GrantClaims
  document : NativeOutcomeRequest

/-- What a request takes from the recorded authorization of its plan. -/
structure AuthorizedPlan where
  revision : Nat
  workflowId : String
  specDigest : String
  registryDigest : String
  planDigest : String
  decisionDigest : String

/-- What every repetition of a report reads alike besides the store: the recorded authorization of
the queued work, the digest of its request, the journal of its start, and the artifact of a
completed lease. -/
structure NativeContext where
  authorization : GrantRecord → QueuedWork → Except PlaneError AuthorizedPlan
  requestDigest : NativeRequest → String
  startJournal : NativeRequest → OutcomeBinding → Except PlaneError Unit
  output : NativeRequest → LeaseRecord → Except PlaneError Unit
  fits : OutcomeBinding → Bool

/-- What one repetition reads of the clock, and how many facts it appends before it ends. -/
structure Visit where
  budget : Nat
  now : Instant
  stamp : String
  time : String

/-- The event log and the journals of terminal outcomes. -/
structure NativeStore where
  log : EventLog
  journals : List OutcomeBinding

inductive NativeError where
  | plane (error : PlaneError)
  | recovery (error : RecoveryError)
  | interrupted

def fromPlane {α : Type} : Except PlaneError α → Except NativeError α
  | .ok a => .ok a
  | .error e => .error (.plane e)

def fromRecovery {α : Type} : Except RecoveryError α → Except NativeError α
  | .ok a => .ok a
  | .error e => .error (.recovery e)

@[simp] theorem fromPlane_eq_ok {α : Type} {r : Except PlaneError α} {a : α} :
    fromPlane r = .ok a ↔ r = .ok a := by
  cases r <;> simp [fromPlane]

@[simp] theorem fromRecovery_eq_ok {α : Type} {r : Except RecoveryError α} {a : α} :
    fromRecovery r = .ok a ↔ r = .ok a := by
  cases r <;> simp [fromRecovery]

/-- Raise a `WorkerCallError` unless the condition holds. -/
def requireNative (condition : Prop) [Decidable condition] (message code : String) :
    Except NativeError Unit :=
  fromPlane (fromWorker (requireCall condition message code))

def presentNative {α : Type} (value : Option α) (message code : String) : Except NativeError α :=
  fromPlane (fromWorker (presentCall value message code))

/-- `native_request_from_binding` of an authorized plan. -/
def nativeRequest (plane : WorkerPlane) (grant : GrantRecord) (work : QueuedWork)
    (plan : AuthorizedPlan) : NativeRequest where
  projectId := plane.projectId
  revision := plan.revision
  workflowId := plan.workflowId
  taskId := grant.taskId
  runId := grant.runId
  attemptId := grant.attemptId
  workerId := grant.workerId
  authorizationEventId := grant.authorizationEventId.val
  authorizationSequence := grant.authorizationSequence.val
  specDigest := plan.specDigest
  registryDigest := plan.registryDigest
  planDigest := plan.planDigest
  decisionDigest := plan.decisionDigest
  configDigest := work.configDigest.val

/-- The lease, the grant and the request that a report is bound to. -/
structure Bound where
  lease : LeaseRecord
  grant : GrantRecord
  request : NativeRequest

section

variable (F : FloatText) (contentDigest : Json → Option String) (context : NativeContext)
  (plane : WorkerPlane) (call : OutcomeCall)

/-- The binding of a report to a fold. -/
def bindReport (fold : WorkerFold) : Except NativeError Bound := do
  let claims ← fromPlane (fromWorker call.claims)
  let (lease, grant) ← fromPlane (fromWorker (bindResultAuthorization plane fold call.workerId
    call.document.leaseId claims))
  let work ← presentNative ((fold.queuedWork lease.taskId lease.attemptId).filter fun work =>
      work.runtime = .nativeReviewed ∧ lease.claimed = true ∧
        grant.consumedLeaseId = some lease.leaseId)
    "native outcome lease differs" "native-outcome-binding"
  fromPlane (requireExecutionMatch contentDigest plane grant work claims)
  let plan ← fromPlane (context.authorization grant work)
  let request := nativeRequest plane grant work plan
  requireNative (call.document.requestDigest = context.requestDigest request)
    "native outcome request differs" "native-outcome-binding"
  fromPlane (context.startJournal request ⟨call.workerId, grant.grantId, call.document⟩)
  .ok ⟨lease, grant, request⟩

/-- The facts that the start of an attempt has recorded. -/
def startFacts (request : NativeRequest) : List LifecycleFact :=
  request.queueRows ++ [.bare .attemptStarted]

/-- A fact of the start is in the log as the request has it. -/
def requireRecorded (request : NativeRequest) (log : EventLog) (fact : LifecycleFact) :
    Except NativeError Unit := do
  let stored ← presentNative (log.getEvent (request.remoteEventId fact.type))
    "native outcome start is missing" "native-outcome-binding"
  requireNative (Recorded (request.draft request.remoteEventId "" fact) stored)
    "native lifecycle binding differs" "native-run-conflict"

/-- The snapshot of a run whose only attempt is the one of the request. -/
def requireAttempt (request : NativeRequest) (log : EventLog) :
    Except NativeError (RunSnapshot × AttemptSnapshot) := do
  let rebuilt ← fromRecovery (Recovery.rebuildRun request.projection log)
  presentNative (rebuilt.bind fun snapshot =>
      match snapshot.attempts with
      | [attempt] => if attempt.attemptId = request.attemptId then some (snapshot, attempt) else none
      | _ => none)
    "native outcome Run differs" "native-outcome-binding"

/-- The checks of a report before its journal. -/
def checkReport (log : EventLog) : Except NativeError (Bound × RunSnapshot × AttemptSnapshot) := do
  let head ← fromPlane (rebuild F plane.projectId log)
  let bound ← bindReport contentDigest context plane call head.fold
  (startFacts bound.request).forM (requireRecorded bound.request log)
  let found ← requireAttempt bound.request log
  .ok (bound, found)

/-- A fact that is appended once: what the store has under its identifier must be the same fact. -/
def appendBound (request : NativeRequest) (time : String) (fact : LifecycleFact) (log : EventLog) :
    Except NativeError (Option EventLog) :=
  let draft := request.draft request.remoteEventId time fact
  match log.getEvent draft.eventId with
  | some stored => do
    requireNative (Recorded draft stored) "native lifecycle binding differs" "native-run-conflict"
    .ok none
  | none => do
    -- Nobody else appends meanwhile, so the first of its three tries decides.
    let result ← fromRecovery (Recovery.fromControl
      (Runs.appendAlone request.projection log ⟨draft.document, some log.length⟩))
    .ok (some (log ++ [result.stored]))

/-- `WorkerControl.append` while nobody else writes. -/
def appendWorker (draft : WorkerDraft) (log : EventLog) : Except NativeError (Option EventLog) :=
  match appendHead F plane.projectId log draft.document none with
  | .error e => .error (.plane e)
  | .ok head =>
    match log.append draft.document (some head) with
    | .error e => .error (.plane (.store e))
    | .ok event => .ok (some (log ++ [event]))

def workFailed (lease : LeaseRecord) (reasonCode stamp : String) : WorkerDraft :=
  workFailedDraft plane lease.leaseId.val call.workerId reasonCode lease.runId.val
    lease.attemptId.val (failedEventId lease.leaseId.val) stamp

/-- The lease and the grant of a report, on a fold that is rebuilt. -/
def authorizedLease (log : EventLog) : Except NativeError (LeaseRecord × GrantRecord) := do
  let claims ← fromPlane (fromWorker call.claims)
  let head ← fromPlane (rebuild F plane.projectId log)
  fromPlane (fromWorker (bindResultAuthorization plane head.fold call.workerId
    call.document.leaseId claims))

def cancellationRequested (request : NativeRequest) (log : EventLog) : Except NativeError Bool :=
  fromRecovery (runCancelRequested request.projection log request.attemptId)

/-- `fail` of a lease that has not failed. -/
def failLease (lease : LeaseRecord) (grant : GrantRecord) (visit : Visit) (log : EventLog) :
    Except NativeError (Option EventLog) := do
  let claims ← fromPlane (fromWorker call.claims)
  fromPlane (fromWorker (requireLiveResultGrant grant claims lease visit.now))
  appendWorker F plane (workFailed plane call lease taskFailed visit.stamp) log

/-- `fail_observed_cancellation` -/
def failObservedCancellation (lease : LeaseRecord) (grant : GrantRecord) (requested : Bool)
    (visit : Visit) (log : EventLog) : Except NativeError (Option EventLog) := do
  requireNative (grant.consumedLeaseId = some lease.leaseId ∧ lease.claimed = true)
    "grant was not consumed by this lease" "grant-not-consumed"
  requireNative (requested = true) "cancellation is not requested" "cancel-not-requested"
  if lease.status = .failed ∧ lease.reasonCode.map Subtype.val = some Recovery.cancelObserved ∧
      (log.getEvent (failedEventId lease.leaseId.val)).isSome = true then .ok none
  else do
    requireNative (lease.status = .leased) "lease is already terminal" "lease-terminal"
    appendWorker F plane (workFailed plane call lease Recovery.cancelObserved visit.stamp) log

/-- What a report does, step by step. -/
inductive OutcomeStep where
  /-- The completed lease and its artifact. -/
  | verify
  /-- The failure of a lease that has not failed. -/
  | failLease
  | requireTaskFailed
  /-- The cancellation that a revoked grant stands for. -/
  | requestCancellation
  | observeCancellation
  | record (fact : LifecycleFact)

/-- The fact that settles the attempt, and the one that closes the run. -/
def attemptFact : Runs.Ending → LifecycleFact
  | .succeeded => .bare .attemptSucceeded
  | .failed => .attemptFailed taskFailed
  | .cancelled => .bare .attemptCancelled

def runFact : Runs.Ending → LifecycleFact
  | .succeeded => .bare .runCompleted
  | .failed => .reasoned .runFailed taskFailed
  | .cancelled => .bare .runCancelled

/-- The request to cancel the run that a revoked grant stands for. -/
def cancelFact : LifecycleFact := .reasoned .runCancelRequested grantRevoked

def endingSteps (ending : Runs.Ending) : List OutcomeStep :=
  [.record (attemptFact ending), .record (runFact ending)]

/-- The steps of a document. -/
def outcomeSteps (document : NativeOutcomeRequest) : List OutcomeStep :=
  match document.outcome with
  | .completed => .verify :: endingSteps .succeeded
  | .failed => .failLease :: .requireTaskFailed :: endingSteps .failed
  | .cancelled => .requestCancellation :: .observeCancellation :: endingSteps .cancelled
  | .unknown =>
    .requestCancellation ::
      if document.observation = .running then []
      else [.record (.reasoned .attemptUnknown outcomeUncertain)]

/-- The type of the fact that the receipt cites. -/
def finalType (document : NativeOutcomeRequest) : LifecycleType :=
  match document.outcome with
  | .completed => .runCompleted
  | .failed => .runFailed
  | .cancelled => .runCancelled
  | .unknown => if document.observation = .running then .attemptStarted else .attemptUnknown

/-- A step on the lease and the grant that a rebuilt fold has; the answer is the log that the step
leaves, when it appends. -/
def performLease (request : NativeRequest) (visit : Visit) (step : OutcomeStep) (log : EventLog) :
    Except NativeError (Option EventLog) := do
  let (lease, grant) ← authorizedLease F plane call log
  match step with
  | .verify => do
    requireNative (lease.status = .completed) "verified completion is missing"
      "native-outcome-conflict"
    fromPlane (context.output request lease)
    .ok none
  | .failLease =>
    if lease.status = .failed then .ok none
    else do
      let requested ← cancellationRequested request log
      requireNative (¬ (requested = true ∨ grant.revoked = true)) "native failure is cancelled"
        "native-outcome-conflict"
      failLease F plane call lease grant visit log
  | .requireTaskFailed => do
    requireNative (lease.reasonCode.map Subtype.val = some taskFailed) "native failure differs"
      "native-outcome-conflict"
    .ok none
  | .requestCancellation => do
    let requested ← cancellationRequested request log
    if grant.revoked = true ∧ requested = false then
      appendBound request visit.time cancelFact log
    else .ok none
  | .observeCancellation => do
    let requested ← cancellationRequested request log
    failObservedCancellation F plane call lease grant requested visit log
  | .record _ => .ok none

def performStep (request : NativeRequest) (visit : Visit) (step : OutcomeStep) (log : EventLog) :
    Except NativeError (Option EventLog) :=
  match step with
  | .record fact => appendBound request visit.time fact log
  | step => performLease F context plane call request visit step log

/-- The statuses of a run whose outcome is still open. -/
def reportable : List RunStatus := [.running, .unknown]

/-- The journal of a terminal outcome; a new one is written for an open run only. -/
def journalOutcome (bound : Bound) (snapshot : RunSnapshot) (journals : List OutcomeBinding) :
    Except NativeError (List OutcomeBinding) :=
  let binding : OutcomeBinding := ⟨call.workerId, bound.grant.grantId, call.document⟩
  if call.document.outcome = .unknown then do
    requireNative (snapshot.status ∈ reportable) "terminal Run cannot become unknown"
      "native-outcome-conflict"
    .ok journals
  else do
    requireNative (context.fits binding = true) "native outcome exceeds its bound" "http-too-large"
    requireNative (call.document.outcome = .completed → bound.lease.status = .completed)
      "verified completion is missing" "native-outcome-conflict"
    if binding ∈ journals then .ok journals
    else do
      requireNative (snapshot.status ∈ reportable) "native start journal is missing"
        "native-start-journal"
      .ok (journals ++ [binding])

structure NativeOutcomeReceipt where
  leaseId : String
  outcome : Outcome
  eventId : CloudEventsString
  sequence : SequenceNumber

def receiptOf (bound : Bound) (log : EventLog) : Except NativeError NativeOutcomeReceipt := do
  let event ← presentNative (log.getEvent (bound.request.remoteEventId (finalType call.document)))
    "native outcome fact is missing" "native-outcome-conflict"
  .ok ⟨call.document.leaseId, call.document.outcome, event.id, event.sequence⟩

/-- The receipt of a report whose steps are done. -/
def finishReport (bound : Bound) (log : EventLog) :
    Except NativeError Unit → Except NativeError NativeOutcomeReceipt
  | .error e => .error e
  | .ok () => receiptOf call bound log

/-- `reconcile_native_outcome`; the process may end before an append that the budget does not
cover. -/
def reconcileNativeOutcome (visit : Visit) (store : NativeStore) :
    NativeStore × Except NativeError NativeOutcomeReceipt :=
  match checkReport F contentDigest context plane call store.log with
  | .error e => (store, .error e)
  | .ok (bound, snapshot, _) =>
    match journalOutcome context call bound snapshot store.journals with
    | .error e => (store, .error e)
    | .ok journals =>
      let after := Resume.resume (performStep F context plane call bound.request visit)
        NativeError.interrupted (outcomeSteps call.document) visit.budget store.log
      (⟨after.1, journals⟩, finishReport call bound after.1 after.2)

end

end ResearchOs.Native
