import ResearchOs.Core.Workers.Model

/-! The replayable fold of worker, grant and lease facts. -/
namespace ResearchOs.Workers

open JsonText (FloatText)

structure WorkerRecord where
  workerId : EventIdentifier
  runtime : WorkerRuntime
  accelerators : Accelerators

structure GrantRecord where
  grantId : EventIdentifier
  grantEventId : CloudEventsString
  workerId : EventIdentifier
  taskId : EventIdentifier
  nonce : EventIdentifier
  expiresAt : Rfc3339Timestamp
  runId : EventIdentifier
  attemptId : EventIdentifier
  authorizationEventId : CloudEventsString
  authorizationSequence : CloudEventsString
  imageDigest : Sha256Digest
  configDigest : StrictDigest
  revoked : Bool
  consumedLeaseId : Option EventIdentifier

structure QueuedWork where
  taskId : EventIdentifier
  runId : EventIdentifier
  attemptId : EventIdentifier
  imageDigest : Sha256Digest
  configDigest : StrictDigest
  config : Json.Members
  inputs : Json.Members
  runtime : WorkerRuntime
  imageMediaType : ImageMediaType
  requiredAccelerators : Accelerators

inductive LeaseStatus where
  | leased
  | completed
  | failed
  | expired
  deriving DecidableEq, Repr

/-- `_TERMINAL_LEASE` -/
def terminalLease : List LeaseStatus := [.completed, .failed, .expired]

structure LeaseRecord where
  leaseId : EventIdentifier
  workerId : EventIdentifier
  taskId : EventIdentifier
  grantId : EventIdentifier
  runId : EventIdentifier
  attemptId : EventIdentifier
  expiresAt : Rfc3339Timestamp
  claimed : Bool
  status : LeaseStatus
  resultDigest : Option StrictDigest
  artifactDigest : Option Sha256Digest
  reasonCode : Option EventIdentifier
  deriving DecidableEq

structure WorkerFold where
  workers : List WorkerRecord
  grants : List GrantRecord
  queued : List QueuedWork
  leases : List LeaseRecord

namespace WorkerFold

def empty : WorkerFold := ⟨[], [], [], []⟩

def worker (fold : WorkerFold) (workerId : EventIdentifier) : Option WorkerRecord :=
  fold.workers.find? fun item => item.workerId = workerId

def grant (fold : WorkerFold) (grantId : EventIdentifier) : Option GrantRecord :=
  fold.grants.find? fun item => item.grantId = grantId

def queuedWork (fold : WorkerFold) (taskId attemptId : EventIdentifier) : Option QueuedWork :=
  fold.queued.find? fun item => item.taskId = taskId ∧ item.attemptId = attemptId

def lease (fold : WorkerFold) (leaseId : EventIdentifier) : Option LeaseRecord :=
  fold.leases.find? fun item => item.leaseId = leaseId

end WorkerFold

/-- The loop of `active_lease_for`. -/
def activeLease (taskId attemptId : EventIdentifier) (now : Instant) :
    List LeaseRecord → Except WorkerError (Option LeaseRecord)
  | [] => .ok none
  | item :: rest =>
    if item.taskId ≠ taskId ∨ item.attemptId ≠ attemptId then activeLease taskId attemptId now rest
    else if item.status ∈ terminalLease then activeLease taskId attemptId now rest
    else do
      let expiresAt ← parseRfc3339 item.expiresAt
      if expiresAt ≤ now then activeLease taskId attemptId now rest else .ok (some item)

def WorkerFold.activeLeaseFor (fold : WorkerFold) (taskId attemptId : EventIdentifier)
    (now : Instant) : Except WorkerError (Option LeaseRecord) :=
  activeLease taskId attemptId now fold.leases

/-- Raise a `WorkerCallError` unless the condition holds. -/
def requireCall (condition : Prop) [Decidable condition] (message code : String) :
    Except WorkerError Unit :=
  if condition then .ok () else .error (.call message code)

/-- The value of a lookup or field, or a `WorkerCallError`. -/
def presentCall {α : Type} (value : Option α) (message code : String) : Except WorkerError α :=
  match value with
  | some a => .ok a
  | none => .error (.call message code)

/-- `_replace_grant` -/
def replaceGrant (grants : List GrantRecord) (updated : GrantRecord) : List GrantRecord :=
  grants.map fun item => if item.grantId = updated.grantId then updated else item

/-- `_replace_lease` -/
def replaceLease (leases : List LeaseRecord) (updated : LeaseRecord) : List LeaseRecord :=
  leases.map fun item => if item.leaseId = updated.leaseId then updated else item

/-- `_apply_registered` -/
def applyRegistered (fold : WorkerFold) (payload : WorkerRegisteredPayload) :
    Except WorkerError WorkerFold := do
  requireCall ((fold.worker payload.workerId).isNone) "workerId is already registered"
    "duplicate-worker-id"
  .ok { fold with
    workers := fold.workers ++ [⟨payload.workerId, payload.runtime, payload.accelerators⟩] }

def recordedGrant (event : ResearchEvent) (payload : GrantRecordedPayload)
    (runId attemptId : EventIdentifier) : GrantRecord where
  grantId := payload.grantId
  grantEventId := event.id
  workerId := payload.workerId
  taskId := payload.taskId
  nonce := payload.nonce
  expiresAt := payload.expiresAt
  runId := runId
  attemptId := attemptId
  authorizationEventId := payload.authorizationEventId
  authorizationSequence := payload.authorizationSequence
  imageDigest := payload.imageDigest
  configDigest := payload.configDigest
  revoked := false
  consumedLeaseId := none

/-- `_apply_grant_recorded` -/
def applyGrantRecorded (fold : WorkerFold) (event : ResearchEvent)
    (payload : GrantRecordedPayload) : Except WorkerError WorkerFold := do
  requireCall ((fold.grant payload.grantId).isNone) "grantId is already recorded"
    "duplicate-grant-id"
  requireCall ((fold.worker payload.workerId).isSome) "grant workerId is not registered"
    "unknown-worker"
  let runId ← presentCall event.data.runId "grant events require runId and attemptId"
    "grant-run-missing"
  let attemptId ← presentCall event.data.attemptId "grant events require runId and attemptId"
    "grant-run-missing"
  .ok { fold with grants := fold.grants ++ [recordedGrant event payload runId attemptId] }

/-- `_apply_grant_revoked` -/
def applyGrantRevoked (fold : WorkerFold) (payload : GrantRevokedPayload) :
    Except WorkerError WorkerFold := do
  let current ← presentCall (fold.grant payload.grantId) "grantId is not recorded" "unknown-grant"
  requireCall (current.revoked = false) "grantId is already revoked" "grant-already-revoked"
  .ok { fold with grants := replaceGrant fold.grants { current with revoked := true } }

/-- `_apply_grant_consumed` -/
def applyGrantConsumed (fold : WorkerFold) (payload : GrantConsumedPayload) :
    Except WorkerError WorkerFold := do
  let current ← presentCall (fold.grant payload.grantId) "grantId is not recorded" "unknown-grant"
  requireCall (current.revoked = false) "revoked grant cannot be consumed" "grant-revoked"
  requireCall (current.nonce = payload.nonce) "grant nonce does not match" "grant-nonce-mismatch"
  match current.consumedLeaseId with
  | some consumed =>
    requireCall (consumed = payload.leaseId) "grant nonce was already consumed" "grant-replay"
    .ok fold
  | none =>
    requireCall ((fold.lease payload.leaseId).any fun lease => lease.grantId = payload.grantId)
      "grant consume lease does not match" "grant-lease-mismatch"
    .ok { fold with
      grants := replaceGrant fold.grants { current with consumedLeaseId := some payload.leaseId } }

def queuedItem (payload : WorkQueuedPayload) (runId attemptId : EventIdentifier) : QueuedWork where
  taskId := payload.taskId
  runId := runId
  attemptId := attemptId
  imageDigest := payload.imageDigest
  configDigest := payload.configDigest
  config := payload.config
  inputs := payload.inputs
  runtime := payload.runtime
  imageMediaType := payload.imageMediaType
  requiredAccelerators := payload.requiredAccelerators

/-- `_apply_queued` -/
def applyQueued (fold : WorkerFold) (event : ResearchEvent) (payload : WorkQueuedPayload) :
    Except WorkerError WorkerFold := do
  let runId ← presentCall event.data.runId "work.queued requires runId and attemptId"
    "work-run-missing"
  let attemptId ← presentCall event.data.attemptId "work.queued requires runId and attemptId"
    "work-run-missing"
  requireCall ((fold.queuedWork payload.taskId attemptId).isNone) "task attempt is already queued"
    "duplicate-work"
  .ok { fold with queued := fold.queued ++ [queuedItem payload runId attemptId] }

def openedLease (payload : WorkLeasedPayload) (runId attemptId : EventIdentifier) :
    LeaseRecord where
  leaseId := payload.leaseId
  workerId := payload.workerId
  taskId := payload.taskId
  grantId := payload.grantId
  runId := runId
  attemptId := attemptId
  expiresAt := payload.expiresAt
  claimed := false
  status := .leased
  resultDigest := none
  artifactDigest := none
  reasonCode := none

/-- `_apply_leased` -/
def applyLeased (fold : WorkerFold) (event : ResearchEvent) (payload : WorkLeasedPayload) :
    Except WorkerError WorkerFold := do
  requireCall ((fold.lease payload.leaseId).isNone) "leaseId is already recorded"
    "duplicate-lease-id"
  let worker ← presentCall (fold.worker payload.workerId) "lease workerId is not registered"
    "unknown-worker"
  let grant ← presentCall (fold.grant payload.grantId) "lease grantId is not recorded"
    "unknown-grant"
  requireCall (grant.revoked = false) "revoked grant cannot lease work" "grant-revoked"
  requireCall (grant.workerId = payload.workerId ∧ grant.taskId = payload.taskId)
    "lease does not match the grant" "grant-lease-mismatch"
  let runId ← presentCall event.data.runId "work.leased requires runId and attemptId"
    "work-run-missing"
  let attemptId ← presentCall event.data.attemptId "work.leased requires runId and attemptId"
    "work-run-missing"
  let queued ← presentCall (fold.queuedWork payload.taskId attemptId)
    "leased task attempt is not queued" "unknown-work"
  requireCall (worker.runtime = queued.runtime) "worker runtime does not match queued work"
    "runtime-mismatch"
  requireCall (∀ required ∈ queued.requiredAccelerators.val, required ∈ worker.accelerators.val)
    "worker does not advertise required accelerators" "accelerator-missing"
  let now ← parseRfc3339 event.time
  let active ← fold.activeLeaseFor payload.taskId attemptId now
  requireCall (active = none) "task attempt already has an active lease" "lease-conflict"
  .ok { fold with leases := fold.leases ++ [openedLease payload runId attemptId] }

/-- `_apply_claimed` -/
def applyClaimed (fold : WorkerFold) (payload : WorkClaimedPayload) :
    Except WorkerError WorkerFold := do
  let current ← presentCall (fold.lease payload.leaseId) "leaseId is not recorded" "unknown-lease"
  requireCall (current.workerId = payload.workerId) "claim worker does not own the lease"
    "lease-worker-mismatch"
  requireCall (current.status ∉ terminalLease) "terminal lease cannot be claimed" "lease-terminal"
  if current.claimed then .ok fold
  else .ok { fold with leases := replaceLease fold.leases { current with claimed := true } }

/-- `_apply_completed` -/
def applyCompleted (fold : WorkerFold) (payload : WorkCompletedPayload) :
    Except WorkerError WorkerFold := do
  let current ← presentCall (fold.lease payload.leaseId) "leaseId is not recorded" "unknown-lease"
  if current.status = .completed then do
    requireCall (current.resultDigest = some payload.resultDigest ∧
        current.artifactDigest = some payload.artifactDigest)
      "completed lease result does not match" "complete-mismatch"
    .ok fold
  else do
    requireCall (current.status ∉ terminalLease) "terminal lease cannot be completed"
      "lease-terminal"
    requireCall (current.claimed = true) "lease must be claimed before complete"
      "lease-not-claimed"
    .ok { fold with leases := replaceLease fold.leases { current with
      claimed := true
      status := .completed
      resultDigest := some payload.resultDigest
      artifactDigest := some payload.artifactDigest } }

/-- `_apply_failed` -/
def applyFailed (fold : WorkerFold) (payload : WorkFailedPayload) :
    Except WorkerError WorkerFold := do
  let current ← presentCall (fold.lease payload.leaseId) "leaseId is not recorded" "unknown-lease"
  if current.status = .failed then do
    requireCall (current.reasonCode = some payload.reasonCode)
      "failed lease reason does not match" "fail-mismatch"
    .ok fold
  else do
    requireCall (current.status ∉ terminalLease) "terminal lease cannot fail" "lease-terminal"
    .ok { fold with leases := replaceLease fold.leases { current with
      status := .failed
      reasonCode := some payload.reasonCode } }

/-- `_apply_expired` -/
def applyExpired (fold : WorkerFold) (payload : WorkLeaseExpiredPayload) :
    Except WorkerError WorkerFold := do
  let current ← presentCall (fold.lease payload.leaseId) "leaseId is not recorded" "unknown-lease"
  if current.status = .expired then .ok fold
  else do
    requireCall (current.status ∉ terminalLease) "terminal lease cannot expire" "lease-terminal"
    .ok { fold with leases := replaceLease fold.leases { current with status := .expired } }

/-- The handler of a parsed payload. -/
def applyPayload (fold : WorkerFold) (event : ResearchEvent) :
    WorkerPayload → Except WorkerError WorkerFold
  | .workerRegistered payload => applyRegistered fold payload
  | .grantRecorded payload => applyGrantRecorded fold event payload
  | .grantRevoked payload => applyGrantRevoked fold payload
  | .grantConsumed payload => applyGrantConsumed fold payload
  | .workQueued payload => applyQueued fold event payload
  | .workLeased payload => applyLeased fold event payload
  | .workClaimed payload => applyClaimed fold payload
  | .workCompleted payload => applyCompleted fold payload
  | .workFailed payload => applyFailed fold payload
  | .workLeaseExpired payload => applyExpired fold payload

/-- `apply_worker_fold` -/
def applyWorkerFold (F : FloatText) (projectId : EventIdentifier) (fold : WorkerFold)
    (event : ResearchEvent) : Except WorkerError WorkerFold :=
  if event.data.projectId ≠ projectId then .ok fold
  else
    match WorkerEventType.ofText event.type.val with
    | none => .ok fold
    | some type => do
      requireWorkerActor type event
      let payload ← parseWorkerPayload F type event
      applyPayload fold event payload

/-- The fold of a log from its start. -/
def replayWorkers (F : FloatText) (projectId : EventIdentifier) (events : List ResearchEvent) :
    Except WorkerError WorkerFold :=
  events.foldlM (applyWorkerFold F projectId) WorkerFold.empty

end ResearchOs.Workers
