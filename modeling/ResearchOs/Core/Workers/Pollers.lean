import ResearchOs.Core.Recovery.Reconcile
import ResearchOs.Core.Workers.Callers

/-! `WorkerPlane.poll`: a lease is opened, claimed and consumed by three appends, each of which is
checked against a fold of its own. -/
namespace ResearchOs.Workers

open JsonText (FloatText)
open Storage (EventLog StoreError)

structure ClaimedWork where
  leaseId : EventIdentifier
  workerId : EventIdentifier
  taskId : EventIdentifier
  runId : EventIdentifier
  attemptId : EventIdentifier
  grantId : EventIdentifier
  nonce : EventIdentifier
  imageDigest : Sha256Digest
  configDigest : StrictDigest
  config : Json.Members
  inputs : Json.Members
  runtime : WorkerRuntime
  imageMediaType : ImageMediaType
  expiresAt : String
  resumed : Bool
  cancelRequested : Bool

structure PollCall where
  workerId : String
  claims : Except WorkerError GrantClaims
  resumeExisting : Bool

/-- What a step of a poll reads besides the log. -/
structure PollReads where
  now : Instant
  /-- `format_rfc3339` of the clock, and of the clock after the lease seconds. -/
  stamp : String
  leaseExpiresAt : String
  verify : String → Except PlaneError Unit
  storeFault : Option StoreError

/-- The clock as a poll has read it at its start. -/
structure PollClock where
  now : Instant
  stamp : String
  leaseExpiresAt : String

/-- Work that a poll hands out once its facts are appended; `grant` is the grant of the token. -/
structure Opening where
  work : ClaimedWork
  grant : GrantRecord
  stamp : String
  existing : Bool

/-- Queued work without a lease of the worker. -/
structure Candidate where
  work : QueuedWork
  grant : GrantRecord
  clock : PollClock

/-- The facts that a poll appends; an expired lease is replaced for a candidate only. -/
inductive PollFact where
  | expire (lease : LeaseRecord) (stamp : String) (reopen : Option Candidate)
  | lease (opening : Opening)
  | claim (opening : Opening) (consume : Bool)
  | consume (opening : Opening)

/-- What a poll does once it has read the fold. -/
inductive Polled where
  | nothing
  | expire (lease : LeaseRecord) (reopen : Option Candidate)
  | append (fact : PollFact)
  | answer (opening : Opening)
  | inquire (fold : WorkerFold) (candidate : Candidate)

/-- `lease_for_worker` -/
def leaseForWorker (fold : WorkerFold) (taskId attemptId : EventIdentifier) (workerId : String) :
    Option LeaseRecord :=
  (fold.leases.filter fun item => item.taskId = taskId ∧ item.attemptId = attemptId ∧
    item.workerId.val = workerId).getLast?

/-- `_stale_lease` -/
def staleLease (fold : WorkerFold) (taskId attemptId : EventIdentifier) (now : Instant) :
    Except WorkerError (Option LeaseRecord) :=
  match (fold.leases.filter fun item => item.taskId = taskId ∧ item.attemptId = attemptId).getLast?
    with
  | none => .ok none
  | some latest =>
    if latest.status ∈ terminalLease then .ok none
    else do
      let expiresAt ← parseRfc3339 latest.expiresAt
      .ok (if expiresAt ≤ now then some latest else none)

/-- `_require_live_grant` -/
def requireLiveGrant (plane : WorkerPlane) (grant : GrantRecord) (claims : GrantClaims)
    (now : Instant) : Except WorkerError Unit := do
  requireGrant (grant.revoked = false) "grantId is revoked" "grant-revoked"
  requireGrant (grant.workerId.val = claims.workerId) "grant token worker does not match"
    "grant-worker-mismatch"
  requireGrant (claims.projectId = plane.projectId.val) "grant token project does not match"
    "grant-project-mismatch"
  requireGrant (grant.grantEventId.val = claims.grantEventId) "grant event id does not match"
    "grant-event-mismatch"
  requireGrant (grant.nonce.val = claims.nonce) "grant nonce does not match" "grant-nonce-mismatch"
  requireGrant (grant.taskId.val = claims.taskId ∧ grant.runId.val = claims.runId ∧
      grant.attemptId.val = claims.attemptId)
    "grant token is not bound to this execution object" "grant-task-mismatch"
  requireCall (grant.imageDigest.val = claims.imageDigest ∧
      grant.configDigest.val = claims.configDigest)
    "grant token execution object does not match the recorded grant" "execution-binding-mismatch"
  let expiresAt ← parseRfc3339 grant.expiresAt
  requireGrant (now < expiresAt) "grant token has expired" "grant-expired"

/-- The digest that an input of the work names. -/
def inputDigest (work : QueuedWork) (key message : String) : Except WorkerError String :=
  match work.inputs.lookup key with
  | some (.str digest) => .ok digest
  | _ => .error (rejectExecution message)

/-- `_cas_fetch_digest` -/
def casFetchDigest (work : QueuedWork) : Except WorkerError String :=
  match work.runtime with
  | .pythonSandbox | .nativeReviewed => .ok work.imageDigest.val
  | .ociContainer => inputDigest work "brickDigest" "OCI work is missing the CAS brick digest"
  | .gpuOci =>
    inputDigest work "planArtifactDigest" "GPU work is missing the CAS training-plan digest"
  | .macosMps =>
    inputDigest work "planArtifactDigest" "MPS work is missing the CAS training-plan digest"

/-- `_require_execution_match` without claims -/
def requireQueuedMatch (contentDigest : Json → Option String) (grant : GrantRecord)
    (work : QueuedWork) : Except PlaneError Unit := do
  let actual ← brickExecutionDigest contentDigest work
  fromWorker (requireCall (actual = work.configDigest.val)
    "execution object digest does not match the authorized binding" "execution-binding-mismatch")
  fromWorker (requireCall (work.imageDigest = grant.imageDigest ∧
      work.configDigest = grant.configDigest ∧ work.taskId = grant.taskId ∧
      work.runId = grant.runId ∧ work.attemptId = grant.attemptId)
    "queued execution object does not match the grant" "execution-binding-mismatch")

/-- The work of a lease, before its cancellation is looked up. -/
def claimedWork (work : QueuedWork) (leaseId workerId taskId runId attemptId grantId
    nonce : EventIdentifier) (expiresAt : String) (resumed : Bool) : ClaimedWork where
  leaseId := leaseId
  workerId := workerId
  taskId := taskId
  runId := runId
  attemptId := attemptId
  grantId := grantId
  nonce := nonce
  imageDigest := work.imageDigest
  configDigest := work.configDigest
  config := work.config
  inputs := work.inputs
  runtime := work.runtime
  imageMediaType := work.imageMediaType
  expiresAt := expiresAt
  resumed := resumed
  cancelRequested := false

def claimedEventId (leaseId : String) : String := "evt.work.claimed." ++ leaseId

/-- `work_leased_draft` -/
def workLeasedDraft (plane : WorkerPlane) (work : ClaimedWork) (stamp : String) : WorkerDraft :=
  leaseDraft plane .workLeased ("evt.work.leased." ++ work.leaseId.val) stamp work.leaseId.val
    work.workerId.val work.runId.val work.attemptId.val
    [("leaseId", .str work.leaseId.val), ("workerId", .str work.workerId.val),
      ("taskId", .str work.taskId.val), ("grantId", .str work.grantId.val),
      ("expiresAt", .str work.expiresAt)] (by simp [Json.canonical])

/-- `work_claimed_draft` -/
def workClaimedDraft (plane : WorkerPlane) (work : ClaimedWork) (stamp : String) : WorkerDraft :=
  leaseDraft plane .workClaimed (claimedEventId work.leaseId.val) stamp work.leaseId.val
    work.workerId.val work.runId.val work.attemptId.val
    [("leaseId", .str work.leaseId.val), ("workerId", .str work.workerId.val),
      ("nonce", .str work.nonce.val)] (by simp [Json.canonical])

/-- `grant_consumed_draft` -/
def grantConsumedDraft (plane : WorkerPlane) (opening : Opening) : WorkerDraft where
  eventId := "evt.grant.consumed." ++ opening.grant.grantId.val
  eventType := .grantConsumed
  time := opening.stamp
  source := plane.source
  subject := opening.grant.grantId.val
  streamId := plane.projectId.val
  actorId := opening.grant.workerId.val
  actorKind := .system
  projectId := plane.projectId.val
  experimentRevision := plane.experimentRevision
  payload := [("grantId", .str opening.grant.grantId.val), ("leaseId", .str opening.work.leaseId.val),
    ("nonce", .str opening.work.nonce.val)]
  payloadIsCanonical := by simp [Json.canonical]
  evidenceRefs := []
  runId := some opening.work.runId.val
  attemptId := some opening.work.attemptId.val

def PollFact.draft (plane : WorkerPlane) : PollFact → WorkerDraft
  | .expire current stamp _ =>
    workLeaseExpiredDraft plane current.leaseId.val current.workerId.val current.runId.val
      current.attemptId.val ("evt.work.lease.expired." ++ current.leaseId.val) stamp
  | .lease opening => workLeasedDraft plane opening.work opening.stamp
  | .claim opening _ => workClaimedDraft plane opening.work opening.stamp
  | .consume opening => grantConsumedDraft plane opening

def leaseExpired : PlaneError :=
  .worker (.call "expired lease cannot be claimed" "lease-expired")

/-- What is left of a resumption once the lease is claimed. -/
def resumption (opening : Opening) (claimed consumed : Bool) : Polled :=
  if claimed = false then .append (.claim opening (!consumed))
  else if consumed = false then .append (.consume opening)
  else .answer opening

/-- `_resume_or_reject` up to its first append -/
def resumeOrReject (existing : LeaseRecord) (work : QueuedWork) (grant : GrantRecord)
    (clock : PollClock) : Except PlaneError Polled :=
  if existing.status = .completed then .ok .nothing
  else if existing.status = .failed ∨ existing.status = .expired then
    .error (.worker (.call "terminal lease cannot be resumed" "lease-terminal"))
  else do
    let expiresAt ← fromWorker (parseRfc3339 existing.expiresAt)
    if expiresAt ≤ clock.now then .ok (.expire existing none)
    else .ok (resumption
      { work := claimedWork work existing.leaseId existing.workerId existing.taskId existing.runId
          existing.attemptId existing.grantId grant.nonce existing.expiresAt.val existing.claimed
        grant := grant
        stamp := clock.stamp
        existing := true }
      existing.claimed grant.consumedLeaseId.isSome)

/-- What a poll does with its queued work. -/
def pollWork (plane : WorkerPlane) (contentDigest : Json → Option String) (call : PollCall)
    (claims : GrantClaims) (fold : WorkerFold) (grant : GrantRecord) (clock : PollClock) :
    Option QueuedWork → Except PlaneError Polled
  | none => .ok .nothing
  | some work => do
    requireExecutionMatch contentDigest plane grant work claims
    match leaseForWorker fold grant.taskId grant.attemptId call.workerId with
    | some existing => resumeOrReject existing work grant clock
    | none => .ok (.inquire fold ⟨work, grant, clock⟩)

/-- `lease.<grantId>`, when it is a valid identifier. -/
def openedLeaseId (grant : GrantRecord) : Except PlaneError EventIdentifier :=
  if h : isEventIdentifier ("lease." ++ grant.grantId.val) = true then
    .ok ⟨"lease." ++ grant.grantId.val, h⟩
  else .error (.worker (.payload "event draft failed ResearchEvent validation" "invalid-event"))

/-- `_open_lease` up to its first append -/
def openLease (contentDigest : Json → Option String) (fold : WorkerFold) (candidate : Candidate)
    (reads : PollReads) : Except PlaneError Opening := do
  let worker ← fromWorker (presentCall (fold.worker candidate.grant.workerId)
    "workerId is not registered" "unknown-worker")
  fromWorker (requireCall (worker.runtime = candidate.work.runtime)
    "worker runtime does not match queued work" "runtime-mismatch")
  fromWorker (requireCall (∀ required ∈ candidate.work.requiredAccelerators.val,
      required ∈ worker.accelerators.val)
    "worker does not advertise required accelerators" "accelerator-missing")
  requireQueuedMatch contentDigest candidate.grant candidate.work
  let digest ← fromWorker (casFetchDigest candidate.work)
  reads.verify digest
  let leaseId ← openedLeaseId candidate.grant
  .ok
    { work := claimedWork candidate.work leaseId candidate.grant.workerId candidate.grant.taskId
        candidate.work.runId candidate.work.attemptId candidate.grant.grantId candidate.grant.nonce
        candidate.clock.leaseExpiresAt false
      grant := candidate.grant
      stamp := candidate.clock.stamp
      existing := false }

end ResearchOs.Workers

/-! Any number of polls on one store. Each fact of a poll is checked against a fold that is
rebuilt for it, and the store appends it at the head of that fold. -/
namespace ResearchOs.Workers

open JsonText (FloatText)
open Recovery (RecoveryError runCancelRequested)
open Storage (EventLog StoreError)

inductive PollError where
  | plane (error : PlaneError)
  | recovery (error : RecoveryError)

def fromPlane {α : Type} : Except PlaneError α → Except PollError α
  | .ok a => .ok a
  | .error e => .error (.plane e)

def fromRecovery {α : Type} : Except RecoveryError α → Except PollError α
  | .ok a => .ok a
  | .error e => .error (.recovery e)

@[simp] theorem fromPlane_eq_ok {α : Type} {r : Except PlaneError α} {a : α} :
    fromPlane r = .ok a ↔ r = .ok a := by
  cases r <;> simp [fromPlane]

@[simp] theorem fromRecovery_eq_ok {α : Type} {r : Except RecoveryError α} {a : α} :
    fromRecovery r = .ok a ↔ r = .ok a := by
  cases r <;> simp [fromRecovery]

/-- Where a poll stands. -/
inductive PollPhase where
  | checking
  | inquiring (fold : WorkerFold) (candidate : Candidate)
  | expiring (current : LeaseRecord) (reopen : Option Candidate)
  | reopening (candidate : Candidate)
  | appending (fact : PollFact)
  | prepared (fact : PollFact) (head : Nat)
  | answering (opening : Opening)
  | returned (answer : Except PollError (Option ClaimedWork))

structure Poller where
  plane : WorkerPlane
  call : PollCall
  phase : PollPhase
  /-- The length of the log from which the poll has rebuilt its fold. -/
  readAt : Nat

/-- What is left of a poll after one of its facts. -/
def PollFact.next : PollFact → PollPhase
  | .expire _ _ none => .returned (.error (.plane leaseExpired))
  | .expire _ _ (some candidate) => .reopening candidate
  | .lease opening => .appending (.claim opening true)
  | .claim opening true => .appending (.consume opening)
  | .claim opening false => .answering opening
  | .consume opening => .answering opening

namespace Poller

/-- The phase after a check. -/
def settle : Except PollError Polled → PollPhase
  | .error e => .returned (.error e)
  | .ok .nothing => .returned (.ok none)
  | .ok (.expire current reopen) => .expiring current reopen
  | .ok (.append fact) => .appending fact
  | .ok (.answer opening) => .answering opening
  | .ok (.inquire fold candidate) => .inquiring fold candidate

section

variable (F : FloatText) (contentDigest : Json → Option String)

/-- `poll` up to its lookup of a cancellation. -/
def poll (poller : Poller) (reads : PollReads) (log : EventLog) : Except PlaneError Polled := do
  let claims ← fromWorker poller.call.claims
  fromWorker (requireGrant (claims.workerId = poller.call.workerId)
    "grant token worker does not match" "grant-worker-mismatch")
  let head ← rebuild F poller.plane.projectId log
  let grant ← fromWorker (presentGrant (head.fold.findGrant claims.grantId)
    "grantId is not recorded" "unknown-grant")
  fromWorker (requireLiveGrant poller.plane grant claims reads.now)
  pollWork poller.plane contentDigest poller.call claims head.fold grant
    ⟨reads.now, reads.stamp, reads.leaseExpiresAt⟩
    (head.fold.queuedWork grant.taskId grant.attemptId)

/-- The lease of a candidate, on the fold that the poll has read. -/
def openFor (candidate : Candidate) (fold : WorkerFold) (reads : PollReads) :
    Except PlaneError Polled := do
  let opening ← openLease contentDigest fold candidate reads
  .ok (.append (.lease opening))

/-- A lease in the way of a candidate: a live one refuses the poll, a stale one is expired. -/
def replace (candidate : Candidate) (fold : WorkerFold) (reads : PollReads) :
    Except PlaneError Polled := do
  let active ← fromWorker (fold.activeLeaseFor candidate.grant.taskId candidate.grant.attemptId
    candidate.clock.now)
  fromWorker (requireCall (active = none) "task attempt already has an active lease"
    "lease-conflict")
  let stale ← fromWorker (staleLease fold candidate.grant.taskId candidate.grant.attemptId
    candidate.clock.now)
  match stale with
  | some current => .ok (.expire current (some candidate))
  | none => openFor contentDigest candidate fold reads

/-- `poll` from its lookup of a cancellation on. -/
def inquire (poller : Poller) (candidate : Candidate) (fold : WorkerFold) (reads : PollReads)
    (log : EventLog) : Except PollError Polled := do
  let requested ← fromRecovery (runCancelRequested ⟨poller.plane.projectId, candidate.work.runId⟩
    log candidate.work.attemptId)
  if requested = true then .ok .nothing
  else fromPlane (replace contentDigest candidate fold reads)

/-- `expire_lease` up to its append -/
def expire (poller : Poller) (current : LeaseRecord) (reopen : Option Candidate)
    (reads : PollReads) (log : EventLog) : Except PlaneError Polled := do
  let head ← rebuild F poller.plane.projectId log
  let lease ← fromWorker (presentCall (head.fold.lease current.leaseId) "leaseId is not recorded"
    "unknown-lease")
  .ok (.append (.expire lease reads.stamp reopen))

/-- The fold that is rebuilt after an expiry, and the lease on it. -/
def reopen (poller : Poller) (candidate : Candidate) (reads : PollReads) (log : EventLog) :
    Except PlaneError Polled := do
  let head ← rebuild F poller.plane.projectId log
  openFor contentDigest candidate head.fold reads

/-- `WorkerControl.append` up to the call of the store. -/
def prepare (poller : Poller) (fact : PollFact) (log : EventLog) : PollPhase :=
  match appendHead F poller.plane.projectId log (fact.draft poller.plane).document none with
  | .ok head => .prepared fact head
  | .error e => .returned (.error (.plane e))

/-- The call of the store. -/
def store (poller : Poller) (fact : PollFact) (head : Nat) (fault : Option StoreError)
    (log : EventLog) : PollPhase × Option ResearchEvent :=
  match fault with
  | some e => (.returned (.error (.plane (.store e))), none)
  | none =>
    match log.append (fact.draft poller.plane).document (some head) with
    | .ok event => (fact.next, some event)
    | .error e => (.returned (.error (.plane (.store e))), none)

/-- `_claimed`, and the `resume_existing` of the poll. -/
def answer (poller : Poller) (opening : Opening) (log : EventLog) :
    Except PollError (Option ClaimedWork) := do
  let requested ← fromRecovery (runCancelRequested ⟨poller.plane.projectId, opening.work.runId⟩ log
    opening.work.attemptId)
  .ok (some { opening.work with
    resumed := opening.work.resumed || (opening.existing && poller.call.resumeExisting)
    cancelRequested := requested })

def advance (log : EventLog) (poller : Poller) (reads : PollReads) :
    PollPhase × Option ResearchEvent :=
  match poller.phase with
  | .checking => (settle (fromPlane (poller.poll F contentDigest reads log)), none)
  | .inquiring fold candidate =>
    (settle (poller.inquire contentDigest candidate fold reads log), none)
  | .expiring current reopen => (settle (fromPlane (poller.expire F current reopen reads log)), none)
  | .reopening candidate =>
    (settle (fromPlane (poller.reopen F contentDigest candidate reads log)), none)
  | .appending fact => (poller.prepare F fact log, none)
  | .prepared fact head => poller.store fact head reads.storeFault log
  | .answering opening => (.returned (poller.answer opening log), none)
  | .returned answer => (.returned answer, none)

def move (log : EventLog) (poller : Poller) (reads : PollReads) : Poller × Option ResearchEvent :=
  ({ poller with
      phase := (poller.advance F contentDigest log reads).1
      readAt := match poller.phase with
        | .checking => log.length
        | _ => poller.readAt },
    (poller.advance F contentDigest log reads).2)

end

end Poller

/-- A poll that was just called. -/
def Poller.starts (poller : Poller) : Bool :=
  match poller.phase with
  | .checking => decide (poller.readAt = 0)
  | _ => false

/-- The polls on one store; other writers append any event under an identifier of its own. -/
def pollers (F : FloatText) (contentDigest : Json → Option String) :
    Clients ResearchEvent Poller PollReads where
  starts := Poller.starts
  admits log event := log.all fun earlier => decide (earlier.id ≠ event.id)
  move := Poller.move F contentDigest

end ResearchOs.Workers
