import ResearchOs.Core.Workers.Plane

/-! `complete_native_output`: bytes are published between two authorizations, and the head of the
second one is the head at which the completion is appended. -/
namespace ResearchOs.Workers

open JsonText (FloatText)
open Storage (EventLog)

def maxWorkerPutBytes : Nat := 268435456

/-- `brick_execution_document` -/
def brickExecutionDocument (work : QueuedWork) : Json :=
  .obj (Json.ofPairs [("config", .obj work.config), ("imageDigest", .str work.imageDigest.val),
    ("imageMediaType", .str work.imageMediaType.text), ("inputs", .obj work.inputs),
    ("runtime", .str work.runtime.text)])

def rejectExecution (message : String) : WorkerError := .call message "execution-binding-mismatch"

/-- `brick_execution_digest` -/
def brickExecutionDigest (contentDigest : Json → Option String) (work : QueuedWork) :
    Except PlaneError String :=
  let digest (j : Json) : Except PlaneError String :=
    match contentDigest j with
    | some digest => .ok digest
    | none => .error (.raised "ValueError")
  if work.runtime = .nativeReviewed ∧ work.imageMediaType = .nativeReviewed then
    match work.inputs, work.config.lookup "code" with
    | [], some (.obj code) =>
      match code.lookup "bundleDigest" with
      | some (.str bundleDigest) =>
        if bundleDigest = work.imageDigest.val then digest (.obj work.config)
        else .error (.worker (rejectExecution "native execution object is not bound to the bundle"))
      | _ => .error (.worker (rejectExecution "native execution object is not bound to the bundle"))
    | _, _ => .error (.worker (rejectExecution "native execution object is not bound to the bundle"))
  else if runtimeMatches work.runtime work.imageMediaType then digest (brickExecutionDocument work)
  else .error (.worker (rejectExecution "execution object runtime does not match imageMediaType"))

/-- `_require_execution_match` with claims -/
def requireExecutionMatch (contentDigest : Json → Option String) (plane : WorkerPlane)
    (grant : GrantRecord) (work : QueuedWork) (claims : GrantClaims) : Except PlaneError Unit := do
  let actual ← brickExecutionDigest contentDigest work
  fromWorker (requireCall (actual = work.configDigest.val)
    "execution object digest does not match the authorized binding" "execution-binding-mismatch")
  fromWorker (requireCall (work.imageDigest = grant.imageDigest ∧
      work.configDigest = grant.configDigest ∧ work.taskId = grant.taskId ∧
      work.runId = grant.runId ∧ work.attemptId = grant.attemptId)
    "queued execution object does not match the grant" "execution-binding-mismatch")
  fromWorker (requireGrant (claims.imageDigest = grant.imageDigest.val ∧
      claims.configDigest = grant.configDigest.val ∧ claims.taskId = grant.taskId.val ∧
      claims.runId = grant.runId.val ∧ claims.attemptId = grant.attemptId.val ∧
      claims.projectId = plane.projectId.val)
    "grant token is not bound to this execution object" "grant-task-mismatch")

/-- A subscript of a JSON value. -/
def item (key : String) : Json → Except PlaneError Json
  | .obj ms =>
    match ms.lookup key with
    | some value => .ok value
    | none => .error (.raised "KeyError")
  | _ => .error (.raised "TypeError")

/-- The bound of the output, from the planned limits. -/
def artifactBytes (config : Json.Members) : Except PlaneError Nat := do
  let limits ← item "limits" (.obj config)
  match ← item "artifactBytes" limits with
  | .int (.ofNat limit) => .ok (min limit maxWorkerPutBytes)
  | _ => .error (.worker (rejectExecution "native output bound is invalid"))

structure NativeOutputAuthority where
  lease : LeaseRecord
  byteLimit : Nat
  headSequence : Nat
  requestDigest : String

section

variable (F : FloatText) (contentDigest : Json → Option String) (plane : WorkerPlane)

/-- The queued native work of a lease. -/
def nativeWork (fold : WorkerFold) (lease : LeaseRecord) : Except WorkerError QueuedWork := do
  let work ← presentCall (fold.queuedWork lease.taskId lease.attemptId) "native work is required"
    "execution-binding-mismatch"
  requireCall (work.runtime = .nativeReviewed) "native work is required"
    "execution-binding-mismatch"
  .ok work

/-- The checks of an output for a lease that may be completed already. -/
def requireOutput (grant : GrantRecord) (claims : GrantClaims) (lease : LeaseRecord)
    (digest : String) (reads : Reads) : Except PlaneError Unit :=
  if lease.status = .completed then
    fromWorker (requireCall (lease.artifactDigest.map Subtype.val = some digest)
      "completed output differs" "complete-mismatch")
  else do
    fromWorker (requireLiveResultGrant grant claims lease reads.now)
    let cancelRequested ← reads.cancelRequested
    fromWorker (requireCall (cancelRequested = false) "native output is cancelled"
      "transfer-cancel-requested")

/-- `authorize_native_output` -/
def authorizeNativeOutput (call : NativeOutputCall) (reads : Reads) (log : EventLog) :
    Except PlaneError NativeOutputAuthority := do
  let claims ← fromWorker call.claims
  let head ← rebuild F plane.projectId log
  let (lease, grant) ← fromWorker (bindResultAuthorization plane head.fold call.workerId
    call.leaseId claims)
  let work ← fromWorker (nativeWork head.fold lease)
  requireExecutionMatch contentDigest plane grant work claims
  fromWorker (requireCall (lease.claimed = true ∧
      grant.consumedLeaseId.map Subtype.val = some call.leaseId)
    "grant was not consumed by this lease" "grant-not-consumed")
  let byteLimit ← artifactBytes work.config
  fromWorker (requireCall (0 < call.payload.length ∧ call.payload.length ≤ byteLimit)
    "native output exceeds its bound" "transfer-size-mismatch")
  requireOutput grant claims lease call.digest reads
  let requestDigest ← reads.requestDigest
  .ok ⟨lease, byteLimit, head.lastSequence, requestDigest⟩

/-- `_replay` up to the read of the fact. -/
def replayOutput (authority : NativeOutputAuthority) (resultDigest : String) (reads : Reads) :
    Except PlaneError Next := do
  reads.artifact
  fromWorker (requireCall (authority.lease.resultDigest.map Subtype.val = some resultDigest)
    "completed output differs" "complete-mismatch")
  .ok (.replay (completedEventId authority.lease.leaseId.val)
    (.call "completion fact is missing" "complete-missing"))

/-- `complete_native_output` up to the publication of the bytes. -/
def publishOutput (call : NativeOutputCall) (reads : Reads) (log : EventLog) :
    Except PlaneError Next := do
  let bytes := call.payload.map UInt8.toNat
  fromWorker (requireCall ("sha256:" ++ String.ofList (Sha256.digest bytes).hex = call.digest)
    "native output digest differs" "transfer-digest-mismatch")
  let authority ← authorizeNativeOutput F contentDigest plane call reads log
  let resultDigest ← reads.outputDigest
  if authority.lease.status = .completed then replayOutput authority resultDigest reads
  else do
    reads.artifact
    .ok (.publish resultDigest)

/-- `complete_native_output` after the publication, up to the append. -/
def appendOutput (call : NativeOutputCall) (resultDigest : String) (reads : Reads)
    (log : EventLog) : Except PlaneError Next := do
  let authority ← authorizeNativeOutput F contentDigest plane call reads log
  if authority.lease.status = .completed then replayOutput authority resultDigest reads
  else
    .ok (.append (workCompletedDraft plane call.leaseId call.workerId resultDigest call.digest
      authority.lease.runId.val authority.lease.attemptId.val (completedEventId call.leaseId)
      reads.stamp) (some authority.headSequence)
      (some ⟨authority.lease.grantId, authority.headSequence⟩))

end

end ResearchOs.Workers
