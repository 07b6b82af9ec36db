import ResearchOs.Data.JsonText
import ResearchOs.Events.Scalars
import ResearchOs.Events.Model

/-! Worker, work-lease and grant payloads. -/
namespace ResearchOs.Workers

open JsonText (FloatText)

/-- A message and its code; `overflow` is a datetime that UTC cannot hold. -/
inductive WorkerError where
  | call (message code : String)
  | payload (message code : String)
  | grant (message code : String)
  | overflow
  deriving DecidableEq, Repr

/-- `WORKER_EVENT_TYPES` -/
inductive WorkerEventType where
  | workerRegistered
  | workQueued
  | workLeased
  | workClaimed
  | workCompleted
  | workFailed
  | workLeaseExpired
  | grantRecorded
  | grantRevoked
  | grantConsumed
  deriving DecidableEq, Repr

namespace WorkerEventType

def text : WorkerEventType → String
  | workerRegistered => "worker.registered"
  | workQueued => "work.queued"
  | workLeased => "work.leased"
  | workClaimed => "work.claimed"
  | workCompleted => "work.completed"
  | workFailed => "work.failed"
  | workLeaseExpired => "work.lease.expired"
  | grantRecorded => "authorization.grant.recorded"
  | grantRevoked => "authorization.grant.revoked"
  | grantConsumed => "authorization.grant.consumed"

def all : List WorkerEventType :=
  [workerRegistered, workQueued, workLeased, workClaimed, workCompleted, workFailed,
    workLeaseExpired, grantRecorded, grantRevoked, grantConsumed]

def ofText (s : String) : Option WorkerEventType := all.find? fun t => t.text = s

/-- `_HUMAN_TYPES`; the others are system types. -/
def humanTypes : List WorkerEventType := [workerRegistered, grantRecorded, grantRevoked]

end WorkerEventType

inductive WorkerRuntime where
  | pythonSandbox
  | ociContainer
  | gpuOci
  | macosMps
  | nativeReviewed
  deriving DecidableEq, Repr

def WorkerRuntime.text : WorkerRuntime → String
  | .pythonSandbox => "python-sandbox"
  | .ociContainer => "oci-container"
  | .gpuOci => "gpu-oci-container"
  | .macosMps => "macos-mps-process"
  | .nativeReviewed => "native-reviewed-process"

def WorkerRuntime.ofText (s : String) : Option WorkerRuntime :=
  [.pythonSandbox, .ociContainer, .gpuOci, .macosMps, .nativeReviewed].find?
    fun t => WorkerRuntime.text t = s

inductive ImageMediaType where
  | pythonBrick
  | ociImage
  | mpsEnv
  | nativeReviewed
  deriving DecidableEq, Repr

def ImageMediaType.text : ImageMediaType → String
  | .pythonBrick => "researchos.python-brick/v0alpha1"
  | .ociImage => "researchos.oci-image/v0alpha1"
  | .mpsEnv => "researchos.mps-swift-env/v0alpha1"
  | .nativeReviewed => "researchos.native-reviewed-python-bundle/v0alpha1"

def ImageMediaType.ofText (s : String) : Option ImageMediaType :=
  [.pythonBrick, .ociImage, .mpsEnv, .nativeReviewed].find? fun t => ImageMediaType.text t = s

def workerProtocolLongpoll : String := "researchos.worker-longpoll/v0alpha1"

def maxAccelerators : Nat := 8

def maxBrickObjectBytes : Nat := 16384

def isAcceleratorList (xs : List EventIdentifier) : Bool :=
  decide (xs.length ≤ maxAccelerators) && decide xs.Nodup

abbrev Accelerators := Checked isAcceleratorList

def noAccelerators : Accelerators := ⟨[], by decide⟩

structure WorkerRegisteredPayload where
  workerId : EventIdentifier
  runtime : WorkerRuntime
  accelerators : Accelerators

/-- `runtime_matches_image_media_type` -/
def runtimeMatches : WorkerRuntime → ImageMediaType → Bool
  | .pythonSandbox, .pythonBrick => true
  | .ociContainer, .ociImage => true
  | .gpuOci, .ociImage => true
  | .macosMps, .mpsEnv => true
  | .nativeReviewed, .nativeReviewed => true
  | _, _ => false

structure WorkQueuedPayload where
  taskId : EventIdentifier
  imageDigest : Sha256Digest
  imageMediaType : ImageMediaType
  runtime : WorkerRuntime
  config : Json.Members
  inputs : Json.Members
  configDigest : StrictDigest
  requiredAccelerators : Accelerators
  runtimeMatchesImageMediaType : runtimeMatches runtime imageMediaType = true

structure WorkLeasedPayload where
  leaseId : EventIdentifier
  workerId : EventIdentifier
  taskId : EventIdentifier
  grantId : EventIdentifier
  expiresAt : Rfc3339Timestamp

structure WorkClaimedPayload where
  leaseId : EventIdentifier
  workerId : EventIdentifier
  nonce : EventIdentifier

structure WorkCompletedPayload where
  leaseId : EventIdentifier
  resultDigest : StrictDigest
  artifactDigest : Sha256Digest

structure WorkFailedPayload where
  leaseId : EventIdentifier
  reasonCode : EventIdentifier

structure WorkLeaseExpiredPayload where
  leaseId : EventIdentifier
  reasonCode : EventIdentifier

structure GrantRecordedPayload where
  grantId : EventIdentifier
  workerId : EventIdentifier
  taskId : EventIdentifier
  nonce : EventIdentifier
  expiresAt : Rfc3339Timestamp
  authorizationEventId : CloudEventsString
  authorizationSequence : CloudEventsString
  imageDigest : Sha256Digest
  configDigest : StrictDigest

structure GrantRevokedPayload where
  grantId : EventIdentifier
  reasonCode : EventIdentifier

structure GrantConsumedPayload where
  grantId : EventIdentifier
  leaseId : EventIdentifier
  nonce : EventIdentifier

inductive WorkerPayload where
  | workerRegistered (payload : WorkerRegisteredPayload)
  | workQueued (payload : WorkQueuedPayload)
  | workLeased (payload : WorkLeasedPayload)
  | workClaimed (payload : WorkClaimedPayload)
  | workCompleted (payload : WorkCompletedPayload)
  | workFailed (payload : WorkFailedPayload)
  | workLeaseExpired (payload : WorkLeaseExpiredPayload)
  | grantRecorded (payload : GrantRecordedPayload)
  | grantRevoked (payload : GrantRevokedPayload)
  | grantConsumed (payload : GrantConsumedPayload)

/-- The bytes of a text whose characters outside the printable ASCII range are escaped. -/
def asciiLength (cs : List Char) : Nat :=
  (cs.map fun c => if ' ' ≤ c ∧ c ≤ '~' then 1 else if c.toNat < 0x10000 then 6 else 12).sum

/-- `_require_brick_object` -/
def brickObject (F : FloatText) : Json → Option Json.Members
  | .obj ms =>
    if asciiLength (JsonText.render F (.obj ms)) ≤ maxBrickObjectBytes then some ms else none
  | _ => none

def acceleratorList (j : Json) : Option Accelerators :=
  (Strict.array Strict.identifier j).bind (Strict.checked isAcceleratorList)

def WorkerRegisteredPayload.validate (j : Json) : Option WorkerRegisteredPayload := do
  let ms ← Strict.closed ["workerId", "runtime", "protocol", "accelerators"] j
  let workerId ← Strict.required ms "workerId" Strict.identifier
  let runtime ← Strict.defaulted ms "runtime" .pythonSandbox
    (Strict.enumeration WorkerRuntime.ofText)
  Strict.defaulted ms "protocol" () (Strict.literal workerProtocolLongpoll)
  let accelerators ← Strict.defaulted ms "accelerators" noAccelerators acceleratorList
  some ⟨workerId, runtime, accelerators⟩

def WorkQueuedPayload.validate (F : FloatText) (j : Json) : Option WorkQueuedPayload := do
  let ms ← Strict.closed ["taskId", "imageDigest", "imageMediaType", "runtime", "config", "inputs",
    "configDigest", "requiredAccelerators"] j
  let taskId ← Strict.required ms "taskId" Strict.identifier
  let imageDigest ← Strict.required ms "imageDigest" (Strict.text _)
  let imageMediaType ← Strict.defaulted ms "imageMediaType" .pythonBrick
    (Strict.enumeration ImageMediaType.ofText)
  let runtime ← Strict.defaulted ms "runtime" .pythonSandbox
    (Strict.enumeration WorkerRuntime.ofText)
  let config ← Strict.defaulted ms "config" [] (brickObject F)
  let inputs ← Strict.defaulted ms "inputs" [] (brickObject F)
  let configDigest ← Strict.required ms "configDigest" (Strict.text _)
  let requiredAccelerators ← Strict.defaulted ms "requiredAccelerators" noAccelerators
    acceleratorList
  if h : runtimeMatches runtime imageMediaType = true then
    some ⟨taskId, imageDigest, imageMediaType, runtime, config, inputs, configDigest,
      requiredAccelerators, h⟩
  else none

def WorkLeasedPayload.validate (j : Json) : Option WorkLeasedPayload := do
  let ms ← Strict.closed ["leaseId", "workerId", "taskId", "grantId", "expiresAt"] j
  let leaseId ← Strict.required ms "leaseId" Strict.identifier
  let workerId ← Strict.required ms "workerId" Strict.identifier
  let taskId ← Strict.required ms "taskId" Strict.identifier
  let grantId ← Strict.required ms "grantId" Strict.identifier
  let expiresAt ← Strict.required ms "expiresAt" (Strict.text _)
  some ⟨leaseId, workerId, taskId, grantId, expiresAt⟩

def WorkClaimedPayload.validate (j : Json) : Option WorkClaimedPayload := do
  let ms ← Strict.closed ["leaseId", "workerId", "nonce"] j
  let leaseId ← Strict.required ms "leaseId" Strict.identifier
  let workerId ← Strict.required ms "workerId" Strict.identifier
  let nonce ← Strict.required ms "nonce" Strict.identifier
  some ⟨leaseId, workerId, nonce⟩

def WorkCompletedPayload.validate (j : Json) : Option WorkCompletedPayload := do
  let ms ← Strict.closed ["leaseId", "resultDigest", "artifactDigest"] j
  let leaseId ← Strict.required ms "leaseId" Strict.identifier
  let resultDigest ← Strict.required ms "resultDigest" (Strict.text _)
  let artifactDigest ← Strict.required ms "artifactDigest" (Strict.text _)
  some ⟨leaseId, resultDigest, artifactDigest⟩

/-- An identifier and a reason, as three payloads have them. -/
def identifierAndReason (key : String) (j : Json) :
    Option (EventIdentifier × EventIdentifier) := do
  let ms ← Strict.closed [key, "reasonCode"] j
  let id ← Strict.required ms key Strict.identifier
  let reasonCode ← Strict.required ms "reasonCode" Strict.identifier
  some (id, reasonCode)

def WorkFailedPayload.validate (j : Json) : Option WorkFailedPayload :=
  (identifierAndReason "leaseId" j).map fun p => ⟨p.1, p.2⟩

def WorkLeaseExpiredPayload.validate (j : Json) : Option WorkLeaseExpiredPayload :=
  (identifierAndReason "leaseId" j).map fun p => ⟨p.1, p.2⟩

def GrantRecordedPayload.validate (j : Json) : Option GrantRecordedPayload := do
  let ms ← Strict.closed ["grantId", "workerId", "taskId", "nonce", "expiresAt", "keyId",
    "authorizationEventId", "authorizationSequence", "imageDigest", "configDigest"] j
  let grantId ← Strict.required ms "grantId" Strict.identifier
  let workerId ← Strict.required ms "workerId" Strict.identifier
  let taskId ← Strict.required ms "taskId" Strict.identifier
  let nonce ← Strict.required ms "nonce" Strict.identifier
  let expiresAt ← Strict.required ms "expiresAt" (Strict.text _)
  Strict.required ms "keyId" (Strict.literal "local.hmac.1")
  let authorizationEventId ← Strict.required ms "authorizationEventId" Strict.cloudEventsString
  let authorizationSequence ← Strict.required ms "authorizationSequence" Strict.cloudEventsString
  let imageDigest ← Strict.required ms "imageDigest" (Strict.text _)
  let configDigest ← Strict.required ms "configDigest" (Strict.text _)
  some ⟨grantId, workerId, taskId, nonce, expiresAt, authorizationEventId, authorizationSequence,
    imageDigest, configDigest⟩

def GrantRevokedPayload.validate (j : Json) : Option GrantRevokedPayload :=
  (identifierAndReason "grantId" j).map fun p => ⟨p.1, p.2⟩

def GrantConsumedPayload.validate (j : Json) : Option GrantConsumedPayload := do
  let ms ← Strict.closed ["grantId", "leaseId", "nonce"] j
  let grantId ← Strict.required ms "grantId" Strict.identifier
  let leaseId ← Strict.required ms "leaseId" Strict.identifier
  let nonce ← Strict.required ms "nonce" Strict.identifier
  some ⟨grantId, leaseId, nonce⟩

/-- `PAYLOAD_MODELS` -/
def payloadModel (F : FloatText) (type : WorkerEventType) (j : Json) : Option WorkerPayload :=
  match type with
  | .workerRegistered => (WorkerRegisteredPayload.validate j).map .workerRegistered
  | .workQueued => (WorkQueuedPayload.validate F j).map .workQueued
  | .workLeased => (WorkLeasedPayload.validate j).map .workLeased
  | .workClaimed => (WorkClaimedPayload.validate j).map .workClaimed
  | .workCompleted => (WorkCompletedPayload.validate j).map .workCompleted
  | .workFailed => (WorkFailedPayload.validate j).map .workFailed
  | .workLeaseExpired => (WorkLeaseExpiredPayload.validate j).map .workLeaseExpired
  | .grantRecorded => (GrantRecordedPayload.validate j).map .grantRecorded
  | .grantRevoked => (GrantRevokedPayload.validate j).map .grantRevoked
  | .grantConsumed => (GrantConsumedPayload.validate j).map .grantConsumed

def parseWorkerPayload (F : FloatText) (type : WorkerEventType) (event : ResearchEvent) :
    Except WorkerError WorkerPayload :=
  match payloadModel F type (.obj event.data.payload) with
  | some payload => .ok payload
  | none => .error (.payload ("invalid payload for worker type " ++ event.type.val ++
      " (event id " ++ event.id.val ++ ", sequence " ++ sequenceText event.sequence ++ ")")
      "invalid-payload")

/-- `require_worker_actor` -/
def requireWorkerActor (type : WorkerEventType) (event : ResearchEvent) : Except WorkerError Unit :=
  match event.data.actor.kind with
  | none => .error (.payload ("actor kind is required for " ++ event.type.val ++ " (event id " ++
      event.id.val ++ ")") "actor-kind-required")
  | some kind =>
    let allowed := if type ∈ WorkerEventType.humanTypes then ActorKind.human else ActorKind.system
    if kind = allowed then .ok ()
    else .error (.payload ("actor kind is not allowed for " ++ event.type.val ++ " (event id " ++
      event.id.val ++ ")") "actor-kind-forbidden")

/-- `parse_rfc3339` of a validated timestamp. -/
def parseRfc3339 (value : Rfc3339Timestamp) : Except WorkerError Instant :=
  if isUtcInstant value.instant then .ok value.instant else .error .overflow

theorem parseRfc3339_ok {value : Rfc3339Timestamp} {i : Instant} (h : parseRfc3339 value = .ok i) :
    i = value.instant := by
  unfold parseRfc3339 at h
  split_ifs at h
  cases h
  rfl

theorem parseRfc3339_error {value : Rfc3339Timestamp} {e : WorkerError}
    (h : parseRfc3339 value = .error e) : e = .overflow := by
  unfold parseRfc3339 at h
  split_ifs at h
  cases h
  rfl

end ResearchOs.Workers
