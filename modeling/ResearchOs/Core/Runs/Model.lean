import ResearchOs.Events.Model

/-! Run/Attempt statuses, lifecycle payloads and snapshots. -/
namespace ResearchOs.Runs

def maxAttemptsLimit : Nat := 32

abbrev MaxAttempts := Checked (inRange 1 maxAttemptsLimit)
abbrev AttemptOrdinal := Checked (inRange 1 maxAttemptsLimit)

/-- The frozen lifecycle catalog; every other event type only moves the cursor. -/
inductive LifecycleType where
  | runQueued
  | runStarted
  | runCancelRequested
  | runCompleted
  | runFailed
  | runCancelled
  | runReviewed
  | attemptQueued
  | attemptStarted
  | attemptHeartbeat
  | attemptCancelRequested
  | attemptUnknown
  | attemptLost
  | attemptRecovered
  | attemptSucceeded
  | attemptFailed
  | attemptCancelled
  deriving DecidableEq, Repr

namespace LifecycleType

def text : LifecycleType → String
  | runQueued => "run.queued"
  | runStarted => "run.started"
  | runCancelRequested => "run.cancel.requested"
  | runCompleted => "run.completed"
  | runFailed => "run.failed"
  | runCancelled => "run.cancelled"
  | runReviewed => "run.reviewed"
  | attemptQueued => "attempt.queued"
  | attemptStarted => "attempt.started"
  | attemptHeartbeat => "attempt.heartbeat"
  | attemptCancelRequested => "attempt.cancel.requested"
  | attemptUnknown => "attempt.unknown"
  | attemptLost => "attempt.lost"
  | attemptRecovered => "attempt.recovered"
  | attemptSucceeded => "attempt.succeeded"
  | attemptFailed => "attempt.failed"
  | attemptCancelled => "attempt.cancelled"

/-- `RUN_LIFECYCLE_TYPES` -/
def runTypes : List LifecycleType :=
  [runQueued, runStarted, runCancelRequested, runCompleted, runFailed, runCancelled, runReviewed]

/-- `ATTEMPT_LIFECYCLE_TYPES` -/
def attemptTypes : List LifecycleType :=
  [attemptQueued, attemptStarted, attemptHeartbeat, attemptCancelRequested, attemptUnknown,
    attemptLost, attemptRecovered, attemptSucceeded, attemptFailed, attemptCancelled]

/-- Membership in `LIFECYCLE_TYPES`. -/
def ofText (s : String) : Option LifecycleType :=
  (runTypes ++ attemptTypes).find? fun t => t.text = s

theorem ofText_text (t : LifecycleType) : ofText t.text = some t := by
  cases t <;> decide

theorem text_of_ofText {s : String} {t : LifecycleType} (h : ofText s = some t) : t.text = s := by
  simpa using List.find?_some h

end LifecycleType

inductive RunStatus where
  | queued
  | running
  | retryPending
  | lost
  | unknown
  | completed
  | failed
  | cancelled
  deriving DecidableEq, Repr

def RunStatus.text : RunStatus → String
  | .queued => "queued"
  | .running => "running"
  | .retryPending => "retry_pending"
  | .lost => "lost"
  | .unknown => "unknown"
  | .completed => "completed"
  | .failed => "failed"
  | .cancelled => "cancelled"

def RunStatus.ofText (s : String) : Option RunStatus :=
  [.queued, .running, .retryPending, .lost, .unknown, .completed, .failed, .cancelled].find?
    fun t => RunStatus.text t = s

inductive AttemptStatus where
  | queued
  | running
  | lost
  | unknown
  | succeeded
  | failed
  | cancelled
  deriving DecidableEq, Repr

def AttemptStatus.text : AttemptStatus → String
  | .queued => "queued"
  | .running => "running"
  | .lost => "lost"
  | .unknown => "unknown"
  | .succeeded => "succeeded"
  | .failed => "failed"
  | .cancelled => "cancelled"

def AttemptStatus.ofText (s : String) : Option AttemptStatus :=
  [.queued, .running, .lost, .unknown, .succeeded, .failed, .cancelled].find?
    fun t => AttemptStatus.text t = s

inductive RetryHint where
  | retryable
  | notRetryable
  | unknown
  deriving DecidableEq, Repr

def RetryHint.text : RetryHint → String
  | .retryable => "retryable"
  | .notRetryable => "not-retryable"
  | .unknown => "unknown"

def RetryHint.ofText (s : String) : Option RetryHint :=
  [.retryable, .notRetryable, .unknown].find? fun t => RetryHint.text t = s

theorem RunStatus.ofText_text (t : RunStatus) : ofText t.text = some t := by cases t <;> decide

theorem AttemptStatus.ofText_text (t : AttemptStatus) : ofText t.text = some t := by
  cases t <;> decide

theorem RetryHint.ofText_text (t : RetryHint) : ofText t.text = some t := by cases t <;> decide

/-! Status sets. -/

def unresolvedAttemptStatuses : List AttemptStatus := [.queued, .running, .lost, .unknown]
def terminalAttemptStatuses : List AttemptStatus := [.succeeded, .failed, .cancelled]
def terminalRunStatuses : List RunStatus := [.completed, .failed, .cancelled]
def runCancelRequestStatuses : List RunStatus := [.queued, .running, .retryPending, .lost, .unknown]
def attemptCancelRequestStatuses : List AttemptStatus := [.queued, .running, .lost, .unknown]
def attemptStartStatuses : List AttemptStatus := [.queued]
def attemptHeartbeatStatuses : List AttemptStatus := [.running]
def attemptUnknownStatuses : List AttemptStatus := [.running]
def attemptLostStatuses : List AttemptStatus := [.running, .unknown]
def attemptRecoveredStatuses : List AttemptStatus := [.lost, .unknown]
def attemptSucceededStatuses : List AttemptStatus := [.running, .lost, .unknown]
def attemptFailedStatuses : List AttemptStatus := [.queued, .running, .lost, .unknown]
def attemptCancelledStatuses : List AttemptStatus := [.queued, .running, .lost, .unknown]

/-! Lifecycle payloads. -/

/-- The authorization citation is complete or absent. -/
structure RunQueuedPayload where
  workflowId : EventIdentifier
  specDigest : StrictDigest
  registryDigest : StrictDigest
  planDigest : StrictDigest
  decisionDigest : Option StrictDigest
  authorizationEventId : Option CloudEventsString
  authorizationSequence : Option SequenceNumber
  maxAttempts : MaxAttempts
  authorizationCitationIsComplete : authorizationEventId.isSome = authorizationSequence.isSome

structure AttemptQueuedPayload where
  ordinal : AttemptOrdinal
  retryOf : Option EventIdentifier
  retryDecisionId : Option EventIdentifier

inductive LifecyclePayload where
  | empty
  | reasonCode (reasonCode : EventIdentifier)
  | runQueued (payload : RunQueuedPayload)
  | runReviewed (decisionId : EventIdentifier)
  | attemptQueued (payload : AttemptQueuedPayload)
  | attemptFailed (reasonCode : EventIdentifier) (retryHint : RetryHint)

def validateEmpty (j : Json) : Option LifecyclePayload := do
  let _ ← Strict.closed [] j
  some .empty

def validateReasonCode (j : Json) : Option LifecyclePayload := do
  let ms ← Strict.closed ["reasonCode"] j
  let reasonCode ← Strict.required ms "reasonCode" Strict.identifier
  some (.reasonCode reasonCode)

def RunQueuedPayload.validate (j : Json) : Option RunQueuedPayload := do
  let ms ← Strict.closed ["workflowId", "specDigest", "registryDigest", "planDigest",
    "decisionDigest", "authorizationEventId", "authorizationSequence", "maxAttempts"] j
  let workflowId ← Strict.required ms "workflowId" Strict.identifier
  let specDigest ← Strict.required ms "specDigest" (Strict.text _)
  let registryDigest ← Strict.required ms "registryDigest" (Strict.text _)
  let planDigest ← Strict.required ms "planDigest" (Strict.text _)
  let decisionDigest ← Strict.omittable ms "decisionDigest" (Strict.text _)
  let authorizationEventId ← Strict.omittable ms "authorizationEventId" Strict.cloudEventsString
  let authorizationSequence ← Strict.omittable ms "authorizationSequence" sequenceInteger
  let maxAttempts ← Strict.required ms "maxAttempts" (Strict.natural _)
  if h : authorizationEventId.isSome = authorizationSequence.isSome then
    some ⟨workflowId, specDigest, registryDigest, planDigest, decisionDigest,
      authorizationEventId, authorizationSequence, maxAttempts, h⟩
  else none

def validateRunReviewed (j : Json) : Option LifecyclePayload := do
  let ms ← Strict.closed ["decisionId"] j
  let decisionId ← Strict.required ms "decisionId" Strict.identifier
  some (.runReviewed decisionId)

def validateAttemptQueued (j : Json) : Option LifecyclePayload := do
  let ms ← Strict.closed ["ordinal", "retryOf", "retryDecisionId"] j
  let ordinal ← Strict.required ms "ordinal" (Strict.natural _)
  let retryOf ← Strict.required ms "retryOf" (Strict.nullable Strict.identifier)
  let retryDecisionId ← Strict.required ms "retryDecisionId" (Strict.nullable Strict.identifier)
  some (.attemptQueued ⟨ordinal, retryOf, retryDecisionId⟩)

def validateAttemptFailed (j : Json) : Option LifecyclePayload := do
  let ms ← Strict.closed ["reasonCode", "retryHint"] j
  let reasonCode ← Strict.required ms "reasonCode" Strict.identifier
  let retryHint ← Strict.required ms "retryHint" (Strict.enumeration RetryHint.ofText)
  some (.attemptFailed reasonCode retryHint)

/-- `PAYLOAD_MODELS` -/
def payloadModel : LifecycleType → Json → Option LifecyclePayload
  | .runQueued => fun j => (RunQueuedPayload.validate j).map .runQueued
  | .runStarted => validateEmpty
  | .runCancelRequested => validateReasonCode
  | .runCompleted => validateEmpty
  | .runFailed => validateReasonCode
  | .runCancelled => validateEmpty
  | .runReviewed => validateRunReviewed
  | .attemptQueued => validateAttemptQueued
  | .attemptStarted => validateEmpty
  | .attemptHeartbeat => validateEmpty
  | .attemptCancelRequested => validateReasonCode
  | .attemptUnknown => validateReasonCode
  | .attemptLost => validateReasonCode
  | .attemptRecovered => validateEmpty
  | .attemptSucceeded => validateEmpty
  | .attemptFailed => validateAttemptFailed
  | .attemptCancelled => validateEmpty

/-! Snapshots. -/

structure RunDigests where
  spec : StrictDigest
  registry : StrictDigest
  plan : StrictDigest
  decisionDigest : Option StrictDigest
  deriving DecidableEq

/-- The local authorization fact this Run consumed. -/
structure ConsumedAuthorization where
  eventId : CloudEventsString
  sequence : SequenceNumber
  deriving DecidableEq

structure RunReview where
  reviewed : Bool
  eventId : Option CloudEventsString
  sequence : Option SequenceNumber
  decisionId : Option EventIdentifier
  deriving DecidableEq

structure AttemptSnapshot where
  attemptId : EventIdentifier
  ordinal : AttemptOrdinal
  retryOf : Option EventIdentifier
  retryDecisionId : Option EventIdentifier
  status : AttemptStatus
  cancellationRequested : Bool
  retryHint : Option RetryHint
  lastEventId : CloudEventsString
  lastSequence : SequenceNumber
  lastHeartbeatSequence : Option SequenceNumber
  deriving DecidableEq

structure RunSnapshot where
  projectId : EventIdentifier
  experimentRevision : ExperimentRevision
  runId : EventIdentifier
  workflowId : EventIdentifier
  digests : RunDigests
  maxAttempts : MaxAttempts
  status : RunStatus
  cancellationRequested : Bool
  activeAttemptId : Option EventIdentifier
  attempts : List AttemptSnapshot
  lastEventId : CloudEventsString
  lastSequence : SequenceNumber
  review : RunReview
  consumedAuthorization : Option ConsumedAuthorization
  deriving DecidableEq

/-- Raise `ValueError` with a message unless the condition holds. -/
def require (condition : Prop) [Decidable condition] (message : String) : Except String Unit :=
  if condition then .ok () else .error message

@[simp] theorem require_eq_ok {condition : Prop} [Decidable condition] {message : String} :
    require condition message = .ok () ↔ condition := by
  by_cases h : condition <;> simp [require, h]

@[simp] theorem require_bind_eq_ok {condition : Prop} [Decidable condition] {message : String}
    {α : Type} {k : Unit → Except String α} {r : α} :
    require condition message >>= k = .ok r ↔ condition ∧ k () = .ok r := by
  by_cases h : condition <;> simp [require, h, bind, Except.bind]

/-- `review_fields_are_consistent` -/
def reviewFieldsAreConsistent (review : RunReview) : Except String Unit :=
  if review.reviewed then
    require (review.eventId.isSome ∧ review.sequence.isSome ∧ review.decisionId.isSome)
      "reviewed runs require eventId, sequence and decisionId"
  else
    require (review.eventId = none ∧ review.sequence = none ∧ review.decisionId = none)
      "unreviewed runs must not record review identity"

/-- An optional cursor that is not ahead of another. -/
def cursorWithin (cursor : Option SequenceNumber) (bound : SequenceNumber) : Prop :=
  ∀ c ∈ cursor, c.val ≤ bound.val

instance (cursor : Option SequenceNumber) (bound : SequenceNumber) :
    Decidable (cursorWithin cursor bound) :=
  inferInstanceAs (Decidable (∀ c ∈ cursor, c.val ≤ bound.val))

/-- `attempt_fields_are_consistent` -/
def attemptFieldsAreConsistent (attempt : AttemptSnapshot) : Except String Unit := do
  if attempt.ordinal.val = 1 then
    require (attempt.retryOf = none ∧ attempt.retryDecisionId = none)
      "the first attempt must not declare retry identity"
  else
    require (attempt.retryOf.isSome ∧ attempt.retryDecisionId.isSome)
      "retry attempts require retryOf and retryDecisionId"
  if attempt.status = .failed then
    require attempt.retryHint.isSome "failed attempts require retryHint"
  else
    require (attempt.retryHint = none) "retryHint is only recorded on failed attempts"
  require (cursorWithin attempt.lastHeartbeatSequence attempt.lastSequence)
    "lastHeartbeatSequence must not exceed the attempt lastSequence"

/-- The attempts whose outcome is still open. -/
def unresolvedAttempts (attempts : List AttemptSnapshot) : List AttemptSnapshot :=
  attempts.filter fun attempt => attempt.status ∈ unresolvedAttemptStatuses

/-- `_assert_run_status_matches_attempts` -/
def assertRunStatusMatchesAttempts (snapshot : RunSnapshot)
    (unresolved : List AttemptSnapshot) : Except String Unit :=
  let latest := snapshot.attempts.getLast?
  let active := unresolved.head?
  match snapshot.status with
  | .queued => do
    require (snapshot.attempts = []) "queued runs must not have attempts"
    require (snapshot.activeAttemptId = none) "queued runs must not have an active attempt"
  | .lost =>
    require (active.map (·.status) = some .lost) "lost runs require a unique active lost attempt"
  | .unknown =>
    require (active.map (·.status) = some .unknown)
      "unknown runs require a unique active unknown attempt"
  | .retryPending => do
    require (active = none) "retry_pending runs must not have an active attempt"
    require (latest.map (·.status) = some .failed)
      "retry_pending runs require the latest attempt to have failed"
  | .completed => do
    require (active = none) "completed runs must not have an active attempt"
    require (latest.map (·.status) = some .succeeded)
      "completed runs require the latest attempt to have succeeded"
  | .failed => do
    require (active = none) "failed runs must not have an active attempt"
    require (latest.map (·.status) = some .failed)
      "failed runs require the latest attempt to have failed"
  | .cancelled => do
    require (snapshot.cancellationRequested = true) "cancelled runs require a cancellation request"
    require (active = none) "cancelled runs must not have an active attempt"
    require (latest = none ∨ latest.map (·.status) = some .cancelled)
      "cancelled runs require no attempts or a latest cancelled attempt"
  | .running =>
    require (latest = none ∨ active.map (·.status) = some .queued ∨
        active.map (·.status) = some .running ∨
        (active = none ∧ (latest.map (·.status) = some .succeeded ∨
          latest.map (·.status) = some .cancelled)))
      "running runs only allow reachable intermediate attempt states"

/-- `_assert_retry_chain`, from the attempt before (if any). -/
def assertRetryChain : Option AttemptSnapshot → List AttemptSnapshot → Except String Unit
  | _, [] => .ok ()
  | none, attempt :: rest => do
    require (attempt.retryOf = none ∧ attempt.retryDecisionId = none)
      "the first attempt must not declare retry identity"
    assertRetryChain (some attempt) rest
  | some previous, attempt :: rest => do
    require (previous.status = .failed) "retry attempts require the previous attempt to have failed"
    require (attempt.retryOf = some previous.attemptId)
      "retryOf must equal the previous attempt id"
    require attempt.retryDecisionId.isSome "retry attempts require retryOf and retryDecisionId"
    assertRetryChain (some attempt) rest

/-- The loop of `_assert_sequence_cursors`, from the previous attempt's cursor. -/
def assertAttemptCursors (lastSequence : SequenceNumber) :
    Nat → List AttemptSnapshot → Except String Unit
  | _, [] => .ok ()
  | previousSequence, attempt :: rest => do
    require (attempt.lastSequence.val ≤ lastSequence.val)
      "attempt lastSequence must not exceed the run lastSequence"
    require (cursorWithin attempt.lastHeartbeatSequence attempt.lastSequence)
      "lastHeartbeatSequence must not exceed the attempt lastSequence"
    require (previousSequence < attempt.lastSequence.val)
      "attempt lastSequence must strictly increase by ordinal"
    assertAttemptCursors lastSequence attempt.lastSequence.val rest

/-- `_assert_sequence_cursors` -/
def assertSequenceCursors (snapshot : RunSnapshot) : Except String Unit := do
  assertAttemptCursors snapshot.lastSequence 0 snapshot.attempts
  if snapshot.review.reviewed then
    require (cursorWithin snapshot.review.sequence snapshot.lastSequence)
      "review sequence must not exceed the run lastSequence"
  else pure ()

/-- `assert_run_snapshot_invariants` -/
def assertRunSnapshotInvariants (snapshot : RunSnapshot) : Except String Unit := do
  require (snapshot.attempts.map (·.ordinal.val) = List.range' 1 snapshot.attempts.length)
    "attempts must be stored by contiguous ordinal starting at 1"
  require (snapshot.attempts.map (·.attemptId)).Nodup "attempt IDs must be unique"
  let unresolved := unresolvedAttempts snapshot.attempts
  require (unresolved.length ≤ 1) "a run may have at most one unresolved attempt"
  require (snapshot.activeAttemptId = unresolved.head?.map (·.attemptId))
    "activeAttemptId must match the unresolved attempt"
  require (snapshot.review.reviewed = true → snapshot.status ∈ terminalRunStatuses)
    "reviewed is only derived after a terminal run status"
  require (snapshot.attempts.length ≤ snapshot.maxAttempts.val) "attempts exceed maxAttempts"
  assertRunStatusMatchesAttempts snapshot unresolved
  assertRetryChain none snapshot.attempts
  assertSequenceCursors snapshot

end ResearchOs.Runs
