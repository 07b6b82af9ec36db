import ResearchOs.Core.Runs.Model

/-! The replayable Run/Attempt projection. -/
namespace ResearchOs.Runs

/-- What `apply` can raise. A `RunTransitionError` from the final re-validation in
`_stamp` is kept apart from one raised by a guard; `validation` is a pydantic
`ValidationError` on a model the reducer itself builds. -/
inductive RunError where
  | payload (message : String)
  | transition (message : String)
  | revalidation (message : String)
  | validation (message : String)
  deriving DecidableEq, Repr

/-- `_event_label` -/
def eventLabel (event : ResearchEvent) (message : String) : String :=
  message ++ " (" ++ event.type.val ++ ", event id " ++ event.id.val ++ ", sequence " ++
    sequenceText event.sequence ++ ")"

def transitionError {α : Type} (event : ResearchEvent) (message : String) : Except RunError α :=
  .error (.transition (eventLabel event message))

def payloadError {α : Type} (event : ResearchEvent) (message : String) : Except RunError α :=
  .error (.payload (eventLabel event message))

/-- Raise unless a guard holds. -/
def guardTransition (event : ResearchEvent) (condition : Prop) [Decidable condition]
    (message : String) : Except RunError Unit :=
  if condition then .ok () else transitionError event message

def validated (check : Except String Unit) : Except RunError Unit :=
  match check with
  | .ok () => .ok ()
  | .error message => .error (.validation message)

def ResearchEvent.lifecycleType? (event : ResearchEvent) : Option LifecycleType :=
  LifecycleType.ofText event.type.val

/-- `_belongs` -/
def belongs (event : ResearchEvent) (projectId runId : EventIdentifier) : Bool :=
  event.data.projectId = projectId && event.data.runId = some runId

/-- `parse_lifecycle_payload` -/
def parseLifecyclePayload (type : LifecycleType) (event : ResearchEvent) :
    Except RunError LifecyclePayload :=
  match payloadModel type (.obj event.data.payload) with
  | some payload => .ok payload
  | none => .error (.payload ("invalid payload for lifecycle type " ++ event.type.val ++
      " (event id " ++ event.id.val ++ ", sequence " ++ sequenceText event.sequence ++ ")"))

/-- `_require_lifecycle_envelope` -/
def requireLifecycleEnvelope (type : LifecycleType) (event : ResearchEvent) :
    Except RunError Unit := do
  guardTransition event (event.data.blockId = none) "lifecycle events require blockId to be null"
  guardTransition event (¬ (type ∈ LifecycleType.runTypes ∧ event.data.attemptId ≠ none))
    "run lifecycle events require attemptId to be null"
  guardTransition event (¬ (type ∈ LifecycleType.attemptTypes ∧ event.data.attemptId = none))
    "attempt lifecycle events require a non-empty attemptId"

/-- `_require_cursor_and_binding` -/
def requireCursorAndBinding (state : RunSnapshot) (event : ResearchEvent) :
    Except RunError Unit := do
  guardTransition event (state.lastSequence.val < event.sequence.val)
    "sequence is not strictly increasing for this run aggregate"
  guardTransition event (event.data.experimentRevision = state.experimentRevision)
    "experimentRevision binding drifted"
  guardTransition event
    (event.data.projectId = state.projectId ∧ event.data.runId = some state.runId)
    "projectId/runId binding drifted"

/-- The cursor update every accepted event makes. -/
def stamped (updated : RunSnapshot) (event : ResearchEvent) : RunSnapshot :=
  { updated with lastEventId := event.id, lastSequence := event.sequence }

/-- `_stamp`: move the cursor of an updated snapshot, then re-validate it. -/
def stamp (updated : RunSnapshot) (event : ResearchEvent) : Except RunError RunSnapshot :=
  match assertRunSnapshotInvariants (stamped updated event) with
  | .ok () => .ok (stamped updated event)
  | .error message => .error (.revalidation (eventLabel event message))

/-- `_observe_unrelated` -/
def observeUnrelated (state : Option RunSnapshot) (event : ResearchEvent) :
    Except RunError (Option RunSnapshot) :=
  match state with
  | none => .ok none
  | some state => do
    requireCursorAndBinding state event
    some <$> stamp state event

/-- `_queued_digests` -/
def queuedDigests (payload : RunQueuedPayload) : RunDigests :=
  ⟨payload.specDigest, payload.registryDigest, payload.planDigest, payload.decisionDigest⟩

def noReview : RunReview := ⟨false, none, none, none⟩

def queuedAuthorization (payload : RunQueuedPayload) : Option ConsumedAuthorization :=
  match payload.authorizationEventId, payload.authorizationSequence with
  | some eventId, some sequence => some ⟨eventId, sequence⟩
  | _, _ => none

def queuedSnapshot (event : ResearchEvent) (payload : RunQueuedPayload)
    (runId : EventIdentifier) : RunSnapshot :=
  { projectId := event.data.projectId
    experimentRevision := event.data.experimentRevision
    runId := runId
    workflowId := payload.workflowId
    digests := queuedDigests payload
    maxAttempts := payload.maxAttempts
    status := .queued
    cancellationRequested := false
    activeAttemptId := none
    attempts := []
    lastEventId := event.id
    lastSequence := event.sequence
    review := noReview
    consumedAuthorization := queuedAuthorization payload }

/-- `_apply_first` -/
def applyFirst (type : LifecycleType) (event : ResearchEvent) (payload : LifecyclePayload) :
    Except RunError RunSnapshot := do
  guardTransition event (type = .runQueued) "run.queued must be the first lifecycle event"
  match payload with
  | .runQueued payload =>
    match event.data.runId with
    | none => transitionError event "run.queued requires data.runId"
    | some runId =>
      let snapshot := queuedSnapshot event payload runId
      validated (reviewFieldsAreConsistent snapshot.review)
      validated (assertRunSnapshotInvariants snapshot)
      .ok snapshot
  | _ => payloadError event "invalid payload for lifecycle type"

/-- `_find_attempt` -/
def findAttempt (state : RunSnapshot) (attemptId : EventIdentifier) : Option AttemptSnapshot :=
  state.attempts.find? fun attempt => attempt.attemptId = attemptId

/-- `_latest_attempt` -/
def latestAttempt (state : RunSnapshot) : Option AttemptSnapshot := state.attempts.getLast?

/-- `_unresolved_attempt` -/
def unresolvedAttempt (state : RunSnapshot) : Option AttemptSnapshot :=
  (unresolvedAttempts state.attempts).head?

/-- `_apply_run_cancelled` -/
def applyRunCancelled (state : RunSnapshot) (event : ResearchEvent) :
    Except RunError RunSnapshot := do
  guardTransition event (state.cancellationRequested = true)
    "cancelled without a cancellation request"
  guardTransition event (unresolvedAttempt state = none)
    "run.cancelled requires no unresolved attempt"
  guardTransition event (∀ latest ∈ latestAttempt state, latest.status = .cancelled)
    "run.cancelled cannot infer cancelled from failed, lost or unknown"
  stamp { state with status := .cancelled, activeAttemptId := none } event

/-- The guard `run.completed` and `run.failed` share: the latest attempt ended that way and
no attempt is open. -/
def latestSettledAs (state : RunSnapshot) (status : AttemptStatus) : Prop :=
  (latestAttempt state).map (·.status) = some status ∧ unresolvedAttempt state = none

instance (state : RunSnapshot) (status : AttemptStatus) :
    Decidable (latestSettledAs state status) :=
  inferInstanceAs (Decidable (_ ∧ _))

/-- `_apply_run_event` -/
def applyRunEvent (type : LifecycleType) (state : RunSnapshot) (event : ResearchEvent) :
    Except RunError RunSnapshot :=
  match type with
  | .runQueued => transitionError event "run.queued is only valid as the first lifecycle event"
  | .runStarted => do
    guardTransition event (state.status = .queued) "illegal lifecycle transition"
    stamp { state with status := .running } event
  | .runCancelRequested => do
    guardTransition event (state.status ∈ runCancelRequestStatuses) "illegal lifecycle transition"
    stamp { state with cancellationRequested := true } event
  | .runCompleted => do
    guardTransition event (latestSettledAs state .succeeded)
      "run.completed requires the latest attempt to have succeeded"
    stamp { state with status := .completed, activeAttemptId := none } event
  | .runFailed => do
    guardTransition event (latestSettledAs state .failed)
      "run.failed requires the latest attempt to have failed"
    stamp { state with status := .failed, activeAttemptId := none } event
  | .runCancelled => applyRunCancelled state event
  | _ => transitionError event "illegal lifecycle transition"

/-- `_apply_run_reviewed` -/
def applyRunReviewed (state : RunSnapshot) (event : ResearchEvent) (payload : LifecyclePayload) :
    Except RunError RunSnapshot := do
  guardTransition event (state.status ∈ terminalRunStatuses)
    "run.reviewed is only allowed after a terminal run status"
  guardTransition event (state.review.reviewed = false) "run.reviewed can occur only once"
  match payload with
  | .runReviewed decisionId =>
    let review : RunReview := ⟨true, some event.id, some event.sequence, some decisionId⟩
    validated (reviewFieldsAreConsistent review)
    stamp { state with review := review } event
  | _ => payloadError event "invalid payload for lifecycle type"

/-- `_replace_attempt`, in a snapshot whose other fields are already updated. -/
def replaceAttempt (updated : RunSnapshot) (event : ResearchEvent) (attempt : AttemptSnapshot) :
    Except RunError RunSnapshot :=
  let attempts := updated.attempts.map fun item =>
    if item.attemptId = attempt.attemptId then attempt else item
  stamp { updated with attempts := attempts } event

/-- `_transition_attempt`. The attempt stays the active one unless it is settled. -/
def transitionAttempt (state : RunSnapshot) (event : ResearchEvent) (attempt : AttemptSnapshot)
    (allowed : List AttemptStatus) (newStatus : AttemptStatus) (runStatus : RunStatus)
    (settles : Bool) (retryHint : Option RetryHint) : Except RunError RunSnapshot := do
  guardTransition event (attempt.status ∈ allowed) "illegal lifecycle transition"
  let updated : AttemptSnapshot :=
    { attempt with
      status := newStatus
      lastEventId := event.id
      lastSequence := event.sequence
      retryHint := retryHint <|> attempt.retryHint }
  let nextActive := if settles then none else some attempt.attemptId
  replaceAttempt { state with status := runStatus, activeAttemptId := nextActive } event updated

def queuedAttempt (event : ResearchEvent) (payload : AttemptQueuedPayload)
    (attemptId : EventIdentifier) : AttemptSnapshot :=
  { attemptId := attemptId
    ordinal := payload.ordinal
    retryOf := payload.retryOf
    retryDecisionId := payload.retryDecisionId
    status := .queued
    cancellationRequested := false
    retryHint := none
    lastEventId := event.id
    lastSequence := event.sequence
    lastHeartbeatSequence := none }

/-- `_apply_attempt_queued` -/
def applyAttemptQueued (state : RunSnapshot) (event : ResearchEvent) (payload : LifecyclePayload)
    (attemptId : EventIdentifier) : Except RunError RunSnapshot :=
  match payload with
  | .attemptQueued payload => do
    guardTransition event (state.status ≠ .queued)
      "attempt.queued requires the run to have started"
    guardTransition event (state.cancellationRequested = false)
      "attempt.queued is forbidden after cancellation was requested"
    guardTransition event
      (∀ unresolved ∈ unresolvedAttempt state, unresolved.status ∉ [.lost, .unknown])
      "retry is forbidden while an attempt is lost or unknown"
    guardTransition event (unresolvedAttempt state = none)
      "attempt.queued requires no unresolved attempt"
    guardTransition event (findAttempt state attemptId = none) "attempt ID was reused"
    guardTransition event (state.attempts.length < state.maxAttempts.val)
      "maxAttempts would be exceeded"
    match latestAttempt state with
    | none =>
      guardTransition event
        (payload.ordinal.val = 1 ∧ payload.retryOf = none ∧ payload.retryDecisionId = none)
        "the first attempt must have ordinal 1 and null retry fields"
      guardTransition event (state.status = .running) "illegal lifecycle transition"
    | some latest =>
      guardTransition event (latest.status = .failed)
        "retry is only allowed after the latest attempt failed"
      guardTransition event (payload.ordinal.val = latest.ordinal.val + 1)
        "attempt ordinal skipped"
      guardTransition event (payload.retryOf = some latest.attemptId)
        "retryOf is not the latest failed attempt"
      guardTransition event (payload.retryDecisionId ≠ none) "retryDecisionId is required"
    let attempt := queuedAttempt event payload attemptId
    validated (attemptFieldsAreConsistent attempt)
    stamp { state with
      status := .running
      activeAttemptId := some attemptId
      attempts := state.attempts ++ [attempt] } event
  | _ => payloadError event "invalid payload for lifecycle type"

/-- The part of `_apply_attempt_event` after the active attempt has been found. -/
def applyActiveAttemptEvent (type : LifecycleType) (state : RunSnapshot) (event : ResearchEvent)
    (payload : LifecyclePayload) (attempt : AttemptSnapshot) : Except RunError RunSnapshot :=
  match type with
  | .attemptStarted =>
    transitionAttempt state event attempt attemptStartStatuses .running .running false none
  | .attemptHeartbeat => do
    guardTransition event (attempt.status ∈ attemptHeartbeatStatuses) "illegal lifecycle transition"
    replaceAttempt state event
      { attempt with
        lastEventId := event.id
        lastSequence := event.sequence
        lastHeartbeatSequence := some event.sequence }
  | .attemptCancelRequested => do
    guardTransition event (attempt.status ∈ attemptCancelRequestStatuses)
      "illegal lifecycle transition"
    replaceAttempt state event
      { attempt with
        cancellationRequested := true
        lastEventId := event.id
        lastSequence := event.sequence }
  | .attemptUnknown =>
    transitionAttempt state event attempt attemptUnknownStatuses .unknown .unknown false none
  | .attemptLost =>
    transitionAttempt state event attempt attemptLostStatuses .lost .lost false none
  | .attemptRecovered =>
    transitionAttempt state event attempt attemptRecoveredStatuses .running .running false none
  | .attemptSucceeded =>
    transitionAttempt state event attempt attemptSucceededStatuses .succeeded .running true none
  | .attemptFailed =>
    match payload with
    | .attemptFailed _ retryHint =>
      transitionAttempt state event attempt attemptFailedStatuses .failed .retryPending true
        (some retryHint)
    | _ => payloadError event "invalid payload for lifecycle type"
  | .attemptCancelled => do
    guardTransition event
      (state.cancellationRequested = true ∨ attempt.cancellationRequested = true)
      "cancelled without a cancellation request"
    transitionAttempt state event attempt attemptCancelledStatuses .cancelled .running true none
  | _ => transitionError event "illegal lifecycle transition"

/-- `_apply_attempt_event` -/
def applyAttemptEvent (type : LifecycleType) (state : RunSnapshot) (event : ResearchEvent)
    (payload : LifecyclePayload) : Except RunError RunSnapshot :=
  match event.data.attemptId with
  | none => transitionError event "attempt lifecycle events require a non-empty attemptId"
  | some attemptId =>
    if type = .attemptQueued then applyAttemptQueued state event payload attemptId
    else do
      guardTransition event
        (∀ existing ∈ findAttempt state attemptId, existing.status ∉ terminalAttemptStatuses)
        "terminal attempt cannot be rewritten"
      guardTransition event (state.activeAttemptId = some attemptId)
        "attempt lifecycle must target the active attempt"
      match findAttempt state attemptId with
      | none => .error (.transition "attempt lifecycle must target an existing attempt")
      | some attempt => applyActiveAttemptEvent type state event payload attempt

/-- `RunStateProjection` for one `(projectId, runId)`. -/
structure RunStateProjection where
  projectId : EventIdentifier
  runId : EventIdentifier

namespace RunStateProjection

/-- A lifecycle event of this run. -/
def applyLifecycle (type : LifecycleType) (state : Option RunSnapshot) (event : ResearchEvent) :
    Except RunError RunSnapshot := do
  requireLifecycleEnvelope type event
  let payload ← parseLifecyclePayload type event
  match state with
  | none => applyFirst type event payload
  | some state =>
    requireCursorAndBinding state event
    if type = .runReviewed then applyRunReviewed state event payload
    else do
      guardTransition event (state.status ∉ terminalRunStatuses) "terminal run cannot be reopened"
      if type ∈ LifecycleType.runTypes then applyRunEvent type state event
      else applyAttemptEvent type state event payload

/-- `RunStateProjection.apply` -/
def apply (projection : RunStateProjection) (state : Option RunSnapshot) (event : ResearchEvent) :
    Except RunError (Option RunSnapshot) :=
  if belongs event projection.projectId projection.runId then
    match ResearchEvent.lifecycleType? event with
    | none => observeUnrelated state event
    | some type => some <$> applyLifecycle type state event
  else .ok state

/-- `fold_events` from `initial_state()`. -/
def fold (projection : RunStateProjection) (events : List ResearchEvent) :
    Except RunError (Option RunSnapshot) :=
  events.foldlM projection.apply none

end RunStateProjection

/-! Lifecycle events of one run. -/

def runSource : CloudEventsUriReference := ⟨"urn:researchos:run", by decide +kernel⟩

def runTime : Rfc3339Timestamp := ⟨"2026-01-01T00:00:00Z", .refl true⟩

def runActor : EventActor := ⟨⟨"run-control", by decide⟩, some .system, none, by simp⟩

theorem isEventIdentifier_text (type : LifecycleType) : isEventIdentifier type.text = true := by
  cases type <;> decide

/-- What every event of one run shares. -/
structure RunBinding where
  projectId : EventIdentifier
  experimentRevision : ExperimentRevision
  runId : EventIdentifier

def lifecycleEvent (run : RunBinding) (sequence : SequenceNumber) (type : LifecycleType)
    (attemptId : Option EventIdentifier) (payload : Json.Members) : ResearchEvent :=
  { id := ⟨"run-event", .refl true⟩
    source := runSource
    type := ⟨type.text, isEventIdentifier_text type⟩
    time := runTime
    subject := ⟨"run", .refl true⟩
    data :=
      { actor := runActor
        projectId := run.projectId
        experimentRevision := run.experimentRevision
        runId := some run.runId
        attemptId := attemptId
        blockId := none
        payload := payload
        evidenceRefs := []
        evidenceRefsAreUnique := List.nodup_nil }
    sequence := sequence
    streamid := run.runId
    streamversion := ⟨0, .refl true⟩
    correlationid := none
    causationid := none }

variable {run : RunBinding} {sequence : SequenceNumber} {type : LifecycleType}
  {attemptId : Option EventIdentifier} {payload : Json.Members}

@[simp] theorem lifecycleType?_lifecycleEvent :
    ResearchEvent.lifecycleType? (lifecycleEvent run sequence type attemptId payload) =
      some type :=
  LifecycleType.ofText_text type

@[simp] theorem belongs_lifecycleEvent :
    belongs (lifecycleEvent run sequence type attemptId payload) run.projectId run.runId = true := by
  simp [belongs, lifecycleEvent]

end ResearchOs.Runs
