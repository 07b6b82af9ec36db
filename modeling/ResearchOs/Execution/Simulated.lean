import ResearchOs.Core.Runs.Draft

/-! The simulated runtime: which lifecycle events a run still needs. -/
namespace ResearchOs.Execution

open Runs

/-- `_SUPPORTED_OUTCOMES` -/
inductive SimulatedOutcome where
  | success
  | failure
  | unknown
  deriving DecidableEq, Repr

inductive SimulationDisposition where
  | completed
  | failed
  | unknown
  | cancelled
  | unresolved
  deriving DecidableEq, Repr

structure SimulationError where
  message : String
  code : String := "SimulationError"
  deriving DecidableEq, Repr

/-- `_reject_run_mismatch` -/
def rejectRunMismatch {α : Type} (code : String) : Except SimulationError α :=
  .error ⟨"existing run does not match this simulation request", code⟩

def maxAttempts : Nat := 1

def successPath : List LifecycleType :=
  [.runQueued, .runStarted, .attemptQueued, .attemptStarted, .attemptSucceeded, .runCompleted]

def failurePath : List LifecycleType :=
  [.runQueued, .runStarted, .attemptQueued, .attemptStarted, .attemptFailed, .runFailed]

def unknownPath : List LifecycleType :=
  [.runQueued, .runStarted, .attemptQueued, .attemptStarted, .attemptUnknown]

/-- `_ATTEMPT_TYPES` -/
def attemptTypes : List LifecycleType :=
  [.attemptQueued, .attemptStarted, .attemptSucceeded, .attemptFailed, .attemptUnknown,
    .attemptCancelled]

/-- `_path_for_outcome` -/
def pathForOutcome : SimulatedOutcome → List LifecycleType
  | .success => successPath
  | .failure => failurePath
  | .unknown => unknownPath

/-- The end of `_emitted_types`, for the status of the first attempt. -/
def emittedByAttempt (status : RunStatus) : AttemptStatus → Except SimulationError (List LifecycleType)
  | .queued => .ok [.attemptQueued]
  | .running => .ok [.attemptQueued, .attemptStarted]
  | .succeeded => .ok ([.attemptQueued, .attemptStarted, .attemptSucceeded] ++
      if status = .completed then [.runCompleted] else [])
  | .failed => .ok ([.attemptQueued, .attemptStarted, .attemptFailed] ++
      if status = .failed then [.runFailed] else [])
  | .unknown => .ok [.attemptQueued, .attemptStarted, .attemptUnknown]
  | .cancelled => .ok ([.attemptQueued, .attemptStarted, .attemptCancelled] ++
      if status = .cancelled then [.runCancelled] else [])
  | .lost => rejectRunMismatch "unexpected-attempt-status"

/-- `_emitted_types` -/
def emittedTypes (snapshot : RunSnapshot) : Except SimulationError (List LifecycleType) :=
  if snapshot.status = .queued then .ok [.runQueued]
  else match snapshot.attempts with
    | [] => .ok [.runQueued, .runStarted]
    | attempt :: _ => do
      let emitted ← emittedByAttempt snapshot.status attempt.status
      .ok ([.runQueued, .runStarted] ++ emitted)

/-- `_outcome_already_observed` -/
def outcomeAlreadyObserved (snapshot : RunSnapshot) : Bool :=
  match snapshot.attempts.getLast? with
  | none => false
  | some latest => latest.status ∈ [AttemptStatus.succeeded, .failed]

/-- The attempt that the active id names. -/
def activeAttempt (snapshot : RunSnapshot) : Option AttemptSnapshot :=
  snapshot.activeAttemptId.bind fun activeId =>
    snapshot.attempts.find? fun attempt => attempt.attemptId = activeId

/-- `_cancellation_actionable` -/
def cancellationActionable (snapshot : RunSnapshot) : Bool :=
  snapshot.cancellationRequested ||
    (activeAttempt snapshot).any (·.cancellationRequested) ||
    snapshot.attempts.getLast?.any (·.status = .cancelled)

/-- `_cancel_remaining` -/
def cancelRemaining (snapshot : RunSnapshot) : List LifecycleType :=
  (if (activeAttempt snapshot).any fun active => active.status ≠ .cancelled &&
      (snapshot.cancellationRequested || active.cancellationRequested)
    then [.attemptCancelled] else []) ++
  (if snapshot.cancellationRequested then [.runCancelled] else [])

/-- `_disposition_for_snapshot` -/
def dispositionForSnapshot (snapshot : RunSnapshot) : SimulationDisposition :=
  match snapshot.status with
  | .completed => .completed
  | .failed => .failed
  | .unknown => .unknown
  | .cancelled => .cancelled
  | _ => .unresolved

/-- The end of `_continuation`, for an open run that goes on to its outcome. -/
def resumeOutcome (snapshot : RunSnapshot) (outcome : SimulatedOutcome) :
    Except SimulationError (List LifecycleType × Option SimulationDisposition) := do
  let full := pathForOutcome outcome
  let emitted ← emittedTypes snapshot
  if emitted ≠ full.take emitted.length then rejectRunMismatch "emitted-prefix-mismatch"
  else
    let remaining := full.drop emitted.length
    if remaining = [] then .ok ([], some (dispositionForSnapshot snapshot))
    else .ok (remaining, none)

/-- `_continuation` -/
def continuation (snapshot : Option RunSnapshot) (outcome : SimulatedOutcome) :
    Except SimulationError (List LifecycleType × Option SimulationDisposition) :=
  match snapshot with
  | none => .ok (pathForOutcome outcome, none)
  | some snapshot =>
    match snapshot.status with
    | .completed => .ok ([], some .completed)
    | .failed => .ok ([], some .failed)
    | .unknown => .ok ([], some .unresolved)
    | .lost => .ok ([], some .unresolved)
    | .cancelled => .ok ([], some .cancelled)
    | _ =>
      if !outcomeAlreadyObserved snapshot && cancellationActionable snapshot then
        let remaining := cancelRemaining snapshot
        if remaining = [] then .ok ([], some .unresolved) else .ok (remaining, none)
      else resumeOutcome snapshot outcome

/-! The drafts of the remaining events. -/

structure SimulationEventIdentity where
  id : String
  time : String

/-- `_FrozenRequest` -/
structure SimulationRequest where
  attemptId : EventIdentifier
  source : String
  subject : String
  streamId : String
  actorId : String
  events : List (String × SimulationEventIdentity)

/-- What the first event of the run cites: the planned digests and the authorization that the
run consumes. -/
structure PlannedRun where
  workflowId : EventIdentifier
  specDigest : StrictDigest
  registryDigest : StrictDigest
  planDigest : StrictDigest
  decisionDigest : StrictDigest
  authorizationEventId : CloudEventsString
  authorizationSequence : SequenceNumber

/-- Reject the request unless the run agrees with it. -/
def requireMatch (condition : Prop) [Decidable condition] (code : String) :
    Except SimulationError Unit :=
  if condition then .ok () else rejectRunMismatch code

@[simp] theorem requireMatch_eq_ok {condition : Prop} [Decidable condition] {code : String} :
    requireMatch condition code = .ok () ↔ condition := by
  by_cases h : condition <;> simp [requireMatch, rejectRunMismatch, h]

@[simp] theorem requireMatch_bind_eq_ok {condition : Prop} [Decidable condition] {code : String}
    {α : Type} {k : Unit → Except SimulationError α} {r : α} :
    requireMatch condition code >>= k = .ok r ↔ condition ∧ k () = .ok r := by
  by_cases h : condition <;> simp [requireMatch, rejectRunMismatch, h, bind, Except.bind]

/-- `_require_matching_run` -/
def requireMatchingRun (snapshot : RunSnapshot) (run : RunBinding) (planned : PlannedRun)
    (attemptId : EventIdentifier) : Except SimulationError Unit := do
  requireMatch (snapshot.projectId = run.projectId) "project-id-mismatch"
  requireMatch (snapshot.experimentRevision = run.experimentRevision)
    "experiment-revision-mismatch"
  requireMatch (snapshot.runId = run.runId) "run-id-mismatch"
  requireMatch (snapshot.workflowId = planned.workflowId) "workflow-id-mismatch"
  requireMatch (snapshot.digests.spec = planned.specDigest) "spec-digest-mismatch"
  requireMatch (snapshot.digests.registry = planned.registryDigest) "registry-digest-mismatch"
  requireMatch (snapshot.digests.plan = planned.planDigest) "plan-digest-mismatch"
  requireMatch (snapshot.digests.decisionDigest = some planned.decisionDigest)
    "decision-digest-mismatch"
  match snapshot.consumedAuthorization with
  | none => rejectRunMismatch "authorization-citation-missing"
  | some consumed =>
    requireMatch (consumed.eventId = planned.authorizationEventId)
      "authorization-event-id-mismatch"
    requireMatch (consumed.sequence = planned.authorizationSequence)
      "authorization-sequence-mismatch"
  requireMatch (snapshot.maxAttempts.val = maxAttempts) "max-attempts-mismatch"
  requireMatch (∀ first ∈ snapshot.attempts.head?, first.attemptId = attemptId)
    "attempt-id-mismatch"

/-- `_payload_for` -/
def payloadFor (type : LifecycleType) (planned : PlannedRun) : Json.Members :=
  match type with
  | .runQueued =>
    [("workflowId", .str planned.workflowId.val),
      ("specDigest", .str planned.specDigest.val),
      ("registryDigest", .str planned.registryDigest.val),
      ("planDigest", .str planned.planDigest.val),
      ("decisionDigest", .str planned.decisionDigest.val),
      ("authorizationEventId", .str planned.authorizationEventId.val),
      ("authorizationSequence", .str (sequenceText planned.authorizationSequence)),
      ("maxAttempts", .int maxAttempts)]
  | .attemptQueued => [("ordinal", .int 1), ("retryOf", .null), ("retryDecisionId", .null)]
  | .attemptFailed =>
    [("reasonCode", .str "simulation.outcome.failure"), ("retryHint", .str "not-retryable")]
  | .runFailed => [("reasonCode", .str "simulation.outcome.failure")]
  | .attemptUnknown => [("reasonCode", .str "simulation.outcome.unknown")]
  | _ => []

theorem canonical_payloadFor (type : LifecycleType) (planned : PlannedRun) :
    ∀ p ∈ payloadFor type planned, p.2.canonical = true := by
  intro p hp
  cases type <;> simp [payloadFor] at hp <;> rcases hp with rfl | hp <;> try rfl
  all_goals rcases hp with rfl | rfl | rfl | rfl | rfl | rfl | rfl <;> rfl

/-- The draft of one remaining event. -/
def simulatedDraft (request : SimulationRequest) (run : RunBinding) (planned : PlannedRun)
    (type : LifecycleType) (identity : SimulationEventIdentity) : LifecycleDraft where
  eventId := identity.id
  eventType := type
  time := identity.time
  source := request.source
  subject := request.subject
  streamId := request.streamId
  actorId := request.actorId
  actorKind := none
  projectId := run.projectId
  experimentRevision := run.experimentRevision.val
  runId := run.runId
  attemptId := if type ∈ attemptTypes then some request.attemptId else none
  payload := payloadFor type planned
  payloadIsCanonical := canonical_payloadFor type planned

/-- `_remaining_drafts` -/
def remainingDrafts (remaining : List LifecycleType) (request : SimulationRequest)
    (run : RunBinding) (planned : PlannedRun) : Except SimulationError (List LifecycleDraft) :=
  if (request.events.map (·.2.id)).Nodup then
    remaining.mapM fun type =>
      match request.events.lookup type.text with
      | none => .error { message := "simulation event identities are incomplete" }
      | some identity => .ok (simulatedDraft request run planned type identity)
  else .error { message := "simulation event identities are not unique" }

end ResearchOs.Execution
