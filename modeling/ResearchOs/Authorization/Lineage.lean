import ResearchOs.Authorization.Model
import ResearchOs.Core.Storage.Control

/-! `query_plan_authorization_lineage`: the recorded decisions about one plan. -/
namespace ResearchOs.Authorization

open Storage (EventLog StoreError)

structure PlanAuthorizationLineageBinding where
  specDigest : AuthorizationDigest
  registryDigest : AuthorizationDigest
  planDigest : AuthorizationDigest
  decisionDigest : Option AuthorizationDigest

/-- `PlanAuthorizationLineageQueryDocument` -/
structure LineageQuery where
  projectId : EventIdentifier
  experimentRevision : ExperimentRevision
  workflowId : EventIdentifier
  binding : PlanAuthorizationLineageBinding

/-- `PlanAuthorizationLineageMatch` -/
structure LineageMatch where
  eventId : CloudEventsString
  sequence : SequenceNumber
  time : Rfc3339Timestamp
  streamId : EventIdentifier
  actorId : EventIdentifier
  workflowId : EventIdentifier
  status : PlanAuthorizationStatus
  authorized : Bool
  binding : PlanAuthorizationEventBinding

inductive LineageError where
  | store (error : StoreError)
  | lineage (message : String)
  /-- A report that fails the validation of its model. -/
  | validation
  deriving DecidableEq, Repr

/-- `reconstruction_is_self_consistent`, with the bound on the matches. -/
def isReconstruction (highWater : Nat) (found : List LineageMatch) : Bool :=
  inRange 0 maxAuthorizationEntries found.length &&
    decide (found.Pairwise fun a b => a.sequence.val < b.sequence.val) &&
    decide (found.map (·.eventId)).Nodup &&
    found.all (fun item => decide (item.sequence.val ≤ highWater)) &&
    inRange 0 cloudEventsIntegerMax highWater

/-- `PlanAuthorizationLineageReport` -/
structure LineageReport where
  query : LineageQuery
  found : List LineageMatch
  highWaterSequence : Nat
  isSelfConsistent : isReconstruction highWaterSequence found = true

section

variable (contentDigest : Json → Option String)

/-- `PlanAuthorizationLineageMatch.from_event` -/
def LineageMatch.fromEvent (event : ResearchEvent)
    (payload : PlanAuthorizationEvaluatedPayload contentDigest) : LineageMatch where
  eventId := event.id
  sequence := event.sequence
  time := event.time
  streamId := event.streamid
  actorId := event.data.actor.id
  workflowId := payload.workflowId
  status := payload.status
  authorized := payload.authorized
  binding := payload.binding

/-- `_matches_lineage_query` -/
def matchesLineageQuery (event : ResearchEvent)
    (payload : PlanAuthorizationEvaluatedPayload contentDigest) (query : LineageQuery) : Bool :=
  decide (event.data.projectId = query.projectId) &&
    decide (event.data.experimentRevision = query.experimentRevision) &&
    decide (payload.workflowId = query.workflowId) &&
    decide (payload.binding.specDigest = query.binding.specDigest) &&
    decide (payload.binding.registryDigest = query.binding.registryDigest) &&
    decide (payload.binding.planDigest = query.binding.planDigest) &&
    query.binding.decisionDigest.all fun digest => payload.binding.decisionDigest = digest

/-- `PlanAuthorizationLineageProjection.apply` -/
def applyLineage (query : LineageQuery) (found : List LineageMatch) (event : ResearchEvent) :
    Except LineageError (List LineageMatch) :=
  if event.type.val ≠ planAuthorizationEvaluatedType then .ok found
  else
    match validateEvaluatedEvent contentDigest event with
    | .error _ => .error (.lineage "authorization event is invalid")
    | .ok payload =>
      if matchesLineageQuery contentDigest event payload query then
        .ok (found ++ [LineageMatch.fromEvent contentDigest event payload])
      else .ok found

/-- `replay_events`, read to its end: every event stands at its place. -/
def requirePlaces (log : EventLog) : Except LineageError Unit :=
  Fold.inOrder (fun event => event.sequence.val)
    (fun expected found =>
      .store (.integrity (Storage.misplacedText log.length expected (some found))))
    (fun _ _ => .ok ()) 1 () log

/-- `PlanAuthorizationLineageReport.from_reconstruction` -/
def fromReconstruction (query : LineageQuery) (found : List LineageMatch) (highWater : Nat) :
    Except LineageError LineageReport :=
  if h : isReconstruction highWater found = true then .ok ⟨query, found, highWater, h⟩
  else .error .validation

/-- `query_plan_authorization_lineage` -/
def queryLineage (query : LineageQuery) (log : EventLog) : Except LineageError LineageReport := do
  requirePlaces log
  let found ← log.foldlM (applyLineage contentDigest query) []
  fromReconstruction query found log.length

end

end ResearchOs.Authorization
