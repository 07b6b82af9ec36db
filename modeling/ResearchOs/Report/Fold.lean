import Mathlib.Data.List.Basic
import ResearchOs.Authorization.Model
import ResearchOs.Budget.Control
import ResearchOs.Research.Control
import ResearchOs.Core.Runs.Reducer

/-! `build_run_report`: one run folded from a verified prefix into a static report. -/
namespace ResearchOs.Report

open Authorization (planAuthorizationEvaluatedType validateEvaluatedEvent)
open Budget (BudgetError BudgetEventType BudgetFold applyBudgetFold)
open Research (LedgerFold ResearchError ResearchLedger applyResearchEvent)
open Runs (ConsumedAuthorization RunError RunSnapshot RunStateProjection)
open Storage (EventLog StoreError)

/-- A `ReportError`, or an exception that the report does not catch. -/
inductive ReportFailure where
  | report (message code : String)
  | research (error : ResearchError)
  | budget (error : BudgetError)
  | validation (message : String)
  | store (error : StoreError)

/-! Metric payloads. -/

def typeTrainingStep : String := "training.step"

def typeEvaluationMetric : String := "evaluation.metric"

/-- `^0\.[0-9]{2}$` -/
def isRatio (s : String) : Bool :=
  match s.toList with
  | ['0', '.', a, b] => a.isDigit && b.isDigit
  | _ => false

structure TrainingStepPayload where
  loss : Checked isRatio
  seedDigest : JcsDigest

structure EvaluationMetricPayload where
  value : Checked isRatio
  seedDigest : JcsDigest

def one : Json → Option Unit
  | .int 1 => some ()
  | _ => none

def TrainingStepPayload.validate (j : Json) : Option TrainingStepPayload := do
  let ms ← Strict.closed ["kind", "step", "loss", "seedDigest"] j
  let _ ← Strict.required ms "kind" (Strict.literal "synthetic")
  let _ ← Strict.required ms "step" one
  let loss ← Strict.required ms "loss" (Strict.text _)
  let seedDigest ← Strict.required ms "seedDigest" (Strict.text _)
  some ⟨loss, seedDigest⟩

def EvaluationMetricPayload.validate (j : Json) : Option EvaluationMetricPayload := do
  let ms ← Strict.closed ["kind", "name", "value", "split", "seedDigest"] j
  let _ ← Strict.required ms "kind" (Strict.literal "synthetic")
  let _ ← Strict.required ms "name" (Strict.literal "accuracy")
  let value ← Strict.required ms "value" (Strict.text _)
  let _ ← Strict.required ms "split" (Strict.literal "synthetic")
  let seedDigest ← Strict.required ms "seedDigest" (Strict.text _)
  some ⟨value, seedDigest⟩

/-- The metric records of a run, each with its event. -/
structure Metrics where
  training : List (ResearchEvent × TrainingStepPayload)
  evaluation : List (ResearchEvent × EvaluationMetricPayload)

def recordMetric (metrics : Metrics) (event : ResearchEvent) : Except ReportFailure Metrics :=
  if event.type.val = typeTrainingStep then
    match TrainingStepPayload.validate (.obj event.data.payload) with
    | some payload => .ok { metrics with training := metrics.training ++ [(event, payload)] }
    | none => .error (.report "training.step payload is invalid" "invalid-metric-payload")
  else if event.type.val = typeEvaluationMetric then
    match EvaluationMetricPayload.validate (.obj event.data.payload) with
    | some payload => .ok { metrics with evaluation := metrics.evaluation ++ [(event, payload)] }
    | none => .error (.report "evaluation.metric payload is invalid" "invalid-metric-payload")
  else .ok metrics

/-! The scan of the prefix. -/

/-- `_ProjectFold` -/
structure ProjectFold where
  ledger : LedgerFold
  budget : BudgetFold
  budgetEvents : List ResearchEvent

namespace ProjectFold

def empty : ProjectFold := ⟨LedgerFold.empty, BudgetFold.empty, []⟩

/-- Whether an event is a budget fact of the project. -/
def isBudgetEvent (projectId : EventIdentifier) (event : ResearchEvent) : Bool :=
  decide (event.data.projectId = projectId) && (BudgetEventType.ofText event.type.val).isSome

def apply (projectId : EventIdentifier) (fold : ProjectFold) (event : ResearchEvent) :
    Except ReportFailure ProjectFold :=
  match applyResearchEvent projectId fold.ledger event with
  | .error error => .error (.research error)
  | .ok ledger =>
    match applyBudgetFold projectId fold.budget event with
    | .error error => .error (.budget error)
    | .ok budget => .ok ⟨ledger, budget,
        fold.budgetEvents ++ [event].filter (isBudgetEvent projectId)⟩

end ProjectFold

/-- The accumulators of the loop. A project without a fold yet has the empty one. -/
structure Scan where
  matching : List ResearchEvent
  projects : List EventIdentifier
  otherProjects : List EventIdentifier
  authorizations : List ResearchEvent
  folds : EventIdentifier → ProjectFold

def Scan.empty : Scan := ⟨[], [], [], [], fun _ => ProjectFold.empty⟩

/-- Whether an event belongs to the run, whatever its project. -/
def namesRun (runId : EventIdentifier) (event : ResearchEvent) : Bool :=
  decide (event.data.runId = some runId)

/-- Whether an event lies outside the project that the caller asked for. -/
def isElsewhere (boundProject : Option EventIdentifier) (event : ResearchEvent) : Bool :=
  boundProject.any fun projectId => decide (event.data.projectId ≠ projectId)

def isAuthorization (event : ResearchEvent) : Bool :=
  decide (event.type.val = planAuthorizationEvaluatedType)

/-- An event is matched, or noted as one of another project. -/
def Scan.note (runId : EventIdentifier) (boundProject : Option EventIdentifier) (scan : Scan)
    (event : ResearchEvent) : Scan :=
  if namesRun runId event = false then scan
  else if isElsewhere boundProject event then
    { scan with otherProjects := scan.otherProjects.insert event.data.projectId }
  else
    { scan with
      matching := scan.matching ++ [event]
      projects := scan.projects.insert event.data.projectId }

def scanEvent (runId : EventIdentifier) (boundProject : Option EventIdentifier) (scan : Scan)
    (event : ResearchEvent) : Except ReportFailure Scan := do
  let fold ← (scan.folds event.data.projectId).apply event.data.projectId event
  .ok (Scan.note runId boundProject { scan with
    authorizations := [event].filter isAuthorization ++ scan.authorizations
    folds := Function.update scan.folds event.data.projectId fold } event)

/-- `replay_events` through the loop: every event stands at its place. -/
def scanLog (runId : EventIdentifier) (boundProject : Option EventIdentifier) (log : EventLog) :
    Except ReportFailure Scan :=
  Fold.inOrder (fun event => event.sequence.val)
    (fun expected found =>
      .store (.integrity (Storage.misplacedText log.length expected (some found))))
    (scanEvent runId boundProject) 1 Scan.empty log

/-! What the report takes from the scan. -/

/-- The one project of the matching events. -/
def observedProject (boundProject : Option EventIdentifier) (scan : Scan) :
    Except ReportFailure EventIdentifier :=
  if scan.matching.isEmpty then
    if boundProject.isSome ∧ ¬ scan.otherProjects.isEmpty then
      .error (.report "run project does not match" "run-project-mismatch")
    else .error (.report "run not found" "run-not-found")
  else
    match boundProject, scan.projects with
    | some projectId, _ => .ok projectId
    | none, [projectId] => .ok projectId
    | none, _ => .error (.report "run is bound to more than one project" "run-project-mismatch")

/-- `_fold_snapshot`: only run state errors are caught. -/
def foldSnapshot (projection : RunStateProjection) (matching : List ResearchEvent) :
    Except ReportFailure (Option RunSnapshot) :=
  match projection.fold matching with
  | .ok snapshot => .ok snapshot
  | .error (.validation message) => .error (.validation message)
  | .error _ => .error (.report "run projection failed" "run-projection")

/-- `_ProjectFold.snapshot`, with the ledger errors that the report catches. -/
def ledgerSnapshot (projectId : EventIdentifier) (fold : ProjectFold) (highWater : Nat) :
    Except ReportFailure ResearchLedger :=
  match Research.snapshot projectId fold.ledger highWater with
  | .ok ledger => .ok ledger
  | .error (.ledger message code) => .error (.report message code)
  | .error (.payload message code) => .error (.report message code)
  | .error error => .error (.research error)

section

variable (contentDigest : Json → Option String)

/-- Whether a recorded decision is the one that a run consumed. -/
def isBoundTo (snapshot : RunSnapshot) (event : ResearchEvent)
    (payload : Authorization.PlanAuthorizationEvaluatedPayload contentDigest) : Bool :=
  decide (event.data.projectId = snapshot.projectId) &&
    decide (event.data.experimentRevision = snapshot.experimentRevision) &&
    decide (payload.workflowId = snapshot.workflowId) &&
    decide (payload.binding.specDigest = snapshot.digests.spec) &&
    decide (payload.binding.registryDigest = snapshot.digests.registry) &&
    decide (payload.binding.planDigest = snapshot.digests.plan) &&
    snapshot.digests.decisionDigest.all fun digest => payload.binding.decisionDigest = digest

/-- `_consumed_authorization_from_prefix` -/
def consumedAuthorization (authorizations : List ResearchEvent) (snapshot : RunSnapshot)
    (citation : ConsumedAuthorization) (highWater : Nat) : Except ReportFailure ResearchEvent :=
  match authorizations.find? fun event => event.id = citation.eventId with
  | none => .error (.report "consumed authorization event was not found"
      "authorization-event-not-found")
  | some stored =>
    if highWater < stored.sequence.val then
      .error (.report "consumed authorization event was not found" "authorization-event-not-found")
    else if stored.sequence ≠ citation.sequence then
      .error (.report "consumed authorization sequence does not match"
        "authorization-sequence-mismatch")
    else if stored.type.val ≠ planAuthorizationEvaluatedType then
      .error (.report "authorization event type is invalid" "authorization-type-mismatch")
    else
      match validateEvaluatedEvent contentDigest stored with
      | .error _ => .error (.report "authorization event is invalid" "authorization-event-invalid")
      | .ok payload =>
        if isBoundTo contentDigest snapshot stored payload then .ok stored
        else .error (.report "authorization event does not match this project revision"
          "authorization-binding-mismatch")

/-- The authorization that the run of a report has consumed. -/
def reportAuthorization (authorizations : List ResearchEvent) (snapshot : Option RunSnapshot)
    (highWater : Nat) : Except ReportFailure (Option ResearchEvent) :=
  match snapshot with
  | none => .ok none
  | some snapshot =>
    match snapshot.consumedAuthorization with
    | none => .ok none
    | some citation =>
      (consumedAuthorization contentDigest authorizations snapshot citation highWater).map some

structure RunReport where
  runId : EventIdentifier
  projectId : EventIdentifier
  snapshot : Option RunSnapshot
  ledger : ResearchLedger
  metrics : Metrics
  budgetEvents : List ResearchEvent
  budget : BudgetFold
  lineage : List ResearchEvent
  consumedAuthorization : Option ResearchEvent
  lastSequence : Nat

/-- The report of a scan. -/
def reportOfScan (runId : EventIdentifier) (boundProject : Option EventIdentifier)
    (highWater : Nat) (scan : Scan) : Except ReportFailure RunReport := do
  let projectId ← observedProject boundProject scan
  let snapshot ← foldSnapshot ⟨projectId, runId⟩ scan.matching
  let ledger ← ledgerSnapshot projectId (scan.folds projectId) highWater
  let metrics ← scan.matching.foldlM recordMetric ⟨[], []⟩
  let consumed ← reportAuthorization contentDigest scan.authorizations snapshot highWater
  .ok {
    runId := runId
    projectId := projectId
    snapshot := snapshot
    ledger := ledger
    metrics := metrics
    budgetEvents := (scan.folds projectId).budgetEvents
    budget := (scan.folds projectId).budget
    lineage := scan.matching
    consumedAuthorization := consumed
    lastSequence := highWater }

/-- `build_run_report` -/
def buildRunReport (log : EventLog) (runId : EventIdentifier)
    (boundProject : Option EventIdentifier) : Except ReportFailure RunReport := do
  let scan ← scanLog runId boundProject log
  reportOfScan contentDigest runId boundProject log.length scan

end

end ResearchOs.Report
