import ResearchOs.Authorization.Record
import ResearchOs.Core.Workers.NativeOutput
import ResearchOs.Core.Workers.Results

/-! `require_authorized_execution_binding`: a grant cites a recorded decision, and the cited plan
is rebuilt and authorized again before its task is bound. -/
namespace ResearchOs.Workers

open Authorization
open Storage (EventLog)

/-- A task of a workflow, as far as its execution object is read from it. -/
structure TaskBlock where
  id : EventIdentifier
  config : Json.Members

inductive WorkflowNode where
  | task (task : TaskBlock)
  | approval
  | loop (body : List WorkflowNode)

mutual

/-- The tasks of a node, at any depth of loops. -/
def WorkflowNode.tasks : WorkflowNode → List TaskBlock
  | .task task => [task]
  | .approval => []
  | .loop body => nodesTasks body

def nodesTasks : List WorkflowNode → List TaskBlock
  | [] => []
  | node :: nodes => node.tasks ++ nodesTasks nodes

end

structure Workflow where
  id : EventIdentifier
  nodes : List WorkflowNode

def Workflow.tasks (workflow : Workflow) : List TaskBlock := nodesTasks workflow.nodes

/-- `rest` is what the planner reads besides: the blocks, edges, resources and policies. -/
structure ResearchSpec (R : Type) where
  projectId : EventIdentifier
  revision : ExperimentRevision
  workflows : List Workflow
  rest : R

def ResearchSpec.tasks {R : Type} (spec : ResearchSpec R) : List TaskBlock :=
  spec.workflows.flatMap Workflow.tasks

/-- The blocks with the id. -/
def tasksNamed (tasks : List TaskBlock) (plannedTaskId : EventIdentifier) : List TaskBlock :=
  tasks.filter fun task => task.id = plannedTaskId

inductive PlanningFailure where
  /-- `PlanningBlocked`: the report says why there is no plan. -/
  | blocked
  /-- Another `PlanningError`, or a `RegistryError`. -/
  | planning
  | raised (error : String)
  deriving DecidableEq, Repr

/-- `compile_plan` over a sealed registry, once the workflow is selected: it plans every task of
the workflow, under the task's id and the digest of its configuration. -/
structure Planner (R : Type) (contentDigest : Json → Option String) where
  planWorkflow : ResearchSpec R → Workflow → Except PlanningFailure CompiledPlan
  plansTasks : ∀ {spec workflow plan}, planWorkflow spec workflow = .ok plan →
    ((stagesTasks plan.graph).map fun task => (task.nodePath.getLast?, some task.configDigest)).Perm
      (workflow.tasks.map fun task => (some task.id.val, contentDigest (.obj task.config)))

variable {R : Type} (contentDigest : Json → Option String) (planner : Planner R contentDigest)

/-- `_select_workflow` -/
def ResearchSpec.selectWorkflow (spec : ResearchSpec R) :
    Option EventIdentifier → Except PlanningFailure Workflow
  | some workflowId =>
    match spec.workflows.find? fun workflow => workflow.id = workflowId with
    | some workflow => .ok workflow
    | none => .error .planning
  | none =>
    match spec.workflows with
    | [workflow] => .ok workflow
    | _ => .error .planning

/-- `TrustedKernel.dry_run` -/
def Planner.dryRun {contentDigest : Json → Option String} (planner : Planner R contentDigest)
    (spec : ResearchSpec R) (workflowId : Option EventIdentifier) :
    Except PlanningFailure DryRunReport := do
  let workflow ← spec.selectWorkflow workflowId
  match planner.planWorkflow spec workflow with
  | .ok plan => .ok ⟨spec.projectId, spec.revision, workflow.id, some plan⟩
  | .error .blocked => .ok ⟨spec.projectId, spec.revision, workflow.id, none⟩
  | .error e => .error e

/-- `_RUNTIME_MEDIA` -/
def WorkerRuntime.capability : WorkerRuntime → String
  | .pythonSandbox => "execute.local"
  | .ociContainer => "execute.oci"
  | .gpuOci => "execute.gpu"
  | .macosMps => "execute.mps"
  | .nativeReviewed => "execute.native"

/-- `EXECUTION_CAPABILITIES` -/
def executionCapabilities : List String :=
  [WorkerRuntime.pythonSandbox, .ociContainer, .gpuOci, .macosMps, .nativeReviewed].map
    WorkerRuntime.capability

def raisingDigest (j : Json) : Except PlaneError String :=
  match contentDigest j with
  | some digest => .ok digest
  | none => .error (.raised "ValueError")

/-- `brick_execution_digest`, whose runtime matches its media type -/
def executionDigest (imageDigest : String) (media : ImageMediaType) (runtime : WorkerRuntime)
    (config inputs : Json.Members) : Except PlaneError String :=
  if runtime = .nativeReviewed then
    match inputs, config.lookup "code" with
    | [], some (.obj code) =>
      match code.lookup "bundleDigest" with
      | some (.str bundleDigest) =>
        if bundleDigest = imageDigest then raisingDigest contentDigest (.obj config)
        else .error (.worker (rejectExecution "native execution object is not bound to the bundle"))
      | _ => .error (.worker (rejectExecution "native execution object is not bound to the bundle"))
    | _, _ => .error (.worker (rejectExecution "native execution object is not bound to the bundle"))
  else raisingDigest contentDigest (.obj (Json.ofPairs [("config", .obj config),
    ("imageDigest", .str imageDigest), ("imageMediaType", .str media.text), ("inputs", .obj inputs),
    ("runtime", .str runtime.text)]))

/-- Work that was queued has the digest of its execution object. -/
theorem brickExecutionDigest_eq (work : QueuedWork)
    (h : runtimeMatches work.runtime work.imageMediaType = true) :
    brickExecutionDigest contentDigest work = executionDigest contentDigest work.imageDigest.val
      work.imageMediaType work.runtime work.config work.inputs := by
  unfold brickExecutionDigest executionDigest
  have hmedia : work.runtime = .nativeReviewed → work.imageMediaType = .nativeReviewed := by
    intro hruntime
    rw [hruntime] at h
    cases hm : work.imageMediaType <;> simp [hm, runtimeMatches] at h ⊢
  by_cases hnative : work.runtime = .nativeReviewed
  · rw [if_pos ⟨hnative, hmedia hnative⟩, if_pos hnative]
    rfl
  · rw [if_neg fun hboth => hnative hboth.1, if_neg hnative, if_pos h]
    rfl

structure PlannedExecution where
  imageDigest : String
  configDigest : String
  capability : String
  deriving DecidableEq, Repr

def notPlannedTask : PlaneError :=
  .worker (rejectExecution "execution object is not the authorized planned task")

/-- A member that is an object, or absent. -/
def jsonObject (config : Json.Members) (field : String) : Except PlaneError Json.Members :=
  match config.lookup field with
  | none => .ok []
  | some (.obj ms) => .ok ms
  | some _ => .error notPlannedTask

/-- `_planned_execution_object` -/
def plannedExecutionObject (task : TaskBlock) : Except PlaneError PlannedExecution := do
  let inner ← jsonObject task.config "config"
  let inputs ← jsonObject task.config "inputs"
  match task.config.lookup "imageDigest", task.config.lookup "imageMediaType",
      task.config.lookup "runtime" with
  | some (.str image), some (.str media), some (.str runtime) =>
    match WorkerRuntime.ofText runtime, ImageMediaType.ofText media with
    | some runtime, some media =>
      if runtimeMatches runtime media then do
        let digest ← executionDigest contentDigest image media runtime inner inputs
        .ok ⟨image, digest, runtime.capability⟩
      else .error notPlannedTask
    | _, _ => .error notPlannedTask
  | _, _, _ => .error notPlannedTask

def rejectPlannedTask : PlaneError :=
  .worker (.call "planned task is not in the authorized plan" "planned-task-mismatch")

/-- `_requested_task_capability` -/
def requestedTaskCapability (spec : ResearchSpec R) (plannedTaskId : EventIdentifier) :
    Except PlaneError (Option String) :=
  match tasksNamed spec.tasks plannedTaskId with
  | [] => .ok none
  | [task] => do
    let object ← plannedExecutionObject contentDigest task
    .ok (some object.capability)
  | _ => .error rejectPlannedTask

/-- `_spec_task` -/
def specTask (spec : ResearchSpec R) (workflowId plannedTaskId : EventIdentifier) :
    Except PlaneError TaskBlock :=
  match spec.workflows.find? fun workflow => workflow.id = workflowId with
  | none => .error (.worker (.call "authorization event does not match this project revision"
      "authorization-project-mismatch"))
  | some workflow =>
    match tasksNamed workflow.tasks plannedTaskId with
    | [task] => .ok task
    | _ => .error rejectPlannedTask

/-- `_planned_task` -/
def plannedTask (plan : CompiledPlan) (plannedTaskId : EventIdentifier) :
    Except PlaneError PlannedTask :=
  match (stagesTasks plan.graph).filter fun task =>
      task.nodePath.getLast? = some plannedTaskId.val with
  | [task] => .ok task
  | _ => .error rejectPlannedTask

/-- `require_authorized_execution_citation` -/
def requireAuthorizedExecutionCitation (log : EventLog) (projectId eventId sequence : String) :
    Except WorkerError (PlanAuthorizationEvaluatedPayload contentDigest × ResearchEvent) := do
  let stored ← presentCall (Storage.EventLog.getEvent log eventId)
    "authorization event was not found" "authorization-event-not-found"
  requireCall (sequenceText stored.sequence = sequence)
    "authorization event sequence does not match" "authorization-sequence-mismatch"
  requireCall (stored.type.val = planAuthorizationEvaluatedType)
    "authorization event type is invalid" "authorization-type-mismatch"
  match validateEvaluatedEvent contentDigest stored with
  | .error _ => .error (.call "authorization event is invalid" "authorization-event-invalid")
  | .ok payload => do
    requireCall (stored.data.actor.kind = some .human)
      "authorization actor is not a local human operator" "authorization-actor-not-human"
    requireCall (payload.authorized = true)
      "authorization event is not an authorized decision" "authorization-not-authorized"
    requireCall (stored.data.projectId.val = projectId)
      "authorization event does not match this project" "authorization-project-mismatch"
    requireCall (executionCapabilities.any (Decision.texts payload.requiredCapabilities.val).contains
        = true)
      "authorization event does not grant an execution capability"
      "authorization-capability-mismatch"
    .ok (payload, stored)

/-- The arguments of `require_authorized_execution_binding`. -/
structure BindingCall where
  projectId : String
  experimentRevision : Nat
  plannedTaskId : EventIdentifier
  eventId : String
  sequence : String
  imageDigest : String
  configDigest : String
  workflowId : Option String

def notRebuilt : PlaneError :=
  .worker (.call "authorized plan could not be rebuilt" "authorization-plan-not-ready")

/-- The report of the cited workflow. -/
def rebuiltReport {contentDigest : Json → Option String} (planner : Planner R contentDigest)
    (spec : ResearchSpec R) (workflowId : EventIdentifier) : Except PlaneError DryRunReport :=
  match planner.dryRun spec (some workflowId) with
  | .ok report => .ok report
  | .error (.raised error) => .error (.raised error)
  | .error _ => .error notRebuilt

/-- The policy that is made up from a recorded payload: its capabilities, and nothing else. -/
def rebuiltPolicy (plan : CompiledPlan) (capabilities : List String) : PlanAuthorizationPolicy where
  specDigest := plan.specDigest
  registryDigest := plan.registryDigest
  planDigest := plan.planDigest
  grantedCapabilities := capabilities
  grantedPermissions := []
  requirementDecisions := []

def rebuiltAuthorization (report : DryRunReport) (plan : CompiledPlan)
    (capabilities : List String) : Except PlaneError PlanAuthorizationResult :=
  match authorizePlan contentDigest report (rebuiltPolicy plan capabilities) with
  | .ok result => .ok result
  | .error (.rejected _) => .error notRebuilt
  | .error .raised => .error (.raised "ValueError")

/-- The digest under which the plan has the configuration of a task. -/
def plannedConfigDigest (task : TaskBlock) (object : PlannedExecution) : Except PlaneError String :=
  if object.capability = WorkerRuntime.nativeReviewed.capability then
    raisingDigest contentDigest (.obj task.config)
  else .ok object.configDigest

/-- `require_authorized_execution_binding` -/
def requireAuthorizedExecutionBinding {contentDigest : Json → Option String}
    (planner : Planner R contentDigest) (log : EventLog) (spec : ResearchSpec R)
    (call : BindingCall) : Except PlaneError (PlanAuthorizationEvaluatedPayload contentDigest) := do
  let (payload, stored) ← fromWorker (requireAuthorizedExecutionCitation contentDigest log
    call.projectId call.eventId call.sequence)
  fromWorker (requireCall (call.workflowId.getD payload.workflowId.val = payload.workflowId.val)
    "authorization event does not match this project revision" "authorization-project-mismatch")
  fromWorker (requireCall (stored.data.experimentRevision.val = call.experimentRevision ∧
      spec.projectId.val = call.projectId ∧ spec.revision.val = call.experimentRevision)
    "authorization event does not match this project revision" "authorization-project-mismatch")
  let requested ← requestedTaskCapability contentDigest spec call.plannedTaskId
  fromWorker (requireCall (requested.all (Decision.texts payload.requiredCapabilities.val).contains
      = true)
    "authorization event does not grant the planned execution capability"
    "authorization-capability-mismatch")
  let report ← rebuiltReport planner spec payload.workflowId
  let plan ← fromWorker (presentCall report.plan "authorized plan could not be rebuilt"
    "authorization-plan-not-ready")
  let authorization ← rebuiltAuthorization contentDigest report plan
    (Decision.texts payload.requiredCapabilities.val)
  fromWorker (requireCall (payload.binding.specDigest.val = plan.specDigest ∧
      payload.binding.registryDigest.val = plan.registryDigest ∧
      payload.binding.planDigest.val = plan.planDigest ∧
      payload.binding.decisionDigest.val = authorization.decisionDigest ∧
      report.projectId.val = call.projectId ∧ report.revision.val = call.experimentRevision ∧
      report.workflowId = payload.workflowId)
    "authorization event does not match the rebuilt plan" "authorization-binding-mismatch")
  let task ← specTask spec payload.workflowId call.plannedTaskId
  let planned ← plannedTask plan call.plannedTaskId
  let object ← plannedExecutionObject contentDigest task
  fromWorker (requireCall (object.capability ∈ Decision.texts payload.requiredCapabilities.val)
    "authorization event does not grant the planned execution capability"
    "authorization-capability-mismatch")
  let configDigest ← plannedConfigDigest contentDigest task object
  fromWorker (requireCall (planned.configDigest = configDigest ∧
      object.imageDigest = call.imageDigest ∧ object.configDigest = call.configDigest)
    "execution object is not the authorized planned task" "execution-binding-mismatch")
  .ok payload

end ResearchOs.Workers
