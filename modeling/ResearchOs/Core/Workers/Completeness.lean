import ResearchOs.Data.JsonEq
import ResearchOs.Core.Workers.Bindable

/-! A recorded decision binds its planned task exactly when the plan asks for capabilities only. -/
namespace ResearchOs.Workers

open Authorization
open Storage (EventLog)

variable {R : Type} {contentDigest : Json → Option String}

/-- The calls that cite the event are accepted with the digests of the task, and with no others. -/
def BindsPlanned (planner : Planner R contentDigest) (log : EventLog) (spec : ResearchSpec R)
    (stored : ResearchEvent) (report : DryRunReport) (task : TaskBlock)
    (object : PlannedExecution) : Prop :=
  ∀ (later : EventLog) (named : Option EventIdentifier) (image config : String),
    named = none ∨ named = some report.workflowId →
      ((∃ payload, requireAuthorizedExecutionBinding planner (log ++ stored :: later) spec
        (citing spec stored task named image config) = .ok payload) ↔
          image = object.imageDigest ∧ config = object.configDigest)

/-- Whatever is accepted cites an authorized decision of a human over the rebuilt plan. -/
def AcceptsOnlyDecisions (planner : Planner R contentDigest) (spec : ResearchSpec R) : Prop :=
  ∀ (log : EventLog) (call : BindingCall) (payload : PlanAuthorizationEvaluatedPayload contentDigest),
    requireAuthorizedExecutionBinding planner log spec call = .ok payload →
      ∃ stored report plan, stored ∈ log ∧ stored.id.val = call.eventId ∧
        stored.type.val = planAuthorizationEvaluatedType ∧
          stored.data.actor.kind = some .human ∧ stored.data.projectId = spec.projectId ∧
            stored.data.experimentRevision = spec.revision ∧
              validateEvaluatedEvent contentDigest stored = .ok payload ∧
                payload.status = .authorized ∧ PlanRebuilt planner spec payload report plan

theorem status_of_authorized {payload : PlanAuthorizationEvaluatedPayload contentDigest}
    (h : payload.authorized = true) : payload.status = .authorized := by
  have hconsistent := payload.decisionIsSelfConsistent
  simp only [Decision.isSelfConsistent, Bool.and_eq_true, beq_iff_eq] at hconsistent
  obtain ⟨⟨⟨-, hstatus⟩, -⟩, -⟩ := hconsistent
  rw [h] at hstatus
  exact of_decide_eq_true hstatus.symm

theorem acceptsOnlyDecisions (planner : Planner R contentDigest) (spec : ResearchSpec R) :
    AcceptsOnlyDecisions planner spec := by
  intro log call payload h
  obtain ⟨stored, report, plan, object, haccepted⟩ := requireAuthorizedExecutionBinding_ok.mp h
  have hcited := haccepted.cited
  have hid : stored.id.val = call.eventId := by simpa using List.find?_some hcited.found
  refine ⟨stored, report, plan, List.mem_of_find?_eq_some hcited.found, hid, hcited.type,
    hcited.human, Subtype.ext ?_, Subtype.ext ?_, hcited.valid,
    status_of_authorized hcited.authorized, haccepted.rebuilt⟩
  · rw [hcited.projectId, haccepted.specProject]
  · rw [haccepted.revision, haccepted.specRevision]

theorem stageTasks_tasks (tasks : List PlannedTask) : stageTasks (tasks.map .task) = tasks := by
  induction tasks with
  | nil => rfl
  | cons task tasks ih => rw [List.map_cons, stageTasks, ih, PlanNode.tasks, List.singleton_append]

def trialPlanned (contentDigest : Json → Option String) (workflow : Workflow)
    (permissions : List String) (task : TaskBlock) : Option PlannedTask :=
  (contentDigest (.obj task.config)).map fun configDigest =>
    ⟨["workflow", workflow.id.val, task.id.val], configDigest, ["execute.local"], permissions⟩

theorem trialPlanned_pairs {workflow : Workflow} {permissions : List String}
    {tasks : List TaskBlock} {planned : List PlannedTask}
    (h : tasks.mapM (trialPlanned contentDigest workflow permissions) =
      some planned) :
    (planned.map fun task => (task.nodePath.getLast?, some task.configDigest)) =
      tasks.map fun task => (some task.id.val, contentDigest (.obj task.config)) := by
  induction tasks generalizing planned with
  | nil =>
    cases h
    rfl
  | cons task tasks ih =>
    simp only [List.mapM_cons, Option.bind_eq_bind, Option.bind_eq_some_iff] at h
    obtain ⟨first, hfirst, rest, hrest, h⟩ := h
    cases h
    obtain ⟨configDigest, hdigest, rfl⟩ := Option.map_eq_some_iff.mp hfirst
    rw [List.map_cons, List.map_cons, ih hrest, hdigest]
    rfl

def trialPlanDigest : String :=
  "jcs-sha256:0000000000000000000000000000000000000000000000000000000000000000"

/-- The tasks of a workflow in one stage, under the permissions of the project. -/
def trialPlanner (contentDigest : Json → Option String) :
    Planner (List String) contentDigest where
  planWorkflow spec workflow :=
    match workflow.tasks.mapM (trialPlanned contentDigest workflow spec.rest) with
    | some planned =>
      .ok ⟨trialPlanDigest, trialPlanDigest, trialPlanDigest, [], [planned.map .task]⟩
    | none => .error (.raised "ValueError")
  plansTasks := by
    intro spec workflow plan h
    split at h
    · rename_i planned hplanned
      cases h
      simp only [stagesTasks, stageTasks_tasks, List.append_nil]
      rw [trialPlanned_pairs hplanned]
    · cases h

def trialImage : String := "sha256:0000000000000000000000000000000000000000000000000000000000000000"

def trialTask : TaskBlock where
  id := ⟨"task-a", by decide⟩
  config := [("config", .obj []), ("imageDigest", .str trialImage),
    ("imageMediaType", .str "researchos.python-brick/v0alpha1"), ("inputs", .obj []),
    ("runtime", .str "python-sandbox")]

def trialWorkflow : Workflow := ⟨⟨"workflow", .refl true⟩, [.loop [.task trialTask]]⟩

def trialSpec (permissions : List String) : ResearchSpec (List String) where
  projectId := ⟨"project", .refl true⟩
  revision := ⟨1, .refl true⟩
  workflows := [trialWorkflow]
  rest := permissions

def trialExecution : PlannedExecution where
  imageDigest := trialImage
  configDigest := "jcs-sha256:ef836a961dd797c4a037e98e7a802df627b907147a7e2b7ca785f524fcf2d06f"
  capability := "execute.local"

def trialPlan (permissions : List String) : CompiledPlan :=
  ⟨trialPlanDigest, trialPlanDigest, trialPlanDigest, [],
    [[.task ⟨["workflow", "workflow", "task-a"], trialExecution.configDigest, ["execute.local"],
      permissions⟩]]⟩

def trialReport (permissions : List String) : DryRunReport :=
  ⟨⟨"project", .refl true⟩, ⟨1, .refl true⟩, ⟨"workflow", .refl true⟩, some (trialPlan permissions)⟩

def trialPolicy (permissions : List String) : PlanAuthorizationPolicy :=
  { rebuiltPolicy (trialPlan permissions) ["execute.local"] with grantedPermissions := permissions }

def fetching : List String := ["network.fetch"]

def withoutPermissions : StrictDigest :=
  ⟨"jcs-sha256:f219e05d633d0f182f3031a3fc49c03de2f7d3fa7dba4a1f70fa9e3ef42f75f0", by decide⟩

def withPermission : StrictDigest :=
  ⟨"jcs-sha256:6bcb37ca845ac3b9edab414dae97cdef344c6e4bb4d1882b82c7854b8f4fea34", by decide⟩

/-- The digests of the documents of the project. -/
def trialDigests (j : Json) : Option String :=
  if j = .obj trialTask.config then some trialExecution.configDigest
  else if j = (trialPolicy []).decisionPayload (trialPlan []) then some withoutPermissions.val
  else if j = (trialPolicy fetching).decisionPayload (trialPlan fetching) then
    some withPermission.val
  else if j = (rebuiltPolicy (trialPlan fetching) ["execute.local"]).decisionPayload
      (trialPlan fetching) then
    some "jcs-sha256:d7f29e63b44b399fa0f0dbe110f203a61f6fa8df8ef75c0aca0e30d0f9a915a8"
  else none

def trialRequest (decisionDigest : StrictDigest) : PlanAuthorizationEventRequest where
  projectId := ⟨"project", .refl true⟩
  experimentRevision := ⟨1, .refl true⟩
  workflowId := ⟨"workflow", .refl true⟩
  binding := ⟨⟨trialPlanDigest, .refl true⟩, ⟨trialPlanDigest, .refl true⟩,
    ⟨trialPlanDigest, .refl true⟩, decisionDigest⟩
  source := ⟨"urn:researchos:cli", .refl true⟩
  subject := ⟨"workflow", .refl true⟩
  streamId := ⟨"authorizations", .refl true⟩
  actorId := ⟨"operator", .refl true⟩
  eventId := ⟨"event-0", .refl true⟩
  time := ⟨"2026-01-01T00:00:00Z", .refl true⟩
  evidenceRefs := []
  evidenceRefsAreBounded := by decide
  evidenceRefsAreUnique := by decide

def trialRecord (permissions : List String) (decisionDigest : StrictDigest) :
    Except RecordFailure (PlanAuthorizationResult × ResearchEvent) :=
  recordPlanAuthorizationEvent trialDigests 0 [] (trialReport permissions) (trialPolicy permissions)
    (trialRequest decisionDigest)

end ResearchOs.Workers
