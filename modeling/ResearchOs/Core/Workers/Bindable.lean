import ResearchOs.Core.Workers.Authorized

/-! What a binding accepts of a recorded decision, and when it accepts the planned task. -/
namespace ResearchOs.Workers

open Authorization
open Storage (EventLog)

/-! The policy that a binding makes up from a recorded payload. -/

section Rebuilt

variable {policy : PlanAuthorizationPolicy} {plan : CompiledPlan}

theorem rebuiltPolicy_accepted (hfits : policy.Fits plan)
    (hauthorized : policy.status plan = .authorized) :
    (rebuiltPolicy plan (declaredCapabilities plan.graph)).validate = .ok () ∧
      (rebuiltPolicy plan (declaredCapabilities plan.graph)).fit plan = .ok () := by
  have hidentifiers : ∀ value ∈ declaredCapabilities plan.graph, isEventIdentifier value = true :=
    fun value hvalue => hfits.identifiers value
      (PlanAuthorizationPolicy.granted_of_authorized hauthorized hvalue)
  have hnodup : (declaredCapabilities plan.graph).Nodup := nodup_sortedSet _
  obtain ⟨hspec, hregistry, hplan⟩ := hfits.digests
  rw [hfits.specDigest] at hspec
  rw [hfits.registryDigest] at hregistry
  rw [hfits.planDigest] at hplan
  constructor
  · have hall : ((declaredCapabilities plan.graph).all isEventIdentifier) = true :=
      List.all_eq_true.mpr hidentifiers
    simp [PlanAuthorizationPolicy.validate, rebuiltPolicy, validatedUniqueIdentifiers,
      validatedDecisions, requirePlan, hspec, hregistry, hplan, hall, hnodup, bind, Except.bind]
  · have hknown : ((declaredCapabilities plan.graph).all knownPlanCapabilities.contains) = true :=
      List.all_eq_true.mpr fun value hvalue => by simpa using hfits.known value hvalue
    have hself : ((declaredCapabilities plan.graph).all
        (declaredCapabilities plan.graph).contains) = true :=
      List.all_eq_true.mpr fun value hvalue => by simpa using hvalue
    simp [PlanAuthorizationPolicy.fit, rebuiltPolicy, requirePlan, hknown, hself,
      hfits.requirements, bind, Except.bind]

/-- Without permissions and decisions, the made up policy authorizes only a plan that asks for
none. -/
theorem rebuiltPolicy_authorized :
    (rebuiltPolicy plan (declaredCapabilities plan.graph)).status plan = .authorized ↔
      declaredPermissions plan.graph = [] ∧ plan.policyRequirements = [] := by
  have hcapabilities : (rebuiltPolicy plan (declaredCapabilities plan.graph)).missingCapabilities
      plan = [] := by
    rw [PlanAuthorizationPolicy.missingCapabilities, List.filter_eq_nil_iff]
    intro value hvalue hmissing
    exact (of_decide_eq_true hmissing) hvalue
  have hpermissions : (rebuiltPolicy plan (declaredCapabilities plan.graph)).missingPermissions
      plan = declaredPermissions plan.graph := by
    simp [PlanAuthorizationPolicy.missingPermissions, rebuiltPolicy]
  have hdenied : (rebuiltPolicy plan (declaredCapabilities plan.graph)).requirementsWith plan
      (some .denied) = [] := by
    simp [PlanAuthorizationPolicy.requirementsWith, PlanAuthorizationPolicy.decision, rebuiltPolicy]
  have hpending : (rebuiltPolicy plan (declaredCapabilities plan.graph)).requirementsWith plan
      none = sortTexts plan.policyRequirements := by
    simp [PlanAuthorizationPolicy.requirementsWith, PlanAuthorizationPolicy.decision, rebuiltPolicy]
  rw [PlanAuthorizationPolicy.status_eq_authorized, hcapabilities, hpermissions, hdenied, hpending,
    sortTexts_eq_nil]
  simp

theorem status_of_decisionPayload {other : PlanAuthorizationPolicy}
    (h : other.decisionPayload plan = policy.decisionPayload plan) :
    other.status plan = policy.status plan := by
  simp only [PlanAuthorizationPolicy.decisionPayload, Json.obj.injEq, List.cons.injEq,
    Prod.mk.injEq, Json.str.injEq, true_and] at h
  cases hother : other.status plan <;> cases hpolicy : policy.status plan <;>
    simp [hother, hpolicy, PlanAuthorizationStatus.text] at h ⊢

/-- A plan that asks for capabilities only is decided the same way again. -/
theorem rebuiltPolicy_payload (hauthorized : policy.status plan = .authorized)
    (hpermissions : declaredPermissions plan.graph = []) (hrequirements : plan.policyRequirements = []) :
    (rebuiltPolicy plan (declaredCapabilities plan.graph)).decisionPayload plan =
      policy.decisionPayload plan := by
  have hstatus := rebuiltPolicy_authorized.mpr ⟨hpermissions, hrequirements⟩
  have hgrants : (declaredCapabilities plan.graph).map (PlanAuthorizationPolicy.grantDecision
      (declaredCapabilities plan.graph)) = (declaredCapabilities plan.graph).map
        (PlanAuthorizationPolicy.grantDecision policy.grantedCapabilities) := by
    refine List.map_congr_left fun value hvalue => ?_
    have hgranted := PlanAuthorizationPolicy.granted_of_authorized hauthorized hvalue
    rw [PlanAuthorizationPolicy.grantDecision, PlanAuthorizationPolicy.grantDecision, if_pos hvalue,
      if_pos hgranted]
  have hnone : sortTexts plan.policyRequirements = [] := sortTexts_eq_nil.mpr hrequirements
  have hcaps : (rebuiltPolicy plan (declaredCapabilities plan.graph)).grantedCapabilities =
      declaredCapabilities plan.graph := rfl
  rw [PlanAuthorizationPolicy.decisionPayload, PlanAuthorizationPolicy.decisionPayload, hstatus,
    hauthorized, hpermissions, hnone, hcaps, hgrants]
  rfl

end Rebuilt

/-! What an accepted call has passed. -/

section Accepted

variable {R : Type} {contentDigest : Json → Option String} {planner : Planner R contentDigest}
  {log : EventLog} {spec : ResearchSpec R} {call : BindingCall}
  {payload : PlanAuthorizationEvaluatedPayload contentDigest} {stored : ResearchEvent}

/-- The cited event is an authorized decision of a human over the project. -/
structure Cited (log : EventLog) (projectId eventId sequence : String)
    (payload : PlanAuthorizationEvaluatedPayload contentDigest) (stored : ResearchEvent) : Prop where
  found : Storage.EventLog.getEvent log eventId = some stored
  sequence : sequenceText stored.sequence = sequence
  type : stored.type.val = planAuthorizationEvaluatedType
  valid : validateEvaluatedEvent contentDigest stored = .ok payload
  human : stored.data.actor.kind = some .human
  authorized : payload.authorized = true
  projectId : stored.data.projectId.val = projectId
  executes : ∃ capability ∈ executionCapabilities,
    capability ∈ Decision.texts payload.requiredCapabilities.val

theorem requireAuthorizedExecutionCitation_ok {projectId eventId sequence : String} :
    requireAuthorizedExecutionCitation contentDigest log projectId eventId sequence =
      .ok (payload, stored) ↔ Cited log projectId eventId sequence payload stored := by
  constructor
  · intro h
    simp only [requireAuthorizedExecutionCitation, presentCall_bind_ok, requireCall_bind_ok] at h
    obtain ⟨event, hfound, hsequence, htype, h⟩ := h
    split at h
    · cases h
    · rename_i found hvalid
      simp only [requireCall_bind_ok] at h
      obtain ⟨hhuman, hauthorized, hproject, hexecutes, h⟩ := h
      cases h
      exact ⟨hfound, hsequence, htype, hvalid, hhuman, hauthorized, hproject,
        by simpa using hexecutes⟩
  · rintro ⟨hfound, hsequence, htype, hvalid, hhuman, hauthorized, hproject, hexecutes⟩
    have hexecutes' : executionCapabilities.any
        (Decision.texts payload.requiredCapabilities.val).contains = true := by
      simpa using hexecutes
    simp only [requireAuthorizedExecutionCitation, presentCall_bind_ok, requireCall_bind_ok]
    refine ⟨stored, hfound, hsequence, htype, ?_⟩
    rw [hvalid]
    simp only [requireCall_bind_ok]
    exact ⟨hhuman, hauthorized, hproject, hexecutes', trivial⟩

/-- The rebuilt plan is the recorded one, and is decided as it was recorded. -/
structure PlanRebuilt (planner : Planner R contentDigest) (spec : ResearchSpec R)
    (payload : PlanAuthorizationEvaluatedPayload contentDigest) (report : DryRunReport)
    (plan : CompiledPlan) : Prop where
  dryRun : planner.dryRun spec (some payload.workflowId) = .ok report
  ready : report.plan = some plan
  specDigest : payload.binding.specDigest.val = plan.specDigest
  registryDigest : payload.binding.registryDigest.val = plan.registryDigest
  planDigest : payload.binding.planDigest.val = plan.planDigest
  decision : ∃ authorization, authorizePlan contentDigest report
    (rebuiltPolicy plan (Decision.texts payload.requiredCapabilities.val)) = .ok authorization ∧
      payload.binding.decisionDigest.val = authorization.decisionDigest
  workflowId : report.workflowId = payload.workflowId

/-- The task of an accepted call, and what its configuration plans. -/
structure TaskBound (spec : ResearchSpec R) (call : BindingCall)
    (payload : PlanAuthorizationEvaluatedPayload contentDigest) (plan : CompiledPlan)
    (object : PlannedExecution) : Prop where
  requested : ∃ requested, requestedTaskCapability contentDigest spec call.plannedTaskId =
    .ok requested ∧
      requested.all (Decision.texts payload.requiredCapabilities.val).contains = true
  task : ∃ task planned, specTask spec payload.workflowId call.plannedTaskId = .ok task ∧
    plannedTask plan call.plannedTaskId = .ok planned ∧
      plannedExecutionObject contentDigest task = .ok object ∧
        plannedConfigDigest contentDigest task object = .ok planned.configDigest
  capability : object.capability ∈ Decision.texts payload.requiredCapabilities.val
  imageDigest : object.imageDigest = call.imageDigest
  configDigest : object.configDigest = call.configDigest

structure Accepted (planner : Planner R contentDigest) (log : EventLog) (spec : ResearchSpec R)
    (call : BindingCall) (payload : PlanAuthorizationEvaluatedPayload contentDigest)
    (stored : ResearchEvent) (report : DryRunReport) (plan : CompiledPlan)
    (object : PlannedExecution) : Prop where
  cited : Cited log call.projectId call.eventId call.sequence payload stored
  workflowId : call.workflowId.getD payload.workflowId.val = payload.workflowId.val
  revision : stored.data.experimentRevision.val = call.experimentRevision
  specProject : spec.projectId.val = call.projectId
  specRevision : spec.revision.val = call.experimentRevision
  rebuilt : PlanRebuilt planner spec payload report plan
  reportProject : report.projectId.val = call.projectId
  reportRevision : report.revision.val = call.experimentRevision
  bound : TaskBound spec call payload plan object

theorem rebuiltReport_ok {workflowId : EventIdentifier} {report : DryRunReport} :
    rebuiltReport planner spec workflowId = .ok report ↔
      planner.dryRun spec (some workflowId) = .ok report := by
  unfold rebuiltReport
  split <;> simp_all

theorem rebuiltAuthorization_ok {report : DryRunReport} {plan : CompiledPlan}
    {capabilities : List String} {authorization : PlanAuthorizationResult} :
    rebuiltAuthorization contentDigest report plan capabilities = .ok authorization ↔
      authorizePlan contentDigest report (rebuiltPolicy plan capabilities) = .ok authorization := by
  unfold rebuiltAuthorization
  split <;> simp_all

theorem requireAuthorizedExecutionBinding_ok :
    requireAuthorizedExecutionBinding planner log spec call = .ok payload ↔
      ∃ stored report plan object, Accepted planner log spec call payload stored report plan
        object := by
  simp only [requireAuthorizedExecutionBinding, Fold.bind_eq_ok, fromWorker_eq_ok, requireCall_eq_ok,
    presentCall_eq_ok, requireAuthorizedExecutionCitation_ok, rebuiltReport_ok,
    rebuiltAuthorization_ok, Prod.exists]
  constructor
  · rintro ⟨payload', stored, hcited, _, hworkflow, _, ⟨hrevision, hproject, hspecRevision⟩,
      requested, hrequested, _, hgranted, report, hreport, plan, hplan, authorization,
      hauthorization, _, ⟨hspec, hregistry, hplanDigest, hdecision, hreportProject, hreportRevision,
      hreportWorkflow⟩, task, htask, planned, hplanned, object, hobject, _, hcapability,
      configDigest, hconfig, _, ⟨hsame, himage, hconfigDigest⟩, h⟩
    cases h
    cases hsame
    exact ⟨stored, report, plan, object, hcited, hworkflow, hrevision, hproject, hspecRevision,
      ⟨hreport, hplan, hspec, hregistry, hplanDigest, ⟨authorization, hauthorization, hdecision⟩,
        hreportWorkflow⟩, hreportProject, hreportRevision,
      ⟨⟨requested, hrequested, hgranted⟩, ⟨task, planned, htask, hplanned, hobject, hconfig⟩,
        hcapability, himage, hconfigDigest⟩⟩
  · rintro ⟨stored, report, plan, object, hcited, hworkflow, hrevision, hproject, hspecRevision,
      ⟨hreport, hplan, hspec, hregistry, hplanDigest, ⟨authorization, hauthorization, hdecision⟩,
        hreportWorkflow⟩, hreportProject, hreportRevision,
      ⟨⟨requested, hrequested, hgranted⟩, ⟨task, planned, htask, hplanned, hobject, hconfig⟩,
        hcapability, himage, hconfigDigest⟩⟩
    exact ⟨payload, stored, hcited, (), hworkflow, (), ⟨hrevision, hproject, hspecRevision⟩,
      requested, hrequested, (), hgranted, report, hreport, plan, hplan, authorization,
      hauthorization, (), ⟨hspec, hregistry, hplanDigest, hdecision, hreportProject,
      hreportRevision, hreportWorkflow⟩, task, htask, planned, hplanned, object, hobject, (),
      hcapability, planned.configDigest, hconfig, (), ⟨rfl, himage, hconfigDigest⟩, rfl⟩

end Accepted

/-! The planned task of a recorded decision. -/

section Planned

variable {R : Type} {contentDigest : Json → Option String} {planner : Planner R contentDigest}
  {spec : ResearchSpec R} {report : DryRunReport} {plan : CompiledPlan} {workflow : Workflow}
  {task : TaskBlock} {object : PlannedExecution} {workflowId : Option EventIdentifier}

theorem capability_mem (runtime : WorkerRuntime) : runtime.capability ∈ executionCapabilities := by
  cases runtime <;> simp [executionCapabilities]

theorem capability_of_object (h : plannedExecutionObject contentDigest task = .ok object) :
    object.capability ∈ executionCapabilities := by
  obtain ⟨inner, -, h⟩ := Fold.bind_eq_ok.mp h
  obtain ⟨inputs, -, h⟩ := Fold.bind_eq_ok.mp h
  split at h
  · split at h
    · split_ifs at h
      obtain ⟨digest, -, h⟩ := Fold.bind_eq_ok.mp h
      cases h
      exact capability_mem _
    · cases h
  · cases h

theorem selectWorkflow_again (h : spec.selectWorkflow workflowId = .ok workflow) :
    spec.workflows.find? (fun item => item.id = workflow.id) = some workflow := by
  unfold ResearchSpec.selectWorkflow at h
  split at h
  · split at h
    · rename_i given _ found hfound
      cases h
      have hid : workflow.id = given := by simpa using List.find?_some hfound
      rw [hid]
      exact hfound
    · cases h
  · split at h
    · rename_i only honly
      cases h
      simp [honly]
    · cases h

/-- A ready report is the one of its workflow, however the workflow was selected. -/
theorem dryRun_again (h : planner.dryRun spec workflowId = .ok report) :
    planner.dryRun spec (some report.workflowId) = .ok report := by
  obtain ⟨workflow, hselect, hplan⟩ := Fold.bind_eq_ok.mp h
  have hid : report.workflowId = workflow.id := by
    split at hplan <;> cases hplan <;> rfl
  have hagain : spec.selectWorkflow (some report.workflowId) = .ok workflow := by
    rw [ResearchSpec.selectWorkflow, hid, selectWorkflow_again hselect]
  exact Fold.bind_eq_ok.mpr ⟨workflow, hagain, hplan⟩

theorem dryRun_plan (h : planner.dryRun spec workflowId = .ok report)
    (hplan : report.plan = some plan) :
    ∃ workflow, spec.workflows.find? (fun item => item.id = report.workflowId) = some workflow ∧
      planner.planWorkflow spec workflow = .ok plan ∧
        report.projectId = spec.projectId ∧ report.revision = spec.revision := by
  obtain ⟨workflow, hselect, h⟩ := Fold.bind_eq_ok.mp h
  have hfound := selectWorkflow_again hselect
  split at h
  · rename_i compiled hcompiled
    cases h
    cases hplan
    exact ⟨workflow, hfound, hcompiled, rfl, rfl⟩
  · cases h
    cases hplan
  · cases h

theorem mem_tasksNamed {tasks : List TaskBlock} (htask : task ∈ tasks) :
    task ∈ tasksNamed tasks task.id :=
  List.mem_filter.mpr ⟨htask, by simp⟩

theorem mem_tasks_of_workflow
    (hworkflow : spec.workflows.find? (fun item => item.id = report.workflowId) = some workflow)
    (htask : task ∈ workflow.tasks) : task ∈ spec.tasks :=
  List.mem_flatMap.mpr ⟨workflow, List.mem_of_find?_eq_some hworkflow, htask⟩

/-- A name that is unique over the project is unique in each workflow. -/
theorem tasksNamed_of_once
    (hworkflow : spec.workflows.find? (fun item => item.id = report.workflowId) = some workflow)
    (htask : task ∈ workflow.tasks) (honce : tasksNamed spec.tasks task.id = [task]) :
    tasksNamed workflow.tasks task.id = [task] := by
  have hsub : (tasksNamed workflow.tasks task.id).Sublist (tasksNamed spec.tasks task.id) := by
    apply List.Sublist.filter
    have hmem := List.mem_of_find?_eq_some hworkflow
    exact List.sublist_flatten_of_mem (List.mem_map_of_mem hmem)
  rw [honce] at hsub
  have hlen := hsub.length_le
  have hmem := mem_tasksNamed htask
  match hnamed : tasksNamed workflow.tasks task.id with
  | [] => simp [hnamed] at hmem
  | [only] =>
    rw [hnamed, List.mem_singleton] at hmem
    rw [hmem]
  | _ :: _ :: _ => simp [hnamed] at hlen

/-- The plan has the one task of the name, under the digest of its configuration. -/
theorem plannedTask_of_once (hplan : planner.planWorkflow spec workflow = .ok plan)
    (honce : tasksNamed workflow.tasks task.id = [task]) :
    ∃ planned, plannedTask plan task.id = .ok planned ∧
      contentDigest (.obj task.config) = some planned.configDigest := by
  have hperm := (planner.plansTasks hplan).filter fun pair => pair.1 = some task.id.val
  rw [List.filter_map, List.filter_map] at hperm
  have hnamed : (workflow.tasks.filter ((fun pair : Option String × Option String =>
      decide (pair.1 = some task.id.val)) ∘ fun item =>
        (some item.id.val, contentDigest (.obj item.config)))) = [task] := by
    rw [← honce, tasksNamed]
    refine List.filter_congr fun item _ => ?_
    simp [Subtype.ext_iff]
  rw [hnamed, List.map_singleton, List.perm_singleton] at hperm
  obtain ⟨planned, hplanned, hpair⟩ := List.map_eq_singleton_iff.mp hperm
  refine ⟨planned, ?_, ?_⟩
  · have hfilter : (stagesTasks plan.graph).filter (fun item =>
        item.nodePath.getLast? = some task.id.val) = [planned] := hplanned
    rw [plannedTask, hfilter]
  · exact (Prod.mk.inj hpair).2.symm

end Planned

/-! When a recorded decision binds its planned task. -/

section Bindable

variable {R : Type} {contentDigest : Json → Option String} {planner : Planner R contentDigest}
  {spec : ResearchSpec R} {report : DryRunReport} {plan : CompiledPlan} {workflow : Workflow}
  {task : TaskBlock} {object : PlannedExecution} {workflowId : Option EventIdentifier}
  {policy : PlanAuthorizationPolicy} {request : PlanAuthorizationEventRequest}
  {result : PlanAuthorizationResult} {log later : EventLog} {stored : ResearchEvent}
  {frozenHead : Nat} {named : Option EventIdentifier} {image config : String}

/-- A call that cites an event for a task of the project. -/
def citing (spec : ResearchSpec R) (stored : ResearchEvent) (task : TaskBlock)
    (named : Option EventIdentifier) (image config : String) : BindingCall where
  projectId := spec.projectId.val
  experimentRevision := spec.revision.val
  plannedTaskId := task.id
  eventId := stored.id.val
  sequence := sequenceText stored.sequence
  imageDigest := image
  configDigest := config
  workflowId := named.map Subtype.val

/-- The plan asks for capabilities only, the name of the task is unique over the project, the plan
declares the capability of its runtime, and unless it is native its configuration is the execution
object. -/
structure Bindable (contentDigest : Json → Option String) (spec : ResearchSpec R)
    (plan : CompiledPlan) (task : TaskBlock) (object : PlannedExecution) : Prop where
  permissions : declaredPermissions plan.graph = []
  requirements : plan.policyRequirements = []
  once : tasksNamed spec.tasks task.id = [task]
  capability : object.capability ∈ declaredCapabilities plan.graph
  config : object.capability = WorkerRuntime.nativeReviewed.capability ∨
    contentDigest (.obj task.config) = some object.configDigest

/-- No other decision of the plan has the digest of the recorded one. -/
def DecisionTold (contentDigest : Json → Option String) (plan : CompiledPlan)
    (policy : PlanAuthorizationPolicy) (result : PlanAuthorizationResult) : Prop :=
  contentDigest ((rebuiltPolicy plan (declaredCapabilities plan.graph)).decisionPayload plan) =
      some result.decisionDigest →
    (rebuiltPolicy plan (declaredCapabilities plan.graph)).decisionPayload plan =
      policy.decisionPayload plan

theorem getEvent_recorded (hfresh : ∀ earlier ∈ log, earlier.id ≠ stored.id) :
    Storage.EventLog.getEvent (log ++ stored :: later) stored.id.val = some stored := by
  rw [Storage.EventLog.getEvent, List.find?_append, List.find?_eq_none.mpr]
  · simp
  · intro earlier hearlier
    simpa [Subtype.ext_iff] using hfresh earlier hearlier

/-- What `authorize_plan` returned for the recorded policy. -/
theorem result_of_authorized (hplan : report.plan = some plan)
    (hauthorize : authorizePlan contentDigest report policy = .ok result)
    (hstatus : result.status = .authorized) :
    policy.Fits plan ∧ policy.status plan = .authorized ∧
      contentDigest (policy.decisionPayload plan) = some result.decisionDigest ∧
        result.requiredCapabilities = declaredCapabilities plan.graph ∧
          result.specDigest = plan.specDigest ∧ result.registryDigest = plan.registryDigest ∧
            result.planDigest = plan.planDigest := by
  obtain ⟨found, decisionDigest, hfound, hfits, hdigest, rfl⟩ := authorizePlan_ok hauthorize
  rw [hplan] at hfound
  cases hfound
  exact ⟨hfits, hstatus, hdigest, rfl, rfl, rfl, rfl⟩

/-- Only a plan that asks for capabilities only is decided the same way again. -/
theorem bindable_of_rebuilt {authorization : PlanAuthorizationResult}
    (hplan : report.plan = some plan) (hstatus : policy.status plan = .authorized)
    (htold : DecisionTold contentDigest plan policy result)
    (hrebuilt : authorizePlan contentDigest report
      (rebuiltPolicy plan (declaredCapabilities plan.graph)) = .ok authorization)
    (hsame : result.decisionDigest = authorization.decisionDigest) :
    declaredPermissions plan.graph = [] ∧ plan.policyRequirements = [] := by
  obtain ⟨found, decisionDigest, hfound, -, hdigest, rfl⟩ := authorizePlan_ok hrebuilt
  rw [hplan] at hfound
  cases hfound
  have hdecision : result.decisionDigest = decisionDigest := hsame
  rw [← hdecision] at hdigest
  have hpayload := htold hdigest
  apply rebuiltPolicy_authorized.mp
  rw [status_of_decisionPayload hpayload, hstatus]

theorem requested_once (htask : task ∈ spec.tasks) {requested : Option String}
    (h : requestedTaskCapability contentDigest spec task.id = .ok requested) :
    tasksNamed spec.tasks task.id = [task] := by
  have hmem := mem_tasksNamed htask
  unfold requestedTaskCapability at h
  split at h
  · rename_i hnone
    simp [hnone] at hmem
  · rename_i only honly
    rw [honly, List.mem_singleton] at hmem
    rw [honly, hmem]
  · cases h

theorem specTask_of_once
    (hworkflow : spec.workflows.find? (fun item => item.id = report.workflowId) = some workflow)
    (honce : tasksNamed workflow.tasks task.id = [task]) :
    specTask spec report.workflowId task.id = .ok task := by
  simp only [specTask, hworkflow, honce]

/-- The task of an accepted call is bindable, and the call has its digests. -/
theorem bindable_of_bound {call : BindingCall}
    {payload : PlanAuthorizationEvaluatedPayload contentDigest} {found : PlannedExecution}
    (hcall : call.plannedTaskId = task.id) (hid : payload.workflowId = report.workflowId)
    (hcapabilities : Decision.texts payload.requiredCapabilities.val =
      declaredCapabilities plan.graph)
    (hworkflow : spec.workflows.find? (fun item => item.id = report.workflowId) = some workflow)
    (htask : task ∈ workflow.tasks) (hcompiled : planner.planWorkflow spec workflow = .ok plan)
    (hobject : plannedExecutionObject contentDigest task = .ok object)
    (hpermissions : declaredPermissions plan.graph = [])
    (hrequirements : plan.policyRequirements = [])
    (hbound : TaskBound spec call payload plan found) :
    Bindable contentDigest spec plan task object ∧ found = object := by
  obtain ⟨requested, hrequested, -⟩ := hbound.requested
  rw [hcall] at hrequested
  have honce := requested_once (mem_tasks_of_workflow hworkflow htask) hrequested
  have honce' := tasksNamed_of_once hworkflow htask honce
  obtain ⟨task', planned, htask', hplanned, hobject', hconfig⟩ := hbound.task
  rw [hcall, hid, specTask_of_once hworkflow honce'] at htask'
  cases htask'
  rw [hobject] at hobject'
  cases hobject'
  have hcapability := hbound.capability
  rw [hcapabilities] at hcapability
  refine ⟨⟨hpermissions, hrequirements, honce, hcapability, ?_⟩, rfl⟩
  unfold plannedConfigDigest at hconfig
  split_ifs at hconfig with hnative
  · exact Or.inl hnative
  · obtain ⟨planned', hplanned', hdigest⟩ := plannedTask_of_once hcompiled honce'
    rw [hcall, hplanned'] at hplanned
    cases hplanned
    right
    rw [Except.ok.inj hconfig]
    exact hdigest

/-- A bindable task is bound by the call that has its digests. -/
theorem bound_of_bindable {call : BindingCall}
    {payload : PlanAuthorizationEvaluatedPayload contentDigest}
    (hcall : call.plannedTaskId = task.id) (hid : payload.workflowId = report.workflowId)
    (hcapabilities : Decision.texts payload.requiredCapabilities.val =
      declaredCapabilities plan.graph)
    (hworkflow : spec.workflows.find? (fun item => item.id = report.workflowId) = some workflow)
    (htask : task ∈ workflow.tasks) (hcompiled : planner.planWorkflow spec workflow = .ok plan)
    (hobject : plannedExecutionObject contentDigest task = .ok object)
    (himage : object.imageDigest = call.imageDigest)
    (hconfig : object.configDigest = call.configDigest)
    (hbindable : Bindable contentDigest spec plan task object) :
    TaskBound spec call payload plan object := by
  have honce := tasksNamed_of_once hworkflow htask hbindable.once
  obtain ⟨planned, hplanned, hdigest⟩ := plannedTask_of_once hcompiled honce
  have hcapability : object.capability ∈ Decision.texts payload.requiredCapabilities.val := by
    rw [hcapabilities]
    exact hbindable.capability
  refine ⟨⟨some object.capability, ?_, by simpa using hcapability⟩,
    ⟨task, planned, ?_, ?_, hobject, ?_⟩, hcapability, himage, hconfig⟩
  · rw [hcall, requestedTaskCapability, hbindable.once]
    simp only [hobject, bind, Except.bind]
  · rw [hcall, hid]
    exact specTask_of_once hworkflow honce
  · rw [hcall]
    exact hplanned
  · unfold plannedConfigDigest
    split_ifs with hnative
    · rw [raisingDigest, hdigest]
    · obtain hkind | hsame := hbindable.config
      · exact absurd hkind hnative
      · rw [hdigest] at hsame
        rw [Option.some.inj hsame]

/-- A call that cites a recorded decision is accepted exactly with the digests of the planned task,
and only for a bindable one. -/
theorem citing_accepted_iff (hreport : planner.dryRun spec workflowId = .ok report)
    (hplan : report.plan = some plan)
    (hrecorded : RecordedDecision contentDigest log report policy result stored)
    (hstatus : result.status = .authorized)
    (hworkflow : spec.workflows.find? (fun item => item.id = report.workflowId) = some workflow)
    (htask : task ∈ workflow.tasks)
    (hobject : plannedExecutionObject contentDigest task = .ok object)
    (htold : DecisionTold contentDigest plan policy result)
    (hnamed : named = none ∨ named = some report.workflowId) :
    (∃ payload, requireAuthorizedExecutionBinding planner (log ++ stored :: later) spec
      (citing spec stored task named image config) = .ok payload) ↔
        Bindable contentDigest spec plan task object ∧
          image = object.imageDigest ∧ config = object.configDigest := by
  obtain ⟨hfits, hpolicy, hdigest, hrequired, hspec, hregistry, hplanDigest⟩ :=
    result_of_authorized hplan hrecorded.authorize hstatus
  obtain ⟨workflow', hworkflow', hcompiled, hproject, hrevision⟩ := dryRun_plan hreport hplan
  rw [hworkflow] at hworkflow'
  cases hworkflow'
  obtain ⟨recorded, hvalid, hstates⟩ := hrecorded.payload
  have hcapabilities := hstates.requiredCapabilities.trans hrequired
  constructor
  · rintro ⟨payload, h⟩
    obtain ⟨stored', report', plan', object', haccepted⟩ :=
      requireAuthorizedExecutionBinding_ok.mp h
    have hfound := haccepted.cited.found
    rw [citing, getEvent_recorded hrecorded.fresh] at hfound
    cases hfound
    have hpayload := haccepted.cited.valid
    rw [hvalid] at hpayload
    cases hpayload
    have hrebuilt := haccepted.rebuilt
    have hdry := hrebuilt.dryRun
    rw [hstates.workflowId, dryRun_again hreport] at hdry
    cases hdry
    have hready := hrebuilt.ready
    rw [hplan] at hready
    cases hready
    obtain ⟨authorization, hauthorization, hsame⟩ := hrebuilt.decision
    rw [hcapabilities] at hauthorization
    obtain ⟨hpermissions, hrequirements⟩ := bindable_of_rebuilt hplan hpolicy htold hauthorization
      (hstates.decisionDigest.symm.trans hsame)
    obtain ⟨hbindable, rfl⟩ := bindable_of_bound rfl hstates.workflowId hcapabilities hworkflow htask
      hcompiled hobject hpermissions hrequirements haccepted.bound
    exact ⟨hbindable, haccepted.bound.imageDigest.symm, haccepted.bound.configDigest.symm⟩
  · rintro ⟨hbindable, rfl, rfl⟩
    have hpayload := rebuiltPolicy_payload hpolicy hbindable.permissions hbindable.requirements
    obtain ⟨hvalidate, hfit⟩ := rebuiltPolicy_accepted hfits hpolicy
    have hauthorization : authorizePlan contentDigest report
        (rebuiltPolicy plan (Decision.texts recorded.requiredCapabilities.val)) =
          .ok ((rebuiltPolicy plan (declaredCapabilities plan.graph)).result plan
            result.decisionDigest) := by
      rw [hcapabilities, authorizePlan, hplan]
      simp only [hvalidate, hfit, hpayload, hdigest, bind, Except.bind]
    have hevent : Cited (log ++ stored :: later) spec.projectId.val stored.id.val
        (sequenceText stored.sequence) recorded stored := by
      refine ⟨getEvent_recorded hrecorded.fresh, rfl, hrecorded.type, hvalid, hrecorded.human,
        ?_, ?_, ⟨object.capability, ?_, ?_⟩⟩
      · rw [hstates.authorized, PlanAuthorizationResult.authorized, hstatus]
        rfl
      · rw [hrecorded.projectId, hproject]
      · exact capability_of_object hobject
      · rw [hcapabilities]
        exact hbindable.capability
    refine ⟨recorded, requireAuthorizedExecutionBinding_ok.mpr ⟨stored, report, plan, object,
      hevent, ?_, ?_, rfl, rfl, ⟨?_, hplan, ?_, ?_, ?_, ⟨_, hauthorization, ?_⟩, ?_⟩, ?_, ?_,
      bound_of_bindable rfl hstates.workflowId hcapabilities hworkflow htask hcompiled hobject rfl rfl
        hbindable⟩⟩
    · obtain rfl | rfl := hnamed
      · rfl
      · rw [hstates.workflowId]
        rfl
    · rw [hrecorded.revision, hrevision]
      rfl
    · rw [hstates.workflowId]
      exact dryRun_again hreport
    · rw [hstates.specDigest, hspec]
    · rw [hstates.registryDigest, hregistry]
    · rw [hstates.planDigest, hplanDigest]
    · exact hstates.decisionDigest
    · exact hstates.workflowId.symm
    · rw [hproject]
      rfl
    · rw [hrevision]
      rfl

end Bindable

end ResearchOs.Workers
