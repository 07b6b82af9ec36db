import ResearchOs.Authorization.Plan

/-! When a policy authorizes a plan, and how its verdict grows with its grants. -/
namespace ResearchOs.Authorization

/-- A task of a graph, at any depth of loops. -/
inductive TaskIn (task : PlannedTask) : PlannedGraph → Prop
  | here {graph : PlannedGraph} {stage : List PlanNode} (hstage : stage ∈ graph)
      (h : .task task ∈ stage) : TaskIn task graph
  | body {graph body : PlannedGraph} {stage : List PlanNode} (hstage : stage ∈ graph)
      (hloop : .loop body ∈ stage) (h : TaskIn task body) : TaskIn task graph

variable {task : PlannedTask} {value : String}

/-- The task is the node, or in the body of the loop that the node is. -/
def TaskOf (task : PlannedTask) (node : PlanNode) : Prop :=
  node = .task task ∨ ∃ body, node = .loop body ∧ TaskIn task body

theorem taskIn_iff {graph : PlannedGraph} :
    TaskIn task graph ↔ ∃ stage ∈ graph, ∃ node ∈ stage, TaskOf task node := by
  constructor
  · intro h
    cases h with
    | here hstage h => exact ⟨_, hstage, _, h, .inl rfl⟩
    | body hstage hloop h => exact ⟨_, hstage, _, hloop, .inr ⟨_, rfl, h⟩⟩
  · rintro ⟨stage, hstage, node, hnode, rfl | ⟨body, rfl, h⟩⟩
    · exact .here hstage hnode
    · exact .body hstage hnode h

mutual

theorem PlanNode.mem_tasks : ∀ node : PlanNode, task ∈ node.tasks ↔ TaskOf task node
  | .task other => by
    simp only [PlanNode.tasks, List.mem_singleton, TaskOf, PlanNode.task.injEq, reduceCtorEq,
      false_and, exists_false, or_false]
    exact eq_comm
  | .approval => by simp [PlanNode.tasks, TaskOf]
  | .loop body => by
    rw [PlanNode.tasks, mem_stagesTasks body]
    constructor
    · intro h
      exact .inr ⟨body, rfl, h⟩
    · rintro (h | ⟨_, h, hin⟩)
      · cases h
      · cases h
        exact hin

/-- The walk over the stages finds the tasks at every depth. -/
theorem mem_stagesTasks : ∀ graph : List (List PlanNode),
    task ∈ stagesTasks graph ↔ TaskIn task graph
  | [] => by simp [stagesTasks, taskIn_iff]
  | stage :: stages => by
    rw [stagesTasks, List.mem_append, mem_stageTasks stage, mem_stagesTasks stages, taskIn_iff,
      taskIn_iff, List.exists_mem_cons_iff]

theorem mem_stageTasks : ∀ stage : List PlanNode,
    task ∈ stageTasks stage ↔ ∃ node ∈ stage, TaskOf task node
  | [] => by simp [stageTasks]
  | node :: nodes => by
    rw [stageTasks, List.mem_append, PlanNode.mem_tasks node, mem_stageTasks nodes,
      List.exists_mem_cons_iff]

end

theorem mem_declaredCapabilities {graph : PlannedGraph} :
    value ∈ declaredCapabilities graph ↔
      ∃ task, TaskIn task graph ∧ value ∈ task.declaredCapabilities := by
  rw [declaredCapabilities, mem_sortedSet, List.mem_flatMap]
  exact exists_congr fun task => and_congr_left fun _ => mem_stagesTasks graph

theorem mem_declaredPermissions {graph : PlannedGraph} :
    value ∈ declaredPermissions graph ↔
      ∃ task, TaskIn task graph ∧ value ∈ task.declaredPermissions := by
  rw [declaredPermissions, mem_sortedSet, List.mem_flatMap]
  exact exists_congr fun task => and_congr_left fun _ => mem_stagesTasks graph

/-! Checks either pass or reject. -/

/-- The check does not raise. -/
def Rejects (check : Except PlanAuthorizationError Unit) : Prop :=
  check = .ok () ∨ ∃ message, check = .error (.rejected message)

theorem rejects_requirePlan (condition : Prop) [Decidable condition] (message : String) :
    Rejects (requirePlan condition message) := by
  by_cases h : condition
  · exact .inl (if_pos h)
  · exact .inr ⟨message, if_neg h⟩

theorem Rejects.bind {check : Except PlanAuthorizationError Unit}
    {next : Unit → Except PlanAuthorizationError Unit} (h : Rejects check)
    (hnext : Rejects (next ())) : Rejects (check >>= next) := by
  obtain rfl | ⟨message, rfl⟩ := h
  · exact hnext
  · exact .inr ⟨message, rfl⟩

theorem rejects_validatedUniqueIdentifiers (values : List String) (label : String) :
    Rejects (validatedUniqueIdentifiers values label) :=
  (rejects_requirePlan _ _).bind (rejects_requirePlan _ _)

theorem rejects_validatedDecisions (values : List RequirementDecision) (seen : List String) :
    Rejects (validatedDecisions values seen) := by
  induction values generalizing seen with
  | nil => exact .inl rfl
  | cons value values ih =>
    exact (rejects_requirePlan _ _).bind ((rejects_requirePlan _ _).bind (ih _))

/-- No two of the decisions are on one requirement. -/
theorem validatedDecisions_ok {values : List RequirementDecision} {seen : List String}
    (h : validatedDecisions values seen = .ok ()) :
    (values.map RequirementDecision.requirementId).Nodup ∧
      ∀ value ∈ values, value.requirementId ∉ seen := by
  induction values generalizing seen with
  | nil => simp
  | cons value values ih =>
    obtain ⟨_, -, h⟩ := Fold.bind_eq_ok.mp h
    obtain ⟨_, hnew, h⟩ := Fold.bind_eq_ok.mp h
    rw [requirePlan_ok] at hnew
    obtain ⟨hnodup, hrest⟩ := ih h
    rw [List.map_cons, List.nodup_cons]
    refine ⟨⟨fun hmem => ?_, hnodup⟩, fun other hother => ?_⟩
    · obtain ⟨other, hother, hsame⟩ := List.mem_map.mp hmem
      exact hrest other hother (hsame ▸ List.mem_cons_self)
    · obtain rfl | hother := List.mem_cons.mp hother
      · exact hnew
      · exact fun hseen => hrest other hother (List.mem_cons_of_mem _ hseen)

namespace PlanAuthorizationStatus

/-- Denied comes before pending, and pending before authorized. -/
def rank : PlanAuthorizationStatus → ℕ
  | denied => 0
  | pending => 1
  | authorized => 2

end PlanAuthorizationStatus

namespace PlanAuthorizationPolicy

variable {policy extended : PlanAuthorizationPolicy} {plan : CompiledPlan} {requirementId : String}
  {decision : RequirementDecisionValue}

theorem rejects_validate (policy : PlanAuthorizationPolicy) : Rejects policy.validate :=
  (rejects_requirePlan _ _).bind ((rejects_validatedUniqueIdentifiers _ _).bind
    ((rejects_validatedUniqueIdentifiers _ _).bind (rejects_validatedDecisions _ _)))

theorem rejects_fit (policy : PlanAuthorizationPolicy) (plan : CompiledPlan) :
    Rejects (policy.fit plan) :=
  (rejects_requirePlan _ _).bind ((rejects_requirePlan _ _).bind ((rejects_requirePlan _ _).bind
    ((rejects_requirePlan _ _).bind ((rejects_requirePlan _ _).bind (rejects_requirePlan _ _)))))

/-- The grants and decisions of the policy name what the plan contains. -/
structure Known (policy : PlanAuthorizationPolicy) (plan : CompiledPlan) : Prop where
  capabilities : ∀ value ∈ policy.grantedCapabilities,
    ∃ task, TaskIn task plan.graph ∧ value ∈ task.declaredCapabilities
  permissions : ∀ value ∈ policy.grantedPermissions,
    ∃ task, TaskIn task plan.graph ∧ value ∈ task.declaredPermissions
  decisions : ∀ value ∈ policy.requirementDecisions, value.requirementId ∈ plan.policyRequirements

theorem known_of_fit (h : policy.fit plan = .ok ()) : policy.Known plan := by
  obtain ⟨_, -, h⟩ := Fold.bind_eq_ok.mp h
  obtain ⟨_, -, h⟩ := Fold.bind_eq_ok.mp h
  obtain ⟨_, -, h⟩ := Fold.bind_eq_ok.mp h
  obtain ⟨_, hcapabilities, h⟩ := Fold.bind_eq_ok.mp h
  obtain ⟨_, hpermissions, h⟩ := Fold.bind_eq_ok.mp h
  rw [requirePlan_ok, List.all_eq_true] at hcapabilities hpermissions h
  simp only [List.contains_iff_mem] at hcapabilities hpermissions h
  exact ⟨fun value hvalue => mem_declaredCapabilities.mp (hcapabilities value hvalue),
    fun value hvalue => mem_declaredPermissions.mp (hpermissions value hvalue), h⟩

theorem decisions_nodup (h : policy.validate = .ok ()) :
    (policy.requirementDecisions.map RequirementDecision.requirementId).Nodup := by
  obtain ⟨_, -, h⟩ := Fold.bind_eq_ok.mp h
  obtain ⟨_, -, h⟩ := Fold.bind_eq_ok.mp h
  obtain ⟨_, -, h⟩ := Fold.bind_eq_ok.mp h
  exact (validatedDecisions_ok h).1

theorem mem_of_decision (h : policy.decision requirementId = some decision) :
    ⟨requirementId, decision⟩ ∈ policy.requirementDecisions := by
  obtain ⟨value, hfound, rfl⟩ := Option.map_eq_some_iff.mp h
  have hid := List.find?_some hfound
  obtain rfl : value.requirementId = requirementId := by simpa using hid
  exact List.mem_of_find?_eq_some hfound

/-- A requirement has the one decision that is made on it. -/
theorem decision_eq_some_iff
    (hnodup : (policy.requirementDecisions.map RequirementDecision.requirementId).Nodup) :
    policy.decision requirementId = some decision ↔
      ⟨requirementId, decision⟩ ∈ policy.requirementDecisions := by
  refine ⟨mem_of_decision, fun h => ?_⟩
  cases hfound : policy.decision requirementId with
  | none =>
    have hnone := List.find?_eq_none.mp (Option.map_eq_none_iff.mp hfound) _ h
    simp at hnone
  | some other =>
    have hsame := List.inj_on_of_nodup_map hnodup (mem_of_decision hfound) h rfl
    cases hsame
    rfl

/-- All the grants and approvals that the plan asks for. -/
structure Satisfies (policy : PlanAuthorizationPolicy) (plan : CompiledPlan) : Prop where
  capabilities : ∀ task, TaskIn task plan.graph →
    ∀ value ∈ task.declaredCapabilities, value ∈ policy.grantedCapabilities
  permissions : ∀ task, TaskIn task plan.graph →
    ∀ value ∈ task.declaredPermissions, value ∈ policy.grantedPermissions
  requirements : ∀ requirementId ∈ plan.policyRequirements,
    ⟨requirementId, .approved⟩ ∈ policy.requirementDecisions

theorem missingCapabilities_eq_nil : policy.missingCapabilities plan = [] ↔
    ∀ task, TaskIn task plan.graph →
      ∀ value ∈ task.declaredCapabilities, value ∈ policy.grantedCapabilities := by
  simp only [missingCapabilities, List.filter_eq_nil_iff, decide_eq_true_eq, not_not,
    mem_declaredCapabilities]
  constructor
  · intro h task htask value hvalue
    exact h value ⟨task, htask, hvalue⟩
  · rintro h value ⟨task, htask, hvalue⟩
    exact h task htask value hvalue

theorem missingPermissions_eq_nil : policy.missingPermissions plan = [] ↔
    ∀ task, TaskIn task plan.graph →
      ∀ value ∈ task.declaredPermissions, value ∈ policy.grantedPermissions := by
  simp only [missingPermissions, List.filter_eq_nil_iff, decide_eq_true_eq, not_not,
    mem_declaredPermissions]
  constructor
  · intro h task htask value hvalue
    exact h value ⟨task, htask, hvalue⟩
  · rintro h value ⟨task, htask, hvalue⟩
    exact h task htask value hvalue

theorem requirementsWith_eq_nil {decision : Option RequirementDecisionValue} :
    policy.requirementsWith plan decision = [] ↔
      ∀ requirementId ∈ plan.policyRequirements, policy.decision requirementId ≠ decision := by
  have hperm : (sortTexts plan.policyRequirements).Perm plan.policyRequirements :=
    List.mergeSort_perm _ _
  simp only [requirementsWith, List.filter_eq_nil_iff, decide_eq_true_eq, hperm.mem_iff]

/-- Every requirement is approved when none is denied and none is pending. -/
theorem approved_iff
    (hnodup : (policy.requirementDecisions.map RequirementDecision.requirementId).Nodup) :
    (policy.requirementsWith plan (some .denied) = [] ∧ policy.requirementsWith plan none = []) ↔
      ∀ requirementId ∈ plan.policyRequirements,
        ⟨requirementId, .approved⟩ ∈ policy.requirementDecisions := by
  rw [requirementsWith_eq_nil, requirementsWith_eq_nil]
  constructor
  · rintro ⟨hdenied, hpending⟩ requirementId hmem
    rw [← decision_eq_some_iff hnodup]
    cases hdecision : policy.decision requirementId with
    | none => exact absurd hdecision (hpending requirementId hmem)
    | some decision =>
      cases decision with
      | approved => rfl
      | denied => exact absurd hdecision (hdenied requirementId hmem)
  · intro h
    constructor
    · intro requirementId hmem hdenied
      rw [(decision_eq_some_iff hnodup).mpr (h requirementId hmem)] at hdenied
      cases hdenied
    · intro requirementId hmem hnone
      rw [(decision_eq_some_iff hnodup).mpr (h requirementId hmem)] at hnone
      cases hnone

theorem authorized_iff_satisfies (h : policy.validate = .ok ()) :
    policy.status plan = .authorized ↔ policy.Satisfies plan := by
  rw [status_eq_authorized, missingCapabilities_eq_nil, missingPermissions_eq_nil,
    approved_iff (decisions_nodup h)]
  exact ⟨fun ⟨hcapabilities, hpermissions, hrequirements⟩ =>
      ⟨hcapabilities, hpermissions, hrequirements⟩,
    fun h => ⟨h.capabilities, h.permissions, h.requirements⟩⟩

/-- The policy with more grants, and with approvals of what it left undecided. -/
structure ExtendedBy (policy extended : PlanAuthorizationPolicy) : Prop where
  capabilities : policy.grantedCapabilities ⊆ extended.grantedCapabilities
  permissions : policy.grantedPermissions ⊆ extended.grantedPermissions
  decisions : policy.requirementDecisions ⊆ extended.requirementDecisions
  approvals : ∀ value ∈ extended.requirementDecisions,
    value ∈ policy.requirementDecisions ∨ value.decision = .approved

theorem ExtendedBy.denied (h : policy.ExtendedBy extended) (hpolicy : policy.validate = .ok ())
    (hdenied : policy.requirementsWith plan (some .denied) = []) :
    extended.requirementsWith plan (some .denied) = [] := by
  rw [requirementsWith_eq_nil] at hdenied ⊢
  intro requirementId hmem hdecision
  obtain hbefore | happroved := h.approvals _ (mem_of_decision hdecision)
  · exact hdenied requirementId hmem
      ((decision_eq_some_iff (decisions_nodup hpolicy)).mpr hbefore)
  · cases happroved

theorem ExtendedBy.pending (h : policy.ExtendedBy extended) (hextended : extended.validate = .ok ())
    (hpending : policy.requirementsWith plan none = []) :
    extended.requirementsWith plan none = [] := by
  rw [requirementsWith_eq_nil] at hpending ⊢
  intro requirementId hmem hnone
  cases hdecision : policy.decision requirementId with
  | none => exact hpending requirementId hmem hdecision
  | some decision =>
    have hin := h.decisions (mem_of_decision hdecision)
    rw [(decision_eq_some_iff (decisions_nodup hextended)).mpr hin] at hnone
    cases hnone

theorem ExtendedBy.rank_le (h : policy.ExtendedBy extended) (hpolicy : policy.validate = .ok ())
    (hextended : extended.validate = .ok ()) :
    (policy.status plan).rank ≤ (extended.status plan).rank := by
  by_cases hbad : policy.missingCapabilities plan ≠ [] ∨ policy.missingPermissions plan ≠ [] ∨
      policy.requirementsWith plan (some .denied) ≠ []
  · rw [status, if_pos hbad]
    exact Nat.zero_le _
  have hgood : ¬ (extended.missingCapabilities plan ≠ [] ∨ extended.missingPermissions plan ≠ [] ∨
      extended.requirementsWith plan (some .denied) ≠ []) := by
    simp only [not_or, not_not] at hbad ⊢
    obtain ⟨hcapabilities, hpermissions, hdenied⟩ := hbad
    rw [missingCapabilities_eq_nil] at hcapabilities ⊢
    rw [missingPermissions_eq_nil] at hpermissions ⊢
    exact ⟨fun task htask value hvalue => h.capabilities (hcapabilities task htask value hvalue),
      fun task htask value hvalue => h.permissions (hpermissions task htask value hvalue),
      h.denied hpolicy hdenied⟩
  rw [status, if_neg hbad, status, if_neg hgood]
  by_cases hpending : policy.requirementsWith plan none = []
  · rw [if_neg (not_not.mpr hpending), if_neg (not_not.mpr (h.pending hextended hpending))]
  · rw [if_pos hpending]
    split_ifs <;> decide

end PlanAuthorizationPolicy

/-- A policy that does not pass the checks is rejected. -/
theorem authorizePlan_rejected {contentDigest : Json → Option String} {report : DryRunReport}
    {policy : PlanAuthorizationPolicy} {plan : CompiledPlan} (hplan : report.plan = some plan)
    (h : ¬ (policy.validate = .ok () ∧ policy.fit plan = .ok ())) :
    ∃ message, authorizePlan contentDigest report policy = .error (.rejected message) := by
  simp only [authorizePlan, hplan]
  obtain hvalid | ⟨message, hvalid⟩ := policy.rejects_validate
  · obtain hfit | ⟨message, hfit⟩ := policy.rejects_fit plan
    · exact absurd ⟨hvalid, hfit⟩ h
    · exact ⟨message, by rw [hvalid, hfit]; rfl⟩
  · exact ⟨message, by rw [hvalid]; rfl⟩

theorem checks_of_authorizePlan_ok {contentDigest : Json → Option String} {report : DryRunReport}
    {policy : PlanAuthorizationPolicy} {plan : CompiledPlan} {result : PlanAuthorizationResult}
    (hplan : report.plan = some plan) (h : authorizePlan contentDigest report policy = .ok result) :
    policy.validate = .ok () ∧ policy.fit plan = .ok () ∧ result.status = policy.status plan := by
  simp only [authorizePlan, hplan] at h
  obtain ⟨_, hvalidate, h⟩ := Fold.bind_eq_ok.mp h
  obtain ⟨_, hfit, h⟩ := Fold.bind_eq_ok.mp h
  split at h
  · cases h
  · cases h
    exact ⟨hvalidate, hfit, rfl⟩

/-- Authorization is for exactly the policies that grant and approve all that a ready plan asks
for, no grant or approval lowers the verdict, and none may name anything else. -/
theorem authorizePlan_verdict {contentDigest : Json → Option String} {report : DryRunReport}
    {plan : CompiledPlan} (hplan : report.plan = some plan) :
    (∀ policy result, authorizePlan contentDigest report policy = .ok result →
      (result.status = .authorized ↔ policy.Satisfies plan)) ∧
    (∀ policy extended result better, policy.ExtendedBy extended →
      authorizePlan contentDigest report policy = .ok result →
      authorizePlan contentDigest report extended = .ok better →
      result.status.rank ≤ better.status.rank) ∧
    ∀ policy : PlanAuthorizationPolicy, ¬ policy.Known plan →
      ∃ message, authorizePlan contentDigest report policy = .error (.rejected message) := by
  refine ⟨fun policy result h => ?_, fun policy extended result better hextends h hbetter => ?_,
    fun policy hunknown => ?_⟩
  · obtain ⟨hvalidate, -, hstatus⟩ := checks_of_authorizePlan_ok hplan h
    rw [hstatus]
    exact PlanAuthorizationPolicy.authorized_iff_satisfies hvalidate
  · obtain ⟨hvalidate, -, hstatus⟩ := checks_of_authorizePlan_ok hplan h
    obtain ⟨hbetterValidate, -, hbetterStatus⟩ := checks_of_authorizePlan_ok hplan hbetter
    rw [hstatus, hbetterStatus]
    exact hextends.rank_le hvalidate hbetterValidate
  · exact authorizePlan_rejected hplan fun h =>
      hunknown (PlanAuthorizationPolicy.known_of_fit h.2)

/-! A task in a loop, next to an approval. -/

def zeroDigest : String := "jcs-sha256:0000000000000000000000000000000000000000000000000000000000000000"

def loopTask : PlannedTask where
  nodePath := ["workflow", "main", "search", "body", "train"]
  configDigest := zeroDigest
  declaredCapabilities := ["train.simulated"]
  declaredPermissions := ["records.write"]

def gatedPlan : CompiledPlan where
  specDigest := zeroDigest
  registryDigest := zeroDigest
  planDigest := zeroDigest
  policyRequirements := ["approval:/workflow/main/gate"]
  graph := [[.approval], [.loop [[.task loopTask]]]]

def gatedReport : DryRunReport where
  projectId := ⟨"project", by decide⟩
  revision := ⟨1, by decide⟩
  workflowId := ⟨"main", by decide⟩
  plan := some gatedPlan

def fullPolicy : PlanAuthorizationPolicy where
  specDigest := zeroDigest
  registryDigest := zeroDigest
  planDigest := zeroDigest
  grantedCapabilities := ["train.simulated"]
  grantedPermissions := ["records.write"]
  requirementDecisions := [⟨"approval:/workflow/main/gate", .approved⟩]

theorem declaredCapabilities_gated : declaredCapabilities gatedPlan.graph = ["train.simulated"] := by
  simp [declaredCapabilities, gatedPlan, stagesTasks, stageTasks, PlanNode.tasks, loopTask, sortedSet,
    sortTexts]

theorem declaredPermissions_gated : declaredPermissions gatedPlan.graph = ["records.write"] := by
  simp [declaredPermissions, gatedPlan, stagesTasks, stageTasks, PlanNode.tasks, loopTask, sortedSet,
    sortTexts]

theorem fullPolicy_fits : fullPolicy.fit gatedPlan = .ok () := by
  rw [PlanAuthorizationPolicy.fit, declaredCapabilities_gated, declaredPermissions_gated]
  decide

theorem fullPolicy_satisfies : fullPolicy.Satisfies gatedPlan := by
  have honly : ∀ task, TaskIn task gatedPlan.graph → task = loopTask := by
    intro task h
    rw [← mem_stagesTasks] at h
    simpa [gatedPlan, stagesTasks, stageTasks, PlanNode.tasks] using h
  refine ⟨fun task htask value hvalue => ?_, fun task htask value hvalue => ?_, ?_⟩
  · rw [honly task htask] at hvalue
    exact hvalue
  · rw [honly task htask] at hvalue
    exact hvalue
  · simp [gatedPlan, fullPolicy]

theorem authorizePlan_verdict_gated : ∃ result,
    authorizePlan (fun _ => some zeroDigest) gatedReport fullPolicy = .ok result ∧
      result.status = .authorized := by
  have hvalidate : fullPolicy.validate = .ok () := by decide
  have hok : authorizePlan (fun _ => some zeroDigest) gatedReport fullPolicy =
      .ok (fullPolicy.result gatedPlan zeroDigest) := by
    simp [authorizePlan, gatedReport, hvalidate, fullPolicy_fits, bind, Except.bind]
  have hplan : gatedReport.plan = some gatedPlan := rfl
  exact ⟨_, hok, ((authorizePlan_verdict hplan).1 _ _ hok).mpr fullPolicy_satisfies⟩

end ResearchOs.Authorization
