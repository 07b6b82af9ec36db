import ResearchOs.Authorization.Decisive
import ResearchOs.Planning.DryRun
import ResearchOs.Planning.Requirements

/-! A ready plan as authorization reads it, and the documents on its decisions. -/
namespace ResearchOs.Planning

open Authorization (isRequirementId)
open Blocks (BlockRegistry)
open SortBy Walk
open Spec (Identifier LoopBlock ResearchSpec ResourceSpec WorkflowGraph WorkflowNode)

mutual

def PlannedNode.authorizable : PlannedNode → Authorization.PlanNode
  | .task planned => .task {
      nodePath := planned.nodePath.map Subtype.val
      configDigest := planned.configDigest
      declaredCapabilities := planned.declaredCapabilities.map Subtype.val
      declaredPermissions := planned.declaredPermissions.map Subtype.val }
  | .approval _ => .approval
  | .loop _ body => .loop body.authorizable

def nodesAuthorizable : List PlannedNode → List Authorization.PlanNode
  | [] => []
  | node :: nodes => node.authorizable :: nodesAuthorizable nodes

def PlanStage.authorizable : PlanStage → List Authorization.PlanNode
  | .mk _ nodes => nodesAuthorizable nodes

def stagesAuthorizable : List PlanStage → List (List Authorization.PlanNode)
  | [] => []
  | stage :: stages => stage.authorizable :: stagesAuthorizable stages

def PlannedGraph.authorizable : PlannedGraph → Authorization.PlannedGraph
  | .mk stages _ => stagesAuthorizable stages

end

def ReadyReport.authorizable (report : ReadyReport) : Authorization.CompiledPlan where
  specDigest := report.compiled.plan.specDigest
  registryDigest := report.compiled.plan.registryDigest
  planDigest := report.planDigest
  policyRequirements := report.compiled.plan.policyRequirements.map PolicyRequirement.id
  graph := report.compiled.plan.graph.authorizable

/-! Permissions are identifiers. -/

/-- The permissions of a task are identifiers. -/
def Permitted (task : Authorization.PlannedTask) : Prop :=
  ∀ value ∈ task.declaredPermissions, isEventIdentifier value = true

mutual

theorem PlannedNode.permitted : ∀ node : PlannedNode, ∀ task ∈ node.authorizable.tasks, Permitted task
  | .task planned, task, h => by
    obtain rfl := List.mem_singleton.mp h
    intro value hvalue
    obtain ⟨id, -, rfl⟩ := List.mem_map.mp hvalue
    exact id.property
  | .approval _, task, h => absurd h List.not_mem_nil
  | .loop _ body, task, h => body.permitted task h

theorem permitted_nodes : ∀ nodes : List PlannedNode,
    ∀ task ∈ Authorization.stageTasks (nodesAuthorizable nodes), Permitted task
  | [], task, h => absurd h List.not_mem_nil
  | node :: nodes, task, h => by
    obtain h | h := List.mem_append.mp h
    · exact node.permitted task h
    · exact permitted_nodes nodes task h

theorem PlanStage.permitted : ∀ stage : PlanStage,
    ∀ task ∈ Authorization.stageTasks stage.authorizable, Permitted task
  | .mk _ nodes, task, h => permitted_nodes nodes task h

theorem permitted_stages : ∀ stages : List PlanStage,
    ∀ task ∈ Authorization.stagesTasks (stagesAuthorizable stages), Permitted task
  | [], task, h => absurd h List.not_mem_nil
  | stage :: stages, task, h => by
    obtain h | h := List.mem_append.mp h
    · exact stage.permitted task h
    · exact permitted_stages stages task h

theorem PlannedGraph.permitted : ∀ graph : PlannedGraph,
    ∀ task ∈ Authorization.stagesTasks graph.authorizable, Permitted task
  | .mk stages _, task, h => permitted_stages stages task h

end

/-! Ids of requirements are short: a path is as long as the loops are deep. -/

variable {host : Host} {context : PlannerContext} {planBody : PlanGraph} {base path : NodePath}
  {g : WorkflowGraph} {resolved : Resolved} {id : Identifier} {state after : PlannerState}
  {node : PlannedNode} {planned : PlannedGraph} {room : ℕ} {spec : ResearchSpec}
  {registry : BlockRegistry} {limits : PlannerLimits} {workflowId : Option String}

def pathLength (path : NodePath) : ℕ := (pointerChars path).length

theorem identifier_length (id : Identifier) :
    1 ≤ id.val.toList.length ∧ id.val.toList.length ≤ 128 := by
  have hid := id.property
  unfold isEventIdentifier at hid
  split at hid
  · cases hid
  · rename_i head tail hcons
    simp only [Bool.and_eq_true, decide_eq_true_eq] at hid
    rw [hcons, List.length_cons]
    omega

theorem pathLength_append (path : NodePath) (id : Identifier) :
    pathLength (path ++ [id]) ≤ pathLength path + 129 := by
  have hid := (identifier_length id).2
  simp only [pathLength, pointerChars, List.flatMap_append, List.flatMap_cons, List.flatMap_nil,
    List.length_append, List.length_cons, List.append_nil, idKey]
  omega

theorem pathLength_body (path : NodePath) (id : Identifier) :
    pathLength (path ++ [id, bodyPart]) ≤ pathLength path + 134 := by
  have hid := (identifier_length id).2
  have hbody : bodyPart.val.toList.length = 4 := by decide
  simp only [pathLength, pointerChars, List.flatMap_append, List.flatMap_cons, List.flatMap_nil,
    List.length_append, List.length_cons, List.append_nil, idKey, hbody]
  omega

theorem isRequirementId_append {head : String} {tail : String} {n : ℕ}
    (hhead : 1 ≤ head.length ∧ head.length ≤ 14) (htail : tail.toList.length ≤ n) (hn : n ≤ 4000) :
    isRequirementId (head ++ tail) = true := by
  have hlength : (head ++ tail).length = head.length + tail.toList.length := by
    rw [String.length_append]
    rfl
  rw [isRequirementId, inRange_iff, hlength]
  omega

theorem approvalRequirement_id (h : pathLength path ≤ 4000) :
    isRequirementId (approvalRequirement path).id = true := by
  refine isRequirementId_append (by decide) ?_ h
  rw [nodePointer_toList]
  rfl

theorem paidLoopRequirement_id (h : pathLength path ≤ 4000) :
    isRequirementId (paidLoopRequirement path).id = true := by
  refine isRequirementId_append (by decide) ?_ h
  rw [nodePointer_toList]
  rfl

theorem paidResourceRequirement_id (id : Identifier) :
    isRequirementId (paidResourceRequirement id).id = true :=
  isRequirementId_append (by decide) (identifier_length id).2 (by decide)

def IdsBounded (requirements : List PolicyRequirement) : Prop :=
  ∀ requirement ∈ requirements, isRequirementId requirement.id = true

theorem IdsBounded.set {requirements : List PolicyRequirement} {requirement : PolicyRequirement}
    (h : IdsBounded requirements) (hid : isRequirementId requirement.id = true) :
    IdsBounded (setRequirement requirements requirement) := by
  intro other hother
  unfold setRequirement at hother
  split_ifs at hother
  · obtain ⟨old, hold, rfl⟩ := List.mem_map.mp hother
    split_ifs
    · exact hid
    · exact h old hold
  · obtain hold | hnew := List.mem_append.mp hother
    · exact h other hold
    · rwa [List.mem_singleton.mp hnew]

theorem planNode_ids (hbase : pathLength base + 134 ≤ 4000)
    (hbody : ∀ base' g state planned after, pathLength base' ≤ pathLength base + 134 →
      planBody base' g state = .ok (planned, after) →
        IdsBounded state.requirements → IdsBounded after.requirements)
    (h : planNode context planBody base g resolved id state = .ok (node, after))
    (hstate : IdsBounded state.requirements) : IdsBounded after.requirements := by
  obtain ⟨source, -, hplan⟩ := Fold.bind_eq_ok.mp h
  cases source with
  | task task =>
    obtain ⟨planned, -, -, -, rfl⟩ := planTask_ok hplan
    exact hstate
  | approval approval =>
    obtain ⟨planned, -, -, -, rfl⟩ := planApproval_ok hplan
    have hpath := pathLength_append base approval.id
    exact hstate.set (approvalRequirement_id (by omega))
  | loop loop nodes edges =>
    obtain ⟨planned, body, -, -, -, hbodyPlan⟩ := planLoop_ok hplan
    refine hbody _ _ _ _ _ (pathLength_body base loop.id) hbodyPlan ?_
    have hpath := pathLength_append base loop.id
    unfold enterLoop
    dsimp only
    split_ifs
    · exact hstate.set (paidLoopRequirement_id (by omega))
    · exact hstate

theorem planGraph_ids (hbase : pathLength base + 134 * room ≤ 4000)
    (h : planGraph context room base g state = .ok (planned, after))
    (hstate : IdsBounded state.requirements) : IdsBounded after.requirements := by
  induction room generalizing base g state planned after with
  | zero => cases h
  | succ room ih =>
    obtain ⟨resolved, edges, final, -, -, -, -, -, -, hwalk, rfl⟩ := planGraph_ok h
    have hwhole : IdsBounded state.requirements → IdsBounded final.requirements := by
      refine walk_induction (P := fun _ before after =>
        IdsBounded before.requirements → IdsBounded after.requirements) (fun _ hs => hs) ?_ hwalk
      intro indexed _ stage stages s u t hstage hrest hs
      obtain ⟨⟨nodes, w⟩, hnodes, hstage⟩ := Fold.bind_eq_ok.mp hstage
      obtain ⟨_, -, hstage⟩ := Fold.bind_eq_ok.mp hstage
      cases hstage
      refine hrest (walk_induction (P := fun _ before after =>
        IdsBounded before.requirements → IdsBounded after.requirements) (fun _ hs => hs) ?_ hnodes hs)
      intro id _ node nodes s u t hnode hrest hs
      refine hrest (planNode_ids (by omega) (fun base' _ _ _ _ hpath hbody hs => ?_) hnode hs)
      exact ih (by omega) hbody hs
    exact hwhole hstate

theorem IdsBounded.addResources {requirements : List PolicyRequirement}
    (h : IdsBounded requirements) (policy : Bool) (used : List ResourceSpec) :
    IdsBounded (used.foldl (addResource policy) requirements) := by
  induction used generalizing requirements with
  | nil => exact h
  | cons resource used ih =>
    refine ih ?_
    unfold addResource
    split_ifs
    · exact h.set (paidResourceRequirement_id resource.id)
    · exact h

theorem policyRequirements_ids {compiled : CompiledPlan}
    (h : compilePlan host spec registry workflowId limits = .ok compiled) :
    IdsBounded compiled.plan.policyRequirements := by
  obtain ⟨workflow, graph, after, -, hgraph, hfinish⟩ := compilePlan_ok h
  have hdepth := limits.maxLoopDepth_le
  have hbase : pathLength [workflowPart, workflow.id] ≤ 138 := by
    have hpart := pathLength_append [workflowPart] workflow.id
    have hworkflow : pathLength [workflowPart] = 9 := by decide
    rw [hworkflow] at hpart
    exact hpart
  have hids := planGraph_ids (by omega) hgraph fun _ hmem => absurd hmem List.not_mem_nil
  obtain ⟨used, -, hfinish⟩ := Fold.bind_eq_ok.mp hfinish
  obtain ⟨specDigest, -, hfinish⟩ := Fold.bind_eq_ok.mp hfinish
  obtain ⟨registryDigest, -, hfinish⟩ := Fold.bind_eq_ok.mp hfinish
  cases hfinish
  intro requirement hmem
  exact hids.addResources _ used requirement (mem_sortBy.mp hmem)

end ResearchOs.Planning
