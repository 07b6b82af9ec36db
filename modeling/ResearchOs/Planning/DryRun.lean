import Mathlib.Algebra.Group.Prod
import ResearchOs.Planning.Planner

/-! `TrustedKernel.dry_run`: a report that is ready with a plan, or blocked with a diagnostic. -/
namespace ResearchOs.Planning

open Blocks (BlockRegistry)
open SortBy
open Spec (Identifier ResearchSpec WorkflowNode WorkflowSpec)

/-- Tasks, approvals, loops and stages. -/
abbrev Counts := ℕ × ℕ × ℕ × ℕ

mutual

def PlannedNode.counts : PlannedNode → Counts
  | .task _ => (1, 0, 0, 0)
  | .approval _ => (0, 1, 0, 0)
  | .loop _ body => (0, 0, 1, 0) + body.counts

def nodesCounts : List PlannedNode → Counts
  | [] => 0
  | node :: nodes => node.counts + nodesCounts nodes

def PlanStage.counts : PlanStage → Counts
  | .mk _ nodes => (0, 0, 0, 1) + nodesCounts nodes

def stagesCounts : List PlanStage → Counts
  | [] => 0
  | stage :: stages => stage.counts + stagesCounts stages

/-- `_plan_counts` -/
def PlannedGraph.counts : PlannedGraph → Counts
  | .mk stages _ => stagesCounts stages

end

def CompiledPlan.counts (compiled : CompiledPlan) : Counts :=
  (compiled.taskCount, compiled.approvalCount, compiled.loopCount, compiled.stageCount)

mutual

/-- The nodes of a graph, each loop before its body. -/
def nodePreorder : WorkflowNode → List WorkflowNode
  | .task block => [.task block]
  | .approval block => [.approval block]
  | .loop block nodes edges => .loop block nodes edges :: preorder nodes

def preorder : List WorkflowNode → List WorkflowNode
  | [] => []
  | node :: nodes => nodePreorder node ++ preorder nodes

end

def sourceCount : WorkflowNode → Counts
  | .task _ => (1, 0, 0, 0)
  | .approval _ => (0, 1, 0, 0)
  | .loop .. => (0, 0, 1, 0)

/-- `_source_counts`, with whether there are more nodes -/
def sourceCounts (nodes : List WorkflowNode) (maxNodes : ℕ) : Counts × Bool :=
  ((((preorder nodes).take maxNodes).map sourceCount).foldr (· + ·) 0,
    decide (maxNodes < (preorder nodes).length))

structure PlanDiagnostic where
  code : String
  path : String
  message : String

structure ReadyReport where
  project : ProjectRef
  compiled : CompiledPlan
  planDigest : String

structure BlockedReport where
  project : ProjectRef
  workflowId : Identifier
  specDigest : String
  registryDigest : String
  counts : Counts
  truncated : Bool
  diagnostic : PlanDiagnostic

inductive DryRunReport where
  | ready (report : ReadyReport)
  | blocked (report : BlockedReport)

/-- The workflow that a blocked report is about. -/
def selectedWorkflow (spec : ResearchSpec) (workflowId : Option String) : Option WorkflowSpec :=
  match workflowId with
  | some workflowId => findBy (fun workflow => workflow.id.val) spec.workflows workflowId
  | none =>
    match spec.workflows with
    | [workflow] => some workflow
    | _ => none

def blockedReport (spec : ResearchSpec) (workflow : WorkflowSpec) (limits : PlannerLimits)
    (specDigest registryDigest : String) (diagnostic : PlanDiagnostic) : BlockedReport where
  project := ⟨spec.metadata.id, spec.metadata.revision⟩
  workflowId := workflow.id
  specDigest := specDigest
  registryDigest := registryDigest
  counts := (sourceCounts workflow.graph.nodes limits.maxNodes).1
  truncated := (sourceCounts workflow.graph.nodes limits.maxNodes).2
  diagnostic := diagnostic

/-- The report on a plan, whose summary has to be that of the plan. -/
def readyReport (host : Host) (compiled : CompiledPlan) : Except PlanningFailure ReadyReport := do
  let planDigest ← raising (Jcs.contentDigest host.floatText compiled.plan.semanticDump)
  requirePlanned (compiled.counts = compiled.plan.graph.counts)
    (.raised "ready report summary does not match the embedded plan")
  .ok ⟨compiled.plan.project, compiled, planDigest⟩

/-- What `dry_run` does with the plan, or with the error that planning raises. -/
def reportOn (host : Host) (limits : PlannerLimits) (spec : ResearchSpec)
    (workflowId : Option String) (specDigest registryDigest : String) :
    Except PlanningFailure CompiledPlan → Except PlanningFailure DryRunReport
  | .ok compiled => do
    let report ← readyReport host compiled
    .ok (.ready report)
  | .error (.blocked code path message) =>
    match selectedWorkflow spec workflowId with
    | none => .error (.raised "PlanningBlocked without a resolved workflow")
    | some workflow => .ok (.blocked
        (blockedReport spec workflow limits specDigest registryDigest ⟨code, path, message⟩))
  | .error failure => .error failure

/-- `dry_run`, on a spec that is its own snapshot -/
def dryRun (host : Host) (registry : BlockRegistry) (limits : PlannerLimits) (spec : ResearchSpec)
    (workflowId : Option String) : Except PlanningFailure DryRunReport := do
  let specDigest ← raising (Jcs.contentDigest host.floatText (spec.dump false))
  let registryDigest ← raising (registry.digest host.floatText)
  reportOn host limits spec workflowId specDigest registryDigest
    (compilePlan host spec registry workflowId limits)

end ResearchOs.Planning
