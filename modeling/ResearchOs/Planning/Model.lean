import ResearchOs.Blocks.Registry
import ResearchOs.Core.Spec.Dump

/-! The inert plan of one workflow. -/
namespace ResearchOs.Planning

open Blocks (RuntimeType)
open Spec (CurrencyCode Identifier NonEmptyText NonNegativeMoney PositiveInt ResourceSpec
  SemanticVersion optional positive scalar scalars)

/-! Paths. -/

abbrev NodePath := List Identifier

/-- `part.replace("~", "~0").replace("/", "~1")` -/
def escapePart (part : String) : List Char :=
  part.toList.flatMap fun c =>
    if c = '~' then ['~', '0'] else if c = '/' then ['~', '1'] else [c]

/-- `_pointer`, of at least one part -/
def pointer (parts : List String) : String :=
  String.ofList (parts.flatMap fun part => '/' :: escapePart part)

def nodePointer (path : NodePath) : String := pointer (path.map Subtype.val)

def workflowPart : Identifier := ⟨"workflow", by decide⟩

def bodyPart : Identifier := ⟨"body", by decide⟩

/-! The parts of a plan. -/

structure ProjectRef where
  id : Identifier
  revision : PositiveInt

structure ResolvedBlock where
  id : Identifier
  version : SemanticVersion
  manifestDigest : JcsDigest
  runtimeType : RuntimeType

structure PlannedResource where
  id : Identifier
  kind : Spec.ResourceKind
  count : PositiveInt
  provider : Option NonEmptyText
  model : Option NonEmptyText
  paid : Bool
  maxCost : Option NonNegativeMoney
  currency : CurrencyCode
  maxWallTimeSeconds : Option PositiveInt

structure PlannedTask where
  nodePath : NodePath
  dependsOn : List String
  block : ResolvedBlock
  configDigest : String
  resourceRefs : List Identifier
  declaredCapabilities : List Identifier
  declaredPermissions : List Identifier

structure PlannedApproval where
  nodePath : NodePath
  dependsOn : List String
  requiredRole : NonEmptyText
  promptDigest : String

/-- `PlannedLoop` without its body; `condition` is the digest of the expression. -/
structure PlannedLoop where
  nodePath : NodePath
  dependsOn : List String
  maxIterations : PositiveInt
  maxWallTimeSeconds : Option PositiveInt
  maxCost : Option NonNegativeMoney
  currency : CurrencyCode
  mayIncurCost : Bool
  checkpoint : Bool
  condition : Option String

/-- The ports of a data edge, with their value types. -/
structure EdgePorts where
  sourcePort : Identifier
  targetPort : Identifier
  sourceValueType : NonEmptyText
  targetValueType : NonEmptyText

/-- A control edge has no ports. -/
structure PlannedEdge where
  sourcePath : NodePath
  targetPath : NodePath
  ports : Option EdgePorts

mutual

inductive PlannedNode where
  | task (task : PlannedTask)
  | approval (approval : PlannedApproval)
  | loop (loop : PlannedLoop) (body : PlannedGraph)

inductive PlanStage where
  | mk (index : ℕ) (nodes : List PlannedNode)

inductive PlannedGraph where
  | mk (stages : List PlanStage) (edges : List PlannedEdge)

end

namespace PlannedNode

def nodePath : PlannedNode → NodePath
  | .task planned => planned.nodePath
  | .approval planned => planned.nodePath
  | .loop planned _ => planned.nodePath

def dependsOn : PlannedNode → List String
  | .task planned => planned.dependsOn
  | .approval planned => planned.dependsOn
  | .loop planned _ => planned.dependsOn

end PlannedNode

def PlanStage.index : PlanStage → ℕ
  | .mk index _ => index

def PlanStage.nodes : PlanStage → List PlannedNode
  | .mk _ nodes => nodes

def PlannedGraph.stages : PlannedGraph → List PlanStage
  | .mk stages _ => stages

def PlannedGraph.edges : PlannedGraph → List PlannedEdge
  | .mk _ edges => edges

structure PolicyRequirement where
  id : String
  kind : String
  subject : String
  deriving DecidableEq

structure ExecutionPlan where
  project : ProjectRef
  workflowId : Identifier
  specDigest : String
  registryDigest : String
  resources : List PlannedResource
  policyRequirements : List PolicyRequirement
  graph : PlannedGraph

/-! `model_dump(mode="json", by_alias=True, exclude_none=True)` of a plan. -/

def strings (values : List String) : Json := .arr (values.map .str)

def ProjectRef.dump (project : ProjectRef) : Json :=
  .obj [("id", scalar project.id), ("revision", positive project.revision)]

def ResolvedBlock.dump (block : ResolvedBlock) : Json :=
  .obj [("id", scalar block.id), ("version", scalar block.version),
    ("manifestDigest", scalar block.manifestDigest), ("runtimeType", .str block.runtimeType.text)]

def PlannedResource.dump (resource : PlannedResource) : Json :=
  .obj ([("id", scalar resource.id), ("kind", .str resource.kind.text),
      ("count", positive resource.count)] ++
    optional false "provider" scalar resource.provider ++
    optional false "model" scalar resource.model ++ [("paid", .bool resource.paid)] ++
    optional false "maxCost" scalar resource.maxCost ++ [("currency", scalar resource.currency)] ++
    optional false "maxWallTimeSeconds" positive resource.maxWallTimeSeconds)

def PlannedTask.dump (task : PlannedTask) : Json :=
  .obj [("kind", .str "task"), ("nodePath", scalars task.nodePath),
    ("dependsOn", strings task.dependsOn), ("block", task.block.dump),
    ("configDigest", .str task.configDigest), ("resourceRefs", scalars task.resourceRefs),
    ("declaredCapabilities", scalars task.declaredCapabilities),
    ("declaredPermissions", scalars task.declaredPermissions),
    ("authorization", .str "not-evaluated"), ("execution", .str "not-executed")]

def PlannedApproval.dump (approval : PlannedApproval) : Json :=
  .obj [("kind", .str "approval"), ("nodePath", scalars approval.nodePath),
    ("dependsOn", strings approval.dependsOn), ("requiredRole", scalar approval.requiredRole),
    ("promptDigest", .str approval.promptDigest), ("disposition", .str "would-pause")]

def conditionDump (expressionDigest : String) : Json :=
  .obj [("language", .str Spec.conditionLanguage), ("expressionDigest", .str expressionDigest),
    ("evaluated", .bool false)]

/-- A loop, with the dump of its body. -/
def PlannedLoop.dump (loop : PlannedLoop) (body : Json) : Json :=
  .obj ([("kind", .str "loop"), ("nodePath", scalars loop.nodePath),
      ("dependsOn", strings loop.dependsOn), ("maxIterations", positive loop.maxIterations)] ++
    optional false "maxWallTimeSeconds" positive loop.maxWallTimeSeconds ++
    optional false "maxCost" scalar loop.maxCost ++
    [("currency", scalar loop.currency), ("mayIncurCost", .bool loop.mayIncurCost),
      ("checkpoint", .bool loop.checkpoint)] ++
    optional false "until" conditionDump loop.condition ++
    [("body", body), ("execution", .str "not-executed")])

def PlannedEdge.dump (edge : PlannedEdge) : Json :=
  match edge.ports with
  | none => .obj [("kind", .str "control"), ("sourcePath", scalars edge.sourcePath),
      ("targetPath", scalars edge.targetPath)]
  | some ports => .obj [("kind", .str "data"), ("sourcePath", scalars edge.sourcePath),
      ("targetPath", scalars edge.targetPath), ("sourcePort", scalar ports.sourcePort),
      ("targetPort", scalar ports.targetPort), ("sourceValueType", scalar ports.sourceValueType),
      ("targetValueType", scalar ports.targetValueType)]

mutual

def PlannedNode.dump : PlannedNode → Json
  | .task planned => planned.dump
  | .approval planned => planned.dump
  | .loop planned body => planned.dump body.dump

def plannedNodeDumps : List PlannedNode → List Json
  | [] => []
  | node :: nodes => node.dump :: plannedNodeDumps nodes

def PlanStage.dump : PlanStage → Json
  | .mk index nodes => .obj [("index", .int index), ("nodes", .arr (plannedNodeDumps nodes))]

def stageDumps : List PlanStage → List Json
  | [] => []
  | stage :: stages => stage.dump :: stageDumps stages

def PlannedGraph.dump : PlannedGraph → Json
  | .mk stages edges => .obj [("stages", .arr (stageDumps stages)),
      ("edges", .arr (edges.map PlannedEdge.dump))]

end

def PolicyRequirement.dump (requirement : PolicyRequirement) : Json :=
  .obj [("id", .str requirement.id), ("kind", .str requirement.kind),
    ("subject", .str requirement.subject), ("disposition", .str "required-not-evaluated")]

/-- The dump of a plan, without `specDigest`. -/
def ExecutionPlan.semanticDump (plan : ExecutionPlan) : Json :=
  .obj [("plannerVersion", .str "researchos.planner/v0alpha1"), ("project", plan.project.dump),
    ("workflowId", scalar plan.workflowId), ("registryDigest", .str plan.registryDigest),
    ("resources", .arr (plan.resources.map PlannedResource.dump)),
    ("policyRequirements", .arr (plan.policyRequirements.map PolicyRequirement.dump)),
    ("graph", plan.graph.dump)]

end ResearchOs.Planning
