import Mathlib.Data.List.Dedup
import ResearchOs.Data.Fold
import ResearchOs.Data.Layers
import ResearchOs.Core.Spec.Model

/-! Which specs validation accepts. -/
namespace ResearchOs.Spec

open Layers (Graph)

/-- The `ValueError` of a validator. -/
structure SpecError where
  message : String
  deriving DecidableEq, Repr

def requireSpec (condition : Prop) [Decidable condition] (message : String) :
    Except SpecError Unit :=
  if condition then .ok () else .error ⟨message⟩

theorem requireSpec_ok {condition : Prop} [Decidable condition] {message : String} {u : Unit} :
    requireSpec condition message = .ok u ↔ condition := by
  by_cases h : condition <;> simp [requireSpec, h]

theorem requireSpec_bind_ok {α : Type} {condition : Prop} [Decidable condition]
    {message : String} {f : Unit → Except SpecError α} {a : α} :
    (requireSpec condition message >>= f) = .ok a ↔ condition ∧ f () = .ok a := by
  by_cases h : condition <;> simp [requireSpec, h, bind, Except.bind]

/-! One record at a time. -/

/-- `unknown_rights_cannot_authorize_training` -/
def DatasetSource.validate (source : DatasetSource) : Except SpecError Unit := do
  requireSpec source.allowedUses.Nodup "allowedUses entries must be unique"
  requireSpec (¬ (source.rights = .unknown ∧
      (DataUse.training ∈ source.allowedUses ∨ DataUse.redistribution ∈ source.allowedUses)))
    "sources with unknown rights cannot authorize training or redistribution"

def DatasetSpec.validate (dataset : DatasetSpec) : Except SpecError Unit := do
  requireSpec (dataset.sources ≠ []) "List should have at least 1 item after validation"
  dataset.sources.forM DatasetSource.validate

def EvaluationSpec.validate (evaluation : EvaluationSpec) : Except SpecError Unit :=
  requireSpec (evaluation.metrics ≠ []) "List should have at least 1 item after validation"

/-- `paid_resources_are_bounded` -/
def ResourceSpec.validate (resource : ResourceSpec) : Except SpecError Unit :=
  requireSpec (resource.paid = true →
      resource.maxCost.isSome = true ∧ resource.maxWallTimeSeconds.isSome = true)
    "paid resources require maxCost and maxWallTimeSeconds"

/-- `data_ports_are_paired` -/
def WorkflowEdge.validate (edge : WorkflowEdge) : Except SpecError Unit :=
  requireSpec (edge.sourcePort.isNone = edge.targetPort.isNone)
    "sourcePort and targetPort must either both be present or both be absent"

/-- `resource_references_are_unique` -/
def TaskBlock.validate (block : TaskBlock) : Except SpecError Unit :=
  requireSpec block.resourceRefs.Nodup "resourceRefs entries must be unique"

/-- `declared_cost_is_bounded` -/
def LoopBlock.validate (block : LoopBlock) : Except SpecError Unit :=
  requireSpec (block.mayIncurCost = true →
      block.maxCost.isSome = true ∧ block.maxWallTimeSeconds.isSome = true)
    "a loop that may incur cost requires maxCost and maxWallTimeSeconds"

/-! Graphs. -/

namespace WorkflowGraph

variable (g : WorkflowGraph)

def ids : List Identifier := g.nodes.map WorkflowNode.id

/-- The targets of the edges from a node, each once. -/
def adjacency (source : Identifier) : List Identifier :=
  ((g.edges.filter fun edge => edge.source = source).map WorkflowEdge.target).dedup

/-- The nodes and adjacency that the loop over the edges fills in. -/
def digraph : Graph Identifier where
  nodes := g.ids.dedup
  targets source := if source ∈ g.ids then (g.adjacency source).filter (· ∈ g.ids) else []
  nodes_nodup := List.nodup_dedup _
  targets_nodup source := by
    split_ifs
    · exact (List.nodup_dedup _).filter _
    · exact List.nodup_nil
  source_mem := by
    intro source target h
    split_ifs at h with hsource
    · exact List.mem_dedup.mpr hsource
    · exact absurd h List.not_mem_nil
  target_mem := by
    intro source target h
    split_ifs at h
    · simpa using (List.mem_filter.mp h).2
    · exact absurd h List.not_mem_nil

/-- The loop over the edges: `seen` are those before. -/
def validateEdges (g : WorkflowGraph) :
    List WorkflowEdge → List WorkflowEdge → Except SpecError Unit
  | [], _ => .ok ()
  | edge :: edges, seen => do
    requireSpec (edge.source ∈ g.ids ∧ edge.target ∈ g.ids)
      ("workflow edge references unknown node: '" ++ edge.source.val ++ "' -> '" ++
        edge.target.val ++ "'")
    requireSpec (edge.source ≠ edge.target)
      "self edges are not allowed; use an explicit loop block"
    requireSpec (edge ∉ seen) "duplicate workflow edges are not allowed"
    validateEdges g edges (edge :: seen)

/-- The number of nodes that the stack of ready nodes reaches. -/
def visited : ℕ :=
  g.digraph.visit (g.ids.length + 1) (g.digraph.indegree [])
    (g.digraph.nodes.filter fun n => decide (g.digraph.indegree [] n = 0)) 0

/-- `validate_graph` -/
def validateGraph : Except SpecError Unit := do
  requireSpec g.ids.Nodup "workflow node ids must be unique within a graph"
  g.validateEdges g.edges []
  requireSpec (g.visited = g.ids.length)
    "workflow graph contains a cycle; use an explicit loop block"

end WorkflowGraph

mutual

def WorkflowNode.validate : WorkflowNode → Except SpecError Unit
  | .task block => block.validate
  | .approval _ => .ok ()
  | .loop block nodes edges => do
    requireSpec (nodes ≠ []) "List should have at least 1 item after validation"
    validateNodes nodes
    edges.forM WorkflowEdge.validate
    WorkflowGraph.validateGraph ⟨nodes, edges⟩
    block.validate

def validateNodes : List WorkflowNode → Except SpecError Unit
  | [] => .ok ()
  | node :: nodes => do
    node.validate
    validateNodes nodes

end

/-- A graph with all that it contains. -/
def WorkflowGraph.validate (g : WorkflowGraph) : Except SpecError Unit := do
  requireSpec (g.nodes ≠ []) "List should have at least 1 item after validation"
  validateNodes g.nodes
  g.edges.forM WorkflowEdge.validate
  g.validateGraph

/-! References over the whole document. -/

namespace ResourceSpec

/-- A paid or accelerated resource. -/
def isRisky (resource : ResourceSpec) : Bool :=
  resource.paid || resource.kind = .gpu || resource.kind = .tpu || resource.kind = .ascend

end ResourceSpec

/-- The resource of an id. -/
def resourceById (resources : List ResourceSpec) (id : Identifier) : Option ResourceSpec :=
  resources.find? fun resource => resource.id = id

/-- The ids are among those of risky resources. -/
def riskyAmong (resources : List ResourceSpec) (ids : List Identifier) : List Identifier :=
  ids.filter fun id => (resourceById resources id).any ResourceSpec.isRisky

mutual

/-- One turn of the loop of `_validate_graph_resources`: the resources that a node uses. -/
def WorkflowNode.resources (resources : List ResourceSpec) :
    WorkflowNode → Except SpecError (List Identifier)
  | .task block => do
    requireSpec (∀ id ∈ block.resourceRefs, (resourceById resources id).isSome = true)
      ("task '" ++ block.id.val ++ "' references unknown resources")
    .ok block.resourceRefs
  | .approval _ => .ok []
  | .loop block body _ => do
    let loopResources ← graphResources resources body
    let risky := riskyAmong resources loopResources
    requireSpec (block.mayIncurCost = true ∨ risky ≠ [] →
        block.maxCost.isSome = true ∧ block.maxWallTimeSeconds.isSome = true)
      ("loop '" ++ block.id.val ++
        "' uses paid/accelerated capability and requires maxCost and maxWallTimeSeconds")
    requireSpec (∀ id ∈ risky, ∀ resource ∈ resourceById resources id,
        resource.currency = block.currency)
      ("loop '" ++ block.id.val ++ "' currency '" ++ block.currency.val ++
        "' does not match its paid/accelerated resources")
    .ok loopResources

/-- `_validate_graph_resources`: the resources that the nodes use, at any depth. -/
def graphResources (resources : List ResourceSpec) :
    List WorkflowNode → Except SpecError (List Identifier)
  | [] => .ok []
  | node :: nodes => do
    let here ← node.resources resources
    let used ← graphResources resources nodes
    .ok (here ++ used)

end

namespace ResearchSpec

variable (spec : ResearchSpec)

/-- The ids that are unique over the document. -/
def entityIds : List Identifier :=
  spec.questions.map ResearchQuestion.id ++ spec.hypotheses.map Hypothesis.id ++
    spec.evidence.map EvidenceRecord.id ++ spec.datasets.map DatasetSpec.id ++
    spec.models.map ModelSpec.id ++ spec.workflows.map WorkflowSpec.id ++
    spec.evaluations.map EvaluationSpec.id ++ spec.resources.map ResourceSpec.id

/-- `validate_references_and_global_ids` -/
def validateReferences : Except SpecError Unit := do
  requireSpec spec.entityIds.Nodup "top-level entity ids must be globally unique"
  spec.hypotheses.forM fun hypothesis =>
    requireSpec (∀ id ∈ hypothesis.questionRefs, id ∈ spec.questions.map ResearchQuestion.id)
      ("hypothesis '" ++ hypothesis.id.val ++ "' references unknown questions")
  spec.evaluations.forM fun evaluation =>
    requireSpec (∀ id ∈ evaluation.datasetRefs, id ∈ spec.datasets.map DatasetSpec.id)
      ("evaluation '" ++ evaluation.id.val ++ "' references unknown datasets")
  spec.workflows.forM fun workflow => do
    let _ ← graphResources spec.resources workflow.graph.nodes

/-- `ResearchSpec.model_validate`, on fields of their types -/
def validate : Except SpecError Unit := do
  spec.datasets.forM DatasetSpec.validate
  spec.workflows.forM fun workflow => workflow.graph.validate
  spec.evaluations.forM EvaluationSpec.validate
  spec.resources.forM ResourceSpec.validate
  spec.validateReferences

end ResearchSpec

end ResearchOs.Spec
