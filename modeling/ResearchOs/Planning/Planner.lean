import ResearchOs.Data.SortBy
import ResearchOs.Data.Walk
import ResearchOs.Planning.Model
import ResearchOs.Core.Spec.Accept

/-! The stages of a workflow graph. -/
namespace ResearchOs.Planning

open Layers SortBy
open Spec (Identifier WorkflowEdge WorkflowGraph WorkflowNode)

/-- Texts are ordered by their code points. -/
def textKey (text : String) : List Char := text.toList

def idKey (id : Identifier) : List Char := id.val.toList

def sortIds (ids : List Identifier) : List Identifier := sortBy idKey ids

theorem idKey_injective : Function.Injective idKey :=
  fun _ _ h => Subtype.ext (String.toList_injective h)

theorem sortIds_perm (ids : List Identifier) : (sortIds ids).Perm ids := sortBy_perm idKey ids

/-- Ids have one order. -/
theorem sortIds_eq_of_perm {ids ids' : List Identifier} (h : ids.Perm ids') :
    sortIds ids = sortIds ids' :=
  sortBy_eq_of_perm (fun _ _ _ _ hkey => idKey_injective hkey) h

/-- The values of `dependencies` -/
def dependencies (g : WorkflowGraph) (target : Identifier) : List Identifier :=
  sortIds ((g.edges.filter fun edge => edge.target = target).map WorkflowEdge.source).dedup

/-- The stages of `_topological_stages`, on edges between known nodes. -/
def stages (g : WorkflowGraph) : List (List Identifier) := g.digraph.layers sortIds

/-! Accepted graphs. -/

variable {g : WorkflowGraph} {source target id : Identifier} {i j : ℕ}

/-- An edge, of whatever ports. -/
def Edge (g : WorkflowGraph) (source target : Identifier) : Prop :=
  ∃ edge ∈ g.edges, edge.source = source ∧ edge.target = target

/-- A path of that many edges ends at the node. -/
inductive Path (g : WorkflowGraph) : ℕ → Identifier → Prop
  | zero (id : Identifier) : Path g 0 id
  | succ {k : ℕ} {source target : Identifier} (h : Path g k source) (hedge : Edge g source target) :
      Path g (k + 1) target

/-- The longest path that ends at the node has that many edges. -/
def LongestPath (g : WorkflowGraph) (k : ℕ) (id : Identifier) : Prop :=
  Path g k id ∧ ∀ l, Path g l id → l ≤ k

/-- The edges of an accepted graph, one after the other. -/
theorem validateEdges_ok {edges seen : List WorkflowEdge} (h : g.validateEdges edges seen = .ok ()) :
    edges.Nodup ∧ ∀ edge ∈ edges, edge ∉ seen ∧ edge.source ∈ g.ids ∧ edge.target ∈ g.ids := by
  induction edges generalizing seen with
  | nil => simp
  | cons edge edges ih =>
    simp only [WorkflowGraph.validateEdges, Spec.requireSpec_bind_ok] at h
    obtain ⟨hknown, -, hnew, h⟩ := h
    obtain ⟨hnodup, hrest⟩ := ih h
    refine ⟨?_, fun other hother => ?_⟩
    · rw [List.nodup_cons]
      exact ⟨fun hmem => (hrest edge hmem).1 List.mem_cons_self, hnodup⟩
    · obtain rfl | hother := List.mem_cons.mp hother
      · exact ⟨hnew, hknown⟩
      · obtain ⟨hseen, hknown⟩ := hrest other hother
        exact ⟨fun hmem => hseen (List.mem_cons_of_mem _ hmem), hknown⟩

/-- Edges lead between nodes of the graph. -/
def Known (g : WorkflowGraph) : Prop :=
  ∀ edge ∈ g.edges, edge.source ∈ g.ids ∧ edge.target ∈ g.ids

/-- What the validator of a graph checks. -/
structure Accepted (g : WorkflowGraph) : Prop where
  ids_nodup : g.ids.Nodup
  edges_nodup : g.edges.Nodup
  known : Known g
  acyclic : g.digraph.Acyclic

theorem digraph_nodes (h : g.ids.Nodup) : g.digraph.nodes = g.ids := h.dedup

theorem accepted_of_validateGraph (h : g.validateGraph = .ok ()) : Accepted g := by
  simp only [WorkflowGraph.validateGraph, Spec.requireSpec_bind_ok] at h
  obtain ⟨hids, h⟩ := h
  obtain ⟨_, hedges, h⟩ := Fold.bind_eq_ok.mp h
  rw [Spec.requireSpec_ok] at h
  obtain ⟨hnodup, hknown⟩ := validateEdges_ok hedges
  have hvisited : g.visited = g.digraph.nodes.length := by rw [h, digraph_nodes hids]
  exact ⟨hids, hnodup, fun edge hedge => (hknown edge hedge).2, Graph.acyclic_of_visit hvisited⟩

theorem mem_targets (h : Known g) : target ∈ g.digraph.targets source ↔ Edge g source target := by
  constructor
  · intro hmem
    simp only [WorkflowGraph.digraph] at hmem
    split_ifs at hmem
    · obtain ⟨hmem, -⟩ := List.mem_filter.mp hmem
      rw [WorkflowGraph.adjacency, List.mem_dedup, List.mem_map] at hmem
      obtain ⟨edge, hedge, rfl⟩ := hmem
      obtain ⟨hedge, hsource⟩ := List.mem_filter.mp hedge
      exact ⟨edge, hedge, by simpa using hsource, rfl⟩
    · exact absurd hmem List.not_mem_nil
  · rintro ⟨edge, hedge, rfl, rfl⟩
    obtain ⟨hsource, htarget⟩ := h edge hedge
    simp only [WorkflowGraph.digraph, if_pos hsource, List.mem_filter, decide_eq_true_eq]
    refine ⟨?_, htarget⟩
    rw [WorkflowGraph.adjacency, List.mem_dedup, List.mem_map]
    exact ⟨edge, List.mem_filter.mpr ⟨hedge, by simp⟩, rfl⟩

theorem chain_iff (h : Known g) : g.digraph.Chain i id ↔ Path g i id := by
  constructor
  · intro hchain
    induction hchain with
    | zero id => exact .zero id
    | succ _ hedge ih => exact .succ ih ((mem_targets h).mp hedge)
  · intro hpath
    induction hpath with
    | zero id => exact .zero id
    | succ _ hedge ih => exact .succ ih ((mem_targets h).mpr hedge)

theorem longest_iff (h : Accepted g) : g.digraph.Longest i id ↔ LongestPath g i id := by
  rw [Graph.Longest, LongestPath, chain_iff h.known, chain_iff h.known]
  refine and_congr_right fun hpath => ⟨fun hlong l hl => ?_, fun hlongest hlong => ?_⟩
  · by_contra hlt
    exact hlong ((chain_iff h.known).mp (((chain_iff h.known).mpr hl).le (by omega)))
  · have hle := hlongest (i + 1) hlong
    omega

/-- The stage of a node is the length of the longest path to it. -/
theorem mem_stages (h : Accepted g) :
    id ∈ (stages g).getD i [] ↔ id ∈ g.ids ∧ LongestPath g i id := by
  rw [stages, (h.acyclic.layers sortIds_perm).1 i id, digraph_nodes h.ids_nodup, longest_iff h]

/-- The stages hold every node once. -/
theorem stages_perm (h : Accepted g) : (stages g).flatten.Perm g.ids := by
  have hperm := h.acyclic.layers_perm sortIds_perm
  rwa [digraph_nodes h.ids_nodup] at hperm

theorem stages_ne_nil (h : Accepted g) {stage : List Identifier} (hstage : stage ∈ stages g) :
    stage ≠ [] :=
  ((h.acyclic.layers sortIds_perm).2 stage hstage).1

theorem stage_lt (h : Accepted g) (hedge : Edge g source target)
    (hsource : source ∈ (stages g).getD i []) (htarget : target ∈ (stages g).getD j []) : i < j := by
  have hi := (longest_iff h).mpr ((mem_stages h).mp hsource).2
  have hj := (longest_iff h).mpr ((mem_stages h).mp htarget).2
  exact hi.lt hj ((mem_targets h.known).mpr hedge)

theorem mem_dependencies : source ∈ dependencies g target ↔ Edge g source target := by
  rw [dependencies, (sortIds_perm _).mem_iff, List.mem_dedup, List.mem_map]
  constructor
  · rintro ⟨edge, hedge, rfl⟩
    obtain ⟨hedge, htarget⟩ := List.mem_filter.mp hedge
    exact ⟨edge, hedge, rfl, by simpa using htarget⟩
  · rintro ⟨edge, hedge, rfl, rfl⟩
    exact ⟨edge, List.mem_filter.mpr ⟨hedge, by simp⟩, rfl⟩

theorem nodup_dependencies (g : WorkflowGraph) (target : Identifier) :
    (dependencies g target).Nodup :=
  (sortIds_perm _).nodup_iff.mpr (List.nodup_dedup _)

end ResearchOs.Planning

/-! `compile_plan`: the plan of one workflow of a spec, from a sealed registry. -/
namespace ResearchOs.Planning

open Blocks (BlockPort BlockRegistry RegisteredBlock RegistryError)
open JsonText (FloatText)
open SortBy Walk
open Spec (ApprovalBlock Identifier JsonObject LoopBlock ResearchSpec ResourceSpec TaskBlock
  WorkflowEdge WorkflowGraph WorkflowNode WorkflowSpec)

/-- How planning fails: a `PlanningInputError`, a `PlanningBlocked`, or any other exception. -/
inductive PlanningFailure where
  | input (code path message : String)
  | blocked (code path message : String)
  | raised (message : String)
  deriving DecidableEq, Repr

/-- The parts of the platform that planning computes with: `violatedRule` is the first rule of a
schema that JSON Schema finds violated. -/
structure Host where
  floatText : FloatText
  violatedRule : Json.Members → Json.Members → Option String
  repr : String → String

structure PlannerLimits where
  maxNodes : ℕ := 10000
  maxLoopDepth : ℕ := 16
  maxNodes_bounds : 1 ≤ maxNodes ∧ maxNodes ≤ 10000 := by decide
  maxLoopDepth_le : maxLoopDepth ≤ 16 := by decide

/-- What planning a graph reads and does not change. -/
structure PlannerContext where
  host : Host
  registry : BlockRegistry
  limits : PlannerLimits
  paidActionsRequireApproval : Bool

/-- `_PlannerState`, without what stays the same in it -/
structure PlannerState where
  nodeCount : ℕ := 0
  taskCount : ℕ := 0
  approvalCount : ℕ := 0
  loopCount : ℕ := 0
  stageCount : ℕ := 0
  usedResourceIds : List Identifier := []
  requirements : List PolicyRequirement := []

/-- An entry of the dictionary of requirements. -/
def setRequirement (requirements : List PolicyRequirement) (requirement : PolicyRequirement) :
    List PolicyRequirement :=
  if requirement.id ∈ requirements.map PolicyRequirement.id then
    requirements.map fun other => if other.id = requirement.id then requirement else other
  else requirements ++ [requirement]

def approvalRequirement (path : NodePath) : PolicyRequirement where
  id := "approval:" ++ nodePointer path
  kind := "human-approval"
  subject := nodePointer path

def paidLoopRequirement (path : NodePath) : PolicyRequirement where
  id := "paid-loop:" ++ nodePointer path
  kind := "paid-loop-approval"
  subject := nodePointer path

def paidResourceRequirement (resourceId : Identifier) : PolicyRequirement where
  id := "paid-resource:" ++ resourceId.val
  kind := "paid-resource-approval"
  subject := resourceId.val

/-- The exception of a digest is not a planning error. -/
def raising {α : Type} : Except String α → Except PlanningFailure α
  | .ok a => .ok a
  | .error message => .error (.raised message)

/-- A `KeyError` -/
def required {α : Type} (key : String) : Option α → Except PlanningFailure α
  | some a => .ok a
  | none => .error (.raised key)

def requirePlanned (condition : Prop) [Decidable condition] (failure : PlanningFailure) :
    Except PlanningFailure Unit :=
  if condition then .ok () else .error failure

/-! The blocks of the tasks. -/

/-- A task, with its block. -/
abbrev Resolved := List (Identifier × RegisteredBlock)

def asTask : WorkflowNode → Option TaskBlock
  | .task block => some block
  | _ => none

/-- The planning error that a registry error becomes. -/
def blockFailure (path : NodePath) : RegistryError → PlanningFailure
  | .unknownBlock message =>
    .blocked "unknown-block" (pointer (path.map Subtype.val ++ ["blockType"])) message
  | .blockConfig message =>
    .blocked "invalid-block-config" (pointer (path.map Subtype.val ++ ["config"])) message
  | .raised message => .raised message

def translated {α : Type} (path : NodePath) : Except RegistryError α → Except PlanningFailure α
  | .ok a => .ok a
  | .error e => .error (blockFailure path e)

def resolveTask (context : PlannerContext) (base : NodePath) (task : TaskBlock) :
    Except PlanningFailure (Identifier × RegisteredBlock) := do
  let block ← translated (base ++ [task.id])
    (context.registry.resolve task.blockType.val task.blockVersion.val)
  translated (base ++ [task.id])
    (BlockRegistry.validateConfig context.host.floatText context.host.violatedRule block task.config)
  .ok (task.id, block)

def nodeById (g : WorkflowGraph) (id : Identifier) : Except PlanningFailure WorkflowNode :=
  required id.val (findBy WorkflowNode.id g.nodes id)

/-- The tasks in the order of their ids. -/
def resolveTasks (context : PlannerContext) (base : NodePath) (g : WorkflowGraph) :
    Except PlanningFailure Resolved :=
  ((sortBy (fun node => idKey node.id) g.nodes).filterMap asTask).mapM
    (resolveTask context base)

def blockOf (resolved : Resolved) (id : Identifier) : Except PlanningFailure RegisteredBlock :=
  required id.val ((findBy Prod.fst resolved id).map Prod.snd)

/-! Edges. -/

/-- The inputs that an edge leads to. -/
abbrev Connected := List (Identifier × Identifier)

def noPort : Identifier := ⟨"None", by decide⟩

def quoted (id : Identifier) : String := "'" ++ id.val ++ "'"

def isCompatible (sourceType targetType : Spec.NonEmptyText) : Prop :=
  sourceType = targetType ∨ sourceType = Blocks.anyType ∨ targetType = Blocks.anyType

instance (sourceType targetType : Spec.NonEmptyText) : Decidable (isCompatible sourceType targetType) :=
  inferInstanceAs (Decidable (_ ∨ _))

/-- The ports of the data edge at an index. -/
def planPorts (host : Host) (g : WorkflowGraph) (resolved : Resolved) (path : List String)
    (edge : WorkflowEdge) (sourcePort targetPort : Identifier) (connected : Connected) :
    Except PlanningFailure EdgePorts := do
  let sourceNode ← nodeById g edge.source
  let targetNode ← nodeById g edge.target
  match sourceNode, targetNode with
  | .task source, .task target => do
    let sourceBlock ← blockOf resolved source.id
    let targetBlock ← blockOf resolved target.id
    match findBy BlockPort.id sourceBlock.manifest.outputs sourcePort with
    | none => .error (.blocked "unknown-source-port" (pointer (path ++ ["sourcePort"]))
        ("block " ++ source.blockType.val ++ "@" ++ source.blockVersion.val ++ " has no output " ++
          quoted sourcePort))
    | some output =>
      match findBy BlockPort.id targetBlock.manifest.inputs targetPort with
      | none => .error (.blocked "unknown-target-port" (pointer (path ++ ["targetPort"]))
          ("block " ++ target.blockType.val ++ "@" ++ target.blockVersion.val ++ " has no input " ++
            quoted targetPort))
      | some input => do
        requirePlanned ((target.id, targetPort) ∉ connected)
          (.blocked "multiple-input-bindings" (pointer (path ++ ["targetPort"]))
            ("input " ++ quoted targetPort ++ " on task " ++ quoted target.id ++
              " has multiple bindings"))
        requirePlanned (isCompatible output.valueType input.valueType)
          (.blocked "incompatible-port-types" (pointer path)
            ("port types are incompatible: " ++ host.repr output.valueType.val ++ " -> " ++
              host.repr input.valueType.val))
        .ok ⟨sourcePort, targetPort, output.valueType, input.valueType⟩
  | _, _ => .error (.blocked "data-edge-requires-tasks" (pointer path)
      "data ports may only connect task blocks in M0")

/-- One turn of the loop over the edges. -/
def planEdge (host : Host) (g : WorkflowGraph) (resolved : Resolved) (base : NodePath)
    (indexed : WorkflowEdge × ℕ) (connected : Connected) :
    Except PlanningFailure (PlannedEdge × Connected) :=
  let edge := indexed.1
  match edge.sourcePort with
  | none => .ok (⟨base ++ [edge.source], base ++ [edge.target], none⟩, connected)
  | some sourcePort => do
    let ports ← planPorts host g resolved
      (base.map Subtype.val ++ ["edges", toString indexed.2]) edge sourcePort
      (edge.targetPort.getD noPort) connected
    .ok (⟨base ++ [edge.source], base ++ [edge.target], some ports⟩,
      (edge.target, ports.targetPort) :: connected)

/-- The loop over the required inputs. -/
def checkInputs (base : NodePath) (resolved : Resolved) (connected : Connected) :
    Except PlanningFailure Unit :=
  resolved.forM fun task =>
    task.2.manifest.inputs.forM fun port =>
      requirePlanned (port.required = true → (task.1, port.id) ∈ connected)
        (.blocked "missing-required-input" (nodePointer (base ++ [task.1]))
          ("required input " ++ quoted port.id ++ " is not connected"))

def pathKey (path : NodePath) : List (List Char) := path.map idKey

def portKey (port : Option Identifier) : List (List Char) :=
  [(port.map idKey).getD []]

/-- The source path, the target path, and the ports or empty texts. -/
def edgeKey (edge : PlannedEdge) : List (List (List Char)) :=
  [pathKey edge.sourcePath, pathKey edge.targetPath, portKey (edge.ports.map EdgePorts.sourcePort),
    portKey (edge.ports.map EdgePorts.targetPort)]

/-- `_validate_data_edges` -/
def validateDataEdges (host : Host) (base : NodePath) (g : WorkflowGraph) (resolved : Resolved) :
    Except PlanningFailure (List PlannedEdge) := do
  let (edges, connected) ← walk (planEdge host g resolved base) g.edges.zipIdx []
  checkInputs base resolved connected
  .ok (sortBy edgeKey edges)

/-! Nodes. -/

/-- `_topological_stages` -/
def topologicalStages (g : WorkflowGraph) : Except PlanningFailure (List (List Identifier)) := do
  requirePlanned (∀ edge ∈ g.edges, edge.source ∈ g.ids ∧ edge.target ∈ g.ids)
    (.raised "unknown node")
  .ok (stages g)

/-- The digest of a value, as far as it can be written. -/
def digestOf (context : PlannerContext) (value : Json) : Except PlanningFailure String :=
  raising (Jcs.contentDigest context.host.floatText value)

def dependencyPaths (base : NodePath) (g : WorkflowGraph) (id : Identifier) : List String :=
  (dependencies g id).map fun dependency => nodePointer (base ++ [dependency])

def planTask (context : PlannerContext) (base : NodePath) (g : WorkflowGraph) (resolved : Resolved)
    (task : TaskBlock) (state : PlannerState) :
    Except PlanningFailure (PlannedNode × PlannerState) := do
  let block ← blockOf resolved task.id
  let configDigest ← digestOf context (.obj task.config.val)
  .ok (.task {
      nodePath := base ++ [task.id]
      dependsOn := dependencyPaths base g task.id
      block := ⟨block.manifest.id, block.manifest.version, block.digest, block.manifest.runtimeType⟩
      configDigest := configDigest
      resourceRefs := sortIds task.resourceRefs
      declaredCapabilities := sortIds block.manifest.capabilities
      declaredPermissions := sortIds block.manifest.permissions },
    { state with
      taskCount := state.taskCount + 1
      usedResourceIds := state.usedResourceIds ++ task.resourceRefs })

def planApproval (context : PlannerContext) (base : NodePath) (g : WorkflowGraph)
    (approval : ApprovalBlock) (state : PlannerState) :
    Except PlanningFailure (PlannedNode × PlannerState) := do
  let promptDigest ← digestOf context (.str approval.prompt.val)
  .ok (.approval {
      nodePath := base ++ [approval.id]
      dependsOn := dependencyPaths base g approval.id
      requiredRole := approval.requiredRole
      promptDigest := promptDigest },
    { state with
      approvalCount := state.approvalCount + 1
      requirements := setRequirement state.requirements
        (approvalRequirement (base ++ [approval.id])) })

/-- The state when the body of a loop is planned. -/
def enterLoop (context : PlannerContext) (path : NodePath) (loop : LoopBlock) (state : PlannerState) :
    PlannerState :=
  { state with
    loopCount := state.loopCount + 1
    requirements :=
      if loop.mayIncurCost = true ∧ context.paidActionsRequireApproval = true then
        setRequirement state.requirements (paidLoopRequirement path)
      else state.requirements }

def planCondition (context : PlannerContext) (loop : LoopBlock) :
    Except PlanningFailure (Option String) :=
  match loop.condition with
  | none => .ok none
  | some condition => do
    let expressionDigest ← digestOf context (.str condition.expression.val)
    .ok (some expressionDigest)

/-- Plans a graph below a path. -/
abbrev PlanGraph := NodePath → WorkflowGraph → PlannerState →
  Except PlanningFailure (PlannedGraph × PlannerState)

def planLoop (context : PlannerContext) (planBody : PlanGraph) (base : NodePath) (g : WorkflowGraph)
    (loop : LoopBlock) (body : WorkflowGraph) (state : PlannerState) :
    Except PlanningFailure (PlannedNode × PlannerState) := do
  let condition ← planCondition context loop
  let (planned, state) ← planBody (base ++ [loop.id, bodyPart]) body
    (enterLoop context (base ++ [loop.id]) loop state)
  .ok (.loop {
      nodePath := base ++ [loop.id]
      dependsOn := dependencyPaths base g loop.id
      maxIterations := loop.maxIterations
      maxWallTimeSeconds := loop.maxWallTimeSeconds
      maxCost := loop.maxCost
      currency := loop.currency
      mayIncurCost := loop.mayIncurCost
      checkpoint := loop.checkpoint
      condition := condition } planned, state)

/-- `_plan_node` -/
def planNode (context : PlannerContext) (planBody : PlanGraph) (base : NodePath) (g : WorkflowGraph)
    (resolved : Resolved) (id : Identifier) (state : PlannerState) :
    Except PlanningFailure (PlannedNode × PlannerState) := do
  let node ← nodeById g id
  match node with
  | .task task => planTask context base g resolved task state
  | .approval approval => planApproval context base g approval state
  | .loop loop nodes edges => planLoop context planBody base g loop ⟨nodes, edges⟩ state

def planStage (context : PlannerContext) (planBody : PlanGraph) (base : NodePath) (g : WorkflowGraph)
    (resolved : Resolved) (indexed : List Identifier × ℕ) (state : PlannerState) :
    Except PlanningFailure (PlanStage × PlannerState) := do
  let (nodes, state) ← walk (planNode context planBody base g resolved) indexed.1 state
  requirePlanned (nodes ≠ []) (.raised "Tuple should have at least 1 item after validation")
  .ok (.mk indexed.2 nodes, state)

/-- `_plan_graph`; the first argument is how many graphs deep the plan may still go. -/
def planGraph (context : PlannerContext) : ℕ → PlanGraph
  | 0, base, _, _ =>
    .error (.blocked "loop-depth-limit" (nodePointer base)
      ("workflow exceeds the M0 loop-depth limit of " ++ toString context.limits.maxLoopDepth))
  | room + 1, base, g, state => do
    let state := { state with nodeCount := state.nodeCount + g.nodes.length }
    requirePlanned (state.nodeCount ≤ context.limits.maxNodes)
      (.blocked "node-limit" (nodePointer base)
        ("workflow exceeds the M0 node limit of " ++ toString context.limits.maxNodes))
    let resolved ← resolveTasks context base g
    let edges ← validateDataEdges context.host base g resolved
    let ids ← topologicalStages g
    let (stages, state) ← walk (planStage context (planGraph context room) base g resolved)
      ids.zipIdx state
    requirePlanned (stages ≠ []) (.raised "Tuple should have at least 1 item after validation")
    .ok (.mk stages edges, { state with stageCount := state.stageCount + stages.length })

/-! The plan. -/

/-- `_select_workflow` -/
def selectWorkflow (host : Host) (spec : ResearchSpec) (workflowId : Option String) :
    Except PlanningFailure WorkflowSpec :=
  match workflowId with
  | some workflowId =>
    match findBy (fun workflow => workflow.id.val) spec.workflows workflowId with
    | some workflow => .ok workflow
    | none => .error (.input "unknown-workflow" "/workflowId"
        ("workflow " ++ host.repr workflowId ++ " does not exist"))
  | none =>
    match spec.workflows with
    | [] => .error (.input "missing-workflow" "/workflows"
        "ResearchSpec contains no workflow to plan")
    | [workflow] => .ok workflow
    | workflows => .error (.input "workflow-selection-required" "/workflows"
        ("select one workflow explicitly: " ++
          ", ".intercalate ((sortIds (workflows.map WorkflowSpec.id)).map Subtype.val)))

/-- `_planned_resource` -/
def plannedResource (resource : ResourceSpec) : PlannedResource where
  id := resource.id
  kind := resource.kind
  count := resource.count
  provider := resource.provider
  model := resource.model
  paid := resource.paid
  maxCost := resource.maxCost
  currency := resource.currency
  maxWallTimeSeconds := resource.maxWallTimeSeconds

/-- The requirement of a used resource. -/
def addResource (paidActionsRequireApproval : Bool) (requirements : List PolicyRequirement)
    (resource : ResourceSpec) : List PolicyRequirement :=
  if resource.paid = true ∧ paidActionsRequireApproval = true then
    setRequirement requirements (paidResourceRequirement resource.id)
  else requirements

structure CompiledPlan where
  plan : ExecutionPlan
  taskCount : ℕ
  approvalCount : ℕ
  loopCount : ℕ
  stageCount : ℕ

def contextOf (host : Host) (spec : ResearchSpec) (registry : BlockRegistry)
    (limits : PlannerLimits) : PlannerContext where
  host := host
  registry := registry
  limits := limits
  paidActionsRequireApproval := spec.policies.paidActionsRequireApproval

/-- The plan, once its graph is planned. -/
def finishPlan (context : PlannerContext) (spec : ResearchSpec) (workflow : WorkflowSpec)
    (graph : PlannedGraph) (state : PlannerState) : Except PlanningFailure CompiledPlan := do
  let used ← (sortIds state.usedResourceIds.dedup).mapM fun id =>
    required id.val (findBy ResourceSpec.id spec.resources id)
  let requirements := used.foldl (addResource context.paidActionsRequireApproval) state.requirements
  let specDigest ← digestOf context (spec.dump false)
  let registryDigest ← raising (context.registry.digest context.host.floatText)
  .ok {
    plan := {
      project := ⟨spec.metadata.id, spec.metadata.revision⟩
      workflowId := workflow.id
      specDigest := specDigest
      registryDigest := registryDigest
      resources := used.map plannedResource
      policyRequirements := sortBy (fun requirement => textKey requirement.id) requirements
      graph := graph }
    taskCount := state.taskCount
    approvalCount := state.approvalCount
    loopCount := state.loopCount
    stageCount := state.stageCount }

/-- `compile_plan` -/
def compilePlan (host : Host) (spec : ResearchSpec) (registry : BlockRegistry)
    (workflowId : Option String) (limits : PlannerLimits) : Except PlanningFailure CompiledPlan := do
  let context := contextOf host spec registry limits
  requirePlanned (registry.isSealed = true)
    (.input "registry-not-sealed" "/registry" "planning requires a sealed registry snapshot")
  let workflow ← selectWorkflow host spec workflowId
  requirePlanned (1 ≤ limits.maxNodes)
    (.input "invalid-planner-limits" "/limits"
      "planner limits must allow at least one node and a non-negative loop depth")
  let (graph, state) ← planGraph context (limits.maxLoopDepth + 1) [workflowPart, workflow.id]
    workflow.graph {}
  finishPlan context spec workflow graph state

end ResearchOs.Planning
