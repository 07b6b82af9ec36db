import ResearchOs.Planning.Planner
import ResearchOs.Core.Spec.Bounds

/-! The plan places the nodes of every graph, at any depth of loops, by their longest path. -/
namespace ResearchOs.Planning

open SortBy Walk
open Spec (ApprovalBlock Identifier LoopBlock TaskBlock WorkflowEdge WorkflowGraph WorkflowNode)

/-- The graph, or the body of a loop in it, at any depth. -/
inductive GraphIn (inner : WorkflowGraph) : WorkflowGraph → Prop
  | here : GraphIn inner inner
  | body {g : WorkflowGraph} {block : LoopBlock} {nodes : List WorkflowNode}
      {edges : List WorkflowEdge} (hloop : .loop block nodes edges ∈ g.nodes)
      (h : GraphIn inner ⟨nodes, edges⟩) : GraphIn inner g

/-- The stages of a graph are its nodes by the length of the longest path that ends at them. -/
structure WellStaged (g : WorkflowGraph) : Prop where
  placed : (stages g).flatten.Perm g.ids
  once : ∀ id ∈ g.ids, ∃! i, id ∈ (stages g).getD i []
  longest : ∀ id ∈ g.ids, ∀ i, id ∈ (stages g).getD i [] ↔ LongestPath g i id
  later : ∀ source target i j, Edge g source target → source ∈ (stages g).getD i [] →
    target ∈ (stages g).getD j [] → i < j
  predecessors : ∀ target, (dependencies g target).Nodup ∧
    ∀ source, source ∈ dependencies g target ↔ Edge g source target

/-- What a stage records of its nodes. -/
def PlanStage.record (stage : PlanStage) : ℕ × List (NodePath × List String) :=
  (stage.index, stage.nodes.map fun node => (node.nodePath, node.dependsOn))

def stageRecord (base : NodePath) (g : WorkflowGraph) (indexed : List Identifier × ℕ) :
    ℕ × List (NodePath × List String) :=
  (indexed.2, indexed.1.map fun id => (base ++ [id], dependencyPaths base g id))

/-- The stages of a planned graph are those of the graph, and so it is in the bodies of loops. -/
inductive Staged : NodePath → WorkflowGraph → PlannedGraph → Prop
  | intro {base : NodePath} {g : WorkflowGraph} {planned : PlannedGraph}
      (hstages : planned.stages.map PlanStage.record = (stages g).zipIdx.map (stageRecord base g))
      (hbodies : ∀ stage ∈ planned.stages, ∀ loop body, .loop loop body ∈ stage.nodes →
        ∀ block nodes edges, .loop block nodes edges ∈ g.nodes →
          loop.nodePath = base ++ [block.id] →
          Staged (base ++ [block.id, bodyPart]) ⟨nodes, edges⟩ body) : Staged base g planned

variable {context : PlannerContext} {planBody : PlanGraph} {base : NodePath} {g inner : WorkflowGraph}
  {resolved : Resolved} {id : Identifier} {state after : PlannerState} {node : PlannedNode}
  {stage : PlanStage} {indexed : List Identifier × ℕ} {planned : PlannedGraph} {room : ℕ}

/-! Accepted graphs contain accepted graphs. -/

theorem validateGraph_of_validate (h : g.validate = .ok ()) : g.validateGraph = .ok () := by
  simp only [WorkflowGraph.validate, Spec.requireSpec_bind_ok] at h
  obtain ⟨-, h⟩ := h
  obtain ⟨_, -, h⟩ := Fold.bind_eq_ok.mp h
  obtain ⟨_, -, h⟩ := Fold.bind_eq_ok.mp h
  exact h

theorem validateNodes_ok {nodes : List WorkflowNode} (h : Spec.validateNodes nodes = .ok ()) :
    ∀ node ∈ nodes, node.validate = .ok () := by
  induction nodes with
  | nil => simp
  | cons head nodes ih =>
    obtain ⟨_, hhead, h⟩ := Fold.bind_eq_ok.mp h
    exact List.forall_mem_cons.mpr ⟨hhead, ih h⟩

theorem validate_body (h : g.validate = .ok ()) {block : LoopBlock} {nodes : List WorkflowNode}
    {edges : List WorkflowEdge} (hloop : .loop block nodes edges ∈ g.nodes) :
    WorkflowGraph.validate ⟨nodes, edges⟩ = .ok () := by
  simp only [WorkflowGraph.validate, Spec.requireSpec_bind_ok] at h
  obtain ⟨-, h⟩ := h
  obtain ⟨_, hnodes, -⟩ := Fold.bind_eq_ok.mp h
  have hloop := validateNodes_ok hnodes _ hloop
  simp only [WorkflowNode.validate, Spec.requireSpec_bind_ok] at hloop
  obtain ⟨hne, hloop⟩ := hloop
  obtain ⟨_, hbody, hloop⟩ := Fold.bind_eq_ok.mp hloop
  obtain ⟨_, hedges, hloop⟩ := Fold.bind_eq_ok.mp hloop
  obtain ⟨_, hgraph, -⟩ := Fold.bind_eq_ok.mp hloop
  simp only [WorkflowGraph.validate, Spec.requireSpec_bind_ok]
  exact ⟨hne, Fold.bind_eq_ok.mpr ⟨(), hbody, Fold.bind_eq_ok.mpr ⟨(), hedges, hgraph⟩⟩⟩

theorem accepted_of_validate (h : g.validate = .ok ()) : Accepted g :=
  accepted_of_validateGraph (validateGraph_of_validate h)

theorem GraphIn.validate (hin : GraphIn inner g) (h : g.validate = .ok ()) :
    inner.validate = .ok () := by
  induction hin with
  | here => exact h
  | body hloop _ ih => exact ih (validate_body h hloop)

theorem wellStaged (h : Accepted g) : WellStaged g where
  placed := stages_perm h
  once := by
    intro id hid
    obtain ⟨i, hi⟩ := Layers.Graph.exists_longest (h.acyclic id (by rwa [digraph_nodes h.ids_nodup]))
    refine ⟨i, (mem_stages h).mpr ⟨hid, (longest_iff h).mp hi⟩, fun j hj => ?_⟩
    exact ((longest_iff h).mpr ((mem_stages h).mp hj).2).unique hi
  longest := fun id hid i => ⟨fun hmem => ((mem_stages h).mp hmem).2,
    fun hpath => (mem_stages h).mpr ⟨hid, hpath⟩⟩
  later := fun _ _ _ _ hedge hsource htarget => stage_lt h hedge hsource htarget
  predecessors := fun target => ⟨nodup_dependencies g target, fun _ => mem_dependencies⟩

/-! What planning a node and a stage records. -/

theorem required_ok {α : Type} {key : String} {value : Option α} {a : α} :
    required key value = .ok a ↔ value = some a := by
  cases value <;> simp [required]

theorem nodeById_ok {node : WorkflowNode} (h : nodeById g id = .ok node) :
    node ∈ g.nodes ∧ node.id = id :=
  findBy_mem (required_ok.mp h)

theorem requirePlanned_ok {condition : Prop} [Decidable condition] {failure : PlanningFailure}
    {u : Unit} : requirePlanned condition failure = .ok u ↔ condition := by
  by_cases h : condition <;> simp [requirePlanned, h]

theorem topologicalStages_of_accepted (h : Accepted g) : topologicalStages g = .ok (stages g) :=
  Fold.bind_eq_ok.mpr ⟨(), requirePlanned_ok.mpr h.known, rfl⟩

/-- A planned loop is a loop of the graph, with its body planned below it. -/
def PlansBody (planBody : PlanGraph) (base : NodePath) (g : WorkflowGraph) (id : Identifier) :
    PlannedNode → Prop
  | .loop _ body => ∃ block nodes edges before after, .loop block nodes edges ∈ g.nodes ∧
      block.id = id ∧
      planBody (base ++ [id, bodyPart]) ⟨nodes, edges⟩ before = .ok (body, after)
  | _ => True

theorem planTask_ok {task : TaskBlock}
    (h : planTask context base g resolved task state = .ok (node, after)) :
    ∃ planned, node = .task planned ∧ planned.nodePath = base ++ [task.id] ∧
      planned.dependsOn = dependencyPaths base g task.id ∧
      after = { state with
        taskCount := state.taskCount + 1
        usedResourceIds := state.usedResourceIds ++ task.resourceRefs } := by
  obtain ⟨block, -, h⟩ := Fold.bind_eq_ok.mp h
  obtain ⟨digest, -, h⟩ := Fold.bind_eq_ok.mp h
  cases h
  exact ⟨_, rfl, rfl, rfl, rfl⟩

theorem planApproval_ok {approval : ApprovalBlock}
    (h : planApproval context base g approval state = .ok (node, after)) :
    ∃ planned, node = .approval planned ∧ planned.nodePath = base ++ [approval.id] ∧
      planned.dependsOn = dependencyPaths base g approval.id ∧
      after = { state with
        approvalCount := state.approvalCount + 1
        requirements := setRequirement state.requirements
          (approvalRequirement (base ++ [approval.id])) } := by
  obtain ⟨digest, -, h⟩ := Fold.bind_eq_ok.mp h
  cases h
  exact ⟨_, rfl, rfl, rfl, rfl⟩

theorem planLoop_ok {loop : LoopBlock} {body : WorkflowGraph}
    (h : planLoop context planBody base g loop body state = .ok (node, after)) :
    ∃ planned plannedBody, node = .loop planned plannedBody ∧
      planned.nodePath = base ++ [loop.id] ∧
      planned.dependsOn = dependencyPaths base g loop.id ∧
      planBody (base ++ [loop.id, bodyPart]) body
        (enterLoop context (base ++ [loop.id]) loop state) = .ok (plannedBody, after) := by
  obtain ⟨condition, -, h⟩ := Fold.bind_eq_ok.mp h
  obtain ⟨⟨plannedBody, final⟩, hbody, h⟩ := Fold.bind_eq_ok.mp h
  cases h
  exact ⟨_, _, rfl, rfl, rfl, hbody⟩

theorem planNode_records
    (h : planNode context planBody base g resolved id state = .ok (node, after)) :
    node.nodePath = base ++ [id] ∧ node.dependsOn = dependencyPaths base g id ∧
      PlansBody planBody base g id node := by
  obtain ⟨source, hsource, hplan⟩ := Fold.bind_eq_ok.mp h
  obtain ⟨hmem, rfl⟩ := nodeById_ok hsource
  cases source with
  | task task =>
    obtain ⟨planned, rfl, hpath, hdepends, -⟩ := planTask_ok hplan
    exact ⟨hpath, hdepends, trivial⟩
  | approval approval =>
    obtain ⟨planned, rfl, hpath, hdepends, -⟩ := planApproval_ok hplan
    exact ⟨hpath, hdepends, trivial⟩
  | loop loop nodes edges =>
    obtain ⟨planned, body, rfl, hpath, hdepends, hbody⟩ := planLoop_ok hplan
    exact ⟨hpath, hdepends, loop, nodes, edges, _, _, hmem, rfl, hbody⟩

theorem planStage_records
    (h : planStage context planBody base g resolved indexed state = .ok (stage, after)) :
    stage.record = stageRecord base g indexed ∧
      ∀ node ∈ stage.nodes, ∃ id, node.nodePath = base ++ [id] ∧ PlansBody planBody base g id node := by
  obtain ⟨⟨nodes, final⟩, hnodes, h⟩ := Fold.bind_eq_ok.mp h
  obtain ⟨_, -, h⟩ := Fold.bind_eq_ok.mp h
  cases h
  have hall := forall₂_of_walk hnodes
  constructor
  · refine Prod.ext rfl ?_
    refine (Fold.map_eq_map_of_forall₂ hall fun id node hnode => ?_).symm
    obtain ⟨_, _, hnode⟩ := hnode
    obtain ⟨hpath, hdepends, -⟩ := planNode_records hnode
    rw [hpath, hdepends]
  · intro node hnode
    obtain ⟨id, -, _, _, hplan⟩ := Fold.exists_of_mem_right hall hnode
    obtain ⟨hpath, -, hbody⟩ := planNode_records hplan
    exact ⟨id, hpath, hbody⟩

/-- What a planned graph is made of. -/
theorem planGraph_ok (h : planGraph context (room + 1) base g state = .ok (planned, after)) :
    ∃ resolved edges final, resolveTasks context base g = .ok resolved ∧
      validateDataEdges context.host base g resolved = .ok edges ∧ planned.edges = edges ∧
      state.nodeCount + g.nodes.length ≤ context.limits.maxNodes ∧
      (∀ edge ∈ g.edges, edge.source ∈ g.ids ∧ edge.target ∈ g.ids) ∧ planned.stages ≠ [] ∧
      walk (planStage context (planGraph context room) base g resolved) (stages g).zipIdx
        { state with nodeCount := state.nodeCount + g.nodes.length } =
          .ok (planned.stages, final) ∧
      after = { final with stageCount := final.stageCount + planned.stages.length } := by
  obtain ⟨_, hcount, h⟩ := Fold.bind_eq_ok.mp h
  obtain ⟨resolved, hresolved, h⟩ := Fold.bind_eq_ok.mp h
  obtain ⟨edges, hedges, h⟩ := Fold.bind_eq_ok.mp h
  obtain ⟨ids, hids, h⟩ := Fold.bind_eq_ok.mp h
  obtain ⟨⟨planStages, final⟩, hwalk, h⟩ := Fold.bind_eq_ok.mp h
  obtain ⟨_, hne, hplanned⟩ := Fold.bind_eq_ok.mp h
  obtain ⟨_, hknown, hstages⟩ := Fold.bind_eq_ok.mp hids
  rw [requirePlanned_ok] at hcount hne hknown
  cases hstages
  cases hplanned
  exact ⟨resolved, edges, final, hresolved, hedges, rfl, hcount, hknown, hne, hwalk, rfl⟩

theorem staged_of_planGraph (hg : g.validate = .ok ())
    (h : planGraph context room base g state = .ok (planned, after)) : Staged base g planned := by
  induction room generalizing base g state planned after with
  | zero => cases h
  | succ room ih =>
    obtain ⟨resolved, edges, final, -, -, -, -, -, -, hwalk, -⟩ := planGraph_ok h
    have hall := forall₂_of_walk hwalk
    refine .intro ?_ ?_
    · refine (Fold.map_eq_map_of_forall₂ hall fun indexed stage hstage => ?_).symm
      obtain ⟨_, _, hstage⟩ := hstage
      exact (planStage_records hstage).1.symm
    · intro stage hstage loop body hloop block nodes edges hblock hpath
      obtain ⟨_, -, _, _, hplan⟩ := Fold.exists_of_mem_right hall hstage
      obtain ⟨id, hnode, other, otherNodes, otherEdges, before, later, hother, hid, hbody⟩ :=
        (planStage_records hplan).2 _ hloop
      -- Two loops of one id are one loop, as ids are unique in the graph.
      have hsame : id = block.id := by
        have := hnode.symm.trans hpath
        simpa using this
      have hids := (accepted_of_validate hg).ids_nodup
      have hloops := List.inj_on_of_nodup_map hids hother hblock (hid.trans hsame)
      cases hloops
      rw [hsame] at hbody
      exact ih (validate_body hg hblock) hbody

/-- The stages of a valid graph, and of the bodies in it, hold every node once, at the length of
the longest path to it, so that edges lead to later stages; and the planner records these stages,
with the predecessors of each node. -/
theorem staging (hg : g.validate = .ok ()) :
    (∀ inner, GraphIn inner g → WellStaged inner) ∧
      ∀ context room base state planned after,
        planGraph context room base g state = .ok (planned, after) → Staged base g planned :=
  ⟨fun _ hin => wellStaged (accepted_of_validate (hin.validate hg)),
    fun _ _ _ _ _ _ h => staged_of_planGraph hg h⟩

/-! An approval before a loop that trains, and one after both. -/

def approvalNode (id : String) (h : isEventIdentifier id = true := by exact .refl true) :
    WorkflowNode :=
  .approval { id := ⟨id, h⟩, prompt := Spec.text "Go on?" }

def searchLoop : LoopBlock where
  id := Spec.name "search"
  maxIterations := Spec.one
  maxCost := some (Spec.price "10")
  maxWallTimeSeconds := some Spec.one
  mayIncurCost := true

def gatedGraph : WorkflowGraph where
  nodes := [approvalNode "release", .loop searchLoop [.task Spec.trainTask, approvalNode "gate"] [],
    approvalNode "start"]
  edges := [⟨Spec.name "start", Spec.name "search", none, none⟩,
    ⟨Spec.name "search", Spec.name "release", none, none⟩,
    ⟨Spec.name "start", Spec.name "release", none, none⟩]

theorem staging_gatedGraph : WellStaged gatedGraph ∧
    WellStaged ⟨[.task Spec.trainTask, approvalNode "gate"], []⟩ := by
  have hg : gatedGraph.validate = .ok () := by decide
  exact ⟨(staging hg).1 _ .here,
    (staging hg).1 _ (.body (List.mem_cons_of_mem _ List.mem_cons_self) .here)⟩

end ResearchOs.Planning
