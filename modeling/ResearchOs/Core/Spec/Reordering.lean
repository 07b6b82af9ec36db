import ResearchOs.Data.SortBy
import ResearchOs.Jcs.Canonical
import ResearchOs.Core.Spec.Dump

/-! Specs that list the same nodes, edges, resources and workflows in another order. -/
namespace ResearchOs.Spec

mutual

/-- The same node, up to the order inside the body of a loop. -/
inductive Reordered : WorkflowNode → WorkflowNode → Prop
  | task (block : TaskBlock) : Reordered (.task block) (.task block)
  | approval (block : ApprovalBlock) : Reordered (.approval block) (.approval block)
  | loop (block : LoopBlock) {nodes nodes' : List WorkflowNode} {edges edges' : List WorkflowEdge}
      (hnodes : ReorderedNodes nodes nodes') (hedges : edges.Perm edges') :
      Reordered (.loop block nodes edges) (.loop block nodes' edges')

/-- The same nodes, in another order at any depth. -/
inductive ReorderedNodes : List WorkflowNode → List WorkflowNode → Prop
  | nil : ReorderedNodes [] []
  | cons {node node' : WorkflowNode} {nodes nodes' : List WorkflowNode}
      (hnode : Reordered node node') (hnodes : ReorderedNodes nodes nodes') :
      ReorderedNodes (node :: nodes) (node' :: nodes')
  | swap (node other : WorkflowNode) (nodes : List WorkflowNode) :
      ReorderedNodes (other :: node :: nodes) (node :: other :: nodes)
  | trans {nodes middle nodes' : List WorkflowNode} (h : ReorderedNodes nodes middle)
      (h' : ReorderedNodes middle nodes') : ReorderedNodes nodes nodes'

end

structure ReorderedGraph (g g' : WorkflowGraph) : Prop where
  nodes : ReorderedNodes g.nodes g'.nodes
  edges : g.edges.Perm g'.edges

structure ReorderedWorkflow (workflow workflow' : WorkflowSpec) : Prop where
  id : workflow.id = workflow'.id
  graph : ReorderedGraph workflow.graph workflow'.graph

/-- The same spec, but for the order of its workflows, its resources, and the nodes and edges of
its graphs. -/
structure ReorderedSpec (spec spec' : ResearchSpec) : Prop where
  workflows : ∃ middle, List.Forall₂ ReorderedWorkflow spec.workflows middle ∧
    middle.Perm spec'.workflows
  resources : spec.resources.Perm spec'.resources
  others : spec' =
    { spec with workflows := spec'.workflows, resources := spec'.resources }

variable {node node' : WorkflowNode} {nodes nodes' : List WorkflowNode} {g g' : WorkflowGraph}
  {workflow workflow' : WorkflowSpec} {spec spec' : ResearchSpec}

mutual

theorem Reordered.refl : ∀ node, Reordered node node
  | .task block => .task block
  | .approval block => .approval block
  | .loop block nodes edges => .loop block (ReorderedNodes.refl nodes) (.refl edges)

theorem ReorderedNodes.refl : ∀ nodes, ReorderedNodes nodes nodes
  | [] => .nil
  | node :: nodes => .cons (Reordered.refl node) (ReorderedNodes.refl nodes)

end

theorem Reordered.trans {other : WorkflowNode} (h : Reordered node other)
    (h' : Reordered other node') : Reordered node node' := by
  cases h with
  | task block => exact h'
  | approval block => exact h'
  | loop block hnodes hedges =>
    cases h' with
    | loop block hnodes' hedges' => exact .loop block (hnodes.trans hnodes') (hedges.trans hedges')

mutual

theorem Reordered.symm : ∀ {node node'}, Reordered node node' → Reordered node' node
  | _, _, .task block => .task block
  | _, _, .approval block => .approval block
  | _, _, .loop block hnodes hedges => .loop block (ReorderedNodes.symm hnodes) hedges.symm

theorem ReorderedNodes.symm : ∀ {nodes nodes'}, ReorderedNodes nodes nodes' →
    ReorderedNodes nodes' nodes
  | _, _, .nil => .nil
  | _, _, .cons hnode hnodes => .cons (Reordered.symm hnode) (ReorderedNodes.symm hnodes)
  | _, _, .swap node other nodes => .swap other node nodes
  | _, _, .trans h h' => .trans (ReorderedNodes.symm h') (ReorderedNodes.symm h)

end

theorem ReorderedGraph.symm (h : ReorderedGraph g g') : ReorderedGraph g' g :=
  ⟨h.nodes.symm, h.edges.symm⟩

theorem ReorderedWorkflow.symm (h : ReorderedWorkflow workflow workflow') :
    ReorderedWorkflow workflow' workflow :=
  ⟨h.id.symm, h.graph.symm⟩

theorem ReorderedSpec.symm (h : ReorderedSpec spec spec') : ReorderedSpec spec' spec := by
  obtain ⟨middle, hall, hperm⟩ := h.workflows
  obtain ⟨other, hother, hback⟩ := List.perm_comp_forall₂ hperm.symm
    (hall.flip.imp fun _ _ h => h.symm)
  refine ⟨⟨other, hother, hback⟩, h.resources.symm, ?_⟩
  rw [h.others]

theorem Reordered.id (h : Reordered node node') : node.id = node'.id := by
  cases h <;> rfl

/-- A map of nodes that does not see the order in bodies gives the same values. -/
theorem ReorderedNodes.filterMap_perm {β : Type} {f : WorkflowNode → Option β}
    (hf : ∀ {node node'}, Reordered node node' → f node = f node') :
    ∀ {nodes nodes'}, ReorderedNodes nodes nodes' → (nodes.filterMap f).Perm (nodes'.filterMap f)
  | _, _, .nil => .refl _
  | _, _, .cons hnode hnodes => by
    rw [List.filterMap_cons, List.filterMap_cons, hf hnode]
    cases f _ with
    | none => exact filterMap_perm hf hnodes
    | some b => exact (filterMap_perm hf hnodes).cons b
  | _, _, .swap node other nodes => (List.Perm.swap node other nodes).filterMap f
  | _, _, .trans h h' => (filterMap_perm hf h).trans (filterMap_perm hf h')

theorem ReorderedNodes.ids (h : ReorderedNodes nodes nodes') :
    (nodes.map WorkflowNode.id).Perm (nodes'.map WorkflowNode.id) := by
  have hperm := h.filterMap_perm (f := fun node => some node.id) fun hnode => congrArg some hnode.id
  simpa [List.filterMap_eq_map'] using hperm

theorem ReorderedNodes.mem : ∀ {nodes nodes'}, ReorderedNodes nodes nodes' →
    ∀ node ∈ nodes, ∃ node' ∈ nodes', Reordered node node'
  | _, _, .nil, _, h => absurd h List.not_mem_nil
  | _, _, .cons hnode hnodes, node, h => by
    obtain rfl | h := List.mem_cons.mp h
    · exact ⟨_, List.mem_cons_self, hnode⟩
    · obtain ⟨node', hmem, hsame⟩ := ReorderedNodes.mem hnodes node h
      exact ⟨node', List.mem_cons_of_mem _ hmem, hsame⟩
  | _, _, .swap first other nodes, node, h =>
    ⟨node, (List.Perm.swap first other nodes).mem_iff.mp h, .refl node⟩
  | _, _, .trans h h', node, hmem => by
    obtain ⟨middle, hmiddle, hsame⟩ := ReorderedNodes.mem h node hmem
    obtain ⟨node', hnode', hsame'⟩ := ReorderedNodes.mem h' middle hmiddle
    exact ⟨node', hnode', hsame.trans hsame'⟩

/-! Whether a spec can be written does not depend on the order. -/

open Jcs (isSafe areSafeItems areSafeMembers)

theorem areSafeItems_iff {items : List Json} :
    areSafeItems items = true ↔ ∀ item ∈ items, isSafe item = true := by
  induction items with
  | nil => simp [areSafeItems]
  | cons item items ih => simp [areSafeItems, ih]

theorem areSafeItems_perm {items items' : List Json} (h : items.Perm items') :
    areSafeItems items = areSafeItems items' := by
  rw [Bool.eq_iff_iff, areSafeItems_iff, areSafeItems_iff]
  exact forall_congr' fun _ => imp_congr_left h.mem_iff

theorem areSafeMembers_iff {members : Json.Members} :
    areSafeMembers members = true ↔ ∀ member ∈ members, Jcs.isSafe member.2 = true := by
  induction members with
  | nil => simp [areSafeMembers]
  | cons member members ih => simp [areSafeMembers, ih]

theorem areSafeMembers_append (ms more : Json.Members) :
    areSafeMembers (ms ++ more) = (areSafeMembers ms && areSafeMembers more) := by
  induction ms with
  | nil => simp [areSafeMembers]
  | cons member ms ih => simp [areSafeMembers, ih, Bool.and_assoc]

theorem nodeDumps_eq_map (keepNone : Bool) (nodes : List WorkflowNode) :
    nodeDumps keepNone nodes = nodes.map (WorkflowNode.dump keepNone) := by
  induction nodes with
  | nil => rfl
  | cons node nodes ih => rw [nodeDumps, ih, List.map_cons]

theorem isSafe_graphDump {keepNone : Bool} {items items' : List Json} {edges edges' : List WorkflowEdge}
    (hitems : areSafeItems items = areSafeItems items') (hedges : edges.Perm edges') :
    isSafe (graphDump keepNone items edges) = isSafe (graphDump keepNone items' edges') := by
  simp only [graphDump, isSafe, areSafeMembers, hitems,
    areSafeItems_perm (hedges.map (WorkflowEdge.dump keepNone))]

mutual

theorem Reordered.isSafe {keepNone : Bool} : ∀ {node node'}, Reordered node node' →
    Jcs.isSafe (node.dump keepNone) = Jcs.isSafe (node'.dump keepNone)
  | _, _, .task block => rfl
  | _, _, .approval block => rfl
  | _, _, .loop block hnodes hedges => by
    simp only [WorkflowNode.dump, LoopBlock.dump, Jcs.isSafe, areSafeMembers_append, areSafeMembers,
      isSafe_graphDump (ReorderedNodes.areSafe hnodes) hedges]

theorem ReorderedNodes.areSafe {keepNone : Bool} : ∀ {nodes nodes'}, ReorderedNodes nodes nodes' →
    areSafeItems (nodeDumps keepNone nodes) = areSafeItems (nodeDumps keepNone nodes')
  | _, _, .nil => rfl
  | _, _, .cons hnode hnodes => by
    simp only [nodeDumps, areSafeItems, Reordered.isSafe hnode, ReorderedNodes.areSafe hnodes]
  | _, _, .swap node other nodes => by
    rw [nodeDumps_eq_map, nodeDumps_eq_map]
    exact areSafeItems_perm ((List.Perm.swap node other nodes).map _)
  | _, _, .trans h h' => (ReorderedNodes.areSafe h).trans (ReorderedNodes.areSafe h')

end

theorem ReorderedWorkflow.isSafe {keepNone : Bool} (h : ReorderedWorkflow workflow workflow') :
    Jcs.isSafe (workflow.dump keepNone) = Jcs.isSafe (workflow'.dump keepNone) := by
  simp only [WorkflowSpec.dump, WorkflowGraph.dump, Jcs.isSafe, areSafeMembers, scalar,
    isSafe_graphDump h.graph.nodes.areSafe h.graph.edges]

theorem areSafe_workflows {keepNone : Bool} {workflows middle : List WorkflowSpec}
    (h : List.Forall₂ ReorderedWorkflow workflows middle) :
    areSafeItems (workflows.map (WorkflowSpec.dump keepNone)) =
      areSafeItems (middle.map (WorkflowSpec.dump keepNone)) := by
  induction h with
  | nil => rfl
  | cons hhead _ ih => simp only [List.map_cons, areSafeItems, hhead.isSafe, ih]

theorem ReorderedSpec.isSafe {keepNone : Bool} (h : ReorderedSpec spec spec') :
    Jcs.isSafe (spec.dump keepNone) = Jcs.isSafe (spec'.dump keepNone) := by
  obtain ⟨middle, hall, hperm⟩ := h.workflows
  have hworkflows : areSafeItems (spec.workflows.map (WorkflowSpec.dump keepNone)) =
      areSafeItems (spec'.workflows.map (WorkflowSpec.dump keepNone)) := by
    rw [← areSafeItems_perm (hperm.map _)]
    exact areSafe_workflows hall
  have hresources := areSafeItems_perm (h.resources.map (ResourceSpec.dump keepNone))
  rw [h.others]
  simp only [ResearchSpec.dump, Jcs.isSafe, areSafeMembers, hworkflows, hresources]

end ResearchOs.Spec
