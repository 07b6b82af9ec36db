import ResearchOs.Core.Spec.Accept

/-! What validation says of the loops of a spec, at any depth. -/
namespace ResearchOs.Spec

/-- The node is one of a graph, or of the body of a loop in it. -/
inductive Within (node : WorkflowNode) : List WorkflowNode → Prop
  | here {nodes : List WorkflowNode} (h : node ∈ nodes) : Within node nodes
  | body {nodes body : List WorkflowNode} {block : LoopBlock} {edges : List WorkflowEdge}
      (hloop : .loop block body edges ∈ nodes) (h : Within node body) : Within node nodes

variable {node : WorkflowNode} {nodes body : List WorkflowNode} {block : LoopBlock}
  {edges : List WorkflowEdge} {resources : List ResourceSpec} {used : List Identifier}

theorem Within.cons {head : WorkflowNode} (h : Within node nodes) : Within node (head :: nodes) := by
  cases h with
  | here h => exact .here (List.mem_cons_of_mem head h)
  | body hloop h => exact .body (List.mem_cons_of_mem head hloop) h

/-- A node of a list is its head, in the body of its head, or further on. -/
theorem Within.of_cons {head : WorkflowNode} (h : Within node (head :: nodes)) :
    node = head ∨ (∃ block body edges, head = .loop block body edges ∧ Within node body) ∨
      Within node nodes := by
  cases h with
  | here h =>
    obtain rfl | h := List.mem_cons.mp h
    · exact .inl rfl
    · exact .inr (.inr (.here h))
  | body hloop h =>
    obtain hhead | hloop := List.mem_cons.mp hloop
    · exact .inr (.inl ⟨_, _, _, hhead.symm, h⟩)
    · exact .inr (.inr (.body hloop h))

/-- The bounds that a loop over some used resources has. -/
structure Bounded (resources : List ResourceSpec) (used : List Identifier) (block : LoopBlock) :
    Prop where
  declared : riskyAmong resources used ≠ [] →
    block.maxCost.isSome = true ∧ block.maxWallTimeSeconds.isSome = true
  currency : ∀ id ∈ riskyAmong resources used, ∀ resource ∈ resourceById resources id,
    resource.currency = block.currency

theorem graphResources_cons (h : graphResources resources (node :: nodes) = .ok used) :
    ∃ here rest, node.resources resources = .ok here ∧ graphResources resources nodes = .ok rest ∧
      used = here ++ rest := by
  obtain ⟨here, hhere, h⟩ := Fold.bind_eq_ok.mp h
  obtain ⟨rest, hrest, h⟩ := Fold.bind_eq_ok.mp h
  cases h
  exact ⟨here, rest, hhere, hrest, rfl⟩

theorem resources_loop (h : (WorkflowNode.loop block body edges).resources resources = .ok used) :
    graphResources resources body = .ok used ∧ Bounded resources used block := by
  obtain ⟨inner, hinner, h⟩ := Fold.bind_eq_ok.mp h
  simp only [requireSpec_bind_ok] at h
  obtain ⟨hdeclared, hcurrency, h⟩ := h
  cases h
  exact ⟨hinner, fun hrisky => hdeclared (.inr hrisky), hcurrency⟩

theorem resources_task {task : TaskBlock}
    (h : (WorkflowNode.task task).resources resources = .ok used) :
    used = task.resourceRefs ∧
      ∀ id ∈ task.resourceRefs, (resourceById resources id).isSome = true := by
  simp only [WorkflowNode.resources, requireSpec_bind_ok] at h
  obtain ⟨hknown, h⟩ := h
  cases h
  exact ⟨rfl, hknown⟩

/-- What the resources of some nodes are the resources of. -/
theorem graphResources_within (h : graphResources resources nodes = .ok used) :
    (∀ task, Within (.task task) nodes → ∀ id ∈ task.resourceRefs,
      id ∈ used ∧ (resourceById resources id).isSome = true) ∧
      ∀ block body edges, Within (.loop block body edges) nodes →
        ∃ inner, graphResources resources body = .ok inner ∧ Bounded resources inner block := by
  induction nodes using nodes_induction generalizing used with
  | nil =>
    constructor
    · intro task hwithin
      cases hwithin with
      | here h => exact absurd h List.not_mem_nil
      | body hloop _ => exact absurd hloop List.not_mem_nil
    · intro block body edges hwithin
      cases hwithin with
      | here h => exact absurd h List.not_mem_nil
      | body hloop _ => exact absurd hloop List.not_mem_nil
  | task head nodes ih =>
    obtain ⟨here, rest, hhere, hrest, rfl⟩ := graphResources_cons h
    obtain ⟨rfl, hknown⟩ := resources_task hhere
    obtain ⟨htasks, hloops⟩ := ih hrest
    constructor
    · intro task hwithin id hid
      obtain hhead | ⟨_, _, _, hhead, -⟩ | hlater := hwithin.of_cons
      · cases hhead
        exact ⟨List.mem_append_left _ hid, hknown id hid⟩
      · cases hhead
      · obtain ⟨hin, hsome⟩ := htasks task hlater id hid
        exact ⟨List.mem_append_right _ hin, hsome⟩
    · intro block body edges hwithin
      obtain hhead | ⟨_, _, _, hhead, -⟩ | hlater := hwithin.of_cons
      · cases hhead
      · cases hhead
      · exact hloops block body edges hlater
  | approval head nodes ih =>
    obtain ⟨here, rest, hhere, hrest, rfl⟩ := graphResources_cons h
    cases hhere
    obtain ⟨htasks, hloops⟩ := ih hrest
    constructor
    · intro task hwithin
      obtain hhead | ⟨_, _, _, hhead, -⟩ | hlater := hwithin.of_cons
      · cases hhead
      · cases hhead
      · exact htasks task hlater
    · intro block body edges hwithin
      obtain hhead | ⟨_, _, _, hhead, -⟩ | hlater := hwithin.of_cons
      · cases hhead
      · cases hhead
      · exact hloops block body edges hlater
  | loop loop inside loopEdges nodes ihbody ih =>
    obtain ⟨inner, rest, hhere, hrest, rfl⟩ := graphResources_cons h
    obtain ⟨hinner, hbounded⟩ := resources_loop hhere
    obtain ⟨hbodyTasks, hbodyLoops⟩ := ihbody hinner
    obtain ⟨htasks, hloops⟩ := ih hrest
    constructor
    · intro task hwithin id hid
      obtain hhead | ⟨_, _, _, hhead, hbelow⟩ | hlater := hwithin.of_cons
      · cases hhead
      · cases hhead
        obtain ⟨hin, hsome⟩ := hbodyTasks task hbelow id hid
        exact ⟨List.mem_append_left _ hin, hsome⟩
      · obtain ⟨hin, hsome⟩ := htasks task hlater id hid
        exact ⟨List.mem_append_right _ hin, hsome⟩
    · intro block body edges hwithin
      obtain hhead | ⟨_, _, _, hhead, hbelow⟩ | hlater := hwithin.of_cons
      · cases hhead
        exact ⟨inner, hinner, hbounded⟩
      · cases hhead
        exact hbodyLoops block body edges hbelow
      · exact hloops block body edges hlater

/-- An id names one resource. -/
theorem resourceById_of_mem {resource : ResourceSpec}
    (hunique : (resources.map ResourceSpec.id).Nodup) (h : resource ∈ resources) :
    resourceById resources resource.id = some resource := by
  induction resources with
  | nil => exact absurd h List.not_mem_nil
  | cons head resources ih =>
    rw [List.map_cons, List.nodup_cons] at hunique
    obtain rfl | h := List.mem_cons.mp h
    · simp [resourceById]
    · have hne : head.id ≠ resource.id := fun hsame =>
        hunique.1 (hsame ▸ List.mem_map_of_mem h)
      have hfound := ih hunique.2 h
      unfold resourceById at hfound ⊢
      rw [List.find?_cons_of_neg (by simpa using hne), hfound]

namespace ResearchSpec

variable {spec : ResearchSpec} {workflow : WorkflowSpec}

/-- The parts of the root validation. -/
theorem validate_ok (h : spec.validate = .ok ()) :
    (∀ workflow ∈ spec.workflows, workflow.graph.validate = .ok ()) ∧
      (∀ resource ∈ spec.resources, resource.validate = .ok ()) ∧
      spec.validateReferences = .ok () := by
  obtain ⟨_, -, h⟩ := Fold.bind_eq_ok.mp h
  obtain ⟨_, hworkflows, h⟩ := Fold.bind_eq_ok.mp h
  obtain ⟨_, -, h⟩ := Fold.bind_eq_ok.mp h
  obtain ⟨_, hresources, h⟩ := Fold.bind_eq_ok.mp h
  exact ⟨Fold.forM_eq_ok.mp hworkflows, Fold.forM_eq_ok.mp hresources, h⟩

theorem validateReferences_ok (h : spec.validateReferences = .ok ()) :
    spec.entityIds.Nodup ∧ ∀ workflow ∈ spec.workflows,
      ∃ used, graphResources spec.resources workflow.graph.nodes = .ok used := by
  simp only [validateReferences, requireSpec_bind_ok] at h
  obtain ⟨hunique, h⟩ := h
  obtain ⟨_, -, h⟩ := Fold.bind_eq_ok.mp h
  obtain ⟨_, -, h⟩ := Fold.bind_eq_ok.mp h
  refine ⟨hunique, fun workflow hworkflow => ?_⟩
  obtain ⟨used, hused, -⟩ := Fold.bind_eq_ok.mp (Fold.forM_eq_ok.mp h workflow hworkflow)
  exact ⟨used, hused⟩

theorem resourceIds_nodup (h : spec.entityIds.Nodup) :
    (spec.resources.map ResourceSpec.id).Nodup :=
  (List.nodup_append.mp h).2.1

/-- A loop whose body uses a paid or accelerated resource, through loops inside it too, declares
its cost, in the currency of the resource, and its time. -/
theorem loop_bounds (h : spec.validate = .ok ()) (hworkflow : workflow ∈ spec.workflows)
    {block : LoopBlock} {body : List WorkflowNode} {edges : List WorkflowEdge}
    (hloop : Within (.loop block body edges) workflow.graph.nodes)
    {task : TaskBlock} (htask : Within (.task task) body)
    {resource : ResourceSpec} (hresource : resource ∈ spec.resources)
    (hused : resource.id ∈ task.resourceRefs)
    (hrisky : resource.paid = true ∨ resource.kind = .gpu ∨ resource.kind = .tpu ∨
      resource.kind = .ascend) :
    block.maxCost.isSome = true ∧ block.maxWallTimeSeconds.isSome = true ∧
      block.currency = resource.currency := by
  obtain ⟨-, -, hreferences⟩ := validate_ok h
  obtain ⟨hunique, hgraphs⟩ := validateReferences_ok hreferences
  obtain ⟨used, hgraph⟩ := hgraphs workflow hworkflow
  obtain ⟨inner, hinner, hbounded⟩ := (graphResources_within hgraph).2 block body edges hloop
  obtain ⟨hin, -⟩ := (graphResources_within hinner).1 task htask resource.id hused
  have hfound := resourceById_of_mem (resourceIds_nodup hunique) hresource
  have hflag : resource.isRisky = true := by
    simp only [ResourceSpec.isRisky, Bool.or_eq_true, decide_eq_true_eq]
    tauto
  have hmem : resource.id ∈ riskyAmong spec.resources inner := by
    rw [riskyAmong, List.mem_filter]
    exact ⟨hin, by simp [hfound, hflag]⟩
  obtain ⟨hcost, htime⟩ := hbounded.declared (List.ne_nil_of_mem hmem)
  exact ⟨hcost, htime, (hbounded.currency resource.id hmem resource hfound).symm⟩

end ResearchSpec

/-! A paid resource two loops down. -/

def text (s : String) (h : isNonEmptyText s = true := by exact .refl true) : NonEmptyText := ⟨s, h⟩

def name (s : String) (h : isEventIdentifier s = true := by exact .refl true) : Identifier := ⟨s, h⟩

def version (s : String) (h : isSemanticVersion s = true := by exact .refl true) :
    SemanticVersion := ⟨s, h⟩

def price (s : String) (h : isMoneyText s = true := by exact .refl true) :
    NonNegativeMoney := ⟨s, h⟩

def paidGpu : ResourceSpec where
  id := name "gpu"
  kind := .gpu
  paid := true
  maxCost := some (price "2.50")
  maxWallTimeSeconds := some one

def trainTask : TaskBlock where
  id := name "train"
  blockType := name "simulated.experiment"
  blockVersion := version "0.1.0"
  resourceRefs := [name "gpu"]

def paidLoop (id : String) (h : isEventIdentifier id = true := by exact .refl true) :
    LoopBlock where
  id := ⟨id, h⟩
  maxIterations := one
  maxCost := some (price "10")
  maxWallTimeSeconds := some one

def nestedNodes : List WorkflowNode :=
  [.loop (paidLoop "outer") [.loop (paidLoop "inner") [.task trainTask] []] []]

def nestedSpec : ResearchSpec where
  metadata := { id := name "project", revision := one, title := text "Nested loops" }
  workflows := [⟨name "main", nestedNodes, []⟩]
  resources := [paidGpu]

theorem loop_bounds_nested : (paidLoop "outer").maxCost.isSome = true ∧
    (paidLoop "outer").maxWallTimeSeconds.isSome = true ∧
      (paidLoop "outer").currency = paidGpu.currency := by
  have hvalid : nestedSpec.validate = .ok () := by decide
  have hworkflow : (⟨name "main", nestedNodes, []⟩ : WorkflowSpec) ∈ nestedSpec.workflows :=
    List.mem_cons_self
  exact ResearchSpec.loop_bounds hvalid hworkflow (.here List.mem_cons_self)
    (.body List.mem_cons_self (.here List.mem_cons_self)) List.mem_cons_self
    List.mem_cons_self (.inl rfl)

end ResearchOs.Spec
