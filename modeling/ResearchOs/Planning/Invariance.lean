import ResearchOs.Planning.Staging
import ResearchOs.Core.Spec.Reordering

/-! The plan of a graph does not depend on the order in which its nodes and edges are listed. -/
namespace ResearchOs.Planning

open Blocks (BlockPort)
open Layers SortBy Walk
open Spec (Identifier Reordered ReorderedGraph TaskBlock WorkflowEdge WorkflowGraph WorkflowNode)

variable {host : Host} {context : PlannerContext} {base : NodePath} {g g' : WorkflowGraph}
  {resolved : Resolved} {id source target : Identifier} {i : ℕ} {node : WorkflowNode}

/-! Stages. -/

theorem ids_perm (h : ReorderedGraph g g') : g.ids.Perm g'.ids := h.nodes.ids

theorem edge_iff (h : ReorderedGraph g g') : Edge g source target ↔ Edge g' source target :=
  exists_congr fun _ => and_congr_left fun _ => h.edges.mem_iff

theorem path_iff (h : ReorderedGraph g g') : Path g i id ↔ Path g' i id := by
  constructor
  · intro hpath
    induction hpath with
    | zero id => exact .zero id
    | succ _ hedge ih => exact .succ ih ((edge_iff h).mp hedge)
  · intro hpath
    induction hpath with
    | zero id => exact .zero id
    | succ _ hedge ih => exact .succ ih ((edge_iff h).mpr hedge)

theorem accepted_reordered (h : ReorderedGraph g g') (ha : Accepted g) : Accepted g' := by
  have hids := (ids_perm h).nodup_iff.mp ha.ids_nodup
  have hknown : Known g' := fun edge hedge => by
    obtain ⟨hsource, htarget⟩ := ha.known edge (h.edges.mem_iff.mpr hedge)
    exact ⟨(ids_perm h).mem_iff.mp hsource, (ids_perm h).mem_iff.mp htarget⟩
  refine ⟨hids, h.edges.nodup_iff.mp ha.edges_nodup, hknown, fun n hn hchain => ?_⟩
  rw [digraph_nodes hids] at hn hchain
  have hpath := (path_iff h).mpr ((chain_iff hknown).mp hchain)
  refine ha.acyclic n ?_ ?_
  · rw [digraph_nodes ha.ids_nodup]
    exact (ids_perm h).mem_iff.mpr hn
  · rw [digraph_nodes ha.ids_nodup, chain_iff ha.known, (ids_perm h).length_eq]
    exact hpath

theorem stages_eq (h : ReorderedGraph g g') (ha : Accepted g) : stages g = stages g' := by
  have ha' := accepted_reordered h ha
  refine ha.acyclic.layers_eq ha'.acyclic sortIds_perm (fun xs => sortBy_pairwise idKey xs)
    (fun a b hab hba => idKey_injective (le_antisymm hab hba)) (fun n => ?_) fun i n => ?_
  · rw [digraph_nodes ha.ids_nodup, digraph_nodes ha'.ids_nodup]
    exact (ids_perm h).mem_iff
  · rw [Graph.Longest, Graph.Longest, chain_iff ha.known, chain_iff ha.known, chain_iff ha'.known,
      chain_iff ha'.known, path_iff h, path_iff h]

theorem dependencyPaths_eq (base : NodePath) (h : ReorderedGraph g g') (id : Identifier) :
    dependencyPaths base g id = dependencyPaths base g' id := by
  rw [dependencyPaths, dependencyPaths, dependencies, dependencies,
    sortIds_eq_of_perm ((h.edges.filter _).map _).dedup]

/-! Tasks. -/

theorem find_reordered (h : ReorderedGraph g g') (ha : Accepted g)
    (hnode : findBy WorkflowNode.id g.nodes id = some node) :
    ∃ node', findBy WorkflowNode.id g'.nodes id = some node' ∧ Reordered node node' := by
  obtain ⟨hmem, hid⟩ := findBy_mem hnode
  obtain ⟨node', hmem', hsame⟩ := h.nodes.mem node hmem
  exact ⟨node', (findBy_eq_some_iff (accepted_reordered h ha).ids_nodup).mpr
    ⟨hmem', hsame.id.symm.trans hid⟩, hsame⟩

theorem asTask_eq {node node' : WorkflowNode} (h : Reordered node node') :
    asTask node = asTask node' := by
  cases h <;> rfl

theorem asTask_id {task : TaskBlock} (h : asTask node = some task) : node.id = task.id := by
  cases node with
  | task block =>
    cases h
    rfl
  | approval block => cases h
  | loop block nodes edges => cases h

/-- The tasks in the order of their ids. -/
theorem tasks_pairwise (g : WorkflowGraph) :
    ((sortBy (fun node => idKey node.id) g.nodes).filterMap asTask).Pairwise
      fun a b => idKey a.id ≤ idKey b.id := by
  refine (sortBy_pairwise (fun node => idKey node.id) g.nodes).filterMap asTask ?_
  intro node other hle task htask task' htask'
  rw [← asTask_id htask, ← asTask_id htask']
  exact hle

theorem tasks_eq (h : ReorderedGraph g g') (ha : Accepted g) :
    (sortBy (fun node => idKey node.id) g.nodes).filterMap asTask =
      (sortBy (fun node => idKey node.id) g'.nodes).filterMap asTask := by
  have hsorted : ∀ g : WorkflowGraph, ((sortBy (fun node => idKey node.id) g.nodes).filterMap
      asTask).Perm (g.nodes.filterMap asTask) :=
    fun g => (sortBy_perm _ _).filterMap asTask
  have hperm := (hsorted g).trans ((h.nodes.filterMap_perm asTask_eq).trans (hsorted g').symm)
  refine eq_of_perm_of_pairwise ?_ (tasks_pairwise g) (tasks_pairwise g') hperm
  intro task htask task' htask' hkey
  obtain ⟨node, hnode, hn⟩ := List.mem_filterMap.mp ((hsorted g).mem_iff.mp htask)
  obtain ⟨node', hnode', hn'⟩ :=
    List.mem_filterMap.mp ((hsorted g).mem_iff.mp (hperm.mem_iff.mpr htask'))
  have hid : node.id = node'.id := by
    rw [asTask_id hn, asTask_id hn']
    exact idKey_injective hkey
  rw [List.inj_on_of_nodup_map ha.ids_nodup hnode hnode' hid, hn'] at hn
  exact (Option.some.inj hn).symm

theorem resolveTasks_eq (h : ReorderedGraph g g') (ha : Accepted g) :
    resolveTasks context base g = resolveTasks context base g' := by
  rw [resolveTasks, resolveTasks, tasks_eq h ha]

theorem nodeById_reordered (h : ReorderedGraph g g') (ha : Accepted g) (id : Identifier) :
    (∃ e, nodeById g id = .error e ∧ nodeById g' id = .error e) ∨
      ∃ node node', nodeById g id = .ok node ∧ nodeById g' id = .ok node' ∧ Reordered node node' := by
  cases hfound : findBy WorkflowNode.id g.nodes id with
  | some node =>
    obtain ⟨node', hfound', hsame⟩ := find_reordered h ha hfound
    exact .inr ⟨node, node', required_ok.mpr hfound, required_ok.mpr hfound', hsame⟩
  | none =>
    cases hfound' : findBy WorkflowNode.id g'.nodes id with
    | some node' =>
      obtain ⟨node, hnode, -⟩ := find_reordered h.symm (accepted_reordered h ha) hfound'
      rw [hfound] at hnode
      cases hnode
    | none => exact .inl ⟨.raised id.val, by rw [nodeById, hfound, required],
        by rw [nodeById, hfound', required]⟩

/-! Edges. -/

variable {path : List String} {edge : WorkflowEdge} {sourcePort targetPort : Identifier}
  {connected : Connected} {ports : EdgePorts}

theorem planPorts_eq (h : ReorderedGraph g g') (ha : Accepted g) :
    planPorts host g resolved path edge sourcePort targetPort connected =
      planPorts host g' resolved path edge sourcePort targetPort connected := by
  unfold planPorts
  obtain ⟨e, hsource, hsource'⟩ | ⟨source, source', hsource, hsource', hs⟩ :=
    nodeById_reordered h ha edge.source
  · rw [hsource, hsource']
    rfl
  obtain ⟨e, htarget, htarget'⟩ | ⟨target, target', htarget, htarget', ht⟩ :=
    nodeById_reordered h ha edge.target
  · rw [hsource, hsource', htarget, htarget']
    rfl
  rw [hsource, hsource', htarget, htarget']
  cases hs <;> cases ht <;> rfl

/-- The input that a data edge binds. -/
def inputOf (edge : WorkflowEdge) : Option (Identifier × Identifier) :=
  edge.sourcePort.map fun _ => (edge.target, edge.targetPort.getD noPort)

/-- An edge, planned by itself. -/
def soleEdge (host : Host) (g : WorkflowGraph) (resolved : Resolved) (base : NodePath)
    (edge : WorkflowEdge) : Except PlanningFailure PlannedEdge :=
  match edge.sourcePort with
  | none => .ok ⟨base ++ [edge.source], base ++ [edge.target], none⟩
  | some sourcePort => do
    let ports ← planPorts host g resolved [] edge sourcePort (edge.targetPort.getD noPort) []
    .ok ⟨base ++ [edge.source], base ++ [edge.target], some ports⟩

theorem planPorts_ok_iff :
    planPorts host g resolved path edge sourcePort targetPort connected = .ok ports ↔
      planPorts host g resolved [] edge sourcePort targetPort [] = .ok ports ∧
        (edge.target, targetPort) ∉ connected := by
  unfold planPorts
  cases hsource : nodeById g edge.source with
  | error e => simp [bind, Except.bind]
  | ok source =>
    cases htarget : nodeById g edge.target with
    | error e => simp [bind, Except.bind]
    | ok target =>
      have hid := (nodeById_ok htarget).2
      cases source with
      | approval block => simp [bind, Except.bind]
      | loop block nodes edges => simp [bind, Except.bind]
      | task source =>
        cases target with
        | approval block => simp [bind, Except.bind]
        | loop block nodes edges => simp [bind, Except.bind]
        | task target =>
          have htask : target.id = edge.target := hid
          cases hsourceBlock : blockOf resolved source.id with
          | error e => simp [bind, Except.bind, hsourceBlock]
          | ok sourceBlock =>
            cases htargetBlock : blockOf resolved target.id with
            | error e => simp [bind, Except.bind, hsourceBlock, htargetBlock]
            | ok targetBlock =>
              cases houtput : findBy BlockPort.id sourceBlock.manifest.outputs sourcePort with
              | none => simp [bind, Except.bind, hsourceBlock, htargetBlock, houtput]
              | some output =>
                cases hinput : findBy BlockPort.id targetBlock.manifest.inputs targetPort with
                | none => simp [bind, Except.bind, hsourceBlock, htargetBlock, houtput, hinput]
                | some input =>
                  rw [htask] at htargetBlock
                  by_cases hconnected : (edge.target, targetPort) ∈ connected <;>
                    by_cases hcompatible : isCompatible output.valueType input.valueType <;>
                      simp [bind, Except.bind, hsourceBlock, htargetBlock, houtput, hinput, htask,
                        requirePlanned, hconnected, hcompatible]

theorem planPorts_targetPort
    (h : planPorts host g resolved path edge sourcePort targetPort connected = .ok ports) :
    ports.sourcePort = sourcePort ∧ ports.targetPort = targetPort := by
  obtain ⟨source, -, h⟩ := Fold.bind_eq_ok.mp h
  obtain ⟨target, -, h⟩ := Fold.bind_eq_ok.mp h
  cases source with
  | approval block => cases h
  | loop block nodes edges => cases h
  | task source =>
    cases target with
    | approval block => cases h
    | loop block nodes edges => cases h
    | task target =>
      obtain ⟨sourceBlock, -, h⟩ := Fold.bind_eq_ok.mp h
      obtain ⟨targetBlock, -, h⟩ := Fold.bind_eq_ok.mp h
      split at h
      · cases h
      · split at h
        · cases h
        · obtain ⟨_, -, h⟩ := Fold.bind_eq_ok.mp h
          obtain ⟨_, -, h⟩ := Fold.bind_eq_ok.mp h
          cases h
          exact ⟨rfl, rfl⟩

/-- Planning an edge is planning it by itself, where its input is not yet bound. -/
theorem planEdge_ok_iff {indexed : WorkflowEdge × ℕ} {planned : PlannedEdge} {after : Connected} :
    planEdge host g resolved base indexed connected = .ok (planned, after) ↔
      soleEdge host g resolved base indexed.1 = .ok planned ∧
        after = (inputOf indexed.1).toList ++ connected ∧
        ∀ input ∈ inputOf indexed.1, input ∉ connected := by
  obtain ⟨edge, index⟩ := indexed
  unfold planEdge soleEdge inputOf
  cases hport : edge.sourcePort with
  | none =>
    simp only [hport, Except.ok.injEq, Prod.mk.injEq, Option.map_none, Option.toList_none,
      List.nil_append, Option.mem_def, reduceCtorEq, false_implies, implies_true, and_true]
    exact and_congr_right fun _ => eq_comm
  | some sourcePort =>
    simp only [hport, Option.map_some, Option.toList_some, List.singleton_append, Option.mem_def,
      Option.some.injEq, forall_eq']
    constructor
    · intro h
      obtain ⟨ports, hports, h⟩ := Fold.bind_eq_ok.mp h
      obtain ⟨hsole, hfree⟩ := planPorts_ok_iff.mp hports
      have htarget := (planPorts_targetPort hports).2
      cases h
      exact ⟨Fold.bind_eq_ok.mpr ⟨ports, hsole, rfl⟩, by rw [htarget], hfree⟩
    · rintro ⟨h, rfl, hfree⟩
      obtain ⟨ports, hsole, h⟩ := Fold.bind_eq_ok.mp h
      have htarget := (planPorts_targetPort hsole).2
      cases h
      exact Fold.bind_eq_ok.mpr ⟨ports, planPorts_ok_iff.mpr ⟨hsole, hfree⟩, by rw [htarget]⟩

/-- All edges are planned where each is by itself and no input is bound twice. -/
theorem walk_planEdge_ok_iff {edges : List WorkflowEdge} {k : ℕ} {planned : List PlannedEdge}
    {after : Connected} :
    walk (planEdge host g resolved base) (edges.zipIdx k) connected = .ok (planned, after) ↔
      edges.mapM (soleEdge host g resolved base) = .ok planned ∧
        after = (edges.filterMap inputOf).reverse ++ connected ∧
        (edges.filterMap inputOf).Nodup ∧ ∀ input ∈ edges.filterMap inputOf, input ∉ connected := by
  induction edges generalizing k planned connected with
  | nil =>
    constructor
    · intro h
      cases h
      simp [pure, Except.pure]
    · rintro ⟨h, rfl, -, -⟩
      cases h
      rfl
  | cons edge edges ih =>
    rw [List.zipIdx_cons, walk_cons_eq_ok, List.mapM_cons, List.filterMap_cons]
    constructor
    · rintro ⟨head, middle, rest, hhead, hrest, rfl⟩
      obtain ⟨hsole, rfl, hfree⟩ := planEdge_ok_iff.mp hhead
      obtain ⟨hall, rfl, hnodup, hothers⟩ := ih.mp hrest
      refine ⟨Fold.bind_eq_ok.mpr ⟨head, hsole, Fold.bind_eq_ok.mpr ⟨rest, hall, rfl⟩⟩, ?_⟩
      cases hinput : inputOf edge with
      | none =>
        simp only [hinput, Option.toList_none, List.nil_append] at hothers ⊢
        exact ⟨trivial, hnodup, hothers⟩
      | some input =>
        simp only [hinput, Option.toList_some, List.singleton_append, List.mem_cons, not_or]
          at hothers ⊢
        refine ⟨by simp, List.nodup_cons.mpr ⟨fun hmem => (hothers input hmem).1 rfl, hnodup⟩, ?_⟩
        rintro other (rfl | hother)
        · exact hfree other hinput
        · exact (hothers other hother).2
    · rintro ⟨h, hafter, hnodup, hfree⟩
      obtain ⟨head, hsole, h⟩ := Fold.bind_eq_ok.mp h
      obtain ⟨rest, hall, h⟩ := Fold.bind_eq_ok.mp h
      cases h
      cases hinput : inputOf edge with
      | none =>
        simp only [hinput] at hafter hnodup hfree
        refine ⟨head, connected, rest, planEdge_ok_iff.mpr ⟨hsole, ?_, ?_⟩,
          ih.mpr ⟨hall, hafter, hnodup, hfree⟩, rfl⟩
        · simp [hinput]
        · simp [hinput]
      | some input =>
        simp only [hinput, List.nodup_cons, List.forall_mem_cons] at hafter hnodup hfree
        refine ⟨head, input :: connected, rest, planEdge_ok_iff.mpr ⟨hsole, ?_, ?_⟩,
          ih.mpr ⟨hall, ?_, hnodup.2, ?_⟩, rfl⟩
        · simp [hinput]
        · simpa [hinput] using hfree.1
        · simp [hafter]
        · intro other hother hmem
          obtain rfl | hmem := List.mem_cons.mp hmem
          · exact hnodup.1 hother
          · exact hfree.2 other hother hmem

theorem soleEdge_eq (h : ReorderedGraph g g') (ha : Accepted g) :
    soleEdge host g resolved base = soleEdge host g' resolved base := by
  funext edge
  simp only [soleEdge, planPorts_eq h ha]

/-- The ends and ports of a planned edge. -/
theorem soleEdge_shape {planned : PlannedEdge}
    (h : soleEdge host g resolved base edge = .ok planned) :
    planned.sourcePath = base ++ [edge.source] ∧ planned.targetPath = base ++ [edge.target] ∧
      planned.ports.map EdgePorts.sourcePort = edge.sourcePort ∧
      planned.ports.map EdgePorts.targetPort =
        edge.sourcePort.map fun _ => edge.targetPort.getD noPort := by
  unfold soleEdge at h
  cases hport : edge.sourcePort with
  | none =>
    simp only [hport] at h
    cases h
    exact ⟨rfl, rfl, rfl, rfl⟩
  | some sourcePort =>
    simp only [hport] at h
    obtain ⟨ports, hports, h⟩ := Fold.bind_eq_ok.mp h
    obtain ⟨hsource, htarget⟩ := planPorts_targetPort hports
    cases h
    exact ⟨rfl, rfl, congrArg some hsource, congrArg some htarget⟩

/-- What of an edge its plan depends on. -/
theorem soleEdge_congr {other : WorkflowEdge} (hsource : edge.source = other.source)
    (htarget : edge.target = other.target) (hport : edge.sourcePort = other.sourcePort)
    (htargetPort : (edge.sourcePort.map fun _ => edge.targetPort.getD noPort) =
      other.sourcePort.map fun _ => other.targetPort.getD noPort) :
    soleEdge host g resolved base edge = soleEdge host g resolved base other := by
  unfold soleEdge
  rw [← hport] at htargetPort ⊢
  cases hedge : edge.sourcePort with
  | none => simp only [hsource, htarget]
  | some sourcePort =>
    rw [hedge] at htargetPort
    have hsame : edge.targetPort.getD noPort = other.targetPort.getD noPort :=
      Option.some.inj htargetPort
    simp only [planPorts, hsource, htarget, hsame]

theorem idKey_ne_nil (id : Identifier) : idKey id ≠ [] := by
  intro h
  have hid := id.property
  unfold isEventIdentifier at hid
  rw [show id.val.toList = [] from h] at hid
  cases hid

theorem portKey_injective : Function.Injective portKey := by
  intro a b h
  have hkey : (a.map idKey).getD [] = (b.map idKey).getD [] := (List.cons.inj h).1
  cases a with
  | none =>
    cases b with
    | none => rfl
    | some b => exact absurd hkey.symm (idKey_ne_nil b)
  | some a =>
    cases b with
    | none => exact absurd hkey (idKey_ne_nil a)
    | some b => exact congrArg some (idKey_injective hkey)

theorem edgeKey_inj {edges : List WorkflowEdge} {planned : List PlannedEdge}
    (h : edges.mapM (soleEdge host g resolved base) = .ok planned) :
    ∀ a ∈ planned, ∀ b ∈ planned, edgeKey a = edgeKey b → a = b := by
  intro a ha b hb hkey
  obtain ⟨edge, -, hedge⟩ := (Fold.mem_of_mapM_eq_ok h).mp ha
  obtain ⟨other, -, hother⟩ := (Fold.mem_of_mapM_eq_ok h).mp hb
  obtain ⟨hsource, htarget, hport, htargetPort⟩ := soleEdge_shape hedge
  obtain ⟨hsource', htarget', hport', htargetPort'⟩ := soleEdge_shape hother
  obtain ⟨hsourceKey, hrest⟩ := List.cons.inj hkey
  obtain ⟨htargetKey, hrest⟩ := List.cons.inj hrest
  obtain ⟨hportKey, hrest⟩ := List.cons.inj hrest
  have hpath := List.map_injective_iff.mpr idKey_injective
  have hsources := hpath hsourceKey
  have htargets := hpath htargetKey
  have hports := portKey_injective hportKey
  have htargetPorts := portKey_injective (List.cons.inj hrest).1
  rw [hsource, hsource'] at hsources
  rw [htarget, htarget'] at htargets
  rw [hport, hport'] at hports
  rw [htargetPort, htargetPort'] at htargetPorts
  have hends : edge.source = other.source ∧ edge.target = other.target := by
    simpa using And.intro hsources htargets
  rw [soleEdge_congr hends.1 hends.2 hports htargetPorts, hother] at hedge
  exact (Except.ok.inj hedge).symm

theorem checkInputs_congr {connected' : Connected}
    (hsame : ∀ input, input ∈ connected ↔ input ∈ connected') :
    checkInputs base resolved connected = checkInputs base resolved connected' := by
  simp only [checkInputs, requirePlanned, hsame]

theorem validateDataEdges_reordered (h : ReorderedGraph g g') (ha : Accepted g)
    {planned : List PlannedEdge} (hok : validateDataEdges host base g resolved = .ok planned) :
    validateDataEdges host base g' resolved = .ok planned := by
  obtain ⟨⟨edges, connected⟩, hwalk, hok⟩ := Fold.bind_eq_ok.mp hok
  obtain ⟨_, hinputs, hplanned⟩ := Fold.bind_eq_ok.mp hok
  cases hplanned
  obtain ⟨hall, rfl, hnodup, -⟩ := walk_planEdge_ok_iff.mp hwalk
  have hperm := h.edges.filterMap inputOf
  obtain ⟨edges', hall', hedges⟩ := Fold.mapM_perm h.edges hall
  have hwalk' : walk (planEdge host g' resolved base) g'.edges.zipIdx [] =
      .ok (edges', (g'.edges.filterMap inputOf).reverse ++ []) := by
    refine walk_planEdge_ok_iff.mpr ⟨?_, rfl, hperm.nodup_iff.mp hnodup, by simp⟩
    rw [← soleEdge_eq h ha]
    exact hall'
  refine Fold.bind_eq_ok.mpr ⟨_, hwalk', Fold.bind_eq_ok.mpr ⟨(), ?_, ?_⟩⟩
  · rw [← hinputs]
    refine checkInputs_congr fun input => ?_
    simp only [List.append_nil, List.mem_reverse]
    exact hperm.mem_iff.symm
  · rw [sortBy_eq_of_perm (edgeKey_inj hall) hedges]

/-! Nodes and graphs. -/

variable {planBody : PlanGraph} {state after : PlannerState} {planned : PlannedNode}

theorem planNode_reordered (h : ReorderedGraph g g') (ha : Accepted g)
    (hbody : ∀ block nodes edges nodes' edges', .loop block nodes edges ∈ g.nodes →
      ReorderedGraph ⟨nodes, edges⟩ ⟨nodes', edges'⟩ → ∀ base state r,
      planBody base ⟨nodes, edges⟩ state = .ok r → planBody base ⟨nodes', edges'⟩ state = .ok r)
    (hok : planNode context planBody base g resolved id state = .ok (planned, after)) :
    planNode context planBody base g' resolved id state = .ok (planned, after) := by
  obtain ⟨node, hnode, hplan⟩ := Fold.bind_eq_ok.mp hok
  obtain ⟨node', hnode', hsame⟩ := find_reordered h ha (required_ok.mp hnode)
  refine Fold.bind_eq_ok.mpr ⟨node', required_ok.mpr hnode', ?_⟩
  cases hsame with
  | task task =>
    have hpaths := dependencyPaths_eq base h task.id
    simp only [planTask, hpaths] at hplan ⊢
    exact hplan
  | approval approval =>
    have hpaths := dependencyPaths_eq base h approval.id
    simp only [planApproval, hpaths] at hplan ⊢
    exact hplan
  | loop loop hnodes hedges =>
    have hmem := (findBy_mem (required_ok.mp hnode)).1
    obtain ⟨condition, hcondition, hplan⟩ := Fold.bind_eq_ok.mp hplan
    obtain ⟨body, hbodyPlan, hplan⟩ := Fold.bind_eq_ok.mp hplan
    refine Fold.bind_eq_ok.mpr ⟨condition, hcondition, Fold.bind_eq_ok.mpr ⟨body, ?_, ?_⟩⟩
    · exact hbody loop _ _ _ _ hmem ⟨hnodes, hedges⟩ _ _ _ hbodyPlan
    · rw [← dependencyPaths_eq base h]
      exact hplan

/-- The graphs in a reordered graph are those in the graph, reordered. -/
theorem graphIn_reordered {inner' : WorkflowGraph} (hin : GraphIn inner' g') (h : ReorderedGraph g g') :
    ∃ inner, GraphIn inner g ∧ ReorderedGraph inner inner' := by
  induction hin generalizing g with
  | here => exact ⟨g, .here, h⟩
  | body hloop _ ih =>
    obtain ⟨node, hnode, hsame⟩ := h.symm.nodes.mem _ hloop
    cases hsame with
    | loop block hnodes hedges =>
      have hback : ReorderedGraph ⟨_, _⟩ ⟨_, _⟩ := ⟨hnodes.symm, hedges.symm⟩
      obtain ⟨inner, hinner, hsame⟩ := ih hback
      exact ⟨inner, .body hnode hinner, hsame⟩

theorem accepted_graphIn (h : ReorderedGraph g g') (ha : ∀ inner, GraphIn inner g → Accepted inner) :
    ∀ inner, GraphIn inner g' → Accepted inner := by
  intro inner' hin
  obtain ⟨inner, hinner, hsame⟩ := graphIn_reordered hin h
  exact accepted_reordered hsame (ha inner hinner)

/-- A reordered graph is planned in the same way. -/
theorem planGraph_reordered {room : ℕ} {r : PlannedGraph × PlannerState} (h : ReorderedGraph g g')
    (ha : ∀ inner, GraphIn inner g → Accepted inner)
    (hok : planGraph context room base g state = .ok r) :
    planGraph context room base g' state = .ok r := by
  induction room generalizing base g g' state r with
  | zero => cases hok
  | succ room ih =>
    have hg := ha g .here
    have hlength : g'.nodes.length = g.nodes.length := by
      simpa using h.nodes.ids.length_eq.symm
    obtain ⟨_, hcount, hok⟩ := Fold.bind_eq_ok.mp hok
    obtain ⟨resolved, hresolved, hok⟩ := Fold.bind_eq_ok.mp hok
    obtain ⟨edges, hedges, hok⟩ := Fold.bind_eq_ok.mp hok
    obtain ⟨ids, hids, hok⟩ := Fold.bind_eq_ok.mp hok
    obtain ⟨⟨planned, final⟩, hwalk, hok⟩ := Fold.bind_eq_ok.mp hok
    have hcount' : requirePlanned (state.nodeCount + g'.nodes.length ≤ context.limits.maxNodes)
        (.blocked "node-limit" (nodePointer base)
          ("workflow exceeds the M0 node limit of " ++ toString context.limits.maxNodes)) =
        .ok () := by
      rw [hlength]
      exact hcount
    have hids' : topologicalStages g' = .ok ids := by
      rw [topologicalStages_of_accepted (accepted_reordered h hg), ← stages_eq h hg,
        ← topologicalStages_of_accepted hg]
      exact hids
    have hbody : ∀ block nodes edges nodes' edges', .loop block nodes edges ∈ g.nodes →
        ReorderedGraph ⟨nodes, edges⟩ ⟨nodes', edges'⟩ → ∀ base state r,
        planGraph context room base ⟨nodes, edges⟩ state = .ok r →
        planGraph context room base ⟨nodes', edges'⟩ state = .ok r :=
      fun _ _ _ _ _ hloop hsame _ _ _ => ih hsame fun inner hin => ha inner (.body hloop hin)
    have hstage : ∀ indexed ∈ ids.zipIdx, ∀ u stage v,
        planStage context (planGraph context room) base g resolved indexed u = .ok (stage, v) →
        planStage context (planGraph context room) base g' resolved indexed u = .ok (stage, v) := by
      intro indexed _ u stage v hplan
      obtain ⟨⟨nodes, w⟩, hnodes, hplan⟩ := Fold.bind_eq_ok.mp hplan
      refine Fold.bind_eq_ok.mpr ⟨(nodes, w), walk_congr (fun id _ u node v => ?_) hnodes, hplan⟩
      exact planNode_reordered h hg hbody
    refine Fold.bind_eq_ok.mpr ⟨(), hcount', Fold.bind_eq_ok.mpr ⟨resolved, ?_,
      Fold.bind_eq_ok.mpr ⟨edges, validateDataEdges_reordered h hg hedges,
        Fold.bind_eq_ok.mpr ⟨ids, hids', Fold.bind_eq_ok.mpr ⟨(planned, final), ?_, hok⟩⟩⟩⟩⟩
    · rw [← resolveTasks_eq h hg]
      exact hresolved
    · rw [hlength]
      exact walk_congr hstage hwalk

end ResearchOs.Planning
