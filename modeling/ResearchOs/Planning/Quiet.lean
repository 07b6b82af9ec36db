import Mathlib.Tactic.Abel
import Mathlib.Tactic.Tauto
import ResearchOs.Planning.DryRun
import ResearchOs.Planning.Staging
import ResearchOs.Core.Spec.Reordering

/-! Planning a graph of texts and exact integers does not raise. -/
namespace ResearchOs.Planning

open Blocks (BlockRegistry RegisteredBlock)
open Jcs (areSafeMembers isSafe)
open SortBy Walk
open Spec (Identifier LoopBlock TaskBlock WorkflowEdge WorkflowGraph WorkflowNode)

variable {α β : Type} {host : Host} {context : PlannerContext} {planBody : PlanGraph}
  {base : NodePath} {g : WorkflowGraph} {resolved : Resolved} {id : Identifier}
  {state after : PlannerState} {node : PlannedNode} {stage : PlanStage} {planned : PlannedGraph}
  {room : ℕ} {indexed : List Identifier × ℕ}

/-! Counts. -/

def PlannerState.counts (state : PlannerState) : Counts :=
  (state.taskCount, state.approvalCount, state.loopCount, state.stageCount)

theorem enterLoop_counts {path : NodePath} {loop : LoopBlock} :
    (enterLoop context path loop state).counts = state.counts + (0, 0, 1, 0) := rfl

theorem planNode_counts
    (hbody : ∀ base g state planned after, planBody base g state = .ok (planned, after) →
      after.counts = state.counts + planned.counts)
    (h : planNode context planBody base g resolved id state = .ok (node, after)) :
    after.counts = state.counts + node.counts := by
  obtain ⟨source, -, hplan⟩ := Fold.bind_eq_ok.mp h
  cases source with
  | task task =>
    obtain ⟨planned, rfl, -, -, rfl⟩ := planTask_ok hplan
    rfl
  | approval approval =>
    obtain ⟨planned, rfl, -, -, rfl⟩ := planApproval_ok hplan
    rfl
  | loop loop nodes edges =>
    obtain ⟨planned, body, rfl, -, -, hbodyPlan⟩ := planLoop_ok hplan
    rw [hbody _ _ _ _ _ hbodyPlan, enterLoop_counts, PlannedNode.counts, add_assoc]

/-- The counters of the planner are the counts of the graphs that it has planned. -/
theorem planGraph_counts (h : planGraph context room base g state = .ok (planned, after)) :
    after.counts = state.counts + planned.counts := by
  induction room generalizing base g state planned after with
  | zero => cases h
  | succ room ih =>
    obtain ⟨resolved, edges, final, -, -, -, -, -, -, hwalk, rfl⟩ := planGraph_ok h
    obtain ⟨stages, edges⟩ := planned
    have hwhole : final.counts + (0, 0, 0, stages.length) = state.counts + stagesCounts stages := by
      refine walk_induction (P := fun stages before after =>
        after.counts + (0, 0, 0, stages.length) = before.counts + stagesCounts stages)
        (fun s => rfl) ?_ hwalk
      intro indexed _ stage stages s u t hstage hrest
      obtain ⟨⟨nodes, w⟩, hnodes, hstage⟩ := Fold.bind_eq_ok.mp hstage
      obtain ⟨_, -, hstage⟩ := Fold.bind_eq_ok.mp hstage
      cases hstage
      have hcounts : u.counts = s.counts + nodesCounts nodes := by
        refine walk_induction (P := fun nodes before after =>
          after.counts = before.counts + nodesCounts nodes) (fun s => (add_zero _).symm) ?_ hnodes
        intro id _ node nodes s u t hnode hrest
        rw [hrest, planNode_counts (fun _ _ _ _ _ => ih) hnode, nodesCounts, add_assoc]
      calc t.counts + (0, 0, 0, (PlanStage.mk indexed.2 nodes :: stages).length)
          = t.counts + (0, 0, 0, stages.length) + (0, 0, 0, 1) := rfl
        _ = s.counts + stagesCounts (.mk indexed.2 nodes :: stages) := by
          rw [hrest, hcounts, stagesCounts, PlanStage.counts]
          abel
    exact hwhole

/-! Computations that do not raise: they end in a value or in a planning error. -/

def Quiet (x : Except PlanningFailure α) : Prop := ∀ message, x ≠ .error (.raised message)

theorem quiet_ok {x : Except PlanningFailure α} {a : α} (h : x = .ok a) : Quiet x := by
  rintro message rfl
  cases h

theorem Quiet.bind {x : Except PlanningFailure α} {k : α → Except PlanningFailure β} (h : Quiet x)
    (hk : ∀ a, x = .ok a → Quiet (k a)) : Quiet (x >>= k) := by
  intro message herror
  obtain herror | ⟨a, ha, herror⟩ := Fold.bind_eq_error.mp herror
  · exact h message herror
  · exact hk a ha message herror

theorem quiet_input (code path message : String) :
    Quiet (.error (.input code path message) : Except PlanningFailure α) := by
  intro other h
  cases h

theorem quiet_blocked (code path message : String) :
    Quiet (.error (.blocked code path message) : Except PlanningFailure α) := by
  intro other h
  cases h

theorem quiet_requirePlanned {condition : Prop} [Decidable condition] {failure : PlanningFailure}
    (h : condition ∨ ∀ message, failure ≠ .raised message) :
    Quiet (requirePlanned condition failure) := by
  by_cases hcondition : condition
  · exact quiet_ok (a := ()) (requirePlanned_ok.mpr hcondition)
  · obtain h | h := h
    · exact absurd h hcondition
    · intro message herror
      rw [requirePlanned, if_neg hcondition] at herror
      exact h message (Except.error.inj herror)

theorem quiet_forM {f : α → Except PlanningFailure PUnit} {xs : List α} (h : ∀ x ∈ xs, Quiet (f x)) :
    Quiet (xs.forM f) := by
  induction xs with
  | nil => exact quiet_ok rfl
  | cons x xs ih =>
    exact Quiet.bind (h x List.mem_cons_self) fun _ _ =>
      ih fun y hy => h y (List.mem_cons_of_mem x hy)

theorem quiet_mapM {f : α → Except PlanningFailure β} {xs : List α} (h : ∀ x ∈ xs, Quiet (f x)) :
    Quiet (xs.mapM f) := by
  intro message herror
  obtain ⟨x, hx, hfx⟩ := Fold.mapM_eq_error herror
  exact h x hx message hfx

theorem quiet_walk {σ : Type} {f : α → σ → Except PlanningFailure (β × σ)} {xs : List α} {s : σ}
    (h : ∀ x ∈ xs, ∀ u, Quiet (f x u)) : Quiet (walk f xs s) := by
  intro message herror
  obtain ⟨x, hx, u, hfx⟩ := exists_of_walk_error herror
  exact h x hx u message hfx

theorem digestOf_ok (context : PlannerContext) {value : Json} (h : isSafe value = true) :
    ∃ digest, digestOf context value = .ok digest := by
  obtain ⟨digest, hdigest⟩ := (Jcs.contentDigest_ok_iff (F := context.host.floatText) value).mpr h
  exact ⟨digest, by rw [digestOf, hdigest, raising]⟩

theorem quiet_digestOf {value : Json} (h : isSafe value = true) : Quiet (digestOf context value) := by
  obtain ⟨digest, hdigest⟩ := digestOf_ok context h
  exact quiet_ok hdigest

/-! What of a spec that can be written is written in a plan. -/

def SafeNodes (nodes : List WorkflowNode) : Prop :=
  ∀ node ∈ nodes, isSafe (node.dump false) = true

theorem safeNodes_of_graphDump {nodes : List WorkflowNode} (edges : List WorkflowEdge)
    (h : isSafe (Spec.graphDump false (Spec.nodeDumps false nodes) edges) = true) :
    SafeNodes nodes := by
  simp only [Spec.graphDump, isSafe, areSafeMembers, Bool.and_eq_true] at h
  intro node hnode
  refine Spec.areSafeItems_iff.mp h.1 _ ?_
  rw [Spec.nodeDumps_eq_map]
  exact List.mem_map_of_mem hnode

theorem safe_config {task : TaskBlock} (h : isSafe ((WorkflowNode.task task).dump false) = true) :
    isSafe (.obj task.config.val) = true := by
  simp only [WorkflowNode.dump, TaskBlock.dump, isSafe, areSafeMembers, Bool.and_eq_true] at h
  simp only [isSafe]
  tauto

/-- A field that may be missing, in what is written. -/
theorem areSafe_optional (key : String) {encode : α → Json} {value : Option α} :
    areSafeMembers (Spec.optional false key encode value) = true ↔
      ∀ a ∈ value, isSafe (encode a) = true := by
  cases value <;> simp [Spec.optional, areSafeMembers]

theorem safe_loop {loop : LoopBlock} {nodes : List WorkflowNode} {edges : List WorkflowEdge}
    (h : isSafe ((WorkflowNode.loop loop nodes edges).dump false) = true) :
    SafeNodes nodes ∧ isSafe (Spec.positive loop.maxIterations) = true ∧
      ∀ seconds ∈ loop.maxWallTimeSeconds, isSafe (Spec.positive seconds) = true := by
  simp only [WorkflowNode.dump, LoopBlock.dump, isSafe, Spec.areSafeMembers_append,
    areSafeMembers, areSafe_optional, Bool.and_eq_true] at h
  refine ⟨safeNodes_of_graphDump edges ?_, ?_, ?_⟩
  · tauto
  · tauto
  · tauto

/-! Planning does not raise. -/

theorem quiet_translated {x : Except Blocks.RegistryError α}
    (h : ∀ message, x ≠ .error (.raised message)) : Quiet (translated base x) := by
  rintro message herror
  cases x with
  | ok a => cases herror
  | error e =>
    cases e with
    | unknownBlock message => cases herror
    | blockConfig message => cases herror
    | raised message => exact h message rfl

theorem validateConfig_ne_raised {block : RegisteredBlock} {config : Spec.JsonObject}
    (h : isSafe (.obj config.val) = true) (message : String) :
    BlockRegistry.validateConfig host.floatText host.violatedRule block config ≠
      .error (.raised message) := by
  obtain ⟨text, htext⟩ := (Jcs.canonicalJson_ok_iff (F := host.floatText) _).mpr h
  unfold BlockRegistry.validateConfig
  rw [htext]
  split
  · rename_i herror
    cases herror
  · split_ifs
    · simp
    · split
      · simp
      · split <;> simp

theorem resolve_ne_raised (registry : BlockRegistry) (blockId version message : String) :
    registry.resolve blockId version ≠ .error (.raised message) := by
  unfold BlockRegistry.resolve
  split <;> simp

theorem mem_tasks_iff {task : TaskBlock} :
    task ∈ (sortBy (fun node => idKey node.id) g.nodes).filterMap asTask ↔ .task task ∈ g.nodes := by
  rw [List.mem_filterMap]
  constructor
  · rintro ⟨node, hnode, htask⟩
    cases node with
    | task block =>
      cases htask
      exact mem_sortBy.mp hnode
    | approval block => cases htask
    | loop block nodes edges => cases htask
  · intro h
    exact ⟨_, mem_sortBy.mpr h, rfl⟩

theorem quiet_resolveTasks (hsafe : SafeNodes g.nodes) : Quiet (resolveTasks context base g) := by
  refine quiet_mapM fun task htask => ?_
  have hconfig := safe_config (hsafe _ (mem_tasks_iff.mp htask))
  refine Quiet.bind (quiet_translated (resolve_ne_raised _ _ _)) fun block _ => ?_
  exact Quiet.bind (quiet_translated (validateConfig_ne_raised hconfig)) fun _ _ => quiet_ok rfl

/-- Every task of the graph has its block. -/
theorem exists_blockOf (h : resolveTasks context base g = .ok resolved) {task : TaskBlock}
    (htask : .task task ∈ g.nodes) : ∃ block, blockOf resolved task.id = .ok block := by
  have hall := Fold.mapM_eq_ok.mp h
  obtain ⟨entry, hentry, hresolve⟩ := Fold.exists_of_mem_right hall.flip (mem_tasks_iff.mpr htask)
  obtain ⟨block, -, hresolve⟩ := Fold.bind_eq_ok.mp hresolve
  obtain ⟨_, -, hresolve⟩ := Fold.bind_eq_ok.mp hresolve
  cases hresolve
  have hsome : (findBy Prod.fst resolved task.id).isSome = true :=
    findBy_isSome.mpr (List.mem_map.mpr ⟨_, hentry, rfl⟩)
  obtain ⟨found, hfound⟩ := Option.isSome_iff_exists.mp hsome
  exact ⟨found.2, by rw [blockOf, hfound]; rfl⟩

theorem exists_nodeById (h : id ∈ g.ids) : ∃ node, nodeById g id = .ok node := by
  obtain ⟨node, hnode⟩ := Option.isSome_iff_exists.mp (findBy_isSome.mpr h)
  exact ⟨node, required_ok.mpr hnode⟩

theorem quiet_planPorts {path : List String} {edge : WorkflowEdge}
    {sourcePort targetPort : Identifier} {connected : Connected}
    (hknown : edge.source ∈ g.ids ∧ edge.target ∈ g.ids)
    (h : resolveTasks context base g = .ok resolved) :
    Quiet (planPorts host g resolved path edge sourcePort targetPort connected) := by
  obtain ⟨source, hsource⟩ := exists_nodeById hknown.1
  obtain ⟨target, htarget⟩ := exists_nodeById hknown.2
  refine Quiet.bind (quiet_ok hsource) fun source hsource => ?_
  refine Quiet.bind (quiet_ok htarget) fun target htarget => ?_
  cases source with
  | approval block => exact quiet_blocked _ _ _
  | loop block nodes edges => exact quiet_blocked _ _ _
  | task source =>
    cases target with
    | approval block => exact quiet_blocked _ _ _
    | loop block nodes edges => exact quiet_blocked _ _ _
    | task target =>
      obtain ⟨block, hblock⟩ := exists_blockOf h (nodeById_ok hsource).1
      obtain ⟨other, hother⟩ := exists_blockOf h (nodeById_ok htarget).1
      refine Quiet.bind (quiet_ok hblock) fun sourceBlock _ => ?_
      refine Quiet.bind (quiet_ok hother) fun targetBlock _ => ?_
      split
      · exact quiet_blocked _ _ _
      · split
        · exact quiet_blocked _ _ _
        · refine Quiet.bind (quiet_requirePlanned (.inr (by simp))) fun _ _ => ?_
          exact Quiet.bind (quiet_requirePlanned (.inr (by simp))) fun _ _ => quiet_ok rfl

theorem quiet_validateDataEdges (hknown : Known g)
    (h : resolveTasks context base g = .ok resolved) :
    Quiet (validateDataEdges host base g resolved) := by
  refine Quiet.bind (quiet_walk fun indexed hindexed connected => ?_) fun walked _ => ?_
  · have hedge : indexed.1 ∈ g.edges := by
      have hmem := List.mem_map_of_mem (f := Prod.fst) hindexed
      rwa [List.zipIdx_map_fst] at hmem
    simp only [planEdge]
    split
    · exact quiet_ok rfl
    · exact Quiet.bind (quiet_planPorts (hknown _ hedge) h) fun _ _ => quiet_ok rfl
  · refine Quiet.bind (quiet_forM fun task _ => quiet_forM fun port _ => ?_) fun _ _ => quiet_ok rfl
    exact quiet_requirePlanned (.inr (by simp))

theorem quiet_planNode (hsafe : SafeNodes g.nodes) (hid : id ∈ g.ids)
    (h : resolveTasks context base g = .ok resolved)
    (hbody : ∀ block nodes edges, .loop block nodes edges ∈ g.nodes → ∀ base state,
      Quiet (planBody base ⟨nodes, edges⟩ state)) :
    Quiet (planNode context planBody base g resolved id state) := by
  obtain ⟨node, hnode⟩ := exists_nodeById hid
  refine Quiet.bind (quiet_ok hnode) fun node hnode => ?_
  have hmem := (nodeById_ok hnode).1
  cases node with
  | task task =>
    obtain ⟨block, hblock⟩ := exists_blockOf h hmem
    refine Quiet.bind (quiet_ok hblock) fun block _ => ?_
    exact Quiet.bind (quiet_digestOf (safe_config (hsafe _ hmem))) fun _ _ => quiet_ok rfl
  | approval approval =>
    exact Quiet.bind (quiet_digestOf rfl) fun _ _ => quiet_ok rfl
  | loop loop nodes edges =>
    refine Quiet.bind ?_ fun condition _ => ?_
    · unfold planCondition
      split
      · exact quiet_ok rfl
      · exact Quiet.bind (quiet_digestOf rfl) fun _ _ => quiet_ok rfl
    · exact Quiet.bind (hbody loop nodes edges hmem _ _) fun _ _ => quiet_ok rfl

theorem planGraph_quiet (hg : g.validate = .ok ()) (hsafe : SafeNodes g.nodes) :
    Quiet (planGraph context room base g state) := by
  induction room generalizing base g state with
  | zero => exact quiet_blocked _ _ _
  | succ room ih =>
    have haccepted := accepted_of_validate hg
    refine Quiet.bind (quiet_requirePlanned (.inr (by simp))) fun _ _ => ?_
    refine Quiet.bind (quiet_resolveTasks hsafe) fun resolved hresolved => ?_
    refine Quiet.bind (quiet_validateDataEdges haccepted.known hresolved) fun edges _ => ?_
    refine Quiet.bind (quiet_ok (topologicalStages_of_accepted haccepted)) fun ids hids => ?_
    rw [topologicalStages_of_accepted haccepted] at hids
    cases hids
    have hstage : ∀ indexed ∈ (stages g).zipIdx, indexed.1 ∈ stages g := by
      intro indexed hindexed
      have hmem := List.mem_map_of_mem (f := Prod.fst) hindexed
      rwa [List.zipIdx_map_fst] at hmem
    refine Quiet.bind (quiet_walk fun indexed hindexed u => ?_) fun walked hwalked => ?_
    · have hin := hstage indexed hindexed
      refine Quiet.bind (quiet_walk fun id hid u => ?_) fun nodes hnodes => ?_
      · refine quiet_planNode hsafe ?_ hresolved fun block nodes edges hloop base state => ?_
        · exact (stages_perm haccepted).mem_iff.mp (List.mem_flatten.mpr ⟨_, hin, hid⟩)
        · exact ih (validate_body hg hloop) (safe_loop (hsafe _ hloop)).1
      · refine Quiet.bind (quiet_requirePlanned (.inl ?_)) fun _ _ => quiet_ok rfl
        have hlength := (forall₂_of_walk hnodes).length_eq
        intro hnil
        rw [hnil] at hlength
        exact stages_ne_nil haccepted hin (List.length_eq_zero_iff.mp hlength)
    · refine Quiet.bind (quiet_requirePlanned (.inl ?_)) fun _ _ => quiet_ok rfl
      have hlength := (forall₂_of_walk hwalked).length_eq
      intro hnil
      rw [hnil, List.length_zipIdx] at hlength
      have hempty : stages g = [] := List.length_eq_zero_iff.mp hlength
      have hperm := stages_perm haccepted
      rw [hempty] at hperm
      simp only [WorkflowGraph.validate, Spec.requireSpec_bind_ok] at hg
      exact hg.1 (List.map_eq_nil_iff.mp hperm.symm.eq_nil)

end ResearchOs.Planning
