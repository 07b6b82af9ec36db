import Mathlib.Tactic.Tauto
import ResearchOs.Planning.Quiet
import ResearchOs.Planning.Requirements

/-! When a dry run ends in a report or a planning input error, and in nothing else. -/
namespace ResearchOs.Planning

open Blocks (BlockRegistry)
open Jcs (areSafeItems areSafeMembers isSafe)
open SortBy Walk
open Spec (Identifier ResearchSpec ResourceSpec WorkflowGraph WorkflowNode WorkflowSpec)

variable {α : Type} {host : Host} {context : PlannerContext} {planBody : PlanGraph}
  {base : NodePath} {g : WorkflowGraph} {resolved : Resolved} {id : Identifier}
  {state after : PlannerState} {node : PlannedNode} {planned : PlannedGraph} {room : ℕ}

/-! The plan of a spec that can be written can be written. -/

theorem isSafe_scalars {p : String → Bool} (values : List (Checked p)) :
    isSafe (Spec.scalars values) = true := by
  refine Spec.areSafeItems_iff.mpr fun item hitem => ?_
  obtain ⟨value, -, rfl⟩ := List.mem_map.mp hitem
  rfl

theorem isSafe_strings (values : List String) : isSafe (strings values) = true := by
  refine Spec.areSafeItems_iff.mpr fun item hitem => ?_
  obtain ⟨value, -, rfl⟩ := List.mem_map.mp hitem
  rfl

theorem isSafe_scalar {p : String → Bool} (value : Checked p) : isSafe (Spec.scalar value) = true :=
  rfl

theorem isSafe_index {n : ℕ} (h : n ≤ 10000) : isSafe (.int n) = true := by
  have hlarge : (10000 : ℤ) ≤ Jcs.safeInteger := by decide
  simp only [isSafe, decide_eq_true_eq]
  omega

theorem isSafe_edge (edge : PlannedEdge) : isSafe edge.dump = true := by
  unfold PlannedEdge.dump
  cases edge.ports <;>
    simp only [isSafe, areSafeMembers, isSafe_scalars, isSafe_scalar, Bool.and_self]

theorem areSafe_plannedNodes {nodes : List PlannedNode}
    (h : ∀ node ∈ nodes, isSafe node.dump = true) : areSafeItems (plannedNodeDumps nodes) = true := by
  induction nodes with
  | nil => rfl
  | cons node nodes ih =>
    obtain ⟨hnode, hnodes⟩ := List.forall_mem_cons.mp h
    simp only [plannedNodeDumps, areSafeItems, hnode, ih hnodes, Bool.and_self]

theorem areSafe_stages {stages : List PlanStage}
    (h : ∀ stage ∈ stages, isSafe stage.dump = true) : areSafeItems (stageDumps stages) = true := by
  induction stages with
  | nil => rfl
  | cons stage stages ih =>
    obtain ⟨hstage, hstages⟩ := List.forall_mem_cons.mp h
    simp only [stageDumps, areSafeItems, hstage, ih hstages, Bool.and_self]

theorem planNode_safe (hsafe : SafeNodes g.nodes)
    (hbody : ∀ block nodes edges, .loop block nodes edges ∈ g.nodes → ∀ base state planned after,
      planBody base ⟨nodes, edges⟩ state = .ok (planned, after) → isSafe planned.dump = true)
    (h : planNode context planBody base g resolved id state = .ok (node, after)) :
    isSafe node.dump = true := by
  obtain ⟨source, hsource, hplan⟩ := Fold.bind_eq_ok.mp h
  have hmem := (nodeById_ok hsource).1
  cases source with
  | task task =>
    obtain ⟨planned, rfl, -⟩ := planTask_ok hplan
    simp only [PlannedNode.dump, PlannedTask.dump, ResolvedBlock.dump, isSafe, areSafeMembers,
      isSafe_scalars, isSafe_scalar, isSafe_strings, Bool.and_self]
  | approval approval =>
    obtain ⟨planned, rfl, -⟩ := planApproval_ok hplan
    simp only [PlannedNode.dump, PlannedApproval.dump, isSafe, areSafeMembers, isSafe_scalars,
      isSafe_scalar, isSafe_strings, Bool.and_self]
  | loop loop nodes edges =>
    obtain ⟨-, hiterations, hseconds⟩ := safe_loop (hsafe _ hmem)
    obtain ⟨condition, -, hplan⟩ := Fold.bind_eq_ok.mp hplan
    obtain ⟨⟨body, final⟩, hbodyPlan, hplan⟩ := Fold.bind_eq_ok.mp hplan
    have hsafeBody := hbody loop nodes edges hmem _ _ _ _ hbodyPlan
    cases hplan
    have htime := (areSafe_optional "maxWallTimeSeconds").mpr hseconds
    have hcost : areSafeMembers (Spec.optional false "maxCost" Spec.scalar loop.maxCost) = true :=
        (areSafe_optional "maxCost").mpr fun _ _ => rfl
    have hcondition : areSafeMembers (Spec.optional false "until" conditionDump condition) = true :=
      (areSafe_optional "until").mpr fun _ _ => rfl
    simp only [PlannedNode.dump, PlannedLoop.dump, isSafe, Spec.areSafeMembers_append,
      areSafeMembers, isSafe_scalars, isSafe_scalar, isSafe_strings, hiterations, htime, hcost,
      hcondition, hsafeBody, Bool.and_self]

theorem length_le_flatten {xss : List (List α)} (h : ∀ xs ∈ xss, xs ≠ []) :
    xss.length ≤ xss.flatten.length := by
  induction xss with
  | nil => exact Nat.le_refl 0
  | cons xs xss ih =>
    obtain ⟨hxs, hxss⟩ := List.forall_mem_cons.mp h
    have hpos := List.length_pos_of_ne_nil hxs
    have hrest := ih hxss
    rw [List.length_cons, List.flatten_cons, List.length_append]
    omega

theorem planGraph_safe (hg : g.validate = .ok ()) (hsafe : SafeNodes g.nodes)
    (h : planGraph context room base g state = .ok (planned, after)) :
    isSafe planned.dump = true := by
  induction room generalizing base g state planned after with
  | zero => cases h
  | succ room ih =>
    obtain ⟨resolved, edges, final, -, -, -, hcount, -, -, hwalk, -⟩ := planGraph_ok h
    have haccepted := accepted_of_validate hg
    have hstages : (stages g).length ≤ 10000 := by
      have hle := length_le_flatten fun _ hstage => stages_ne_nil haccepted hstage
      have hperm := (stages_perm haccepted).length_eq
      rw [WorkflowGraph.ids, List.length_map] at hperm
      have hlimit := context.limits.maxNodes_bounds.2
      omega
    have hall := forall₂_of_walk hwalk
    have hstage : ∀ stage ∈ planned.stages, isSafe stage.dump = true := by
      intro stage hstage
      obtain ⟨indexed, hindexed, u, v, hplan⟩ := Fold.exists_of_mem_right hall hstage
      obtain ⟨⟨nodes, w⟩, hnodes, hplan⟩ := Fold.bind_eq_ok.mp hplan
      obtain ⟨_, -, hplan⟩ := Fold.bind_eq_ok.mp hplan
      cases hplan
      have hindex := List.snd_lt_of_mem_zipIdx hindexed
      have hnode : ∀ node ∈ nodes, isSafe node.dump = true := by
        intro node hnode
        obtain ⟨id, -, _, _, hnodePlan⟩ :=
          Fold.exists_of_mem_right (forall₂_of_walk hnodes) hnode
        refine planNode_safe hsafe (fun block inner edges hloop _ _ _ _ hbody => ?_) hnodePlan
        exact ih (validate_body hg hloop) (safe_loop (hsafe _ hloop)).1 hbody
      simp only [PlanStage.dump, isSafe, areSafeMembers, areSafe_plannedNodes hnode,
        Bool.and_true]
      exact isSafe_index (by omega)
    obtain ⟨planStages, planEdges⟩ := planned
    have hdumps : areSafeItems (stageDumps planStages) = true := areSafe_stages hstage
    have hedges : areSafeItems (planEdges.map PlannedEdge.dump) = true := by
      refine Spec.areSafeItems_iff.mpr fun item hitem => ?_
      obtain ⟨edge, -, rfl⟩ := List.mem_map.mp hitem
      exact isSafe_edge edge
    simp only [PlannedGraph.dump, isSafe, areSafeMembers, hdumps, hedges, Bool.and_self]

/-- The parts of a spec that go into a plan. -/
theorem safe_parts {spec : ResearchSpec} (h : isSafe (spec.dump false) = true) :
    isSafe (Spec.positive spec.metadata.revision) = true ∧
      (∀ workflow ∈ spec.workflows, SafeNodes workflow.graph.nodes) ∧
      ∀ resource ∈ spec.resources, isSafe (resource.dump false) = true := by
  simp only [ResearchSpec.dump, isSafe, areSafeMembers, Bool.and_eq_true] at h
  obtain ⟨-, -, hmetadata, -, -, -, -, -, hworkflows, -, hresources, -⟩ := h
  refine ⟨?_, fun workflow hworkflow => ?_, fun resource hresource => ?_⟩
  · simp only [Spec.ProjectMetadata.dump, isSafe, Spec.areSafeMembers_append, areSafeMembers,
      Bool.and_eq_true] at hmetadata
    tauto
  · have hdump := Spec.areSafeItems_iff.mp hworkflows _ (List.mem_map_of_mem hworkflow)
    simp only [WorkflowSpec.dump, isSafe, areSafeMembers, Bool.and_eq_true] at hdump
    exact safeNodes_of_graphDump workflow.graph.edges hdump.2.1
  · exact Spec.areSafeItems_iff.mp hresources _ (List.mem_map_of_mem hresource)

theorem areSafe_ofPairs {pairs : Json.Members} (h : ∀ pair ∈ pairs, isSafe pair.2 = true) :
    areSafeMembers (Json.ofPairs pairs) = true :=
  Spec.areSafeMembers_iff.mpr fun pair hpair => h pair (Json.mem_ofPairs hpair)

theorem isSafe_plan {plan : ExecutionPlan}
    (hrevision : isSafe (Spec.positive plan.project.revision) = true)
    (hresources : ∀ resource ∈ plan.resources, isSafe resource.dump = true)
    (hgraph : isSafe plan.graph.dump = true) : isSafe plan.semanticDump = true := by
  have hitems : areSafeItems (plan.resources.map PlannedResource.dump) = true := by
    refine Spec.areSafeItems_iff.mpr fun item hitem => ?_
    obtain ⟨resource, hresource, rfl⟩ := List.mem_map.mp hitem
    exact hresources resource hresource
  have hrequirements :
      areSafeItems (plan.policyRequirements.map PolicyRequirement.dump) = true := by
    refine Spec.areSafeItems_iff.mpr fun item hitem => ?_
    obtain ⟨requirement, -, rfl⟩ := List.mem_map.mp hitem
    rfl
  simp only [ExecutionPlan.semanticDump, ProjectRef.dump, isSafe, areSafeMembers, isSafe_scalar,
    hrevision, hitems, hrequirements, hgraph, Bool.and_self]

/-! The used resources are found. -/

theorem exists_task_of_resource {policy : Bool} {nodes : List WorkflowNode}
    (h : id ∈ (graphNeeds policy base nodes).filterMap Need.resource?) :
    ∃ task, Spec.Within (.task task) nodes ∧ id ∈ task.resourceRefs := by
  induction nodes using Spec.nodes_induction generalizing base with
  | nil => exact absurd h List.not_mem_nil
  | task task nodes ih =>
    rw [graphNeeds, List.filterMap_append, List.mem_append] at h
    obtain h | h := h
    · refine ⟨task, .here List.mem_cons_self, ?_⟩
      obtain ⟨need, hneed, hid⟩ := List.mem_filterMap.mp h
      obtain ⟨ref, href, rfl⟩ := List.mem_map.mp hneed
      cases hid
      exact href
    · obtain ⟨other, hother, hid⟩ := ih h
      exact ⟨other, hother.cons, hid⟩
  | approval approval nodes ih =>
    rw [graphNeeds, List.filterMap_append, List.mem_append] at h
    obtain h | h := h
    · exact absurd h List.not_mem_nil
    · obtain ⟨other, hother, hid⟩ := ih h
      exact ⟨other, hother.cons, hid⟩
  | loop loop body edges nodes ihbody ih =>
    rw [graphNeeds, List.filterMap_append, List.mem_append] at h
    obtain h | h := h
    · rw [nodeNeeds, List.filterMap_append, List.mem_append] at h
      obtain h | h := h
      · split_ifs at h
        · exact absurd h List.not_mem_nil
        · exact absurd h List.not_mem_nil
      · obtain ⟨other, hother, hid⟩ := ihbody h
        exact ⟨other, .body List.mem_cons_self hother, hid⟩
    · obtain ⟨other, hother, hid⟩ := ih h
      exact ⟨other, hother.cons, hid⟩

theorem findBy_of_resourceById {resources : List ResourceSpec}
    (h : (Spec.resourceById resources id).isSome = true) :
    (findBy ResourceSpec.id resources id).isSome = true := by
  rw [Spec.resourceById, List.find?_isSome] at h
  obtain ⟨resource, hmem, hid⟩ := h
  exact findBy_isSome.mpr (List.mem_map.mpr ⟨resource, hmem, by simpa using hid⟩)

variable {spec : ResearchSpec} {registry : BlockRegistry} {limits : PlannerLimits}
  {workflowId : Option String} {workflow : WorkflowSpec} {compiled : CompiledPlan}

theorem raising_contentDigest (host : Host) {value : Json} (h : isSafe value = true) :
    ∃ digest, raising (Jcs.contentDigest host.floatText value) = .ok digest := by
  obtain ⟨digest, hdigest⟩ := (Jcs.contentDigest_ok_iff (F := host.floatText) value).mpr h
  exact ⟨digest, by rw [hdigest, raising]⟩

/-- A registry has a digest: its entries are texts. -/
theorem registryDigest_ok (host : Host) (registry : BlockRegistry) :
    ∃ digest, raising (registry.digest host.floatText) = .ok digest := by
  refine raising_contentDigest host (Spec.areSafeItems_iff.mpr fun item hitem => ?_)
  obtain ⟨block, -, rfl⟩ := List.mem_map.mp hitem
  rw [isSafe]
  refine areSafe_ofPairs fun pair hpair => ?_
  simp only [List.mem_cons, List.not_mem_nil, or_false] at hpair
  obtain rfl | rfl | rfl := hpair <;> rfl

theorem finishPlan_ok (hvalid : spec.validate = .ok ()) (hworkflow : workflow ∈ spec.workflows)
    (hsafe : isSafe (spec.dump false) = true)
    (h : planGraph (contextOf host spec registry limits) room base workflow.graph {} =
      .ok (planned, after)) :
    ∃ compiled, finishPlan (contextOf host spec registry limits) spec workflow planned after =
      .ok compiled := by
  obtain ⟨hworkflows, -, hreferences⟩ := Spec.ResearchSpec.validate_ok hvalid
  obtain ⟨-, hgraphs⟩ := Spec.ResearchSpec.validateReferences_ok hreferences
  obtain ⟨used, hused⟩ := hgraphs workflow hworkflow
  obtain ⟨recorded, hperm, hrecords⟩ := planGraph_recordsPerm (hworkflows workflow hworkflow) h
  have hfound : ∀ id ∈ sortIds after.usedResourceIds.dedup,
      ∃ resource, required id.val (findBy ResourceSpec.id spec.resources id) = .ok resource := by
    intro id hid
    have hmem := List.mem_dedup.mp ((sortIds_perm _).mem_iff.mp hid)
    rw [hrecords.resources] at hmem
    obtain ⟨task, htask, href⟩ := exists_task_of_resource ((hperm.filterMap _).mem_iff.mp hmem)
    have hknown := ((Spec.graphResources_within hused).1 task htask id href).2
    obtain ⟨resource, hresource⟩ := Option.isSome_iff_exists.mp (findBy_of_resourceById hknown)
    exact ⟨resource, required_ok.mpr hresource⟩
  obtain ⟨resources, hresources⟩ := Fold.exists_mapM_eq_ok hfound
  obtain ⟨specDigest, hspec⟩ := digestOf_ok (contextOf host spec registry limits) hsafe
  obtain ⟨registryDigest, hregistry⟩ := registryDigest_ok host registry
  exact ⟨_, Fold.bind_eq_ok.mpr ⟨_, hresources, Fold.bind_eq_ok.mpr ⟨_, hspec,
    Fold.bind_eq_ok.mpr ⟨_, hregistry, rfl⟩⟩⟩⟩

theorem selectWorkflow_quiet : Quiet (selectWorkflow host spec workflowId) := by
  unfold selectWorkflow
  split
  · split
    · exact quiet_ok rfl
    · exact quiet_input _ _ _
  · split
    · exact quiet_input _ _ _
    · exact quiet_ok rfl
    · exact quiet_input _ _ _

theorem compilePlan_quiet (hvalid : spec.validate = .ok ()) (hsafe : isSafe (spec.dump false) = true) :
    Quiet (compilePlan host spec registry workflowId limits) := by
  refine Quiet.bind (quiet_requirePlanned (.inr (by simp))) fun _ _ => ?_
  refine Quiet.bind selectWorkflow_quiet fun workflow hselect => ?_
  have hworkflow := selectWorkflow_mem hselect
  refine Quiet.bind (quiet_requirePlanned (.inr (by simp))) fun _ _ => ?_
  refine Quiet.bind ?_ fun result hgraph => ?_
  · exact planGraph_quiet ((Spec.ResearchSpec.validate_ok hvalid).1 workflow hworkflow)
      ((safe_parts hsafe).2.1 workflow hworkflow)
  · obtain ⟨compiled, hcompiled⟩ := finishPlan_ok hvalid hworkflow hsafe hgraph
    exact quiet_ok hcompiled

/-- Planning is blocked once the workflow is selected. -/
theorem selectedWorkflow_of_blocked {code path message : String}
    (h : compilePlan host spec registry workflowId limits = .error (.blocked code path message)) :
    ∃ workflow, selectedWorkflow spec workflowId = some workflow := by
  obtain h | ⟨_, -, h⟩ := Fold.bind_eq_error.mp h
  · unfold requirePlanned at h
    split_ifs at h
    cases h
  obtain h | ⟨workflow, hselect, -⟩ := Fold.bind_eq_error.mp h
  · unfold selectWorkflow at h
    split at h
    · split at h <;> cases h
    · split at h <;> cases h
  · refine ⟨workflow, ?_⟩
    unfold selectWorkflow at hselect
    unfold selectedWorkflow
    split at hselect
    · split at hselect
      · rename_i hfound
        cases hselect
        exact hfound
      · cases hselect
    · split at hselect
      · cases hselect
      · rename_i honly
        cases hselect
        simp only [honly]
      · cases hselect

theorem readyReport_of_safe (hsafe : isSafe compiled.plan.semanticDump = true)
    (hcounts : compiled.counts = compiled.plan.graph.counts) :
    ∃ report, readyReport host compiled = .ok report := by
  obtain ⟨planDigest, hdigest⟩ := raising_contentDigest host hsafe
  exact ⟨_, Fold.bind_eq_ok.mpr ⟨planDigest, hdigest, Fold.bind_eq_ok.mpr
    ⟨(), requirePlanned_ok.mpr hcounts, rfl⟩⟩⟩

theorem readyReport_ok (hvalid : spec.validate = .ok ()) (hsafe : isSafe (spec.dump false) = true)
    (h : compilePlan host spec registry workflowId limits = .ok compiled) :
    ∃ report, readyReport host compiled = .ok report := by
  obtain ⟨workflow, graph, state, hselect, hgraph, hfinish⟩ := compilePlan_ok h
  have hworkflow := selectWorkflow_mem hselect
  have hvalidGraph := (Spec.ResearchSpec.validate_ok hvalid).1 workflow hworkflow
  obtain ⟨hrevision, hnodes, hresources⟩ := safe_parts hsafe
  have hcounts := planGraph_counts hgraph
  have hsafeGraph := planGraph_safe hvalidGraph (hnodes workflow hworkflow) hgraph
  obtain ⟨used, hused, hfinish⟩ := Fold.bind_eq_ok.mp hfinish
  obtain ⟨specDigest, -, hfinish⟩ := Fold.bind_eq_ok.mp hfinish
  obtain ⟨registryDigest, -, hfinish⟩ := Fold.bind_eq_ok.mp hfinish
  cases hfinish
  have hsafeUsed : ∀ planned ∈ used.map plannedResource, isSafe planned.dump = true := by
    intro planned hplanned
    obtain ⟨resource, hresource, rfl⟩ := List.mem_map.mp hplanned
    obtain ⟨id, -, hfound⟩ := (Fold.mem_of_mapM_eq_ok hused).mp hresource
    exact hresources resource (findBy_mem (required_ok.mp hfound)).1
  have hinitial : PlannerState.counts {} = 0 := rfl
  rw [hinitial, zero_add] at hcounts
  exact readyReport_of_safe (isSafe_plan hrevision hsafeUsed hsafeGraph) hcounts

/-! The contract. -/

/-- A report, or a `PlanningInputError`. -/
def KeepsContract (x : Except PlanningFailure DryRunReport) : Prop :=
  (∃ report, x = .ok report) ∨ ∃ code path message, x = .error (.input code path message)

theorem dryRun_raises (host : Host) (registry : BlockRegistry) (limits : PlannerLimits)
    (workflowId : Option String) (hunfit : isSafe (spec.dump false) = false) :
    ∃ message, dryRun host registry limits spec workflowId = .error (.raised message) := by
  cases hdigest : Jcs.contentDigest host.floatText (spec.dump false) with
  | ok digest =>
    have hsafe := (Jcs.contentDigest_ok_iff _).mp ⟨digest, hdigest⟩
    rw [hunfit] at hsafe
    cases hsafe
  | error message => exact ⟨message, by rw [dryRun, hdigest]; rfl⟩

theorem not_keepsContract {x : Except PlanningFailure DryRunReport} {message : String}
    (h : x = .error (.raised message)) : ¬ KeepsContract x := by
  subst h
  rintro (⟨report, hreport⟩ | ⟨code, path, text, herror⟩)
  · cases hreport
  · cases herror

theorem reportOn_keepsContract (hvalid : spec.validate = .ok ())
    (hsafe : isSafe (spec.dump false) = true) (specDigest registryDigest : String) :
    KeepsContract (reportOn host limits spec workflowId specDigest registryDigest
      (compilePlan host spec registry workflowId limits)) := by
  cases hplan : compilePlan host spec registry workflowId limits with
  | ok compiled =>
    obtain ⟨report, hreport⟩ := readyReport_ok hvalid hsafe hplan
    exact .inl ⟨.ready report, Fold.bind_eq_ok.mpr ⟨report, hreport, rfl⟩⟩
  | error failure =>
    cases failure with
    | input code path message => exact .inr ⟨code, path, message, rfl⟩
    | blocked code path message =>
      obtain ⟨workflow, hworkflow⟩ := selectedWorkflow_of_blocked hplan
      refine .inl ⟨.blocked (blockedReport spec workflow limits specDigest registryDigest
        ⟨code, path, message⟩), ?_⟩
      simp only [reportOn, hworkflow]
    | raised message => exact absurd hplan (compilePlan_quiet hvalid hsafe message)

def largeRevision : Spec.PositiveInt := ⟨2 ^ 53, by decide⟩

/-- A spec whose revision is not in the exact range. -/
def revisedSpec : ResearchSpec :=
  { gatedSpec with metadata := { gatedSpec.metadata with revision := largeRevision } }

end ResearchOs.Planning
