import ResearchOs.Planning.Invariance
import ResearchOs.Planning.Requirements

/-! The plan does not depend on the order in which a spec lists its parts. -/
namespace ResearchOs.Planning

open Blocks (BlockRegistry)
open SortBy
open Spec (ReorderedNodes ReorderedSpec ReorderedWorkflow ResearchSpec ResourceSpec WorkflowGraph
  WorkflowSpec)

variable {host : Host} {context : PlannerContext} {spec spec' : ResearchSpec}
  {workflow : WorkflowSpec} {registry : BlockRegistry}
  {workflowId : Option String} {limits : PlannerLimits} {compiled compiled' : CompiledPlan}

/-- What planning rests on in a valid spec. -/
structure Plannable (spec : ResearchSpec) : Prop where
  workflows : (spec.workflows.map WorkflowSpec.id).Nodup
  resources : (spec.resources.map ResourceSpec.id).Nodup
  graphs : ∀ workflow ∈ spec.workflows, ∀ inner, GraphIn inner workflow.graph → Accepted inner

theorem plannable_of_validate (h : spec.validate = .ok ()) : Plannable spec := by
  obtain ⟨hworkflows, -, hreferences⟩ := ResearchSpec.validate_ok h
  obtain ⟨hentities, -⟩ := ResearchSpec.validateReferences_ok hreferences
  refine ⟨?_, ResearchSpec.resourceIds_nodup hentities, fun workflow hworkflow inner hin => ?_⟩
  · have hbefore := (List.nodup_append.mp (List.nodup_append.mp hentities).1).1
    exact (List.nodup_append.mp hbefore).2.1
  · exact accepted_of_validate (hin.validate (hworkflows workflow hworkflow))

theorem workflow_reordered (h : ReorderedSpec spec spec') (hworkflow : workflow ∈ spec.workflows) :
    ∃ workflow' ∈ spec'.workflows, ReorderedWorkflow workflow workflow' := by
  obtain ⟨middle, hall, hperm⟩ := h.workflows
  obtain ⟨workflow', hmem, hsame⟩ := Fold.exists_of_mem_right hall.flip hworkflow
  exact ⟨workflow', hperm.mem_iff.mp hmem, hsame⟩

theorem plannable_reordered (h : ReorderedSpec spec spec') (hp : Plannable spec) :
    Plannable spec' := by
  obtain ⟨middle, hall, hperm⟩ := h.workflows
  have hids : spec.workflows.map WorkflowSpec.id = middle.map WorkflowSpec.id :=
    Fold.map_eq_map_of_forall₂ hall fun _ _ hsame => hsame.id
  refine ⟨?_, (h.resources.map _).nodup_iff.mp hp.resources, fun workflow' hworkflow' => ?_⟩
  · rw [← (hperm.map WorkflowSpec.id).nodup_iff, ← hids]
    exact hp.workflows
  · obtain ⟨workflow, hworkflow, hsame⟩ := workflow_reordered h.symm hworkflow'
    exact accepted_graphIn hsame.symm.graph (hp.graphs workflow hworkflow)

theorem selectWorkflow_reordered (h : ReorderedSpec spec spec') (hp : Plannable spec)
    (hselect : selectWorkflow host spec workflowId = .ok workflow) :
    ∃ workflow', selectWorkflow host spec' workflowId = .ok workflow' ∧
      ReorderedWorkflow workflow workflow' := by
  cases workflowId with
  | some name =>
    simp only [selectWorkflow] at hselect ⊢
    split at hselect
    · rename_i found hfound
      cases hselect
      obtain ⟨hmem, hname⟩ := findBy_mem hfound
      obtain ⟨workflow', hmem', hsame⟩ := workflow_reordered h hmem
      have hnodup : (spec'.workflows.map fun workflow => workflow.id.val).Nodup := by
        have hids := (plannable_reordered h hp).workflows.map Subtype.val_injective
        rwa [List.map_map] at hids
      have hfound' : findBy (fun workflow => workflow.id.val) spec'.workflows name =
          some workflow' :=
        (findBy_eq_some_iff hnodup).mpr ⟨hmem', by rw [← hsame.id]; exact hname⟩
      exact ⟨workflow', by rw [hfound'], hsame⟩
    · cases hselect
  | none =>
    obtain ⟨middle, hall, hperm⟩ := h.workflows
    simp only [selectWorkflow] at hselect ⊢
    split at hselect
    · cases hselect
    · rename_i only honly
      cases hselect
      rw [honly] at hall
      obtain ⟨workflow', rest, hsame, hrest, rfl⟩ := List.forall₂_cons_left_iff.mp hall
      cases hrest
      rw [List.singleton_perm] at hperm
      exact ⟨workflow', by rw [← hperm], hsame⟩
    · cases hselect

/-- The same plan, but for the digest of the spec. -/
structure SamePlan (host : Host) (compiled compiled' : CompiledPlan) : Prop where
  plan : compiled' = { compiled with
    plan := { compiled.plan with specDigest := compiled'.plan.specDigest } }
  digest : Jcs.contentDigest host.floatText compiled'.plan.semanticDump =
    Jcs.contentDigest host.floatText compiled.plan.semanticDump

theorem finishPlan_reordered (host : Host) {workflow' : WorkflowSpec} {graph : PlannedGraph}
    {state : PlannerState} (h : ReorderedSpec spec spec') (hp : Plannable spec)
    (hsame : ReorderedWorkflow workflow workflow')
    (hok : finishPlan context spec workflow graph state = .ok compiled) :
    ∃ compiled', finishPlan context spec' workflow' graph state = .ok compiled' ∧
      SamePlan host compiled compiled' := by
  obtain ⟨used, hused, hok⟩ := Fold.bind_eq_ok.mp hok
  obtain ⟨specDigest, hdigest, hok⟩ := Fold.bind_eq_ok.mp hok
  obtain ⟨registryDigest, hregistry, hok⟩ := Fold.bind_eq_ok.mp hok
  cases hok
  have hfind : ∀ id, findBy ResourceSpec.id spec'.resources id =
      findBy ResourceSpec.id spec.resources id :=
    fun id => (findBy_perm hp.resources h.resources id).symm
  have hmetadata : spec'.metadata = spec.metadata := by rw [h.others]
  have hsafe : Jcs.isSafe (spec.dump false) = true := by
    refine (Jcs.contentDigest_ok_iff (F := context.host.floatText) _).mp ?_
    cases hvalue : Jcs.contentDigest context.host.floatText (spec.dump false) with
    | ok digest => exact ⟨digest, rfl⟩
    | error e =>
      rw [digestOf, hvalue] at hdigest
      cases hdigest
  obtain ⟨digest, hdigest'⟩ := (Jcs.contentDigest_ok_iff (F := context.host.floatText)
    (spec'.dump false)).mpr (h.isSafe ▸ hsafe)
  refine ⟨_, Fold.bind_eq_ok.mpr ⟨used, ?_, Fold.bind_eq_ok.mpr ⟨digest, ?_,
    Fold.bind_eq_ok.mpr ⟨registryDigest, hregistry, rfl⟩⟩⟩, ?_, ?_⟩
  · simp only [hfind]
    exact hused
  · rw [digestOf, hdigest']
    rfl
  · simp only [hmetadata, hsame.id]
  · simp only [ExecutionPlan.semanticDump, hmetadata, hsame.id]

theorem compilePlan_same (h : ReorderedSpec spec spec') (hp : Plannable spec)
    (hok : compilePlan host spec registry workflowId limits = .ok compiled) :
    ∃ compiled', compilePlan host spec' registry workflowId limits = .ok compiled' ∧
      SamePlan host compiled compiled' := by
  have hcontext : contextOf host spec' registry limits = contextOf host spec registry limits := by
    rw [contextOf, contextOf, h.others]
  obtain ⟨_, hsealed, hok⟩ := Fold.bind_eq_ok.mp hok
  obtain ⟨workflow, hselect, hok⟩ := Fold.bind_eq_ok.mp hok
  obtain ⟨_, hlimits, hok⟩ := Fold.bind_eq_ok.mp hok
  obtain ⟨⟨graph, state⟩, hgraph, hok⟩ := Fold.bind_eq_ok.mp hok
  obtain ⟨workflow', hselect', hsame⟩ := selectWorkflow_reordered h hp hselect
  have hgraph' := planGraph_reordered hsame.graph
    (hp.graphs workflow (selectWorkflow_mem hselect)) hgraph
  obtain ⟨compiled', hfinish, hplan⟩ := finishPlan_reordered host h hp hsame hok
  refine ⟨compiled', ?_, hplan⟩
  refine Fold.bind_eq_ok.mpr ⟨_, hsealed, Fold.bind_eq_ok.mpr ⟨workflow', hselect',
    Fold.bind_eq_ok.mpr ⟨_, hlimits, Fold.bind_eq_ok.mpr ⟨(graph, state), ?_, ?_⟩⟩⟩⟩
  · rw [hcontext, ← hsame.id]
    exact hgraph'
  · rw [hcontext]
    exact hfinish

/-- A valid spec and its reorderings are planned alike: where one has a plan, so does the other,
and the plans are the same but for the digest of the spec. -/
theorem compilePlan_reordered (hvalid : spec.validate = .ok ()) (h : ReorderedSpec spec spec')
    (host : Host) (registry : BlockRegistry) (workflowId : Option String) (limits : PlannerLimits) :
    (∀ compiled, compilePlan host spec registry workflowId limits = .ok compiled →
      ∃ compiled', compilePlan host spec' registry workflowId limits = .ok compiled' ∧
        SamePlan host compiled compiled') ∧
      ∀ compiled', compilePlan host spec' registry workflowId limits = .ok compiled' →
        ∃ compiled, compilePlan host spec registry workflowId limits = .ok compiled ∧
          SamePlan host compiled compiled' := by
  have hp := plannable_of_validate hvalid
  refine ⟨fun compiled hok => compilePlan_same h hp hok, fun compiled' hok => ?_⟩
  obtain ⟨compiled, hcompiled, hback⟩ := compilePlan_same h.symm (plannable_reordered h hp) hok
  refine ⟨compiled, hcompiled, ?_, hback.digest.symm⟩
  rw [hback.plan]

/-! The gated search, listed in another order. -/

def shuffledGraph : WorkflowGraph where
  nodes := [.loop searchLoop [approvalNode "gate", .task Spec.trainTask] [], approvalNode "release",
    approvalNode "start"]
  edges := [⟨Spec.name "search", Spec.name "release", none, none⟩,
    ⟨Spec.name "start", Spec.name "search", none, none⟩,
    ⟨Spec.name "start", Spec.name "release", none, none⟩]

def shuffledSpec : ResearchSpec :=
  { gatedSpec with workflows := [⟨Spec.name "main", shuffledGraph⟩] }

theorem shuffled : ReorderedSpec gatedSpec shuffledSpec := by
  have hbody : ReorderedNodes [.task Spec.trainTask, approvalNode "gate"]
      [approvalNode "gate", .task Spec.trainTask] := .swap _ _ []
  have hnodes : ReorderedNodes gatedGraph.nodes shuffledGraph.nodes :=
    .trans (.cons (.refl _) (.cons (.loop searchLoop hbody (.refl [])) (.refl _))) (.swap _ _ _)
  have hedges : gatedGraph.edges.Perm shuffledGraph.edges := .swap _ _ _
  refine ⟨⟨[⟨Spec.name "main", shuffledGraph⟩], .cons ⟨rfl, hnodes, hedges⟩ .nil, .refl _⟩,
    .refl _, rfl⟩

theorem compilePlan_reordered_shuffled : ∃ compiled compiled',
    compilePlan planHost gatedSpec trainRegistry none {} = .ok compiled ∧
      compilePlan planHost shuffledSpec trainRegistry none {} = .ok compiled' ∧
      SamePlan planHost compiled compiled' := by
  obtain ⟨compiled, hcompiled⟩ := exists_gatedPlan
  obtain ⟨compiled', hcompiled', hsame⟩ :=
    (compilePlan_reordered (by decide) shuffled planHost trainRegistry none {}).1 compiled hcompiled
  exact ⟨compiled, compiled', hcompiled, hcompiled', hsame⟩

end ResearchOs.Planning
