import ResearchOs.Planning.Needs

/-! The policy requirements of a plan: one for everything that the workflow needs approved. -/
namespace ResearchOs.Planning

open Blocks (BlockRegistry)
open SortBy
open Spec (Identifier ResearchSpec ResourceSpec WorkflowGraph WorkflowSpec)

variable {policy : Bool} {host : Host} {spec : ResearchSpec} {registry : BlockRegistry}
  {workflowId : Option String} {limits : PlannerLimits} {compiled : CompiledPlan}
  {workflow : WorkflowSpec}

/-! The dictionary of requirements. -/

theorem foldl_setRequirement {requirements more : List PolicyRequirement}
    (h : ((requirements ++ more).map PolicyRequirement.id).Nodup) :
    more.foldl setRequirement requirements = requirements ++ more := by
  induction more generalizing requirements with
  | nil => simp
  | cons requirement more ih =>
    have hnew : requirement.id ∉ requirements.map PolicyRequirement.id := by
      intro hmem
      rw [List.map_append, List.nodup_append] at h
      exact h.2.2 _ hmem _ List.mem_cons_self rfl
    rw [List.foldl_cons, setRequirement, if_neg hnew, ih (by simpa using h)]
    simp

theorem subjects_eq (needs : List Need) :
    (needs.filterMap Need.requirement?).map PolicyRequirement.subject =
      (needPaths needs).map nodePointer := by
  rw [needPaths, List.map_filterMap, List.map_filterMap]
  refine congrArg (fun f => needs.filterMap f) (funext fun need => ?_)
  cases need <;> rfl

/-- The requirements that planning makes. -/
def Made (requirement : PolicyRequirement) : Prop :=
  (∃ path, requirement = approvalRequirement path) ∨ (∃ path, requirement = paidLoopRequirement path) ∨
    ∃ id, requirement = paidResourceRequirement id

theorem made_of_mem {needs : List Need} {requirement : PolicyRequirement}
    (h : requirement ∈ needs.filterMap Need.requirement?) :
    (∃ path, requirement = approvalRequirement path) ∨
      ∃ path, requirement = paidLoopRequirement path := by
  obtain ⟨need, -, hneed⟩ := List.mem_filterMap.mp h
  cases need with
  | approval path => exact .inl ⟨path, (Option.some.inj hneed).symm⟩
  | paidLoop path => exact .inr ⟨path, (Option.some.inj hneed).symm⟩
  | resource id => cases hneed

/-- An id tells what it is a requirement of. -/
theorem Made.eq_of_id {requirement other : PolicyRequirement} (h : Made requirement)
    (hother : Made other) (hid : requirement.id = other.id) : requirement = other := by
  have hlist := congrArg String.toList hid
  obtain ⟨path, rfl⟩ | ⟨path, rfl⟩ | ⟨id, rfl⟩ := h
  · obtain ⟨path', rfl⟩ | ⟨path', rfl⟩ | ⟨id', rfl⟩ := hother
    · simp only [approvalRequirement, (String.append_right_inj "approval:").mp hid]
    · simp [approvalRequirement, paidLoopRequirement, String.toList_append] at hlist
    · simp [approvalRequirement, paidResourceRequirement, String.toList_append] at hlist
  · obtain ⟨path', rfl⟩ | ⟨path', rfl⟩ | ⟨id', rfl⟩ := hother
    · simp [approvalRequirement, paidLoopRequirement, String.toList_append] at hlist
    · simp only [paidLoopRequirement, (String.append_right_inj "paid-loop:").mp hid]
    · simp [paidLoopRequirement, paidResourceRequirement, String.toList_append] at hlist
  · obtain ⟨path', rfl⟩ | ⟨path', rfl⟩ | ⟨id', rfl⟩ := hother
    · simp [approvalRequirement, paidResourceRequirement, String.toList_append] at hlist
    · simp [paidLoopRequirement, paidResourceRequirement, String.toList_append] at hlist
    · simp only [paidResourceRequirement, (String.append_right_inj "paid-resource:").mp hid]

theorem nodup_ids {requirements : List PolicyRequirement} (hmade : ∀ r ∈ requirements, Made r)
    (h : requirements.Nodup) : (requirements.map PolicyRequirement.id).Nodup :=
  h.map_on fun _ hr _ hr' hid => (hmade _ hr).eq_of_id (hmade _ hr') hid

/-! The requirements of a compiled plan. -/

theorem selectWorkflow_mem (h : selectWorkflow host spec workflowId = .ok workflow) :
    workflow ∈ spec.workflows := by
  unfold selectWorkflow at h
  split at h
  · split at h
    · rename_i hfound
      cases h
      exact (findBy_mem hfound).1
    · cases h
  · split at h
    · cases h
    · rename_i honly
      cases h
      rw [honly]
      exact List.mem_singleton_self _
    · cases h

theorem compilePlan_ok (h : compilePlan host spec registry workflowId limits = .ok compiled) :
    ∃ workflow graph state, selectWorkflow host spec workflowId = .ok workflow ∧
      planGraph (contextOf host spec registry limits) (limits.maxLoopDepth + 1)
        [workflowPart, workflow.id] workflow.graph {} = .ok (graph, state) ∧
      finishPlan (contextOf host spec registry limits) spec workflow graph state = .ok compiled := by
  obtain ⟨_, -, h⟩ := Fold.bind_eq_ok.mp h
  obtain ⟨workflow, hselect, h⟩ := Fold.bind_eq_ok.mp h
  obtain ⟨_, -, h⟩ := Fold.bind_eq_ok.mp h
  obtain ⟨⟨graph, state⟩, hgraph, h⟩ := Fold.bind_eq_ok.mp h
  exact ⟨workflow, graph, state, hselect, hgraph, h⟩

/-- The paid resources that a workflow uses, where they require approval. -/
def paidResources (spec : ResearchSpec) (needs : List Need) : List ResourceSpec :=
  spec.resources.filter fun resource => resource.paid &&
    spec.policies.paidActionsRequireApproval && decide (resource.id ∈ needs.filterMap Need.resource?)

def workflowNeeds (spec : ResearchSpec) (workflow : WorkflowSpec) : List Need :=
  graphNeeds spec.policies.paidActionsRequireApproval [workflowPart, workflow.id] workflow.graph.nodes

/-- One requirement for each approval node at any depth of loops, and, where the policy requires
approval of paid actions, for each loop that may incur cost and for each used paid resource. -/
def expectedRequirements (spec : ResearchSpec) (workflow : WorkflowSpec) : List PolicyRequirement :=
  (workflowNeeds spec workflow).filterMap Need.requirement? ++
    (paidResources spec (workflowNeeds spec workflow)).map fun resource =>
      paidResourceRequirement resource.id

theorem foldl_addResource (used : List ResourceSpec) (requirements : List PolicyRequirement) :
    used.foldl (addResource policy) requirements =
      ((used.filter fun resource => resource.paid && policy).map fun resource =>
        paidResourceRequirement resource.id).foldl setRequirement requirements := by
  induction used generalizing requirements with
  | nil => rfl
  | cons resource used ih =>
    rw [List.foldl_cons, ih, addResource]
    by_cases hpaid : resource.paid = true ∧ policy = true
    · rw [if_pos hpaid, List.filter_cons_of_pos (by simpa using hpaid), List.map_cons,
        List.foldl_cons]
    · rw [if_neg hpaid, List.filter_cons_of_neg (by simpa using hpaid)]

/-- The resources that are looked up are those of the spec with a used id. -/
theorem used_resources {ids : List Identifier} {used : List ResourceSpec}
    (hunique : (spec.resources.map ResourceSpec.id).Nodup)
    (h : (sortIds ids.dedup).mapM (fun id =>
      required id.val (findBy ResourceSpec.id spec.resources id)) = .ok used) :
    used.map ResourceSpec.id = sortIds ids.dedup ∧
      ∀ resource, resource ∈ used ↔ resource ∈ spec.resources ∧ resource.id ∈ ids := by
  have hall := Fold.mapM_eq_ok.mp h
  constructor
  · have hmap : (sortIds ids.dedup).map (fun key => key) = used.map ResourceSpec.id :=
      Fold.map_eq_map_of_forall₂ hall fun id resource hfound =>
        (findBy_mem (required_ok.mp hfound)).2.symm
    rw [← hmap]
    exact List.map_id _
  · intro resource
    rw [Fold.mem_of_mapM_eq_ok h]
    constructor
    · rintro ⟨id, hid, hfound⟩
      obtain ⟨hmem, rfl⟩ := findBy_mem (required_ok.mp hfound)
      exact ⟨hmem, List.mem_dedup.mp ((sortIds_perm _).mem_iff.mp hid)⟩
    · rintro ⟨hmem, hid⟩
      exact ⟨resource.id, (sortIds_perm _).mem_iff.mpr (List.mem_dedup.mpr hid),
        required_ok.mpr ((findBy_eq_some_iff hunique).mpr ⟨hmem, rfl⟩)⟩

theorem expectedRequirements_nodup (hvalid : spec.validate = .ok ())
    (hworkflow : workflow ∈ spec.workflows) :
    ((expectedRequirements spec workflow).map PolicyRequirement.id).Nodup := by
  obtain ⟨hworkflows, -, hreferences⟩ := Spec.ResearchSpec.validate_ok hvalid
  obtain ⟨hentities, -⟩ := Spec.ResearchSpec.validateReferences_ok hreferences
  have hunique := Spec.ResearchSpec.resourceIds_nodup hentities
  have hg := hworkflows workflow hworkflow
  have hnodes : Spec.validateNodes workflow.graph.nodes = .ok () := by
    simp only [WorkflowGraph.validate, Spec.requireSpec_bind_ok] at hg
    obtain ⟨-, hg⟩ := hg
    obtain ⟨_, hnodes, -⟩ := Fold.bind_eq_ok.mp hg
    exact hnodes
  have hpaths : (needPaths (workflowNeeds spec workflow)).Nodup :=
    needPaths_nodup hnodes (accepted_of_validate hg).ids_nodup
  refine nodup_ids (fun requirement hmem => ?_) ?_
  · obtain hmem | hmem := List.mem_append.mp hmem
    · exact (made_of_mem hmem).imp_right .inl
    · obtain ⟨resource, -, rfl⟩ := List.mem_map.mp hmem
      exact .inr (.inr ⟨resource.id, rfl⟩)
  · rw [expectedRequirements, List.nodup_append]
    refine ⟨.of_map PolicyRequirement.subject ?_, ?_, fun r hr r' hr' hsame => ?_⟩
    · rw [subjects_eq]
      exact hpaths.map nodePointer_injective
    · refine .of_map PolicyRequirement.subject ?_
      have hids := ((hunique.of_map _).filter fun resource => resource.paid &&
        spec.policies.paidActionsRequireApproval &&
          decide (resource.id ∈ (workflowNeeds spec workflow).filterMap Need.resource?))
      rw [List.map_map]
      refine hids.map_on fun a ha b hb hab => ?_
      exact List.inj_on_of_nodup_map hunique (List.mem_filter.mp ha).1 (List.mem_filter.mp hb).1
        (Subtype.ext hab)
    · obtain ⟨resource, -, rfl⟩ := List.mem_map.mp hr'
      obtain ⟨path, rfl⟩ | ⟨path, rfl⟩ := made_of_mem hr
      · exact absurd (congrArg PolicyRequirement.kind hsame)
          (by simp [approvalRequirement, paidResourceRequirement])
      · exact absurd (congrArg PolicyRequirement.kind hsame)
          (by simp [paidLoopRequirement, paidResourceRequirement])

/-- The used resources of the plan, where they are paid. -/
theorem paidResources_perm {used : List ResourceSpec} {recorded needs : List Need}
    (hunique : (spec.resources.map ResourceSpec.id).Nodup) (hnodup : used.Nodup)
    (hmem : ∀ resource, resource ∈ used ↔
      resource ∈ spec.resources ∧ resource.id ∈ recorded.filterMap Need.resource?)
    (hperm : recorded.Perm needs) :
    (used.filter fun resource => resource.paid && spec.policies.paidActionsRequireApproval).Perm
      (paidResources spec needs) := by
  rw [paidResources, List.perm_ext_iff_of_nodup (hnodup.filter _) ((hunique.of_map _).filter _)]
  intro resource
  have hneeds : resource.id ∈ recorded.filterMap Need.resource? ↔
      resource.id ∈ needs.filterMap Need.resource? := (hperm.filterMap _).mem_iff
  rw [List.mem_filter, List.mem_filter, hmem resource, hneeds]
  simp only [Bool.and_eq_true, decide_eq_true_eq]
  tauto

/-- The plan of a valid spec asks for exactly what the workflow needs approved, once each. -/
theorem requirements_exact (hvalid : spec.validate = .ok ())
    (h : compilePlan host spec registry workflowId limits = .ok compiled) :
    ∃ workflow ∈ spec.workflows, compiled.plan.workflowId = workflow.id ∧
      compiled.plan.policyRequirements.Perm (expectedRequirements spec workflow) ∧
      (compiled.plan.policyRequirements.map PolicyRequirement.id).Nodup := by
  obtain ⟨workflow, graph, state, hselect, hgraph, hfinish⟩ := compilePlan_ok h
  have hworkflow := selectWorkflow_mem hselect
  obtain ⟨hworkflows, -, hreferences⟩ := Spec.ResearchSpec.validate_ok hvalid
  obtain ⟨hentities, -⟩ := Spec.ResearchSpec.validateReferences_ok hreferences
  have hunique := Spec.ResearchSpec.resourceIds_nodup hentities
  obtain ⟨recorded, hperm, hrecords⟩ := planGraph_recordsPerm (hworkflows workflow hworkflow) hgraph
  obtain ⟨used, hused, hfinish⟩ := Fold.bind_eq_ok.mp hfinish
  obtain ⟨specDigest, -, hfinish⟩ := Fold.bind_eq_ok.mp hfinish
  obtain ⟨registryDigest, -, hfinish⟩ := Fold.bind_eq_ok.mp hfinish
  cases hfinish
  obtain ⟨hids, hmem⟩ := used_resources hunique hused
  rw [hrecords.resources] at hmem
  have hnodup : used.Nodup := by
    refine .of_map ResourceSpec.id ?_
    rw [hids]
    exact (sortIds_perm _).nodup_iff.mpr (List.nodup_dedup _)
  have hall := (hperm.filterMap Need.requirement?).append
    ((paidResources_perm hunique hnodup hmem hperm).map fun resource =>
      paidResourceRequirement resource.id)
  have hexpected := expectedRequirements_nodup hvalid hworkflow
  have hdistinct := (hall.map PolicyRequirement.id).nodup_iff.mpr hexpected
  have hfirst : (([] ++ recorded.filterMap Need.requirement?).map PolicyRequirement.id).Nodup := by
    rw [List.map_append] at hdistinct
    exact (List.nodup_append.mp hdistinct).1
  have hdictionary : used.foldl (addResource spec.policies.paidActionsRequireApproval)
      state.requirements = recorded.filterMap Need.requirement? ++
        (used.filter fun resource => resource.paid &&
          spec.policies.paidActionsRequireApproval).map fun resource =>
            paidResourceRequirement resource.id := by
    rw [foldl_addResource, hrecords.requirements, foldl_setRequirement hfirst,
      foldl_setRequirement (by simpa using hdistinct)]
    rfl
  have hplan : (sortBy (fun requirement => textKey requirement.id)
      (used.foldl (addResource spec.policies.paidActionsRequireApproval) state.requirements)).Perm
        (expectedRequirements spec workflow) :=
    (sortBy_perm _ _).trans (hdictionary ▸ hall)
  exact ⟨workflow, hworkflow, rfl, hplan, (hplan.map _).nodup_iff.mpr hexpected⟩

/-! A search for which everything needs approval. -/

def planHost : Host where
  floatText := JsonText.scientific
  violatedRule := fun _ _ => none
  repr := fun text => "'" ++ text ++ "'"

def trainManifest : Blocks.BlockManifest where
  id := Spec.name "simulated.experiment"
  version := Spec.version "0.1.0"
  runtimeType := .simulated
  inputs := []
  outputs := []
  configSchema := Spec.emptyObject
  capabilities := [Spec.name "train.simulated", Spec.name "simulate"]
  permissions := []
  inputs_unique := by decide
  outputs_unique := by decide
  capabilities_unique := by decide
  permissions_unique := by decide

def trainRegistry : BlockRegistry where
  blocks := [⟨trainManifest,
    ⟨"jcs-sha256:0000000000000000000000000000000000000000000000000000000000000000", by decide⟩⟩]
  isSealed := true
  keys_unique := by decide

def gatedSpec : ResearchSpec where
  metadata := { id := Spec.name "project", revision := Spec.one, title := Spec.text "Gated search" }
  workflows := [⟨Spec.name "main", gatedGraph⟩]
  resources := [Spec.paidGpu]

theorem exists_gatedPlan : ∃ compiled,
    compilePlan planHost gatedSpec trainRegistry none {} = .ok compiled := by
  have hok : (compilePlan planHost gatedSpec trainRegistry none {}).isOk = true := by decide +kernel
  cases hplan : compilePlan planHost gatedSpec trainRegistry none {} with
  | ok compiled => exact ⟨compiled, rfl⟩
  | error e =>
    rw [hplan] at hok
    cases hok

theorem requirements_exact_gated : ∃ compiled,
    compilePlan planHost gatedSpec trainRegistry none {} = .ok compiled ∧
      ∃ workflow ∈ gatedSpec.workflows, compiled.plan.workflowId = workflow.id ∧
        compiled.plan.policyRequirements.Perm (expectedRequirements gatedSpec workflow) ∧
        (compiled.plan.policyRequirements.map PolicyRequirement.id).Nodup := by
  obtain ⟨compiled, hcompiled⟩ := exists_gatedPlan
  exact ⟨compiled, hcompiled, requirements_exact (by decide) hcompiled⟩

end ResearchOs.Planning
