import ResearchOs.Planning.Authorizable
import ResearchOs.Planning.Contract

/-! Which decisions on a ready plan have their documents. -/
namespace ResearchOs.Planning

open Authorization (Collide PlanAuthorizationEvaluatedPayload PlanAuthorizationPolicy
  PlanAuthorizationReport PlanAuthorizationResult authorizePlan)
open Blocks (BlockManifest BlockRegistry RegisteredBlock)
open SortBy Walk
open Spec (Identifier ResearchSpec TaskBlock WorkflowGraph)

variable {host : Host} {spec : ResearchSpec} {registry : BlockRegistry} {limits : PlannerLimits}
  {workflowId : Option String} {ready : ReadyReport} {context : PlannerContext} {base : NodePath}
  {g : WorkflowGraph} {resolved : Resolved} {room : ℕ} {state after : PlannerState}
  {planned : PlannedGraph} {compiled : CompiledPlan}

/-- `content_digest`, as far as it does not raise. -/
def digestText (host : Host) (value : Json) : Option String :=
  (Jcs.contentDigest host.floatText value).toOption

theorem digestText_eq_some {value : Json} {digest : String} :
    digestText host value = some digest ↔ Jcs.contentDigest host.floatText value = .ok digest := by
  rw [digestText]
  cases Jcs.contentDigest host.floatText value <;> simp [Except.toOption]

theorem isSemanticDigest_of_digestText {value : Json} {digest : String}
    (h : digestText host value = some digest) : isSemanticDigest digest = true := by
  obtain ⟨text, -, hdigest⟩ := Fold.bind_eq_ok.mp (digestText_eq_some.mp h)
  cases hdigest
  rw [isSemanticDigest, isHexDigest_hexdigest, Bool.true_or]

theorem dryRun_ready (h : dryRun host registry limits spec workflowId = .ok (.ready ready)) :
    compilePlan host spec registry workflowId limits = .ok ready.compiled ∧
      digestText host ready.compiled.plan.semanticDump = some ready.planDigest := by
  obtain ⟨specDigest, -, h⟩ := Fold.bind_eq_ok.mp h
  obtain ⟨registryDigest, -, h⟩ := Fold.bind_eq_ok.mp h
  cases hplan : compilePlan host spec registry workflowId limits with
  | ok compiled =>
    rw [hplan] at h
    obtain ⟨report, hreport, h⟩ := Fold.bind_eq_ok.mp h
    cases h
    obtain ⟨planDigest, hdigest, hreport⟩ := Fold.bind_eq_ok.mp hreport
    obtain ⟨_, -, hreport⟩ := Fold.bind_eq_ok.mp hreport
    cases hreport
    refine ⟨rfl, digestText_eq_some.mpr ?_⟩
    cases hcontent : Jcs.contentDigest host.floatText compiled.plan.semanticDump with
    | ok digest =>
      rw [hcontent] at hdigest
      cases hdigest
      rfl
    | error message =>
      rw [hcontent] at hdigest
      cases hdigest
  | error failure =>
    rw [hplan] at h
    cases failure with
    | input code path message => cases h
    | raised message => cases h
    | blocked code path message =>
      simp only [reportOn] at h
      split at h <;> cases h

theorem documentable (h : dryRun host registry limits spec workflowId = .ok (.ready ready)) :
    PlanAuthorizationPolicy.Documentable ready.authorizable where
  permissions := by
    intro value hvalue
    obtain ⟨task, htask, hvalue⟩ := List.mem_flatMap.mp (Authorization.mem_sortedSet.mp hvalue)
    exact PlannedGraph.permitted _ task htask value hvalue
  requirements := by
    intro requirementId hmem
    obtain ⟨requirement, hrequirement, rfl⟩ := List.mem_map.mp hmem
    exact policyRequirements_ids (dryRun_ready h).1 requirement hrequirement

/-! The documents on a decision. -/

/-- Both documents validate, and recompute the digest of the decision. -/
structure Covered (host : Host) (result : PlanAuthorizationResult) (workflowId : Identifier) :
    Prop where
  report : ∃ document : PlanAuthorizationReport (digestText host),
    PlanAuthorizationReport.fromResult (digestText host) result = some document ∧
      digestText host document.decisionPayload = some result.decisionDigest
  payload : ∃ document : PlanAuthorizationEvaluatedPayload (digestText host),
    PlanAuthorizationEvaluatedPayload.fromResult (digestText host) result workflowId =
      some document ∧ digestText host document.decisionPayload = some result.decisionDigest

/-- No accepted policy has another decision with this digest, but for a collision. -/
def Decisive (host : Host) (policy : PlanAuthorizationPolicy) (plan : Authorization.CompiledPlan)
    (result : PlanAuthorizationResult) : Prop :=
  ∀ reported otherPlan other decided, reported.plan = some otherPlan →
    authorizePlan (digestText host) reported other = .ok decided →
    decided.decisionDigest = result.decisionDigest →
      decided = result ∨
        Collide (Jcs.canonicalJson host.floatText (other.decisionPayload otherPlan))
          (Jcs.canonicalJson host.floatText (policy.decisionPayload plan))

variable {policy : PlanAuthorizationPolicy} {plan : Authorization.CompiledPlan}
  {reported : Authorization.DryRunReport} {result : PlanAuthorizationResult}

theorem decisive (hreported : reported.plan = some plan)
    (h : authorizePlan (digestText host) reported policy = .ok result) :
    Decisive host policy plan result := by
  intro reported' otherPlan other decided hother hdecided hsame
  obtain ⟨plan', digest, hplan', -, hdigest, rfl⟩ := Authorization.authorizePlan_ok h
  obtain ⟨otherPlan', otherDigest, hother', -, hotherDigest, rfl⟩ :=
    Authorization.authorizePlan_ok hdecided
  obtain rfl : plan = plan' := Option.some.inj (hreported.symm.trans hplan')
  obtain rfl : otherPlan = otherPlan' := Option.some.inj (hother.symm.trans hother')
  obtain rfl : otherDigest = digest := hsame
  exact Authorization.result_eq_of_digest (digestText_eq_some.mp hotherDigest)
    (digestText_eq_some.mp hdigest)

/-! A policy that decides nothing. -/

theorem exists_ready (hvalid : spec.validate = .ok ()) (hsafe : Jcs.isSafe (spec.dump false) = true)
    (h : compilePlan host spec registry workflowId limits = .ok compiled) :
    ∃ ready, dryRun host registry limits spec workflowId = .ok (.ready ready) ∧
      ready.compiled = compiled := by
  obtain ⟨specDigest, hspec⟩ := raising_contentDigest host hsafe
  obtain ⟨registryDigest, hregistry⟩ := registryDigest_ok host registry
  obtain ⟨report, hreport⟩ := readyReport_ok hvalid hsafe h
  have hcompiled : report.compiled = compiled := by
    obtain ⟨_, -, hreport⟩ := Fold.bind_eq_ok.mp hreport
    obtain ⟨_, -, hreport⟩ := Fold.bind_eq_ok.mp hreport
    cases hreport
    rfl
  refine ⟨report, Fold.bind_eq_ok.mpr ⟨specDigest, hspec,
    Fold.bind_eq_ok.mpr ⟨registryDigest, hregistry, ?_⟩⟩, hcompiled⟩
  rw [h]
  exact Fold.bind_eq_ok.mpr ⟨report, hreport, rfl⟩

/-- The digests of a plan, without a grant and without a decision. -/
def undecided (plan : Authorization.CompiledPlan) : PlanAuthorizationPolicy where
  specDigest := plan.specDigest
  registryDigest := plan.registryDigest
  planDigest := plan.planDigest
  grantedCapabilities := []
  grantedPermissions := []
  requirementDecisions := []

theorem semanticDigest_of_raising {value : Json} {digest : String}
    (h : raising (Jcs.contentDigest host.floatText value) = .ok digest) :
    isSemanticDigest digest = true := by
  refine isSemanticDigest_of_digestText
    (digestText_eq_some.mpr (?_ : Jcs.contentDigest host.floatText value = .ok digest))
  cases hcontent : Jcs.contentDigest host.floatText value with
  | ok text =>
    rw [hcontent] at h
    cases h
    rfl
  | error message =>
    rw [hcontent] at h
    cases h

theorem plan_digests (h : compilePlan host spec registry workflowId limits = .ok compiled) :
    isSemanticDigest compiled.plan.specDigest = true ∧
      isSemanticDigest compiled.plan.registryDigest = true := by
  obtain ⟨workflow, graph, after, -, -, hfinish⟩ := compilePlan_ok h
  obtain ⟨used, -, hfinish⟩ := Fold.bind_eq_ok.mp hfinish
  obtain ⟨specDigest, hspec, hfinish⟩ := Fold.bind_eq_ok.mp hfinish
  obtain ⟨registryDigest, hregistry, hfinish⟩ := Fold.bind_eq_ok.mp hfinish
  cases hfinish
  exact ⟨semanticDigest_of_raising hspec, semanticDigest_of_raising hregistry⟩

/-- It is accepted where the capabilities of the plan are known. -/
theorem undecided_accepted (hvalid : spec.validate = .ok ())
    (hready : dryRun host registry limits spec workflowId = .ok (.ready ready))
    (hknown : ∀ task ∈ Authorization.stagesTasks ready.authorizable.graph,
      ∀ value ∈ task.declaredCapabilities, value ∈ Authorization.knownPlanCapabilities)
    (hreported : reported.plan = some ready.authorizable) :
    ∃ result, authorizePlan (digestText host) reported (undecided ready.authorizable) =
      .ok result := by
  obtain ⟨hcompile, hdigest⟩ := dryRun_ready hready
  obtain ⟨hspec, hregistry⟩ := plan_digests hcompile
  obtain ⟨workflow, -, -, -, hnodup⟩ := requirements_exact hvalid hcompile
  have hvalidate : (undecided ready.authorizable).validate = .ok () := by
    refine Fold.bind_eq_ok.mpr ⟨(), Authorization.requirePlan_ok.mpr ?_, rfl⟩
    simp only [undecided, ReadyReport.authorizable, hspec, hregistry,
      isSemanticDigest_of_digestText hdigest, List.all_cons, List.all_nil, Bool.and_self]
  have hcapabilities : (Authorization.declaredCapabilities ready.authorizable.graph).all
      Authorization.knownPlanCapabilities.contains = true := by
    refine List.all_eq_true.mpr fun value hvalue => ?_
    obtain ⟨task, htask, hvalue⟩ := List.mem_flatMap.mp (Authorization.mem_sortedSet.mp hvalue)
    exact List.contains_iff_mem.mpr (hknown task htask value hvalue)
  have hfit : (undecided ready.authorizable).fit ready.authorizable = .ok () :=
    Fold.bind_eq_ok.mpr ⟨(), Authorization.requirePlan_ok.mpr ⟨rfl, rfl, rfl⟩,
      Fold.bind_eq_ok.mpr ⟨(), Authorization.requirePlan_ok.mpr hcapabilities,
        Fold.bind_eq_ok.mpr ⟨(), Authorization.requirePlan_ok.mpr hnodup, rfl⟩⟩⟩
  have hpayload := (Jcs.readsBack_of_isOrdered (F := host.floatText) _
    (Authorization.isOrdered_payload (undecided ready.authorizable) ready.authorizable)).text
  rw [← Authorization.canonicalJson_payload] at hpayload
  obtain ⟨decisionDigest, hdecision⟩ : ∃ digest, digestText host
      ((undecided ready.authorizable).decisionPayload ready.authorizable) = some digest :=
    ⟨_, digestText_eq_some.mpr (Fold.bind_eq_ok.mpr ⟨_, hpayload, rfl⟩)⟩
  refine ⟨(undecided ready.authorizable).result ready.authorizable decisionDigest, ?_⟩
  simp only [authorizePlan, hreported]
  refine Fold.bind_eq_ok.mpr ⟨(), hvalidate, Fold.bind_eq_ok.mpr ⟨(), hfit, ?_⟩⟩
  rw [hdecision]

/-! A task of the plan has the permissions of its block. -/

theorem blockOf_mem {block : RegisteredBlock} {id : Identifier}
    (h : resolveTasks context base g = .ok resolved) (hblock : blockOf resolved id = .ok block) :
    block ∈ context.registry.blocks := by
  obtain ⟨entry, hentry, rfl⟩ := Option.map_eq_some_iff.mp (required_ok.mp hblock)
  obtain ⟨task, -, hresolve⟩ := Fold.exists_of_mem_right (Fold.mapM_eq_ok.mp h) (findBy_mem hentry).1
  obtain ⟨found, hfound, hresolve⟩ := Fold.bind_eq_ok.mp hresolve
  obtain ⟨_, -, hresolve⟩ := Fold.bind_eq_ok.mp hresolve
  cases hresolve
  cases hregistry : context.registry.resolve task.blockType.val task.blockVersion.val with
  | error e =>
    rw [hregistry] at hfound
    cases hfound
  | ok block =>
    rw [hregistry] at hfound
    cases hfound
    unfold BlockRegistry.resolve at hregistry
    split at hregistry
    · rename_i hfind
      cases hregistry
      exact List.mem_of_find?_eq_some hfind
    · cases hregistry

theorem mem_stageTasks {nodes : List PlannedNode} {node : PlannedNode}
    {task : Authorization.PlannedTask} (hnode : node ∈ nodes) (h : task ∈ node.authorizable.tasks) :
    task ∈ Authorization.stageTasks (nodesAuthorizable nodes) := by
  induction nodes with
  | nil => exact absurd hnode List.not_mem_nil
  | cons head nodes ih =>
    obtain rfl | hnode := List.mem_cons.mp hnode
    · exact List.mem_append_left _ h
    · exact List.mem_append_right _ (ih hnode)

theorem mem_stagesTasks {stages : List PlanStage} {stage : PlanStage}
    {task : Authorization.PlannedTask} (hstage : stage ∈ stages)
    (h : task ∈ Authorization.stageTasks stage.authorizable) :
    task ∈ Authorization.stagesTasks (stagesAuthorizable stages) := by
  induction stages with
  | nil => exact absurd hstage List.not_mem_nil
  | cons head stages ih =>
    obtain rfl | hstage := List.mem_cons.mp hstage
    · exact List.mem_append_left _ h
    · exact List.mem_append_right _ (ih hstage)

theorem planTask_permissions {task : TaskBlock} {node : PlannedNode}
    (hresolved : resolveTasks context base g = .ok resolved)
    (h : planTask context base g resolved task state = .ok (node, after)) :
    ∃ block ∈ context.registry.blocks, ∃ planned ∈ node.authorizable.tasks,
      planned.declaredPermissions = (sortIds block.manifest.permissions).map Subtype.val := by
  obtain ⟨block, hblock, h⟩ := Fold.bind_eq_ok.mp h
  obtain ⟨digest, -, h⟩ := Fold.bind_eq_ok.mp h
  cases h
  exact ⟨block, blockOf_mem hresolved hblock, _, List.mem_singleton_self _, rfl⟩

theorem planGraph_permissions {task : TaskBlock} (hg : g.validate = .ok ())
    (h : planGraph context (room + 1) base g state = .ok (planned, after))
    (htask : .task task ∈ g.nodes) :
    ∃ block ∈ context.registry.blocks, ∃ plannedTask ∈ Authorization.stagesTasks planned.authorizable,
      plannedTask.declaredPermissions = (sortIds block.manifest.permissions).map Subtype.val := by
  obtain ⟨resolved, edges, final, hresolved, -, -, -, -, -, hwalk, -⟩ := planGraph_ok h
  have haccepted := accepted_of_validate hg
  have hid : task.id ∈ g.ids := List.mem_map.mpr ⟨_, htask, rfl⟩
  obtain ⟨ids, hids, hmem⟩ := List.mem_flatten.mp ((stages_perm haccepted).mem_iff.mpr hid)
  obtain ⟨indexed, hindexed, rfl⟩ : ∃ indexed ∈ (stages g).zipIdx, indexed.1 = ids := by
    rw [← List.zipIdx_map_fst 0 (stages g)] at hids
    exact List.mem_map.mp hids
  obtain ⟨stage, hstage, u, v, hplan⟩ :=
    Fold.exists_of_mem_right (forall₂_of_walk hwalk).flip hindexed
  obtain ⟨⟨nodes, w⟩, hnodes, hplan⟩ := Fold.bind_eq_ok.mp hplan
  obtain ⟨_, -, hplan⟩ := Fold.bind_eq_ok.mp hplan
  cases hplan
  obtain ⟨node, hnode, _, _, hplanNode⟩ :=
    Fold.exists_of_mem_right (forall₂_of_walk hnodes).flip hmem
  obtain ⟨source, hsource, hplanNode⟩ := Fold.bind_eq_ok.mp hplanNode
  obtain ⟨hsourceMem, hsourceId⟩ := nodeById_ok hsource
  obtain rfl : source = .task task :=
    List.inj_on_of_nodup_map haccepted.ids_nodup hsourceMem htask hsourceId
  obtain ⟨block, hblock, plannedTask, hplanned, hpermissions⟩ :=
    planTask_permissions hresolved hplanNode
  obtain ⟨planStages, planEdges⟩ := planned
  exact ⟨block, hblock, plannedTask, mem_stagesTasks hstage (mem_stageTasks hnode hplanned),
    hpermissions⟩

theorem length_le_declared {graph : Authorization.PlannedGraph} {task : Authorization.PlannedTask}
    (htask : task ∈ Authorization.stagesTasks graph) (hnodup : task.declaredPermissions.Nodup) :
    task.declaredPermissions.length ≤ (Authorization.declaredPermissions graph).length := by
  refine (hnodup.subperm fun value hvalue => ?_).length_le
  exact Authorization.mem_sortedSet.mpr (List.mem_flatMap.mpr ⟨task, htask, hvalue⟩)

/-! Many permissions. -/

def permissionText (n : ℕ) : String := String.ofList ('p' :: Nat.toDigits 10 n)

theorem permissionText_injective : Function.Injective permissionText := by
  intro m n h
  have hdigits := List.cons.inj (String.ofList_injective h)
  have hm := congrArg (fun digits => Nat.ofDigitChars 10 digits 0) hdigits.2
  simpa using hm

theorem permissionText_identifier {n : ℕ} (h : n < 20000) :
    isEventIdentifier (permissionText n) = true := by
  have hlength : (Nat.toDigits 10 n).length ≤ 5 := by
    rw [Nat.length_toDigits_le_iff (by decide) (by decide)]
    omega
  have htail : (Nat.toDigits 10 n).all isIdentifierTail = true := by
    refine List.all_eq_true.mpr fun c hc => ?_
    have hdigit := Nat.isDigit_of_mem_toDigits (by decide) (by decide) hc
    simp [isIdentifierTail, Char.isAlphanum, hdigit]
  simp only [isEventIdentifier, permissionText, String.toList_ofList, htail, Bool.and_eq_true,
    decide_eq_true_eq]
  refine ⟨⟨by decide, trivial⟩, by omega⟩

def permission (n : Fin 10001) : Identifier :=
  ⟨permissionText n.val, permissionText_identifier (by omega)⟩

theorem permission_injective : Function.Injective permission := by
  intro m n h
  exact Fin.ext (permissionText_injective (congrArg Subtype.val h))

/-- A block that asks for more permissions than a recorded decision holds. -/
def permittedManifest : BlockManifest :=
  { trainManifest with
    permissions := (List.finRange 10001).map permission
    permissions_unique := (List.nodup_finRange _).map permission_injective }

def permittedRegistry : BlockRegistry where
  blocks := [⟨permittedManifest,
    ⟨"jcs-sha256:0000000000000000000000000000000000000000000000000000000000000000", .refl true⟩⟩]
  isSealed := true
  keys_unique := by decide

def trainGraph : WorkflowGraph where
  nodes := [.task Spec.trainTask]
  edges := []

def trainSpec : ResearchSpec where
  metadata := { id := Spec.name "project", revision := Spec.one, title := Spec.text "One task" }
  workflows := [⟨Spec.name "main", trainGraph⟩]
  resources := [Spec.paidGpu]

/-- All the capabilities of the tasks of a plan are known. -/
def knownTasks (compiled : CompiledPlan) : Bool :=
  (Authorization.stagesTasks compiled.plan.graph.authorizable).all fun task =>
    task.declaredCapabilities.all Authorization.knownPlanCapabilities.contains

/-- The ready report, in the first revision of the project. -/
def firstReport (ready : ReadyReport) : Authorization.DryRunReport where
  projectId := ready.project.id
  revision := ⟨1, .refl true⟩
  workflowId := ready.compiled.plan.workflowId
  plan := some ready.authorizable

theorem exists_undecided (registry : BlockRegistry) (hvalid : trainSpec.validate = .ok ())
    (hknown : (compilePlan planHost trainSpec registry none {}).toOption.any knownTasks = true) :
    ∃ ready result, dryRun planHost registry {} trainSpec none = .ok (.ready ready) ∧
      authorizePlan (digestText planHost) (firstReport ready) (undecided ready.authorizable) =
        .ok result := by
  cases hplan : compilePlan planHost trainSpec registry none {} with
  | error e =>
    rw [hplan] at hknown
    cases hknown
  | ok compiled =>
    rw [hplan] at hknown
    obtain ⟨ready, hready, rfl⟩ := exists_ready hvalid (by decide) hplan
    have hreported : (firstReport ready).plan = some ready.authorizable := rfl
    obtain ⟨result, hresult⟩ := undecided_accepted hvalid hready
      (fun task htask value hvalue => by
        have htasks := List.all_eq_true.mp hknown task htask
        exact List.contains_iff_mem.mp (List.all_eq_true.mp htasks value hvalue)) hreported
    exact ⟨ready, result, hready, hresult⟩

/-- A decision on a ready plan has both its documents exactly where its collections are in the
bounds of the recorded one; its digest is that of no other decision. -/
theorem authorization_documents
    (hready : dryRun host registry limits spec workflowId = .ok (.ready ready))
    (hreported : reported.plan = some ready.authorizable)
    (h : authorizePlan (digestText host) reported policy = .ok result) :
    (Covered host result ready.compiled.plan.workflowId ∧
      Decisive host policy ready.authorizable result) ↔ policy.Recordable ready.authorizable := by
  obtain ⟨⟨document, hdocument, htold, hdigest⟩, hpayload⟩ :=
    Authorization.documents_of_authorizePlan hreported (documentable hready)
      (fun _ _ => isSemanticDigest_of_digestText) h ready.compiled.plan.workflowId
  rw [htold.decisionDigest] at hdigest
  rw [← hpayload]
  constructor
  · rintro ⟨hcovered, -⟩
    obtain ⟨payload, hpayload, -⟩ := hcovered.payload
    exact Option.isSome_iff_exists.mpr ⟨payload, hpayload⟩
  · intro hsome
    obtain ⟨payload, hpayload⟩ := Option.isSome_iff_exists.mp hsome
    exact ⟨⟨⟨document, hdocument, hdigest⟩, ⟨payload, hpayload, Authorization.payload_digest hpayload⟩⟩,
      decisive hreported h⟩

theorem authorization_documents_train : ∃ ready result,
    dryRun planHost trainRegistry {} trainSpec none = .ok (.ready ready) ∧
      ((Covered planHost result ready.compiled.plan.workflowId ∧
        Decisive planHost (undecided ready.authorizable) ready.authorizable result) ↔
          (undecided ready.authorizable).Recordable ready.authorizable) := by
  obtain ⟨ready, result, hready, hresult⟩ :=
    exists_undecided trainRegistry (by decide) (by decide +kernel)
  exact ⟨ready, result, hready, authorization_documents hready rfl hresult⟩

theorem permitted_unrecorded : ∃ ready result, trainSpec.validate = .ok () ∧
    dryRun planHost permittedRegistry {} trainSpec none = .ok (.ready ready) ∧
    authorizePlan (digestText planHost) (firstReport ready) (undecided ready.authorizable) =
      .ok result ∧
    ¬ Covered planHost result ready.compiled.plan.workflowId := by
  have hvalid : trainSpec.validate = .ok () := by decide
  obtain ⟨ready, result, hready, hresult⟩ :=
    exists_undecided permittedRegistry hvalid (by decide +kernel)
  refine ⟨ready, result, hvalid, hready, hresult, fun hcovered => ?_⟩
  obtain ⟨payload, hpayload, -⟩ := hcovered.payload
  have hrecordable := (Authorization.documents_of_authorizePlan rfl (documentable hready)
    (fun _ _ => isSemanticDigest_of_digestText) hresult ready.compiled.plan.workflowId).2.mp
      (Option.isSome_iff_exists.mpr ⟨payload, hpayload⟩)
  obtain ⟨workflow, graph, after, hselect, hgraph, hfinish⟩ := compilePlan_ok (dryRun_ready hready).1
  have hworkflow := List.mem_singleton.mp (selectWorkflow_mem hselect)
  subst hworkflow
  have hplanned : graph = ready.compiled.plan.graph := by
    obtain ⟨_, -, hfinish⟩ := Fold.bind_eq_ok.mp hfinish
    obtain ⟨_, -, hfinish⟩ := Fold.bind_eq_ok.mp hfinish
    obtain ⟨_, -, hfinish⟩ := Fold.bind_eq_ok.mp hfinish
    rw [← Except.ok.inj hfinish]
  have hgraphValid : trainGraph.validate = .ok () := by decide
  have hnode : .task Spec.trainTask ∈ trainGraph.nodes := List.mem_cons_self
  obtain ⟨block, hblock, task, htask, hpermissions⟩ :=
    planGraph_permissions hgraphValid hgraph hnode
  obtain rfl := List.mem_singleton.mp hblock
  have hlength : task.declaredPermissions.length = 10001 := by
    rw [hpermissions, List.length_map, (sortIds_perm _).length_eq, permittedManifest,
      List.length_map, List.length_finRange]
  have hnodup : task.declaredPermissions.Nodup := by
    rw [hpermissions]
    exact ((sortIds_perm _).nodup_iff.mpr permittedManifest.permissions_unique).map
      Subtype.val_injective
  have hdeclared := length_le_declared htask hnodup
  have hbound := hrecordable.permissions
  rw [ReadyReport.authorizable, ← hplanned] at hbound
  rw [hlength] at hdeclared
  exact absurd (hdeclared.trans hbound) (by decide)

end ResearchOs.Planning
