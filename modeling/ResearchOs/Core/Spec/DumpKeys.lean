import ResearchOs.Data.JsonEq
import ResearchOs.Core.Spec.Dump

/-! The dump of a spec has no name twice in an object. -/

theorem Json.canonicalItems_iff {items : List Json} :
    canonicalItems items = true ↔ ∀ item ∈ items, canonical item = true := by
  induction items with
  | nil => simp [canonicalItems]
  | cons item items ih => simp [canonicalItems, ih]

theorem Json.canonicalMembers_iff {members : Members} :
    canonicalMembers members = true ↔ ∀ member ∈ members, canonical member.2 = true := by
  induction members with
  | nil => simp [canonicalMembers]
  | cons member members ih => simp [canonicalMembers, ih]

theorem Json.distinctKeys_of_canonical {j : Json} (h : j.canonical = true) :
    j.distinctKeys = true := by
  induction j using Json.induct with
  | hscalar j hlist hdict => cases j <;> first | rfl | exact absurd rfl hlist | exact absurd rfl hdict
  | harr items ih =>
    have hitems : Json.canonicalItems items = true := h
    rw [Json.distinctKeys_arr]
    exact fun item hitem => ih item hitem (Json.canonicalItems_iff.mp hitems item hitem)
  | hobj members ih =>
    rw [Json.canonical, Bool.and_eq_true, decide_eq_true_eq] at h
    rw [Json.distinctKeys_obj]
    exact ⟨h.1.imp ne_of_lt, fun member hmember =>
      ih member hmember (Json.canonicalMembers_iff.mp h.2 member hmember)⟩

namespace ResearchOs.Spec

open Json (distinctKeys distinctKeys_arr distinctKeys_obj)

theorem optional_true {α : Type} (key : String) (encode : α → Json) (value : Option α) :
    optional true key encode value = [(key, (value.map encode).getD .null)] := by
  cases value <;> rfl

@[simp] theorem distinctKeys_scalar {p : String → Bool} (value : Checked p) :
    (scalar value).distinctKeys = true := rfl

@[simp] theorem distinctKeys_positive (value : PositiveInt) :
    (positive value).distinctKeys = true := rfl

theorem distinctKeys_getD {α : Type} {encode : α → Json} (value : Option α)
    (h : ∀ a, (encode a).distinctKeys = true) :
    ((value.map encode).getD .null).distinctKeys = true := by
  cases value with
  | none => rfl
  | some a => exact h a

@[simp] theorem distinctKeys_optionalScalar {p : String → Bool} (value : Option (Checked p)) :
    ((value.map scalar).getD .null).distinctKeys = true :=
  distinctKeys_getD value fun _ => rfl

@[simp] theorem distinctKeys_optionalPositive (value : Option PositiveInt) :
    ((value.map positive).getD .null).distinctKeys = true :=
  distinctKeys_getD value fun _ => rfl

@[simp] theorem distinctKeys_null : Json.null.distinctKeys = true := rfl

@[simp] theorem distinctKeys_bool (b : Bool) : (Json.bool b).distinctKeys = true := rfl

@[simp] theorem distinctKeys_str (s : String) : (Json.str s).distinctKeys = true := rfl

@[simp] theorem distinctKeys_float (x : Binary64) : (Json.float x).distinctKeys = true := rfl

theorem distinctKeys_map {α : Type} {encode : α → Json} {values : List α}
    (h : ∀ a ∈ values, (encode a).distinctKeys = true) :
    (Json.arr (values.map encode)).distinctKeys = true := by
  rw [distinctKeys_arr]
  intro item hitem
  obtain ⟨a, ha, rfl⟩ := List.mem_map.mp hitem
  exact h a ha

@[simp] theorem distinctKeys_scalars {p : String → Bool} (values : List (Checked p)) :
    (scalars values).distinctKeys = true :=
  distinctKeys_map fun _ _ => rfl

theorem distinctKeys_ofPairs {pairs : Json.Members}
    (h : ∀ pair ∈ pairs, pair.2.canonical = true) :
    (Json.obj (Json.ofPairs pairs)).distinctKeys = true :=
  Json.distinctKeys_of_canonical (Json.canonical_ofPairs h)

@[simp] theorem distinctKeys_object (object : JsonObject) :
    (Json.obj object.val).distinctKeys = true := by
  have h := object.property
  rw [isJsonObject, Bool.and_eq_true] at h
  exact Json.distinctKeys_of_canonical h.2

theorem distinctKeys_metadata (project : ProjectMetadata) :
    (project.dump true).distinctKeys = true := by
  have hlabels : (Json.obj (Json.ofPairs (project.labels.map fun label =>
      (label.1, .str label.2)))).distinctKeys = true := by
    refine distinctKeys_ofPairs fun pair hpair => ?_
    obtain ⟨label, -, rfl⟩ := List.mem_map.mp hpair
    rfl
  simp [ProjectMetadata.dump, optional_true, distinctKeys_obj, hlabels]

theorem distinctKeys_question (question : ResearchQuestion) :
    (question.dump true).distinctKeys = true := by
  simp [ResearchQuestion.dump, optional_true, distinctKeys_obj]


theorem distinctKeys_hypothesis (hypothesis : Hypothesis) :
    (hypothesis.dump true).distinctKeys = true := by
  have hpredictions : (Json.arr (hypothesis.predictions.map (Prediction.dump true))).distinctKeys =
      true :=
    distinctKeys_map fun prediction _ => by simp [Prediction.dump, optional_true, distinctKeys_obj]
  simp [Hypothesis.dump, distinctKeys_obj, hpredictions]

theorem distinctKeys_evidence (evidence : EvidenceRecord) :
    (evidence.dump true).distinctKeys = true := by
  simp [EvidenceRecord.dump, optional_true, distinctKeys_obj]

theorem distinctKeys_dataset (dataset : DatasetSpec) : (dataset.dump true).distinctKeys = true := by
  have hsource : ∀ source : DatasetSource, (source.dump true).distinctKeys = true := by
    intro source
    have huses : (Json.arr (source.allowedUses.map fun use => .str use.text)).distinctKeys = true :=
      distinctKeys_map fun _ _ => rfl
    simp [DatasetSource.dump, optional_true, distinctKeys_obj, huses]
  have hsources : (Json.arr (dataset.sources.map (DatasetSource.dump true))).distinctKeys = true :=
    distinctKeys_map fun source _ => hsource source
  have hsplits : (Json.obj (Json.ofPairs (dataset.splits.map fun split =>
      (split.1, scalar split.2)))).distinctKeys = true := by
    refine distinctKeys_ofPairs fun pair hpair => ?_
    obtain ⟨split, -, rfl⟩ := List.mem_map.mp hpair
    rfl
  simp [DatasetSpec.dump, distinctKeys_obj, hsources, hsplits]

theorem distinctKeys_model (model : ModelSpec) : (model.dump true).distinctKeys = true := by
  simp [ModelSpec.dump, optional_true, distinctKeys_obj]

theorem distinctKeys_evaluation (evaluation : EvaluationSpec) :
    (evaluation.dump true).distinctKeys = true := by
  have hmetric : ∀ metric : MetricSpec, (metric.dump true).distinctKeys = true := by
    intro metric
    have htarget : ((metric.target.unattach.map Json.float).getD .null).distinctKeys = true :=
      distinctKeys_getD _ fun _ => rfl
    simp [MetricSpec.dump, optional_true, distinctKeys_obj, htarget]
  have hmetrics : (Json.arr (evaluation.metrics.map (MetricSpec.dump true))).distinctKeys = true :=
    distinctKeys_map fun metric _ => hmetric metric
  simp [EvaluationSpec.dump, distinctKeys_obj, hmetrics]

theorem distinctKeys_resource (resource : ResourceSpec) :
    (resource.dump true).distinctKeys = true := by
  simp [ResourceSpec.dump, optional_true, distinctKeys_obj]

theorem distinctKeys_edges (edges : List WorkflowEdge) :
    (Json.arr (edges.map (WorkflowEdge.dump true))).distinctKeys = true :=
  distinctKeys_map fun edge _ => by simp [WorkflowEdge.dump, optional_true, distinctKeys_obj]

theorem distinctKeys_graph {nodes : List Json} (edges : List WorkflowEdge)
    (h : ∀ node ∈ nodes, node.distinctKeys = true) :
    (graphDump true nodes edges).distinctKeys = true := by
  have hnodes := distinctKeys_arr.mpr h
  have hedges := distinctKeys_edges edges
  simp [graphDump, distinctKeys_obj, hnodes, hedges]

mutual

theorem distinctKeys_node : ∀ node : WorkflowNode, (node.dump true).distinctKeys = true
  | .task block => by simp [WorkflowNode.dump, TaskBlock.dump, distinctKeys_obj]
  | .approval block => by simp [WorkflowNode.dump, ApprovalBlock.dump, distinctKeys_obj]
  | .loop block nodes edges => by
    have hbody := distinctKeys_graph edges (distinctKeys_nodes nodes)
    have hcondition : ((block.condition.map ConditionExpression.dump).getD .null).distinctKeys =
        true :=
      distinctKeys_getD _ fun condition => by simp [ConditionExpression.dump, distinctKeys_obj]
    simp [WorkflowNode.dump, LoopBlock.dump, optional_true, distinctKeys_obj, hbody, hcondition]

theorem distinctKeys_nodes : ∀ nodes : List WorkflowNode,
    ∀ node ∈ nodeDumps true nodes, node.distinctKeys = true
  | [] => by simp [nodeDumps]
  | node :: nodes => by
    rw [nodeDumps]
    exact List.forall_mem_cons.mpr ⟨distinctKeys_node node, distinctKeys_nodes nodes⟩

end

theorem distinctKeys_workflow (workflow : WorkflowSpec) :
    (workflow.dump true).distinctKeys = true := by
  have hgraph := distinctKeys_graph workflow.graph.edges (distinctKeys_nodes workflow.graph.nodes)
  simp [WorkflowSpec.dump, WorkflowGraph.dump, distinctKeys_obj, hgraph]

theorem distinctKeys_policies (policies : PolicySpec) : policies.dump.distinctKeys = true := by
  simp [PolicySpec.dump, distinctKeys_obj]

theorem distinctKeys_dump (spec : ResearchSpec) : (spec.dump true).distinctKeys = true := by
  have hquestions := distinctKeys_map fun question (_ : question ∈ spec.questions) =>
    distinctKeys_question question
  have hhypotheses := distinctKeys_map fun hypothesis (_ : hypothesis ∈ spec.hypotheses) =>
    distinctKeys_hypothesis hypothesis
  have hevidence := distinctKeys_map fun evidence (_ : evidence ∈ spec.evidence) =>
    distinctKeys_evidence evidence
  have hdatasets := distinctKeys_map fun dataset (_ : dataset ∈ spec.datasets) =>
    distinctKeys_dataset dataset
  have hmodels := distinctKeys_map fun model (_ : model ∈ spec.models) => distinctKeys_model model
  have hworkflows := distinctKeys_map fun workflow (_ : workflow ∈ spec.workflows) =>
    distinctKeys_workflow workflow
  have hevaluations := distinctKeys_map fun evaluation (_ : evaluation ∈ spec.evaluations) =>
    distinctKeys_evaluation evaluation
  have hresources := distinctKeys_map fun resource (_ : resource ∈ spec.resources) =>
    distinctKeys_resource resource
  simp [ResearchSpec.dump, distinctKeys_obj, distinctKeys_metadata, distinctKeys_policies,
    hquestions, hhypotheses, hevidence, hdatasets, hmodels, hworkflows, hevaluations, hresources]

end ResearchOs.Spec
