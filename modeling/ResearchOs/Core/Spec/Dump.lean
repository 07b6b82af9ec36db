import ResearchOs.Core.Spec.Model

/-! `model_dump(mode="json", by_alias=True)` of a spec; with `keepNone` unset, `exclude_none`. -/
namespace ResearchOs.Spec

def scalar {p : String → Bool} (value : Checked p) : Json := .str value.val

def scalars {p : String → Bool} (values : List (Checked p)) : Json := .arr (values.map scalar)

def positive (value : PositiveInt) : Json := .int value.val

/-- A field that may be `None`. -/
def optional {α : Type} (keepNone : Bool) (key : String) (encode : α → Json) :
    Option α → Json.Members
  | some value => [(key, encode value)]
  | none => if keepNone then [(key, .null)] else []

variable (keepNone : Bool)

def ProjectMetadata.dump (project : ProjectMetadata) : Json :=
  .obj ([("id", scalar project.id), ("revision", positive project.revision),
      ("title", scalar project.title)] ++
    optional keepNone "description" scalar project.description ++
    [("labels", .obj (Json.ofPairs (project.labels.map fun label => (label.1, .str label.2))))])

def ResearchQuestion.dump (question : ResearchQuestion) : Json :=
  .obj ([("id", scalar question.id), ("question", scalar question.question)] ++
    optional keepNone "rationale" scalar question.rationale ++ [("tags", scalars question.tags)])

def Prediction.dump (prediction : Prediction) : Json :=
  .obj ([("id", scalar prediction.id), ("statement", scalar prediction.statement)] ++
    optional keepNone "metric" scalar prediction.metric ++
    [("expectedDirection", .str prediction.expectedDirection.text)])

def Hypothesis.dump (hypothesis : Hypothesis) : Json :=
  .obj [("id", scalar hypothesis.id), ("statement", scalar hypothesis.statement),
    ("questionRefs", scalars hypothesis.questionRefs),
    ("predictions", .arr (hypothesis.predictions.map (Prediction.dump keepNone)))]

def EvidenceRecord.dump (evidence : EvidenceRecord) : Json :=
  .obj ([("id", scalar evidence.id), ("sourceUri", scalar evidence.sourceUri),
      ("sourceType", .str evidence.sourceType.text)] ++
    optional keepNone "title" scalar evidence.title ++
    optional keepNone "snapshotUri" scalar evidence.snapshotUri ++
    optional keepNone "contentDigest" scalar evidence.contentDigest ++
    [("rights", .str evidence.rights.text)] ++
    optional keepNone "license" scalar evidence.license ++ [("claims", scalars evidence.claims)])

def DatasetSource.dump (source : DatasetSource) : Json :=
  .obj ([("uri", scalar source.uri)] ++ optional keepNone "version" scalar source.version ++
    optional keepNone "digest" scalar source.digest ++ [("rights", .str source.rights.text)] ++
    optional keepNone "license" scalar source.license ++
    [("allowedUses", .arr (source.allowedUses.map fun use => .str use.text))])

def DatasetSpec.dump (dataset : DatasetSpec) : Json :=
  .obj [("id", scalar dataset.id), ("version", scalar dataset.version),
    ("sources", .arr (dataset.sources.map (DatasetSource.dump keepNone))),
    ("transforms", scalars dataset.transforms),
    ("splits", .obj (Json.ofPairs (dataset.splits.map fun split => (split.1, scalar split.2))))]

def ModelSpec.dump (model : ModelSpec) : Json :=
  .obj ([("id", scalar model.id), ("architecture", scalar model.architecture)] ++
    optional keepNone "sourceUri" scalar model.sourceUri ++
    optional keepNone "sourceRevision" scalar model.sourceRevision ++
    [("config", .obj model.config.val)])

def MetricSpec.dump (metric : MetricSpec) : Json :=
  .obj ([("id", scalar metric.id)] ++ optional keepNone "description" scalar metric.description ++
    [("direction", .str metric.direction.text)] ++
    optional keepNone "target" (fun target => .float target.val) metric.target)

def EvaluationSpec.dump (evaluation : EvaluationSpec) : Json :=
  .obj [("id", scalar evaluation.id),
    ("metrics", .arr (evaluation.metrics.map (MetricSpec.dump keepNone))),
    ("datasetRefs", scalars evaluation.datasetRefs), ("baselineRefs", scalars evaluation.baselineRefs),
    ("stopConditions", scalars evaluation.stopConditions)]

def ResourceSpec.dump (resource : ResourceSpec) : Json :=
  .obj ([("id", scalar resource.id), ("kind", .str resource.kind.text),
      ("count", positive resource.count)] ++
    optional keepNone "provider" scalar resource.provider ++
    optional keepNone "model" scalar resource.model ++ [("paid", .bool resource.paid)] ++
    optional keepNone "maxCost" scalar resource.maxCost ++ [("currency", scalar resource.currency)] ++
    optional keepNone "maxWallTimeSeconds" positive resource.maxWallTimeSeconds)

def conditionLanguage : String := "researchos.expr/v0alpha1"

def ConditionExpression.dump (condition : ConditionExpression) : Json :=
  .obj [("language", .str conditionLanguage), ("expression", scalar condition.expression)]

def WorkflowEdge.dump (edge : WorkflowEdge) : Json :=
  .obj ([("source", scalar edge.source), ("target", scalar edge.target)] ++
    optional keepNone "sourcePort" scalar edge.sourcePort ++
    optional keepNone "targetPort" scalar edge.targetPort)

def TaskBlock.dump (task : TaskBlock) : Json :=
  .obj [("kind", .str "task"), ("id", scalar task.id), ("blockType", scalar task.blockType),
    ("blockVersion", scalar task.blockVersion), ("config", .obj task.config.val),
    ("resourceRefs", scalars task.resourceRefs)]

def ApprovalBlock.dump (approval : ApprovalBlock) : Json :=
  .obj [("kind", .str "approval"), ("id", scalar approval.id), ("prompt", scalar approval.prompt),
    ("requiredRole", scalar approval.requiredRole)]

def graphDump (nodes : List Json) (edges : List WorkflowEdge) : Json :=
  .obj [("nodes", .arr nodes), ("edges", .arr (edges.map (WorkflowEdge.dump keepNone)))]

/-- A loop, with the dump of its body. -/
def LoopBlock.dump (loop : LoopBlock) (body : Json) : Json :=
  .obj ([("kind", .str "loop"), ("id", scalar loop.id), ("body", body),
      ("maxIterations", positive loop.maxIterations)] ++
    optional keepNone "maxWallTimeSeconds" positive loop.maxWallTimeSeconds ++
    optional keepNone "maxCost" scalar loop.maxCost ++
    [("currency", scalar loop.currency), ("mayIncurCost", .bool loop.mayIncurCost)] ++
    optional keepNone "until" ConditionExpression.dump loop.condition ++
    [("checkpoint", .bool loop.checkpoint)])

mutual

def WorkflowNode.dump : WorkflowNode → Json
  | .task block => block.dump
  | .approval block => block.dump
  | .loop block nodes edges => block.dump keepNone (graphDump keepNone (nodeDumps nodes) edges)

def nodeDumps : List WorkflowNode → List Json
  | [] => []
  | node :: nodes => node.dump :: nodeDumps nodes

end

def WorkflowGraph.dump (g : WorkflowGraph) : Json :=
  graphDump keepNone (nodeDumps keepNone g.nodes) g.edges

def WorkflowSpec.dump (workflow : WorkflowSpec) : Json :=
  .obj [("id", scalar workflow.id), ("graph", workflow.graph.dump keepNone)]

def PolicySpec.dump (policies : PolicySpec) : Json :=
  .obj [("paidActionsRequireApproval", .bool policies.paidActionsRequireApproval),
    ("destructiveActionsRequireApproval", .bool policies.destructiveActionsRequireApproval),
    ("preserveAiDissent", .bool true), ("unknownEvidenceMayTrain", .bool false)]

def ResearchSpec.dump (spec : ResearchSpec) : Json :=
  .obj [("apiVersion", .str "researchos.dev/v0alpha1"), ("kind", .str "ResearchProject"),
    ("metadata", spec.metadata.dump keepNone),
    ("questions", .arr (spec.questions.map (ResearchQuestion.dump keepNone))),
    ("hypotheses", .arr (spec.hypotheses.map (Hypothesis.dump keepNone))),
    ("evidence", .arr (spec.evidence.map (EvidenceRecord.dump keepNone))),
    ("datasets", .arr (spec.datasets.map (DatasetSpec.dump keepNone))),
    ("models", .arr (spec.models.map (ModelSpec.dump keepNone))),
    ("workflows", .arr (spec.workflows.map (WorkflowSpec.dump keepNone))),
    ("evaluations", .arr (spec.evaluations.map (EvaluationSpec.dump keepNone))),
    ("resources", .arr (spec.resources.map (ResourceSpec.dump keepNone))),
    ("policies", spec.policies.dump), ("extensions", .obj spec.extensions.val)]

end ResearchOs.Spec
