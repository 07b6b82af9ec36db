import ResearchOs.Events.Scalars

/-! `ResearchSpec`: the authored document of a project. -/
namespace ResearchOs.Spec

/-! Scalars. -/

abbrev Identifier := EventIdentifier

def isNonEmptyText (s : String) : Bool := s != ""

abbrev NonEmptyText := Checked isNonEmptyText

def upper : Regex := .range 'A' 'Z'

/-- `^[A-Z]{3}$` -/
def isCurrencyCode (s : String) : Bool := (upper.times 3).fullmatch s

abbrev CurrencyCode := Checked isCurrencyCode

def digit : Regex := .range '0' '9'

def nonzeroDigit : Regex := .range '1' '9'

def letterOrHyphen : Regex := .choice [.range 'A' 'Z', .range 'a' 'z', .lit "-"]

def buildPart : Regex := .plus (.choice [digit, letterOrHyphen])

/-- `(0|[1-9][0-9]*)` -/
def versionNumber : Regex := .alt (.lit "0") (.seq nonzeroDigit (.star digit))

/-- `(?:0|[1-9][0-9]*|[0-9]*[A-Za-z-][0-9A-Za-z-]*)` -/
def preRelease : Regex :=
  .alt versionNumber (.chain [.star digit, letterOrHyphen, .star (.choice [digit, letterOrHyphen])])

def isSemanticVersion (s : String) : Bool :=
  (Regex.chain [versionNumber, .lit ".", versionNumber, .lit ".", versionNumber,
    .opt (.chain [.lit "-", preRelease, .star (.seq (.lit ".") preRelease)]),
    .opt (.chain [.lit "+", buildPart, .star (.seq (.lit ".") buildPart)])]).fullmatch s

abbrev SemanticVersion := Checked isSemanticVersion

/-- The text of a finite decimal that is not below zero. -/
def isMoneyText (s : String) : Bool :=
  (Regex.chain [.plus digit, .opt (.seq (.lit ".") (.plus digit)),
    .opt (.chain [.lit "E", .oneOf "+-", .plus digit])]).fullmatch s || s = "-0"

abbrev NonNegativeMoney := Checked isMoneyText

abbrev PositiveInt := Checked fun n : Nat => decide (1 ≤ n)

mutual

/-- Numbers that are not finite stand nowhere in the value. -/
def isFiniteJson : Json → Bool
  | .float x => x.isFinite
  | .arr items => areFiniteItems items
  | .obj members => areFiniteMembers members
  | _ => true

def areFiniteItems : List Json → Bool
  | [] => true
  | item :: items => isFiniteJson item && areFiniteItems items

def areFiniteMembers : Json.Members → Bool
  | [] => true
  | (_, value) :: members => isFiniteJson value && areFiniteMembers members

end

/-- `_require_json_object`; the members of an object are in key order. -/
def isJsonObject (members : Json.Members) : Bool :=
  isFiniteJson (.obj members) && (Json.obj members).canonical

abbrev JsonObject := Checked isJsonObject

/-! Enumerations. -/

inductive RightsStatus where
  | allowed
  | restricted
  | unknown
  deriving DecidableEq, Repr

def RightsStatus.text : RightsStatus → String
  | allowed => "allowed"
  | restricted => "restricted"
  | unknown => "unknown"

inductive DataUse where
  | researchRead
  | retrieval
  | training
  | redistribution
  deriving DecidableEq, Repr

def DataUse.text : DataUse → String
  | researchRead => "research-read"
  | retrieval => "retrieval"
  | training => "training"
  | redistribution => "redistribution"

inductive EvidenceSourceType where
  | paper
  | code
  | note
  | dataset
  | web
  | experiment
  | other
  deriving DecidableEq, Repr

def EvidenceSourceType.text : EvidenceSourceType → String
  | paper => "paper"
  | code => "code"
  | note => "note"
  | dataset => "dataset"
  | web => "web"
  | experiment => "experiment"
  | other => "other"

inductive ResourceKind where
  | cpu
  | gpu
  | tpu
  | ascend
  | remoteService
  | other
  deriving DecidableEq, Repr

def ResourceKind.text : ResourceKind → String
  | cpu => "cpu"
  | gpu => "gpu"
  | tpu => "tpu"
  | ascend => "ascend"
  | remoteService => "remote-service"
  | other => "other"

inductive ExpectedDirection where
  | increase
  | decrease
  | unchanged
  | range
  | unknown
  deriving DecidableEq, Repr

def ExpectedDirection.text : ExpectedDirection → String
  | increase => "increase"
  | decrease => "decrease"
  | unchanged => "unchanged"
  | range => "range"
  | unknown => "unknown"

inductive MetricDirection where
  | maximize
  | minimize
  | target
  | informational
  deriving DecidableEq, Repr

def MetricDirection.text : MetricDirection → String
  | maximize => "maximize"
  | minimize => "minimize"
  | target => "target"
  | informational => "informational"

/-! Research content. -/

structure ProjectMetadata where
  id : Identifier
  revision : PositiveInt
  title : NonEmptyText
  description : Option NonEmptyText := none
  labels : List (String × String) := []

structure ResearchQuestion where
  id : Identifier
  question : NonEmptyText
  rationale : Option NonEmptyText := none
  tags : List NonEmptyText := []

structure Prediction where
  id : Identifier
  statement : NonEmptyText
  metric : Option Identifier := none
  expectedDirection : ExpectedDirection := .unknown

structure Hypothesis where
  id : Identifier
  statement : NonEmptyText
  questionRefs : List Identifier := []
  predictions : List Prediction := []

structure EvidenceRecord where
  id : Identifier
  sourceUri : NonEmptyText
  sourceType : EvidenceSourceType
  title : Option NonEmptyText := none
  snapshotUri : Option NonEmptyText := none
  contentDigest : Option NonEmptyText := none
  rights : RightsStatus := .unknown
  license : Option NonEmptyText := none
  claims : List NonEmptyText := []

structure DatasetSource where
  uri : NonEmptyText
  version : Option NonEmptyText := none
  digest : Option NonEmptyText := none
  rights : RightsStatus := .unknown
  license : Option NonEmptyText := none
  allowedUses : List DataUse := [.researchRead]

structure DatasetSpec where
  id : Identifier
  version : NonEmptyText
  sources : List DatasetSource
  transforms : List Identifier := []
  splits : List (String × NonEmptyText) := []

structure ModelSpec where
  id : Identifier
  architecture : NonEmptyText
  sourceUri : Option NonEmptyText := none
  sourceRevision : Option NonEmptyText := none
  config : JsonObject := ⟨[], .refl true⟩

structure MetricSpec where
  id : Identifier
  description : Option NonEmptyText := none
  direction : MetricDirection := .informational
  target : Option (Checked Binary64.isFinite) := none

structure EvaluationSpec where
  id : Identifier
  metrics : List MetricSpec
  datasetRefs : List Identifier := []
  baselineRefs : List Identifier := []
  stopConditions : List NonEmptyText := []

def usd : CurrencyCode := ⟨"USD", by decide⟩

def one : PositiveInt := ⟨1, by decide⟩

structure ResourceSpec where
  id : Identifier
  kind : ResourceKind
  count : PositiveInt := one
  provider : Option NonEmptyText := none
  model : Option NonEmptyText := none
  paid : Bool := false
  maxCost : Option NonNegativeMoney := none
  currency : CurrencyCode := usd
  maxWallTimeSeconds : Option PositiveInt := none

/-! Workflows. -/

/-- `ConditionExpression`, whose language is fixed. -/
structure ConditionExpression where
  expression : NonEmptyText

structure WorkflowEdge where
  source : Identifier
  target : Identifier
  sourcePort : Option Identifier := none
  targetPort : Option Identifier := none
  deriving DecidableEq

structure TaskBlock where
  id : Identifier
  blockType : Identifier
  blockVersion : SemanticVersion
  config : JsonObject := ⟨[], .refl true⟩
  resourceRefs : List Identifier := []

def researcher : NonEmptyText := ⟨"researcher", by decide⟩

structure ApprovalBlock where
  id : Identifier
  prompt : NonEmptyText
  requiredRole : NonEmptyText := researcher

/-- `LoopBlock` without its body. -/
structure LoopBlock where
  id : Identifier
  maxIterations : PositiveInt
  maxWallTimeSeconds : Option PositiveInt := none
  maxCost : Option NonNegativeMoney := none
  currency : CurrencyCode := usd
  mayIncurCost : Bool := false
  condition : Option ConditionExpression := none
  checkpoint : Bool := true

/-- A node; the body of a loop is a graph. -/
inductive WorkflowNode where
  | task (block : TaskBlock)
  | approval (block : ApprovalBlock)
  | loop (block : LoopBlock) (nodes : List WorkflowNode) (edges : List WorkflowEdge)

def WorkflowNode.id : WorkflowNode → Identifier
  | .task block => block.id
  | .approval block => block.id
  | .loop block _ _ => block.id

/-- Induction over a list of nodes and the bodies in it. -/
theorem nodes_induction {P : List WorkflowNode → Prop} (nil : P [])
    (task : ∀ block nodes, P nodes → P (.task block :: nodes))
    (approval : ∀ block nodes, P nodes → P (.approval block :: nodes))
    (loop : ∀ block body edges nodes, P body → P nodes → P (.loop block body edges :: nodes)) :
    ∀ nodes, P nodes
  | [] => nil
  | .task block :: nodes => task block nodes (nodes_induction nil task approval loop nodes)
  | .approval block :: nodes => approval block nodes (nodes_induction nil task approval loop nodes)
  | .loop block body edges :: nodes =>
    loop block body edges nodes (nodes_induction nil task approval loop body)
      (nodes_induction nil task approval loop nodes)

structure WorkflowGraph where
  nodes : List WorkflowNode
  edges : List WorkflowEdge := []

structure WorkflowSpec where
  id : Identifier
  graph : WorkflowGraph

structure PolicySpec where
  paidActionsRequireApproval : Bool := true
  destructiveActionsRequireApproval : Bool := true

def emptyObject : JsonObject := ⟨[], .refl true⟩

structure ResearchSpec where
  metadata : ProjectMetadata
  questions : List ResearchQuestion := []
  hypotheses : List Hypothesis := []
  evidence : List EvidenceRecord := []
  datasets : List DatasetSpec := []
  models : List ModelSpec := []
  workflows : List WorkflowSpec := []
  evaluations : List EvaluationSpec := []
  resources : List ResourceSpec := []
  policies : PolicySpec := {}
  extensions : JsonObject := emptyObject

end ResearchOs.Spec
