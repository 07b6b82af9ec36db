import ResearchOs.Events.Model

/-! Research decision payloads: proposals, dissents, decisions, questions and answers. -/
namespace ResearchOs.Research

inductive ResearchError where
  | payload (message code : String)
  | ledger (message code : String)
  | control (message code : String)
  /-- A document that fails the validation of its model. -/
  | validation
  deriving DecidableEq, Repr

def maxDecisionList : Nat := 32

/-- `DECISION_EVENT_TYPES` -/
inductive DecisionEventType where
  | proposalSubmitted
  | dissentRecorded
  | decisionRecorded
  | questionAsked
  | questionAnswered
  deriving DecidableEq, Repr

namespace DecisionEventType

def text : DecisionEventType → String
  | proposalSubmitted => "proposal.submitted"
  | dissentRecorded => "dissent.recorded"
  | decisionRecorded => "decision.recorded"
  | questionAsked => "question.asked"
  | questionAnswered => "question.answered"

def ofText (s : String) : Option DecisionEventType :=
  [proposalSubmitted, dissentRecorded, decisionRecorded, questionAsked, questionAnswered].find?
    fun t => t.text = s

/-- `ALLOWED_ACTOR_KINDS` -/
def allowedActorKinds : DecisionEventType → List ActorKind
  | proposalSubmitted => [.ai, .human]
  | dissentRecorded => [.ai, .human]
  | decisionRecorded => [.human, .policy]
  | questionAsked => [.ai, .system]
  | questionAnswered => [.human]

end DecisionEventType

def isTextWithin (low high : Nat) (s : String) : Bool := inRange low high s.length

abbrev DecisionText := Checked (isTextWithin 1 4000)
abbrev DecisionItemText := Checked (isTextWithin 1 1000)
abbrev RiskText := Checked (isTextWithin 0 4000)

/-- A list of distinct members, between two lengths. -/
def isUniqueList {α : Type} [DecidableEq α] (low high : Nat) (items : List α) : Bool :=
  inRange low high items.length && decide items.Nodup

/-- `evidenceRefs` and the lists of identifiers. -/
abbrev IdentifierList := Checked (isUniqueList (α := EventIdentifier) 0 maxDecisionList)

inductive ObjectionKind where
  | falsifiability
  | alternativeExplanation
  | dataLeakage
  | baselineOrAblation
  | metricValidity
  | costBenefit
  | negativeResultValue
  | other
  deriving DecidableEq, Repr

namespace ObjectionKind

def text : ObjectionKind → String
  | falsifiability => "falsifiability"
  | alternativeExplanation => "alternative-explanation"
  | dataLeakage => "data-leakage"
  | baselineOrAblation => "baseline-or-ablation"
  | metricValidity => "metric-validity"
  | costBenefit => "cost-benefit"
  | negativeResultValue => "negative-result-value"
  | other => "other"

def ofText (s : String) : Option ObjectionKind :=
  [falsifiability, alternativeExplanation, dataLeakage, baselineOrAblation, metricValidity,
    costBenefit, negativeResultValue, other].find? fun k => k.text = s

end ObjectionKind

inductive DissentTargetKind where
  | proposal
  | decision
  deriving DecidableEq, Repr

def DissentTargetKind.ofText : String → Option DissentTargetKind
  | "proposal" => some .proposal
  | "decision" => some .decision
  | _ => none

inductive DecisionTargetKind where
  | proposal
  | run
  | dissent
  | question
  deriving DecidableEq, Repr

def DecisionTargetKind.ofText : String → Option DecisionTargetKind
  | "proposal" => some .proposal
  | "run" => some .run
  | "dissent" => some .dissent
  | "question" => some .question
  | _ => none

inductive DecisionOutcome where
  | accept
  | reject
  | modify
  | continue_
  | defer
  deriving DecidableEq, Repr

def DecisionOutcome.ofText : String → Option DecisionOutcome
  | "accept" => some .accept
  | "reject" => some .reject
  | "modify" => some .modify
  | "continue" => some .continue_
  | "defer" => some .defer
  | _ => none

inductive ExpectedDirection where
  | increase
  | decrease
  | unchanged
  | range
  | unknown
  deriving DecidableEq, Repr

def ExpectedDirection.ofText : String → Option ExpectedDirection
  | "increase" => some .increase
  | "decrease" => some .decrease
  | "unchanged" => some .unchanged
  | "range" => some .range
  | "unknown" => some .unknown
  | _ => none

inductive RightsStatus where
  | allowed
  | restricted
  | unknown
  deriving DecidableEq, Repr

def RightsStatus.ofText : String → Option RightsStatus
  | "allowed" => some .allowed
  | "restricted" => some .restricted
  | "unknown" => some .unknown
  | _ => none

inductive DataUse where
  | researchRead
  | retrieval
  | training
  | redistribution
  deriving DecidableEq, Repr

def DataUse.ofText : String → Option DataUse
  | "research-read" => some .researchRead
  | "retrieval" => some .retrieval
  | "training" => some .training
  | "redistribution" => some .redistribution
  | _ => none

structure ProposalPrediction where
  id : EventIdentifier
  statement : DecisionItemText
  metric : Option EventIdentifier
  expectedDirection : ExpectedDirection

structure RiskAssessment where
  data : RiskText
  method : RiskText
  safety : RiskText
  cost : RiskText

/-- At least one prediction, none with the id of another. -/
def arePredictions (items : List ProposalPrediction) : Bool :=
  isUniqueList 1 maxDecisionList (items.map (·.id))

structure ProposalSubmittedPayload where
  proposalId : EventIdentifier
  baseRevision : ExperimentRevision
  specDiffDigest : JcsDigest
  proposedSpecDigest : JcsDigest
  rationale : DecisionText
  predictions : Checked arePredictions
  falsificationConditions : Checked (isUniqueList (α := DecisionItemText) 1 maxDecisionList)
  riskAssessment : RiskAssessment
  evidenceRefs : IdentifierList

structure DissentObjection where
  kind : ObjectionKind
  statement : DecisionItemText
  deriving DecidableEq

def areObjections (items : List DissentObjection) : Bool := inRange 1 maxDecisionList items.length

structure DissentRecordedPayload where
  dissentId : EventIdentifier
  targetKind : DissentTargetKind
  targetId : EventIdentifier
  objections : Checked areObjections
  evidenceRefs : IdentifierList

structure DecisionRecordedPayload where
  decisionId : EventIdentifier
  targetKind : DecisionTargetKind
  targetId : EventIdentifier
  outcome : DecisionOutcome
  rationale : DecisionText
  overriddenDissentIds : IdentifierList
  evidenceRefs : IdentifierList

abbrev QuestionOptions := Checked (isUniqueList (α := DecisionItemText) 1 maxDecisionList)

structure QuestionAskedPayload where
  questionId : EventIdentifier
  question : DecisionText
  uncertainty : DecisionText
  whyNotObservable : DecisionText
  options : Option QuestionOptions
  blocking : Bool
  relatedProposalId : Option EventIdentifier
  evidenceRefs : IdentifierList

/-- Exactly one of `text` and `option`. -/
inductive QuestionAnswerValue where
  | text (text : DecisionText)
  | option (option : DecisionItemText)
  deriving DecidableEq

def maxAllowedUses : Nat := 4

/-- Unknown rights authorize neither training nor redistribution. -/
structure AnswerRights where
  status : RightsStatus
  allowedUses : Checked (isUniqueList (α := DataUse) 1 maxAllowedUses)
  unknownRightsCannotTrain :
    status = .unknown → .training ∉ allowedUses.val ∧ .redistribution ∉ allowedUses.val
  deriving DecidableEq

structure QuestionAnsweredPayload where
  questionId : EventIdentifier
  answer : QuestionAnswerValue
  rights : AnswerRights
  evidenceRefs : IdentifierList

inductive ResearchPayload where
  | proposal (payload : ProposalSubmittedPayload)
  | dissent (payload : DissentRecordedPayload)
  | decision (payload : DecisionRecordedPayload)
  | asked (payload : QuestionAskedPayload)
  | answered (payload : QuestionAnsweredPayload)

/-! Validation. -/

/-- A list whose items decode and that passes a check. -/
def listField {α : Type} (p : List α → Bool) (decode : Json → Option α) (j : Json) :
    Option (Checked p) :=
  (Strict.array decode j).bind (Strict.checked p)

def identifierList (ms : Json.Members) (key : String) : Option IdentifierList :=
  Strict.required ms key (listField _ Strict.identifier)

def ProposalPrediction.validate (j : Json) : Option ProposalPrediction := do
  let ms ← Strict.closed ["id", "statement", "metric", "expectedDirection"] j
  let id ← Strict.required ms "id" Strict.identifier
  let statement ← Strict.required ms "statement" (Strict.text _)
  let metric ← Strict.defaulted ms "metric" none (Strict.nullable Strict.identifier)
  let expectedDirection ← Strict.required ms "expectedDirection"
    (Strict.enumeration ExpectedDirection.ofText)
  some ⟨id, statement, metric, expectedDirection⟩

def RiskAssessment.validate (j : Json) : Option RiskAssessment := do
  let ms ← Strict.closed ["data", "method", "safety", "cost"] j
  let data ← Strict.required ms "data" (Strict.text _)
  let method ← Strict.required ms "method" (Strict.text _)
  let safety ← Strict.required ms "safety" (Strict.text _)
  let cost ← Strict.required ms "cost" (Strict.text _)
  some ⟨data, method, safety, cost⟩

def ProposalSubmittedPayload.validate (j : Json) : Option ProposalSubmittedPayload := do
  let ms ← Strict.closed ["proposalId", "baseRevision", "specDiffDigest", "proposedSpecDigest",
    "rationale", "predictions", "falsificationConditions", "riskAssessment", "evidenceRefs"] j
  let proposalId ← Strict.required ms "proposalId" Strict.identifier
  let baseRevision ← Strict.required ms "baseRevision" (Strict.natural _)
  let specDiffDigest ← Strict.required ms "specDiffDigest" (Strict.text _)
  let proposedSpecDigest ← Strict.required ms "proposedSpecDigest" (Strict.text _)
  let rationale ← Strict.required ms "rationale" (Strict.text _)
  let predictions ← Strict.required ms "predictions" (listField _ ProposalPrediction.validate)
  let falsificationConditions ← Strict.required ms "falsificationConditions"
    (listField _ (Strict.text _))
  let riskAssessment ← Strict.required ms "riskAssessment" RiskAssessment.validate
  let evidenceRefs ← identifierList ms "evidenceRefs"
  some ⟨proposalId, baseRevision, specDiffDigest, proposedSpecDigest, rationale, predictions,
    falsificationConditions, riskAssessment, evidenceRefs⟩

def DissentObjection.validate (j : Json) : Option DissentObjection := do
  let ms ← Strict.closed ["kind", "statement"] j
  let kind ← Strict.required ms "kind" (Strict.enumeration ObjectionKind.ofText)
  let statement ← Strict.required ms "statement" (Strict.text _)
  some ⟨kind, statement⟩

def DissentRecordedPayload.validate (j : Json) : Option DissentRecordedPayload := do
  let ms ← Strict.closed ["dissentId", "targetKind", "targetId", "objections", "evidenceRefs"] j
  let dissentId ← Strict.required ms "dissentId" Strict.identifier
  let targetKind ← Strict.required ms "targetKind" (Strict.enumeration DissentTargetKind.ofText)
  let targetId ← Strict.required ms "targetId" Strict.identifier
  let objections ← Strict.required ms "objections" (listField _ DissentObjection.validate)
  let evidenceRefs ← identifierList ms "evidenceRefs"
  some ⟨dissentId, targetKind, targetId, objections, evidenceRefs⟩

def DecisionRecordedPayload.validate (j : Json) : Option DecisionRecordedPayload := do
  let ms ← Strict.closed ["decisionId", "targetKind", "targetId", "outcome", "rationale",
    "overriddenDissentIds", "evidenceRefs"] j
  let decisionId ← Strict.required ms "decisionId" Strict.identifier
  let targetKind ← Strict.required ms "targetKind" (Strict.enumeration DecisionTargetKind.ofText)
  let targetId ← Strict.required ms "targetId" Strict.identifier
  let outcome ← Strict.required ms "outcome" (Strict.enumeration DecisionOutcome.ofText)
  let rationale ← Strict.required ms "rationale" (Strict.text _)
  let overriddenDissentIds ← identifierList ms "overriddenDissentIds"
  let evidenceRefs ← identifierList ms "evidenceRefs"
  some ⟨decisionId, targetKind, targetId, outcome, rationale, overriddenDissentIds, evidenceRefs⟩

def QuestionAskedPayload.validate (j : Json) : Option QuestionAskedPayload := do
  let ms ← Strict.closed ["questionId", "question", "uncertainty", "whyNotObservable", "options",
    "blocking", "relatedProposalId", "evidenceRefs"] j
  let questionId ← Strict.required ms "questionId" Strict.identifier
  let question ← Strict.required ms "question" (Strict.text _)
  let uncertainty ← Strict.required ms "uncertainty" (Strict.text _)
  let whyNotObservable ← Strict.required ms "whyNotObservable" (Strict.text _)
  let options ← Strict.omittable ms "options" (listField _ (Strict.text _))
  let blocking ← Strict.required ms "blocking" Strict.boolean
  let relatedProposalId ← Strict.omittable ms "relatedProposalId" Strict.identifier
  let evidenceRefs ← identifierList ms "evidenceRefs"
  some ⟨questionId, question, uncertainty, whyNotObservable, options, blocking, relatedProposalId,
    evidenceRefs⟩

def QuestionAnswerValue.validate (j : Json) : Option QuestionAnswerValue := do
  let ms ← Strict.closed ["text", "option"] j
  let text ← Strict.omittable ms "text" (Strict.text _)
  let option ← Strict.omittable ms "option" (Strict.text _)
  match text, option with
  | some text, none => some (.text text)
  | none, some option => some (.option option)
  | _, _ => none

def defaultAllowedUses : Checked (isUniqueList (α := DataUse) 1 maxAllowedUses) :=
  ⟨[.researchRead], by decide⟩

def AnswerRights.validate (j : Json) : Option AnswerRights := do
  let ms ← Strict.closed ["status", "allowedUses"] j
  let status ← Strict.required ms "status" (Strict.enumeration RightsStatus.ofText)
  let allowedUses ← Strict.defaulted ms "allowedUses" defaultAllowedUses
    (listField _ (Strict.enumeration DataUse.ofText))
  if h : status = .unknown → .training ∉ allowedUses.val ∧ .redistribution ∉ allowedUses.val then
    some ⟨status, allowedUses, h⟩
  else none

def QuestionAnsweredPayload.validate (j : Json) : Option QuestionAnsweredPayload := do
  let ms ← Strict.closed ["questionId", "answer", "rights", "evidenceRefs"] j
  let questionId ← Strict.required ms "questionId" Strict.identifier
  let answer ← Strict.required ms "answer" QuestionAnswerValue.validate
  let rights ← Strict.required ms "rights" AnswerRights.validate
  let evidenceRefs ← identifierList ms "evidenceRefs"
  some ⟨questionId, answer, rights, evidenceRefs⟩

/-- `PAYLOAD_MODELS` -/
def payloadModel (type : DecisionEventType) (j : Json) : Option ResearchPayload :=
  match type with
  | .proposalSubmitted => (ProposalSubmittedPayload.validate j).map .proposal
  | .dissentRecorded => (DissentRecordedPayload.validate j).map .dissent
  | .decisionRecorded => (DecisionRecordedPayload.validate j).map .decision
  | .questionAsked => (QuestionAskedPayload.validate j).map .asked
  | .questionAnswered => (QuestionAnsweredPayload.validate j).map .answered

/-- `parse_decision_payload` of an event with a decision type. -/
def parseDecisionPayload (type : DecisionEventType) (event : ResearchEvent) :
    Except ResearchError ResearchPayload :=
  match payloadModel type (.obj event.data.payload) with
  | some payload => .ok payload
  | none => .error (.payload ("invalid payload for research type " ++ event.type.val ++
      " (event id " ++ event.id.val ++ ", sequence " ++ sequenceText event.sequence ++ ")")
      "invalid-payload")

/-- `require_actor_kind` -/
def requireActorKind (type : DecisionEventType) (event : ResearchEvent) :
    Except ResearchError Unit :=
  match event.data.actor.kind with
  | none => .error (.payload ("actor kind is required for " ++ event.type.val ++ " (event id " ++
      event.id.val ++ ")") "actor-kind-required")
  | some kind =>
    if kind ∈ type.allowedActorKinds then .ok ()
    else .error (.payload ("actor kind is not allowed for " ++ event.type.val ++ " (event id " ++
      event.id.val ++ ")") "actor-kind-forbidden")

/-- `_payload_evidence_refs` -/
def ResearchPayload.evidenceRefs : ResearchPayload → List EventIdentifier
  | .proposal payload => payload.evidenceRefs.val
  | .dissent payload => payload.evidenceRefs.val
  | .decision payload => payload.evidenceRefs.val
  | .asked payload => payload.evidenceRefs.val
  | .answered payload => payload.evidenceRefs.val

end ResearchOs.Research
