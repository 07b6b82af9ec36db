import ResearchOs.Data.Fold
import ResearchOs.Research.Model
import ResearchOs.Core.Runs.Model

/-! The rebuildable research ledger of one project. -/
namespace ResearchOs.Research

inductive ProposalRevisionState where
  | proposed
  | validated
  | accepted
  | rejected
  | superseded
  deriving DecidableEq, Repr

structure ProposalLedgerEntry where
  proposalId : EventIdentifier
  baseRevision : ExperimentRevision
  specDiffDigest : JcsDigest
  proposedSpecDigest : JcsDigest
  rationale : DecisionText
  revisionState : ProposalRevisionState
  eventId : CloudEventsString
  sequence : SequenceNumber
  acceptedByDecisionId : Option EventIdentifier
  supersededByProposalId : Option EventIdentifier
  deriving DecidableEq

def isDecisionList (ids : List EventIdentifier) : Bool := inRange 0 maxDecisionList ids.length

structure DissentLedgerEntry where
  dissentId : EventIdentifier
  targetKind : DissentTargetKind
  targetId : EventIdentifier
  objections : Checked areObjections
  overriddenByDecisionIds : Checked isDecisionList
  eventId : CloudEventsString
  sequence : SequenceNumber
  deriving DecidableEq

structure DecisionLedgerEntry where
  decisionId : EventIdentifier
  targetKind : DecisionTargetKind
  targetId : EventIdentifier
  outcome : DecisionOutcome
  rationale : DecisionText
  overriddenDissentIds : IdentifierList
  eventId : CloudEventsString
  sequence : SequenceNumber
  deriving DecidableEq

/-- The answer fields of a question, which are set together. -/
structure RecordedAnswer where
  answerEventId : CloudEventsString
  answerSequence : SequenceNumber
  answer : QuestionAnswerValue
  rights : AnswerRights
  deriving DecidableEq

structure QuestionLedgerEntry where
  questionId : EventIdentifier
  question : DecisionText
  uncertainty : DecisionText
  whyNotObservable : DecisionText
  options : List DecisionItemText
  blocking : Bool
  relatedProposalId : Option EventIdentifier
  eventId : CloudEventsString
  sequence : SequenceNumber
  answered : Option RecordedAnswer
  deriving DecidableEq

/-- `status is QuestionStatus.ANSWERED` -/
def QuestionLedgerEntry.isAnswered (entry : QuestionLedgerEntry) : Bool := entry.answered.isSome

/-- `answer_fields_match_status` -/
def QuestionLedgerEntry.answerFieldsMatchStatus (entry : QuestionLedgerEntry) : Bool :=
  match entry.answered with
  | none => true
  | some recorded => decide (entry.sequence.val < recorded.answerSequence.val)

/-- `run_ids` lists each member once. -/
structure LedgerFold where
  proposals : List ProposalLedgerEntry
  dissents : List DissentLedgerEntry
  decisions : List DecisionLedgerEntry
  questions : List QuestionLedgerEntry
  runIds : List EventIdentifier
  deriving DecidableEq

namespace LedgerFold

def empty : LedgerFold := ⟨[], [], [], [], []⟩

def proposalIds (fold : LedgerFold) : List EventIdentifier := fold.proposals.map (·.proposalId)

def dissentIds (fold : LedgerFold) : List EventIdentifier := fold.dissents.map (·.dissentId)

def decisionIds (fold : LedgerFold) : List EventIdentifier := fold.decisions.map (·.decisionId)

def questionIds (fold : LedgerFold) : List EventIdentifier := fold.questions.map (·.questionId)

/-- `_dissent` -/
def findDissent (fold : LedgerFold) (id : EventIdentifier) : Option DissentLedgerEntry :=
  fold.dissents.find? fun item => item.dissentId = id

/-- `_question` -/
def findQuestion (fold : LedgerFold) (id : EventIdentifier) : Option QuestionLedgerEntry :=
  fold.questions.find? fun item => item.questionId = id

end LedgerFold

/-- Raise a `ResearchLedgerError` unless the condition holds. -/
def requireLedger (condition : Prop) [Decidable condition] (message code : String) :
    Except ResearchError Unit :=
  if condition then .ok () else .error (.ledger message code)

def proposalEntry (event : ResearchEvent) (payload : ProposalSubmittedPayload) :
    ProposalLedgerEntry where
  proposalId := payload.proposalId
  baseRevision := payload.baseRevision
  specDiffDigest := payload.specDiffDigest
  proposedSpecDigest := payload.proposedSpecDigest
  rationale := payload.rationale
  revisionState := .proposed
  eventId := event.id
  sequence := event.sequence
  acceptedByDecisionId := none
  supersededByProposalId := none

/-- `_apply_proposal` -/
def applyProposal (fold : LedgerFold) (event : ResearchEvent) (payload : ProposalSubmittedPayload) :
    Except ResearchError LedgerFold := do
  requireLedger (payload.baseRevision = event.data.experimentRevision)
    "proposal baseRevision must equal data.experimentRevision" "proposal-revision-mismatch"
  requireLedger (payload.proposalId ∉ fold.proposalIds)
    "proposalId is not unique in this project" "duplicate-proposal"
  requireLedger (event.data.runId = none) "proposal.submitted must not set runId"
    "unexpected-run-id"
  .ok { fold with proposals := fold.proposals ++ [proposalEntry event payload] }

/-- `_dissent_target_resolves` -/
def dissentTargetResolves (fold : LedgerFold) (payload : DissentRecordedPayload) : Bool :=
  match payload.targetKind with
  | .proposal => decide (payload.targetId ∈ fold.proposalIds)
  | .decision => decide (payload.targetId ∈ fold.decisionIds)

def dissentEntry (event : ResearchEvent) (payload : DissentRecordedPayload) :
    DissentLedgerEntry where
  dissentId := payload.dissentId
  targetKind := payload.targetKind
  targetId := payload.targetId
  objections := payload.objections
  overriddenByDecisionIds := ⟨[], by decide⟩
  eventId := event.id
  sequence := event.sequence

/-- `_apply_dissent` -/
def applyDissent (fold : LedgerFold) (event : ResearchEvent) (payload : DissentRecordedPayload) :
    Except ResearchError LedgerFold := do
  requireLedger (payload.dissentId ∉ fold.dissentIds) "dissentId is not unique in this project"
    "duplicate-dissent"
  requireLedger (event.data.runId = none) "dissent.recorded must not set runId" "unexpected-run-id"
  requireLedger (dissentTargetResolves fold payload = true)
    "dissent target does not resolve in this project" "unknown-dissent-target"
  .ok { fold with dissents := fold.dissents ++ [dissentEntry event payload] }

/-- `_decision_target_resolves` -/
def decisionTargetResolves (fold : LedgerFold) (payload : DecisionRecordedPayload) : Bool :=
  match payload.targetKind with
  | .proposal => decide (payload.targetId ∈ fold.proposalIds)
  | .dissent => decide (payload.targetId ∈ fold.dissentIds)
  | .run => decide (payload.targetId ∈ fold.runIds)
  | .question => decide (payload.targetId ∈ fold.questionIds)

/-- The check of `data.runId` against a decision target. -/
def requireDecisionRun (event : ResearchEvent) (payload : DecisionRecordedPayload) :
    Except ResearchError Unit :=
  if payload.targetKind = .run then
    requireLedger (event.data.runId = some payload.targetId)
      "run-targeted decision requires data.runId to equal targetId" "run-target-mismatch"
  else
    requireLedger (event.data.runId = none) "non-run decision must not set runId"
      "unexpected-run-id"

/-- The check of a decision on a question. -/
def requireQuestionDecision (fold : LedgerFold) (payload : DecisionRecordedPayload) :
    Except ResearchError Unit :=
  if payload.targetKind = .question then
    match fold.findQuestion payload.targetId with
    | none => .error (.ledger "decision target does not resolve in this project"
        "unknown-decision-target")
    | some question => requireLedger (question.isAnswered = true ∨ payload.outcome = .defer)
        "decision on a question requires an answer or outcome=defer" "unanswered-question-decision"
  else .ok ()

def requireOverridden (fold : LedgerFold) (sequence : SequenceNumber) (dissentId : EventIdentifier) :
    Except ResearchError Unit :=
  match fold.findDissent dissentId with
  | none => .error (.ledger "overriddenDissentIds must cite earlier dissents in this project"
      "unknown-overridden-dissent")
  | some dissent => requireLedger (dissent.sequence.val < sequence.val)
      "overridden dissent must precede the decision" "overridden-dissent-order"

/-- A proposal after an accepted or rejected target. -/
def decideProposal (payload : DecisionRecordedPayload) (target proposal : ProposalLedgerEntry) :
    ProposalLedgerEntry :=
  if proposal.proposalId = payload.targetId then
    if payload.outcome = .accept then
      { proposal with revisionState := .accepted, acceptedByDecisionId := some payload.decisionId }
    else { proposal with revisionState := .rejected }
  else if payload.outcome = .accept ∧ proposal.revisionState = .accepted ∧
      proposal.baseRevision.val < target.baseRevision.val then
    { proposal with
      revisionState := .superseded
      supersededByProposalId := some payload.targetId }
  else proposal

/-- `_apply_proposal_outcome` -/
def applyProposalOutcome (proposals : List ProposalLedgerEntry)
    (payload : DecisionRecordedPayload) : Except ResearchError (List ProposalLedgerEntry) :=
  if payload.targetKind ≠ .proposal then .ok proposals
  else if payload.outcome ≠ .accept ∧ payload.outcome ≠ .reject then .ok proposals
  else
    match proposals.find? fun item => item.proposalId = payload.targetId with
    | none => .error (.ledger "decision target does not resolve in this project"
        "unknown-decision-target")
    | some target =>
      if target.revisionState = .proposed ∨ target.revisionState = .validated then
        .ok (proposals.map (decideProposal payload target))
      else .error (.ledger "proposal is not open for this decision outcome" "proposal-not-open")

/-- A dissent with its link to a decision that overrides it. -/
def linkDissent (payload : DecisionRecordedPayload) (dissent : DissentLedgerEntry) :
    Except ResearchError DissentLedgerEntry :=
  if dissent.dissentId ∈ payload.overriddenDissentIds.val then
    if h : isDecisionList (dissent.overriddenByDecisionIds.val ++ [payload.decisionId]) = true then
      .ok { dissent with
        overriddenByDecisionIds := ⟨dissent.overriddenByDecisionIds.val ++ [payload.decisionId], h⟩ }
    else .error (.ledger "overriddenByDecisionIds exceeds the ledger list cap"
      "override-list-exhausted")
  else .ok dissent

/-- `_mark_overridden_dissents` -/
def markOverriddenDissents (dissents : List DissentLedgerEntry)
    (payload : DecisionRecordedPayload) : Except ResearchError (List DissentLedgerEntry) :=
  dissents.mapM (linkDissent payload)

def decisionEntry (event : ResearchEvent) (payload : DecisionRecordedPayload) :
    DecisionLedgerEntry where
  decisionId := payload.decisionId
  targetKind := payload.targetKind
  targetId := payload.targetId
  outcome := payload.outcome
  rationale := payload.rationale
  overriddenDissentIds := payload.overriddenDissentIds
  eventId := event.id
  sequence := event.sequence

/-- `_apply_decision` -/
def applyDecision (fold : LedgerFold) (event : ResearchEvent) (payload : DecisionRecordedPayload) :
    Except ResearchError LedgerFold := do
  requireLedger (payload.decisionId ∉ fold.decisionIds) "decisionId is not unique in this project"
    "duplicate-decision"
  requireDecisionRun event payload
  requireLedger (decisionTargetResolves fold payload = true)
    "decision target does not resolve in this project" "unknown-decision-target"
  requireQuestionDecision fold payload
  payload.overriddenDissentIds.val.forM (requireOverridden fold event.sequence)
  let proposals ← applyProposalOutcome fold.proposals payload
  let dissents ← markOverriddenDissents fold.dissents payload
  .ok { fold with
    proposals := proposals
    dissents := dissents
    decisions := fold.decisions ++ [decisionEntry event payload] }

def questionEntry (event : ResearchEvent) (payload : QuestionAskedPayload) :
    QuestionLedgerEntry where
  questionId := payload.questionId
  question := payload.question
  uncertainty := payload.uncertainty
  whyNotObservable := payload.whyNotObservable
  options := (payload.options.map (·.val)).getD []
  blocking := payload.blocking
  relatedProposalId := payload.relatedProposalId
  eventId := event.id
  sequence := event.sequence
  answered := none

/-- `_apply_question_asked` -/
def applyQuestionAsked (fold : LedgerFold) (event : ResearchEvent)
    (payload : QuestionAskedPayload) : Except ResearchError LedgerFold := do
  requireLedger (payload.questionId ∉ fold.questionIds) "questionId is not unique in this project"
    "duplicate-question"
  requireLedger (event.data.runId = none) "question.asked must not set runId" "unexpected-run-id"
  requireLedger (∀ id ∈ payload.relatedProposalId, id ∈ fold.proposalIds)
    "relatedProposalId does not resolve in this project" "unknown-related-proposal"
  .ok { fold with questions := fold.questions ++ [questionEntry event payload] }

/-- The check of an answer against the options of its question. -/
def requireAnswerOption (asked : QuestionLedgerEntry) : QuestionAnswerValue →
    Except ResearchError Unit
  | .text _ => .ok ()
  | .option option => requireLedger (option ∈ asked.options)
      "answer option is not one of the question options" "invalid-answer-option"

def QuestionLedgerEntry.answer (asked : QuestionLedgerEntry) (event : ResearchEvent)
    (payload : QuestionAnsweredPayload) : QuestionLedgerEntry :=
  { asked with answered := some ⟨event.id, event.sequence, payload.answer, payload.rights⟩ }

/-- `_apply_question_answered` -/
def applyQuestionAnswered (fold : LedgerFold) (event : ResearchEvent)
    (payload : QuestionAnsweredPayload) : Except ResearchError LedgerFold := do
  requireLedger (event.data.runId = none) "question.answered must not set runId"
    "unexpected-run-id"
  match fold.findQuestion payload.questionId with
  | none => .error (.ledger "questionId has no prior question.asked in this project"
      "unknown-question")
  | some asked =>
    requireLedger (asked.isAnswered = false) "questionId already has an answer" "duplicate-answer"
    requireAnswerOption asked payload.answer
    .ok { fold with
      questions := fold.questions.map fun item =>
        if item.questionId = payload.questionId then asked.answer event payload else item }

def applyPayload (fold : LedgerFold) (event : ResearchEvent) :
    ResearchPayload → Except ResearchError LedgerFold
  | .proposal payload => applyProposal fold event payload
  | .dissent payload => applyDissent fold event payload
  | .decision payload => applyDecision fold event payload
  | .asked payload => applyQuestionAsked fold event payload
  | .answered payload => applyQuestionAnswered fold event payload

/-- The run of a `run.queued` fact. -/
def noteRun (fold : LedgerFold) (event : ResearchEvent) : LedgerFold :=
  match event.data.runId with
  | some runId =>
    if event.type.val = Runs.LifecycleType.runQueued.text then
      { fold with runIds := fold.runIds.insert runId }
    else fold
  | none => fold

/-- `ResearchLedgerProjection.apply` -/
def applyResearchEvent (projectId : EventIdentifier) (fold : LedgerFold) (event : ResearchEvent) :
    Except ResearchError LedgerFold :=
  if event.data.projectId ≠ projectId then .ok fold
  else
    match DecisionEventType.ofText event.type.val with
    | none => .ok (noteRun fold event)
    | some type => do
      requireActorKind type event
      let payload ← parseDecisionPayload type event
      requireLedger (event.data.evidenceRefs = payload.evidenceRefs)
        "payload evidenceRefs must match data.evidenceRefs" "evidence-refs-mismatch"
      applyPayload fold event payload

/-- The fold of a log for one project. -/
def replayResearch (projectId : EventIdentifier) (events : List ResearchEvent) :
    Except ResearchError LedgerFold :=
  events.foldlM (applyResearchEvent projectId) LedgerFold.empty

end ResearchOs.Research
