import ResearchOs.Research.Proposals

/-! Referential integrity of the research ledger. -/
namespace ResearchOs.Research

/-! What the facts of a project record, read off the events alone. -/

/-- The kinds of fact that a ledger identifies; an answer goes by its question. -/
inductive FactKind where
  | proposal
  | dissent
  | decision
  | question
  | answer
  deriving DecidableEq, Repr

def ResearchPayload.fact : ResearchPayload → FactKind × EventIdentifier
  | .proposal payload => (.proposal, payload.proposalId)
  | .dissent payload => (.dissent, payload.dissentId)
  | .decision payload => (.decision, payload.decisionId)
  | .asked payload => (.question, payload.questionId)
  | .answered payload => (.answer, payload.questionId)

def recordedId (projectId : EventIdentifier) (kind : FactKind) (event : ResearchEvent) :
    Option EventIdentifier :=
  (researchPayload projectId event).bind fun payload =>
    if payload.fact.1 = kind then some payload.fact.2 else none

/-- The ids of one kind that events record, in their order. -/
def recordedIds (projectId : EventIdentifier) (kind : FactKind) (events : List ResearchEvent) :
    List EventIdentifier :=
  events.filterMap (recordedId projectId kind)

def queuedRuns (projectId : EventIdentifier) (events : List ResearchEvent) :
    List EventIdentifier :=
  events.filterMap (queuedRun projectId)

def recordedDecision (projectId : EventIdentifier) (event : ResearchEvent) :
    Option DecisionLedgerEntry :=
  match researchPayload projectId event with
  | some (.decision payload) => some (decisionEntry event payload)
  | _ => none

section

variable {projectId id : EventIdentifier} {kind : FactKind} {events : List ResearchEvent}
  {event : ResearchEvent} {payload : ResearchPayload}

@[simp] theorem recordedIds_concat :
    recordedIds projectId kind (events ++ [event]) =
      recordedIds projectId kind events ++ (recordedId projectId kind event).toList := by
  rw [recordedIds, List.filterMap_append, List.filterMap_cons]
  cases recordedId projectId kind event <;> rfl

@[simp] theorem queuedRuns_concat :
    queuedRuns projectId (events ++ [event]) =
      queuedRuns projectId events ++ (queuedRun projectId event).toList := by
  rw [queuedRuns, List.filterMap_append, List.filterMap_cons]
  cases queuedRun projectId event <;> rfl

theorem recordedId_of_none (h : researchPayload projectId event = none) :
    recordedId projectId kind event = none := by
  rw [recordedId, h]
  rfl

theorem recordedId_of_some (h : researchPayload projectId event = some payload) :
    recordedId projectId kind event =
      if payload.fact.1 = kind then some payload.fact.2 else none := by
  rw [recordedId, h]
  rfl

theorem recordedDecision_of_other (h : ∀ decision,
    researchPayload projectId event ≠ some (.decision decision)) :
    recordedDecision projectId event = none := by
  unfold recordedDecision
  split
  · rename_i decision hdecision
    exact (h decision hdecision).elim
  · rfl

end

/-! The purpose of the ledger. -/

/-- A payload refers only to what earlier facts of the project record. -/
def Resolves (projectId : EventIdentifier) (earlier : List ResearchEvent) :
    ResearchPayload → Prop
  | .proposal _ => True
  | .dissent payload =>
    match payload.targetKind with
    | .proposal => payload.targetId ∈ recordedIds projectId .proposal earlier
    | .decision => payload.targetId ∈ recordedIds projectId .decision earlier
  | .decision payload =>
    (match payload.targetKind with
      | .proposal => payload.targetId ∈ recordedIds projectId .proposal earlier
      | .dissent => payload.targetId ∈ recordedIds projectId .dissent earlier
      | .run => payload.targetId ∈ queuedRuns projectId earlier
      | .question => payload.targetId ∈ recordedIds projectId .question earlier ∧
        (payload.outcome ≠ .defer → payload.targetId ∈ recordedIds projectId .answer earlier)) ∧
      ∀ id ∈ payload.overriddenDissentIds.val, id ∈ recordedIds projectId .dissent earlier
  | .asked payload =>
    ∀ id ∈ payload.relatedProposalId, id ∈ recordedIds projectId .proposal earlier
  | .answered payload => payload.questionId ∈ recordedIds projectId .question earlier

/-- What the ledger of a log says about its facts. -/
structure Integrity (projectId : EventIdentifier) (events : List ResearchEvent)
    (fold : LedgerFold) : Prop where
  proposals : fold.proposalIds = recordedIds projectId .proposal events
  dissents : fold.dissentIds = recordedIds projectId .dissent events
  decisions : fold.decisions = events.filterMap (recordedDecision projectId)
  questions : fold.questionIds = recordedIds projectId .question events
  unique : ∀ kind, (recordedIds projectId kind events).Nodup
  resolved : ∀ earlier event later payload, events = earlier ++ event :: later →
    researchPayload projectId event = some payload → Resolves projectId earlier payload
  overridden : ∀ dissent ∈ fold.dissents, ∀ id, id ∈ dissent.overriddenByDecisionIds.val ↔
    ∃ decision ∈ fold.decisions, decision.decisionId = id ∧
      dissent.dissentId ∈ decision.overriddenDissentIds.val
  moved : ∀ earlier event later, events = earlier ++ event :: later →
    ∃ before after, replayResearch projectId earlier = .ok before ∧
      applyResearchEvent projectId before event = .ok after ∧
      Moved before.proposals after.proposals
  superseded : ∀ proposal ∈ fold.proposals, proposal.revisionState = .superseded ↔
    Overtaken fold.proposals fold.decisions proposal
  answered : ∀ question ∈ fold.questions,
    (question.isAnswered = true ↔ question.questionId ∈ recordedIds projectId .answer events) ∧
      ∀ recorded ∈ question.answered, ∀ option, recorded.answer = .option option →
        option ∈ question.options

/-! Dissents and questions. -/

/-- A dissent is linked to the decisions that list it. -/
def DissentsKept (dissents : List DissentLedgerEntry) (decisions : List DecisionLedgerEntry) :
    Prop :=
  ∀ dissent ∈ dissents, ∀ id, id ∈ dissent.overriddenByDecisionIds.val ↔
    ∃ decision ∈ decisions, decision.decisionId = id ∧
      dissent.dissentId ∈ decision.overriddenDissentIds.val

theorem DissentsKept.decide {dissents linked : List DissentLedgerEntry}
    {decisions : List DecisionLedgerEntry} {payload : DecisionRecordedPayload}
    {event : ResearchEvent} (h : DissentsKept dissents decisions)
    (hlinked : List.Forall₂ (Linked payload) dissents linked) :
    DissentsKept linked (decisions ++ [decisionEntry event payload]) := by
  intro after hafter id
  obtain ⟨dissent, hdissent, hlink⟩ := Fold.exists_of_mem_right hlinked hafter
  rw [hlink.overriddenBy, hlink.dissentId, List.mem_append, h dissent hdissent id]
  simp only [List.mem_append, List.mem_singleton, or_and_right, exists_or, exists_eq_left]
  refine or_congr_right ?_
  by_cases hlisted : dissent.dissentId ∈ payload.overriddenDissentIds.val
  · simp [decisionEntry, hlisted, eq_comm]
  · simp [decisionEntry, hlisted]

/-- A question is answered when an answer is recorded, by one of its options if it is one. -/
def QuestionsKept (questions : List QuestionLedgerEntry) (answers : List EventIdentifier) : Prop :=
  ∀ question ∈ questions,
    (question.isAnswered = true ↔ question.questionId ∈ answers) ∧
      ∀ recorded ∈ question.answered, ∀ option, recorded.answer = .option option →
        option ∈ question.options

theorem QuestionsKept.ask {questions : List QuestionLedgerEntry} {answers : List EventIdentifier}
    {event : ResearchEvent} {payload : QuestionAskedPayload} (h : QuestionsKept questions answers)
    (hunanswered : payload.questionId ∉ answers) :
    QuestionsKept (questions ++ [questionEntry event payload]) answers := by
  intro question hquestion
  rcases List.mem_append.mp hquestion with hquestion | hquestion
  · exact h question hquestion
  · cases List.mem_singleton.mp hquestion
    constructor
    · simp [QuestionLedgerEntry.isAnswered, questionEntry, hunanswered]
    · intro recorded hrecorded
      cases hrecorded

theorem QuestionsKept.answer {questions : List QuestionLedgerEntry}
    {answers : List EventIdentifier} {event : ResearchEvent} {payload : QuestionAnsweredPayload}
    {asked : QuestionLedgerEntry} (h : QuestionsKept questions answers)
    (hid : asked.questionId = payload.questionId)
    (hoption : ∀ option, payload.answer = .option option → option ∈ asked.options) :
    QuestionsKept (questions.map fun item =>
      if item.questionId = payload.questionId then asked.answer event payload else item)
      (answers ++ [payload.questionId]) := by
  intro question hquestion
  obtain ⟨item, hitem, rfl⟩ := List.mem_map.mp hquestion
  split_ifs with hsame
  · constructor
    · simp [QuestionLedgerEntry.isAnswered, QuestionLedgerEntry.answer, hid]
    · intro recorded hrecorded option hanswer
      cases hrecorded
      exact hoption option hanswer
  · have hitem' := h item hitem
    refine ⟨?_, hitem'.2⟩
    rw [hitem'.1]
    simp [hsame]

/-! The ledger after one more fact. -/

theorem decisionId_recordedDecision {projectId : EventIdentifier} {events : List ResearchEvent} :
    (events.filterMap (recordedDecision projectId)).map (·.decisionId) =
      recordedIds projectId .decision events := by
  rw [List.map_filterMap, recordedIds]
  refine List.filterMap_congr fun event _ => ?_
  unfold recordedDecision recordedId
  cases hpayload : researchPayload projectId event with
  | none => rfl
  | some payload => cases payload <;> rfl

/-- What every accepted fact keeps of the ledger of a log. -/
structure Kept (projectId : EventIdentifier) (events : List ResearchEvent) (fold : LedgerFold) :
    Prop where
  proposals : fold.proposalIds = recordedIds projectId .proposal events
  dissents : fold.dissentIds = recordedIds projectId .dissent events
  decisions : fold.decisions = events.filterMap (recordedDecision projectId)
  questions : fold.questionIds = recordedIds projectId .question events
  runs : ∀ runId, runId ∈ fold.runIds ↔ runId ∈ queuedRuns projectId events
  unique : ∀ kind, (recordedIds projectId kind events).Nodup
  asked : ∀ id ∈ recordedIds projectId .answer events, id ∈ recordedIds projectId .question events
  states : ProposalsKept fold.proposals fold.decisions
  targets : ∀ decision ∈ fold.decisions, decision.targetKind = .proposal →
    decision.targetId ∈ fold.proposalIds
  overridden : DissentsKept fold.dissents fold.decisions
  listed : ∀ decision ∈ fold.decisions, ∀ id ∈ decision.overriddenDissentIds.val,
    id ∈ fold.dissentIds
  answered : QuestionsKept fold.questions (recordedIds projectId .answer events)

section

variable {projectId : EventIdentifier} {events : List ResearchEvent} {event : ResearchEvent}
  {fold next : LedgerFold} {payload : ResearchPayload}

theorem Kept.decisionIds (h : Kept projectId events fold) :
    fold.decisionIds = recordedIds projectId .decision events := by
  rw [LedgerFold.decisionIds, h.decisions]
  exact decisionId_recordedDecision

theorem kept_empty : Kept projectId [] LedgerFold.empty where
  proposals := rfl
  dissents := rfl
  decisions := rfl
  questions := rfl
  runs _ := by simp [LedgerFold.empty, queuedRuns]
  unique _ := List.nodup_nil
  asked := by simp [recordedIds]
  states := ⟨by simp [LedgerFold.empty], by simp [LedgerFold.empty], by simp [LedgerFold.empty]⟩
  targets := by simp [LedgerFold.empty]
  overridden := by simp [DissentsKept, LedgerFold.empty]
  listed := by simp [LedgerFold.empty]
  answered := by simp [QuestionsKept, LedgerFold.empty]

/-- A new id keeps the ids of its kind, and those of the others, distinct. -/
theorem Kept.unique_concat (h : Kept projectId events fold)
    (hpayload : researchPayload projectId event = some payload)
    (hfresh : payload.fact.2 ∉ recordedIds projectId payload.fact.1 events) (kind : FactKind) :
    (recordedIds projectId kind (events ++ [event])).Nodup := by
  rw [recordedIds_concat, recordedId_of_some hpayload]
  split_ifs with hkind
  · subst hkind
    rw [Option.toList_some, List.nodup_append]
    refine ⟨h.unique _, List.nodup_singleton _, ?_⟩
    intro id hid other hother
    cases List.mem_singleton.mp hother
    rintro rfl
    exact hfresh hid
  · simpa using h.unique kind

theorem recordedIds_same {kind : FactKind} {id : EventIdentifier}
    (hpayload : researchPayload projectId event = some payload) (hfact : payload.fact = (kind, id)) :
    recordedIds projectId kind (events ++ [event]) = recordedIds projectId kind events ++ [id] := by
  rw [recordedIds_concat, recordedId_of_some hpayload, hfact, if_pos rfl]
  rfl

theorem recordedIds_other {own kind : FactKind} {id : EventIdentifier}
    (hpayload : researchPayload projectId event = some payload) (hfact : payload.fact = (own, id))
    (hkind : own ≠ kind) :
    recordedIds projectId kind (events ++ [event]) = recordedIds projectId kind events := by
  rw [recordedIds_concat, recordedId_of_some hpayload, hfact, if_neg hkind]
  exact List.append_nil _

theorem decisions_ne (hother : ∀ decision,
    researchPayload projectId event ≠ some (.decision decision)) :
    (events ++ [event]).filterMap (recordedDecision projectId) =
      events.filterMap (recordedDecision projectId) := by
  simp [List.filterMap_append, recordedDecision_of_other hother]

theorem queuedRuns_ne (hpayload : researchPayload projectId event = some payload) :
    queuedRuns projectId (events ++ [event]) = queuedRuns projectId events := by
  rw [queuedRuns_concat, queuedRun_eq_none hpayload]
  exact List.append_nil _

theorem Kept.other (h : Kept projectId events fold)
    (hpayload : researchPayload projectId event = none) :
    Kept projectId (events ++ [event]) (fold.withRun (queuedRun projectId event)) := by
  have hids : ∀ kind, recordedIds projectId kind (events ++ [event]) =
      recordedIds projectId kind events := by
    intro kind
    rw [recordedIds_concat, recordedId_of_none hpayload]
    exact List.append_nil _
  have hdecisions : (events ++ [event]).filterMap (recordedDecision projectId) =
      events.filterMap (recordedDecision projectId) := by
    refine decisions_ne fun decision => ?_
    rw [hpayload]
    exact (Option.some_ne_none _).symm
  have hruns : ∀ runId, runId ∈ (fold.withRun (queuedRun projectId event)).runIds ↔
      runId ∈ queuedRuns projectId (events ++ [event]) := by
    intro runId
    rw [queuedRuns_concat, List.mem_append, ← h.runs runId]
    cases queuedRun projectId event with
    | none => simp [LedgerFold.withRun]
    | some queued => simp [LedgerFold.withRun, List.mem_insert_iff, or_comm]
  have hsame : ∃ runIds, fold.withRun (queuedRun projectId event) = { fold with
      runIds := runIds } := by
    cases queuedRun projectId event with
    | none => exact ⟨fold.runIds, rfl⟩
    | some queued => exact ⟨fold.runIds.insert queued, rfl⟩
  obtain ⟨runIds, hsame⟩ := hsame
  rw [hsame] at hruns ⊢
  constructor
  all_goals simp only [hids, hdecisions, LedgerFold.proposalIds, LedgerFold.dissentIds,
    LedgerFold.questionIds]
  · exact h.proposals
  · exact h.dissents
  · exact h.decisions
  · exact h.questions
  · exact hruns
  · exact h.unique
  · exact h.asked
  · exact h.states
  · exact h.targets
  · exact h.overridden
  · exact h.listed
  · exact h.answered

theorem Kept.proposal {payload : ProposalSubmittedPayload} (h : Kept projectId events fold)
    (hpayload : researchPayload projectId event = some (.proposal payload))
    (hfresh : payload.proposalId ∉ fold.proposalIds) :
    Kept projectId (events ++ [event]) { fold with
      proposals := fold.proposals ++ [proposalEntry event payload] } where
  proposals := by
    rw [recordedIds_same hpayload rfl, ← h.proposals]
    simp [LedgerFold.proposalIds, proposalEntry]
  dissents := by
    rw [recordedIds_other hpayload rfl (by decide)]
    exact h.dissents
  decisions := by
    rw [decisions_ne (by simp [hpayload])]
    exact h.decisions
  questions := by
    rw [recordedIds_other hpayload rfl (by decide)]
    exact h.questions
  runs := by
    rw [queuedRuns_ne hpayload]
    exact h.runs
  unique := h.unique_concat hpayload (by rwa [ResearchPayload.fact, ← h.proposals])
  asked := by
    rw [recordedIds_other hpayload rfl (by decide), recordedIds_other hpayload rfl (by decide)]
    exact h.asked
  states := by
    refine h.states.submit rfl ?_
    rintro decision hdecision ⟨hkind, -, htarget⟩
    apply hfresh
    have hmem := h.targets decision hdecision hkind
    rwa [htarget] at hmem
  targets := by
    intro decision hdecision hkind
    have hmem := h.targets decision hdecision hkind
    simp only [LedgerFold.proposalIds, List.map_append, List.mem_append]
    exact .inl hmem
  overridden := h.overridden
  listed := h.listed
  answered := by
    rw [recordedIds_other hpayload rfl (by decide)]
    exact h.answered

theorem Kept.dissent {payload : DissentRecordedPayload} (h : Kept projectId events fold)
    (hpayload : researchPayload projectId event = some (.dissent payload))
    (hfresh : payload.dissentId ∉ fold.dissentIds) :
    Kept projectId (events ++ [event]) { fold with
      dissents := fold.dissents ++ [dissentEntry event payload] } where
  proposals := by
    rw [recordedIds_other hpayload rfl (by decide)]
    exact h.proposals
  dissents := by
    rw [recordedIds_same hpayload rfl, ← h.dissents]
    simp [LedgerFold.dissentIds, dissentEntry]
  decisions := by
    rw [decisions_ne (by simp [hpayload])]
    exact h.decisions
  questions := by
    rw [recordedIds_other hpayload rfl (by decide)]
    exact h.questions
  runs := by
    rw [queuedRuns_ne hpayload]
    exact h.runs
  unique := h.unique_concat hpayload (by rwa [ResearchPayload.fact, ← h.dissents])
  asked := by
    rw [recordedIds_other hpayload rfl (by decide), recordedIds_other hpayload rfl (by decide)]
    exact h.asked
  states := h.states
  targets := h.targets
  overridden := by
    -- No earlier decision lists a dissent that is recorded only now.
    intro dissent hdissent id
    rcases List.mem_append.mp hdissent with hdissent | hdissent
    · exact h.overridden dissent hdissent id
    · cases List.mem_singleton.mp hdissent
      constructor
      · intro hid
        cases hid
      · rintro ⟨decision, hdecision, -, hlisted⟩
        exact (hfresh (h.listed decision hdecision _ hlisted)).elim
  listed := by
    intro decision hdecision id hid
    have hmem := h.listed decision hdecision id hid
    simp only [LedgerFold.dissentIds, List.map_append, List.mem_append]
    exact .inl hmem
  answered := by
    rw [recordedIds_other hpayload rfl (by decide)]
    exact h.answered

theorem Kept.asked_concat {payload : QuestionAskedPayload} (h : Kept projectId events fold)
    (hpayload : researchPayload projectId event = some (.asked payload))
    (hfresh : payload.questionId ∉ fold.questionIds) :
    Kept projectId (events ++ [event]) { fold with
      questions := fold.questions ++ [questionEntry event payload] } where
  proposals := by
    rw [recordedIds_other hpayload rfl (by decide)]
    exact h.proposals
  dissents := by
    rw [recordedIds_other hpayload rfl (by decide)]
    exact h.dissents
  decisions := by
    rw [decisions_ne (by simp [hpayload])]
    exact h.decisions
  questions := by
    rw [recordedIds_same hpayload rfl, ← h.questions]
    simp [LedgerFold.questionIds, questionEntry]
  runs := by
    rw [queuedRuns_ne hpayload]
    exact h.runs
  unique := h.unique_concat hpayload (by rwa [ResearchPayload.fact, ← h.questions])
  asked := by
    rw [recordedIds_other hpayload rfl (by decide), recordedIds_same hpayload rfl]
    intro id hid
    exact List.mem_append_left _ (h.asked id hid)
  states := h.states
  targets := h.targets
  overridden := h.overridden
  listed := h.listed
  answered := by
    rw [recordedIds_other hpayload rfl (by decide)]
    apply h.answered.ask
    intro hanswered
    rw [h.questions] at hfresh
    exact hfresh (h.asked _ hanswered)

theorem Kept.answered_concat {payload : QuestionAnsweredPayload} {asked : QuestionLedgerEntry}
    (h : Kept projectId events fold)
    (hpayload : researchPayload projectId event = some (.answered payload))
    (hasked : asked ∈ fold.questions) (hid : asked.questionId = payload.questionId)
    (hopen : asked.isAnswered = false)
    (hoption : ∀ option, payload.answer = .option option → option ∈ asked.options) :
    Kept projectId (events ++ [event]) { fold with
      questions := fold.questions.map fun item =>
        if item.questionId = payload.questionId then asked.answer event payload else item } where
  proposals := by
    rw [recordedIds_other hpayload rfl (by decide)]
    exact h.proposals
  dissents := by
    rw [recordedIds_other hpayload rfl (by decide)]
    exact h.dissents
  decisions := by
    rw [decisions_ne (by simp [hpayload])]
    exact h.decisions
  questions := by
    rw [recordedIds_other hpayload rfl (by decide), ← h.questions]
    simp only [LedgerFold.questionIds, List.map_map]
    refine List.map_congr_left fun item _ => ?_
    simp only [Function.comp_apply]
    split_ifs with hsame
    · exact hid.trans hsame.symm
    · rfl
  runs := by
    rw [queuedRuns_ne hpayload]
    exact h.runs
  unique := by
    apply h.unique_concat hpayload
    simp only [ResearchPayload.fact]
    rw [← hid, ← (h.answered asked hasked).1, hopen]
    decide
  asked := by
    have hquestion : payload.questionId ∈ recordedIds projectId .question events := by
      rw [← h.questions, ← hid]
      exact List.mem_map_of_mem hasked
    rw [recordedIds_same hpayload rfl, recordedIds_other hpayload rfl (by decide)]
    intro id hanswered
    rcases List.mem_append.mp hanswered with hanswered | hanswered
    · exact h.asked id hanswered
    · cases List.mem_singleton.mp hanswered
      exact hquestion
  states := h.states
  targets := h.targets
  overridden := h.overridden
  listed := h.listed
  answered := by
    rw [recordedIds_same hpayload rfl]
    exact h.answered.answer hid hoption

theorem Decided.proposalIds {payload : DecisionRecordedPayload}
    {proposals decided : List ProposalLedgerEntry} (h : Decided payload proposals decided) :
    decided.map (·.proposalId) = proposals.map (·.proposalId) := by
  cases h with
  | unchanged _ => rfl
  | decided _ _ _ _ _ => simp [Function.comp_def]

theorem linked_dissentIds {payload : DecisionRecordedPayload}
    {dissents linked : List DissentLedgerEntry}
    (h : List.Forall₂ (Linked payload) dissents linked) :
    linked.map (·.dissentId) = dissents.map (·.dissentId) :=
  (Fold.map_eq_map_of_forall₂ h fun _ _ hlink => hlink.dissentId.symm).symm

theorem Kept.decision {payload : DecisionRecordedPayload} {proposals : List ProposalLedgerEntry}
    {dissents : List DissentLedgerEntry} (h : Kept projectId events fold)
    (hpayload : researchPayload projectId event = some (.decision payload))
    (hchecked : DecisionChecked fold payload)
    (hproposals : Decided payload fold.proposals proposals)
    (hdissents : List.Forall₂ (Linked payload) fold.dissents dissents) :
    Kept projectId (events ++ [event]) { fold with
      proposals := proposals
      dissents := dissents
      decisions := fold.decisions ++ [decisionEntry event payload] } where
  proposals := by
    rw [recordedIds_other hpayload rfl (by decide), ← h.proposals]
    exact hproposals.proposalIds
  dissents := by
    rw [recordedIds_other hpayload rfl (by decide), ← h.dissents]
    exact linked_dissentIds hdissents
  decisions := by
    rw [List.filterMap_append, ← h.decisions]
    simp [recordedDecision, hpayload]
  questions := by
    rw [recordedIds_other hpayload rfl (by decide)]
    exact h.questions
  runs := by
    rw [queuedRuns_ne hpayload]
    exact h.runs
  unique := h.unique_concat hpayload (by
    rw [ResearchPayload.fact, ← h.decisionIds]
    exact hchecked.fresh)
  asked := by
    rw [recordedIds_other hpayload rfl (by decide), recordedIds_other hpayload rfl (by decide)]
    exact h.asked
  states := by
    apply h.states.decide _ hproposals
    rw [← LedgerFold.proposalIds, h.proposals]
    exact h.unique .proposal
  targets := by
    intro decision hdecision hkind
    rw [LedgerFold.proposalIds, hproposals.proposalIds]
    rcases List.mem_append.mp hdecision with hdecision | hdecision
    · exact h.targets decision hdecision hkind
    · cases List.mem_singleton.mp hdecision
      have hresolves := hchecked.resolves
      have hproposal : payload.targetKind = .proposal := hkind
      rw [decisionTargetResolves, hproposal] at hresolves
      exact of_decide_eq_true hresolves
  overridden := h.overridden.decide hdissents
  listed := by
    intro decision hdecision id hid
    rw [LedgerFold.dissentIds, linked_dissentIds hdissents]
    rcases List.mem_append.mp hdecision with hdecision | hdecision
    · exact h.listed decision hdecision id hid
    · cases List.mem_singleton.mp hdecision
      exact hchecked.overridden id hid
  answered := by
    rw [recordedIds_other hpayload rfl (by decide)]
    exact h.answered

theorem Kept.step (h : Kept projectId events fold) (hstep : LedgerStep projectId fold event next) :
    Kept projectId (events ++ [event]) next := by
  cases hstep with
  | other hpayload => exact h.other hpayload
  | proposal hpayload hfresh => exact h.proposal hpayload hfresh
  | dissent hpayload hfresh _ => exact h.dissent hpayload hfresh
  | decision hpayload hchecked hproposals hdissents =>
    exact h.decision hpayload hchecked hproposals hdissents
  | asked hpayload hfresh _ => exact h.asked_concat hpayload hfresh
  | answered hpayload hasked hid hopen hoption =>
    exact h.answered_concat hpayload hasked hid hopen hoption

theorem replayResearch_kept (h : replayResearch projectId events = .ok fold) :
    Kept projectId events fold := by
  induction events using List.reverseRecOn generalizing fold with
  | nil =>
    cases h
    exact kept_empty
  | append_singleton events event ih =>
    obtain ⟨before, hbefore, hstep⟩ := Fold.foldlM_concat_eq_ok.mp h
    exact (ih hbefore).step (ledgerStep hstep)

/-- What an accepted fact refers to has been recorded before it. -/
theorem Kept.resolves (h : Kept projectId events fold)
    (hstep : LedgerStep projectId fold event next)
    (hpayload : researchPayload projectId event = some payload) :
    Resolves projectId events payload := by
  cases hstep with
  | other hnone =>
    rw [hnone] at hpayload
    cases hpayload
  | proposal hfound _ =>
    rw [hfound] at hpayload
    cases hpayload
    trivial
  | @dissent payload hfound _ hresolves =>
    rw [hfound] at hpayload
    cases hpayload
    unfold Resolves
    rw [← h.proposals, ← h.decisionIds]
    cases hkind : payload.targetKind with
    | proposal => simpa [dissentTargetResolves, hkind] using hresolves
    | decision => simpa [dissentTargetResolves, hkind] using hresolves
  | @decision payload _ _ hfound hchecked _ _ =>
    rw [hfound] at hpayload
    cases hpayload
    unfold Resolves
    dsimp only
    rw [← h.proposals, ← h.dissents, ← h.questions, ← h.runs]
    refine ⟨?_, hchecked.overridden⟩
    have hresolves := hchecked.resolves
    cases hkind : payload.targetKind with
    | proposal => simpa [decisionTargetResolves, hkind] using hresolves
    | dissent => simpa [decisionTargetResolves, hkind] using hresolves
    | run => simpa [decisionTargetResolves, hkind] using hresolves
    | question =>
      refine ⟨by simpa [decisionTargetResolves, hkind] using hresolves, ?_⟩
      intro hdefer
      obtain ⟨question, hquestion, hid, hanswered⟩ := hchecked.question hkind hdefer
      rw [← hid]
      exact (h.answered question hquestion).1.mp hanswered
  | asked hfound _ hrelated =>
    rw [hfound] at hpayload
    cases hpayload
    unfold Resolves
    rw [← h.proposals]
    exact hrelated
  | answered hfound hasked hid _ _ =>
    rw [hfound] at hpayload
    cases hpayload
    unfold Resolves
    dsimp only
    rw [← h.questions, ← hid]
    exact List.mem_map_of_mem hasked

theorem Moved.refl (proposals : List ProposalLedgerEntry) : Moved proposals proposals :=
  ⟨proposals, [], by simp, List.forall₂_same.mpr fun _ _ => ⟨rfl, rfl, .inl rfl⟩, by simp⟩

/-- An accepted fact moves proposals along their states only. -/
theorem Kept.moved (h : Kept projectId events fold)
    (hstep : LedgerStep projectId fold event next) : Moved fold.proposals next.proposals := by
  cases hstep with
  | other _ =>
    cases queuedRun projectId event with
    | none => exact .refl _
    | some _ => exact .refl _
  | @proposal payload _ _ =>
    exact ⟨fold.proposals, [proposalEntry event payload], rfl,
      List.forall₂_same.mpr fun _ _ => ⟨rfl, rfl, .inl rfl⟩, by simp [proposalEntry]⟩
  | dissent _ _ _ => exact .refl _
  | decision _ _ hproposals _ =>
    refine ⟨_, [], by simp, h.states.follows ?_ hproposals, by simp⟩
    rw [← LedgerFold.proposalIds, h.proposals]
    exact h.unique .proposal
  | asked _ _ _ => exact .refl _
  | answered _ _ _ _ _ => exact .refl _

/-- Every fact of an accepted log met a ledger of the facts before it. -/
theorem replayResearch_split {earlier later : List ResearchEvent}
    (h : replayResearch projectId (earlier ++ event :: later) = .ok fold) :
    ∃ before after, replayResearch projectId earlier = .ok before ∧
      applyResearchEvent projectId before event = .ok after := by
  obtain ⟨before, hbefore, h⟩ := Fold.foldlM_append_eq_ok.mp h
  obtain ⟨after, hafter, -⟩ := Fold.foldlM_cons_eq_ok.mp h
  exact ⟨before, after, hbefore, hafter⟩

/-- Every log that the ledger accepts keeps its facts distinct, refers only to earlier facts,
and has its overrides, supersessions and answers in step with its decisions. -/
theorem ledger_integrity (projectId : EventIdentifier) (events : List ResearchEvent)
    (fold : LedgerFold) (h : replayResearch projectId events = .ok fold) :
    Integrity projectId events fold := by
  have hkept := replayResearch_kept h
  constructor
  · exact hkept.proposals
  · exact hkept.dissents
  · exact hkept.decisions
  · exact hkept.questions
  · exact hkept.unique
  · rintro earlier event later payload rfl hpayload
    obtain ⟨before, after, hbefore, hafter⟩ := replayResearch_split h
    exact (replayResearch_kept hbefore).resolves (ledgerStep hafter) hpayload
  · exact hkept.overridden
  · rintro earlier event later rfl
    obtain ⟨before, after, hbefore, hafter⟩ := replayResearch_split h
    exact ⟨before, after, hbefore, hafter,
      (replayResearch_kept hbefore).moved (ledgerStep hafter)⟩
  · exact hkept.states.superseded
  · exact hkept.answered

end

/-! A project whose second proposal supersedes the first one, against a dissent. -/

def trialProject : EventIdentifier := ⟨"project", .refl true⟩

def trialFact (id : Checked isCloudEventsString) (sequence : SequenceNumber) (kind : ActorKind)
    (revision : ExperimentRevision) (type : EventIdentifier) (payload : Json.Members) :
    ResearchEvent where
  id := id
  source := ⟨"urn:trial", by decide +kernel⟩
  type := type
  time := ⟨"2026-01-01T00:00:00Z", by decide⟩
  subject := ⟨"trial", by decide⟩
  data :=
    { actor := ⟨⟨"actor", by decide⟩, some kind, none, by simp⟩
      projectId := trialProject
      experimentRevision := revision
      runId := none
      attemptId := none
      blockId := none
      payload := ("evidenceRefs", .arr []) :: payload
      evidenceRefs := []
      evidenceRefsAreUnique := List.nodup_nil }
  sequence := sequence
  streamid := trialProject
  streamversion := ⟨0, by decide⟩
  correlationid := none
  causationid := none

def trialProposal (id : String) (revision : Nat) : Json.Members :=
  [("proposalId", .str id), ("baseRevision", .int revision),
    ("specDiffDigest", .str
      "jcs-sha256:0000000000000000000000000000000000000000000000000000000000000000"),
    ("proposedSpecDigest", .str
      "jcs-sha256:1111111111111111111111111111111111111111111111111111111111111111"),
    ("rationale", .str "lower the learning rate"),
    ("predictions", .arr [.obj [("id", .str "loss"), ("statement", .str "the loss falls"),
      ("expectedDirection", .str "decrease")]]),
    ("falsificationConditions", .arr [.str "the loss rises"]),
    ("riskAssessment", .obj [("data", .str ""), ("method", .str ""), ("safety", .str ""),
      ("cost", .str "")])]

def trialDecision (id kind target outcome : String) (overridden : List Json) : Json.Members :=
  [("decisionId", .str id), ("targetKind", .str kind), ("targetId", .str target),
    ("outcome", .str outcome), ("rationale", .str "as reviewed"),
    ("overriddenDissentIds", .arr overridden)]

def trialLog : List ResearchEvent :=
  [trialFact ⟨"e1", .refl true⟩ ⟨1, .refl true⟩ .ai ⟨1, .refl true⟩ ⟨"proposal.submitted", .refl true⟩
      (trialProposal "first" 1),
    trialFact ⟨"e2", .refl true⟩ ⟨2, .refl true⟩ .ai ⟨2, .refl true⟩ ⟨"proposal.submitted", .refl true⟩
      (trialProposal "second" 2),
    trialFact ⟨"e3", .refl true⟩ ⟨3, .refl true⟩ .ai ⟨2, .refl true⟩ ⟨"question.asked", .refl true⟩
      [("questionId", .str "which"), ("question", .str "which seed"), ("uncertainty", .str "high"),
        ("whyNotObservable", .str "a choice"), ("options", .arr [.str "one", .str "two"]),
        ("blocking", .bool true), ("relatedProposalId", .str "second")],
    trialFact ⟨"e4", .refl true⟩ ⟨4, .refl true⟩ .human ⟨2, .refl true⟩
      ⟨"question.answered", .refl true⟩
      [("questionId", .str "which"), ("answer", .obj [("option", .str "two")]),
        ("rights", .obj [("status", .str "unknown")])],
    trialFact ⟨"e5", .refl true⟩ ⟨5, .refl true⟩ .ai ⟨2, .refl true⟩ ⟨"dissent.recorded", .refl true⟩
      [("dissentId", .str "doubt"), ("targetKind", .str "proposal"), ("targetId", .str "first"),
        ("objections", .arr [.obj [("kind", .str "cost-benefit"), ("statement", .str "slow")]])],
    trialFact ⟨"e6", .refl true⟩ ⟨6, .refl true⟩ .human ⟨2, .refl true⟩
      ⟨"decision.recorded", .refl true⟩
      (trialDecision "take-first" "proposal" "first" "accept" [.str "doubt"]),
    trialFact ⟨"e7", .refl true⟩ ⟨7, .refl true⟩ .human ⟨2, .refl true⟩
      ⟨"decision.recorded", .refl true⟩
      (trialDecision "take-second" "proposal" "second" "accept" []),
    trialFact ⟨"e8", .refl true⟩ ⟨8, .refl true⟩ .human ⟨2, .refl true⟩
      ⟨"decision.recorded", .refl true⟩
      (trialDecision "seeded" "question" "which" "continue" [])]

theorem trialLog_accepted : (replayResearch trialProject trialLog).toOption.map (fun fold =>
    (fold.proposals.map (·.revisionState), fold.dissents.map fun dissent =>
      dissent.overriddenByDecisionIds.val.map (·.val))) =
    some ([.superseded, .accepted], [["take-first"]]) := by decide +kernel

theorem ledger_integrity_trial :
    ∃ fold, replayResearch trialProject trialLog = .ok fold ∧
      fold.proposals.map (·.revisionState) = [.superseded, .accepted] ∧
      Integrity trialProject trialLog fold := by
  cases hfold : replayResearch trialProject trialLog with
  | error e =>
    have haccepted := trialLog_accepted
    rw [hfold] at haccepted
    cases haccepted
  | ok fold =>
    have haccepted := trialLog_accepted
    rw [hfold] at haccepted
    have hstates := congrArg Prod.fst (Option.some.inj haccepted)
    exact ⟨fold, rfl, hstates, ledger_integrity trialProject trialLog fold hfold⟩

end ResearchOs.Research
