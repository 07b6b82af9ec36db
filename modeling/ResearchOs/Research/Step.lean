import ResearchOs.Research.Ledger

/-! What an accepted research fact does to the ledger. -/
namespace ResearchOs.Research

@[simp] theorem requireLedger_ok {condition : Prop} [Decidable condition] {message code : String} :
    requireLedger condition message code = .ok () ↔ condition := by
  simp [requireLedger]

@[simp] theorem requireLedger_bind_ok {condition : Prop} [Decidable condition]
    {message code : String} {α : Type} {k : Unit → Except ResearchError α} {r : α} :
    requireLedger condition message code >>= k = .ok r ↔ condition ∧ k () = .ok r := by
  by_cases h : condition <;> simp [requireLedger, h, bind, Except.bind]

/-- The payload of a research fact of the project. -/
def researchPayload (projectId : EventIdentifier) (event : ResearchEvent) :
    Option ResearchPayload :=
  if event.data.projectId ≠ projectId then none
  else (DecisionEventType.ofText event.type.val).bind fun type =>
    payloadModel type (.obj event.data.payload)

/-- The run that a fact of the project queues. -/
def queuedRun (projectId : EventIdentifier) (event : ResearchEvent) : Option EventIdentifier :=
  if event.data.projectId = projectId ∧ event.type.val = Runs.LifecycleType.runQueued.text then
    event.data.runId
  else none

def LedgerFold.withRun (fold : LedgerFold) : Option EventIdentifier → LedgerFold
  | some runId => { fold with runIds := fold.runIds.insert runId }
  | none => fold

variable {projectId : EventIdentifier} {fold next : LedgerFold} {event : ResearchEvent}

theorem ofText_runQueued :
    DecisionEventType.ofText Runs.LifecycleType.runQueued.text = none := by decide

/-- Only a fact without a research payload names a run. -/
theorem queuedRun_eq_none {payload : ResearchPayload}
    (hpayload : researchPayload projectId event = some payload) :
    queuedRun projectId event = none := by
  apply if_neg
  rintro ⟨hproject, hqueued⟩
  rw [researchPayload, if_neg (not_not.mpr hproject), hqueued, ofText_runQueued] at hpayload
  cases hpayload

/-- A fact without a research payload at most names a run. -/
theorem applyResearchEvent_ok (h : applyResearchEvent projectId fold event = .ok next) :
    (researchPayload projectId event = none ∧ next = fold.withRun (queuedRun projectId event)) ∨
      ∃ payload, researchPayload projectId event = some payload ∧
        applyPayload fold event payload = .ok next := by
  unfold applyResearchEvent at h
  split_ifs at h with hproject
  · cases h
    refine .inl ⟨if_pos hproject, ?_⟩
    rw [queuedRun, if_neg (fun hqueued => hproject hqueued.1)]
    rfl
  · have hown : event.data.projectId = projectId := not_not.mp hproject
    cases htype : DecisionEventType.ofText event.type.val with
    | none =>
      rw [htype] at h
      cases h
      refine .inl ⟨by simp [researchPayload, htype], ?_⟩
      cases hrun : event.data.runId with
      | none => simp [noteRun, queuedRun, hrun, LedgerFold.withRun]
      | some runId =>
        by_cases hqueued : event.type.val = Runs.LifecycleType.runQueued.text
        · simp [noteRun, queuedRun, hrun, hown, hqueued, LedgerFold.withRun]
        · simp [noteRun, queuedRun, hrun, hqueued, LedgerFold.withRun]
    | some type =>
      rw [htype] at h
      obtain ⟨_, -, h⟩ := Fold.bind_eq_ok.mp h
      obtain ⟨payload, hparse, h⟩ := Fold.bind_eq_ok.mp h
      obtain ⟨-, happly⟩ := requireLedger_bind_ok.mp h
      refine .inr ⟨payload, ?_, happly⟩
      unfold parseDecisionPayload at hparse
      split at hparse
      · rename_i parsed hmodel
        cases hparse
        simp [researchPayload, hproject, htype, hmodel]
      · cases hparse

/-- What a decision does to the proposals. -/
inductive Decided (payload : DecisionRecordedPayload) (proposals : List ProposalLedgerEntry) :
    List ProposalLedgerEntry → Prop
  | unchanged (hother : payload.targetKind ≠ .proposal ∨
      (payload.outcome ≠ .accept ∧ payload.outcome ≠ .reject)) :
      Decided payload proposals proposals
  | decided {target : ProposalLedgerEntry} (hkind : payload.targetKind = .proposal)
      (houtcome : payload.outcome = .accept ∨ payload.outcome = .reject)
      (htarget : target ∈ proposals) (hid : target.proposalId = payload.targetId)
      (hopen : target.revisionState = .proposed ∨ target.revisionState = .validated) :
      Decided payload proposals (proposals.map (decideProposal payload target))

theorem applyProposalOutcome_ok {payload : DecisionRecordedPayload}
    {proposals decided : List ProposalLedgerEntry}
    (h : applyProposalOutcome proposals payload = .ok decided) :
    Decided payload proposals decided := by
  unfold applyProposalOutcome at h
  split_ifs at h with hkind houtcome
  · cases h
    exact .unchanged (.inl hkind)
  · cases h
    exact .unchanged (.inr houtcome)
  · split at h
    · cases h
    · rename_i target htarget
      split_ifs at h with hopen
      cases h
      have hid : target.proposalId = payload.targetId := by simpa using List.find?_some htarget
      exact .decided (not_not.mp hkind) (by tauto) (List.mem_of_find?_eq_some htarget) hid hopen

/-- What a decision does to a dissent. -/
structure Linked (payload : DecisionRecordedPayload) (dissent linked : DissentLedgerEntry) :
    Prop where
  dissentId : linked.dissentId = dissent.dissentId
  overriddenBy : linked.overriddenByDecisionIds.val = dissent.overriddenByDecisionIds.val ++
    if dissent.dissentId ∈ payload.overriddenDissentIds.val then [payload.decisionId] else []

theorem linkDissent_ok {payload : DecisionRecordedPayload} {dissent linked : DissentLedgerEntry}
    (h : linkDissent payload dissent = .ok linked) : Linked payload dissent linked := by
  unfold linkDissent at h
  split_ifs at h with hoverridden hroom
  · cases h
    exact ⟨rfl, by rw [if_pos hoverridden]⟩
  · cases h
    exact ⟨rfl, by rw [if_neg hoverridden, List.append_nil]⟩

/-- What the handler of a decision has checked. -/
structure DecisionChecked (fold : LedgerFold) (payload : DecisionRecordedPayload) : Prop where
  fresh : payload.decisionId ∉ fold.decisionIds
  resolves : decisionTargetResolves fold payload = true
  question : payload.targetKind = .question → payload.outcome ≠ .defer →
    ∃ question ∈ fold.questions, question.questionId = payload.targetId ∧
      question.isAnswered = true
  overridden : ∀ id ∈ payload.overriddenDissentIds.val, id ∈ fold.dissentIds

theorem applyDecision_ok {payload : DecisionRecordedPayload}
    (h : applyDecision fold event payload = .ok next) :
    DecisionChecked fold payload ∧ ∃ proposals dissents,
      Decided payload fold.proposals proposals ∧
      List.Forall₂ (Linked payload) fold.dissents dissents ∧
      next = { fold with
        proposals := proposals
        dissents := dissents
        decisions := fold.decisions ++ [decisionEntry event payload] } := by
  obtain ⟨hfresh, h⟩ := requireLedger_bind_ok.mp h
  obtain ⟨_, -, h⟩ := Fold.bind_eq_ok.mp h
  obtain ⟨hresolves, h⟩ := requireLedger_bind_ok.mp h
  obtain ⟨_, hquestion, h⟩ := Fold.bind_eq_ok.mp h
  obtain ⟨_, hoverridden, h⟩ := Fold.bind_eq_ok.mp h
  obtain ⟨proposals, hproposals, h⟩ := Fold.bind_eq_ok.mp h
  obtain ⟨dissents, hdissents, h⟩ := Fold.bind_eq_ok.mp h
  cases h
  refine ⟨⟨hfresh, hresolves, ?_, ?_⟩, proposals, dissents, applyProposalOutcome_ok hproposals,
    (Fold.mapM_eq_ok.mp hdissents).imp fun _ _ => linkDissent_ok, rfl⟩
  · intro hkind hdefer
    rw [requireQuestionDecision, if_pos hkind] at hquestion
    split at hquestion
    · cases hquestion
    · rename_i question hfound
      rw [requireLedger_ok] at hquestion
      have hid : question.questionId = payload.targetId := by simpa using List.find?_some hfound
      exact ⟨question, List.mem_of_find?_eq_some hfound, hid, hquestion.resolve_right hdefer⟩
  · intro id hid
    have hfound := Fold.forM_eq_ok.mp hoverridden id hid
    unfold requireOverridden at hfound
    split at hfound
    · cases hfound
    · rename_i dissent hdissent
      have hsame : dissent.dissentId = id := by simpa using List.find?_some hdissent
      exact List.mem_map.mpr ⟨dissent, List.mem_of_find?_eq_some hdissent, hsame⟩

/-- One accepted fact, with what its handler has checked. -/
inductive LedgerStep (projectId : EventIdentifier) (fold : LedgerFold) (event : ResearchEvent) :
    LedgerFold → Prop
  | other (hpayload : researchPayload projectId event = none) :
      LedgerStep projectId fold event (fold.withRun (queuedRun projectId event))
  | proposal {payload : ProposalSubmittedPayload}
      (hpayload : researchPayload projectId event = some (.proposal payload))
      (hfresh : payload.proposalId ∉ fold.proposalIds) :
      LedgerStep projectId fold event { fold with
        proposals := fold.proposals ++ [proposalEntry event payload] }
  | dissent {payload : DissentRecordedPayload}
      (hpayload : researchPayload projectId event = some (.dissent payload))
      (hfresh : payload.dissentId ∉ fold.dissentIds)
      (hresolves : dissentTargetResolves fold payload = true) :
      LedgerStep projectId fold event { fold with
        dissents := fold.dissents ++ [dissentEntry event payload] }
  | decision {payload : DecisionRecordedPayload} {proposals : List ProposalLedgerEntry}
      {dissents : List DissentLedgerEntry}
      (hpayload : researchPayload projectId event = some (.decision payload))
      (hchecked : DecisionChecked fold payload)
      (hproposals : Decided payload fold.proposals proposals)
      (hdissents : List.Forall₂ (Linked payload) fold.dissents dissents) :
      LedgerStep projectId fold event { fold with
        proposals := proposals
        dissents := dissents
        decisions := fold.decisions ++ [decisionEntry event payload] }
  | asked {payload : QuestionAskedPayload}
      (hpayload : researchPayload projectId event = some (.asked payload))
      (hfresh : payload.questionId ∉ fold.questionIds)
      (hrelated : ∀ id ∈ payload.relatedProposalId, id ∈ fold.proposalIds) :
      LedgerStep projectId fold event { fold with
        questions := fold.questions ++ [questionEntry event payload] }
  | answered {payload : QuestionAnsweredPayload} {asked : QuestionLedgerEntry}
      (hpayload : researchPayload projectId event = some (.answered payload))
      (hasked : asked ∈ fold.questions) (hid : asked.questionId = payload.questionId)
      (hopen : asked.isAnswered = false)
      (hoption : ∀ option, payload.answer = .option option → option ∈ asked.options) :
      LedgerStep projectId fold event { fold with
        questions := fold.questions.map fun item =>
          if item.questionId = payload.questionId then asked.answer event payload else item }

theorem ledgerStep (h : applyResearchEvent projectId fold event = .ok next) :
    LedgerStep projectId fold event next := by
  rcases applyResearchEvent_ok h with ⟨hpayload, rfl⟩ | ⟨payload, hpayload, happly⟩
  · exact .other hpayload
  cases payload with
  | proposal payload =>
    obtain ⟨-, happly⟩ := requireLedger_bind_ok.mp happly
    obtain ⟨hfresh, happly⟩ := requireLedger_bind_ok.mp happly
    obtain ⟨-, happly⟩ := requireLedger_bind_ok.mp happly
    cases happly
    exact .proposal hpayload hfresh
  | dissent payload =>
    obtain ⟨hfresh, happly⟩ := requireLedger_bind_ok.mp happly
    obtain ⟨-, happly⟩ := requireLedger_bind_ok.mp happly
    obtain ⟨hresolves, happly⟩ := requireLedger_bind_ok.mp happly
    cases happly
    exact .dissent hpayload hfresh hresolves
  | decision payload =>
    obtain ⟨hchecked, proposals, dissents, hproposals, hdissents, rfl⟩ := applyDecision_ok happly
    exact .decision hpayload hchecked hproposals hdissents
  | asked payload =>
    obtain ⟨hfresh, happly⟩ := requireLedger_bind_ok.mp happly
    obtain ⟨-, happly⟩ := requireLedger_bind_ok.mp happly
    obtain ⟨hrelated, happly⟩ := requireLedger_bind_ok.mp happly
    cases happly
    exact .asked hpayload hfresh hrelated
  | answered payload =>
    obtain ⟨-, happly⟩ := requireLedger_bind_ok.mp happly
    split at happly
    · cases happly
    · rename_i asked hfound
      obtain ⟨hopen, happly⟩ := requireLedger_bind_ok.mp happly
      obtain ⟨_, hoption, happly⟩ := Fold.bind_eq_ok.mp happly
      cases happly
      have hid : asked.questionId = payload.questionId := by simpa using List.find?_some hfound
      refine .answered hpayload (List.mem_of_find?_eq_some hfound) hid hopen ?_
      intro option hanswer
      rw [hanswer] at hoption
      exact requireLedger_ok.mp hoption

end ResearchOs.Research
