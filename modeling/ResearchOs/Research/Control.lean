import ResearchOs.Research.Step
import ResearchOs.Core.Storage.Control

/-! `ResearchControl`: a research fact checked against a frozen ledger, appended at its head. -/
namespace ResearchOs.Research

open Storage (Document EventLog StoreError)

abbrev LedgerSequence := Checked (inRange 0 cloudEventsIntegerMax)

def answeredCount (questions : List QuestionLedgerEntry) : Nat :=
  questions.countP QuestionLedgerEntry.isAnswered

/-- Counters match the entries, and every answer follows its question. -/
structure ResearchLedger where
  projectId : EventIdentifier
  lastSequence : LedgerSequence
  proposals : List ProposalLedgerEntry
  dissents : List DissentLedgerEntry
  decisions : List DecisionLedgerEntry
  questions : List QuestionLedgerEntry
  decisionCount : Nat
  answeredQuestionCount : Nat
  openQuestionCount : Nat
  rationaleCharacters : Nat
  overriddenDissentCount : Nat
  questionsAreValid : questions.all QuestionLedgerEntry.answerFieldsMatchStatus = true
  decisionsCounted : decisionCount = decisions.length
  answeredCounted : answeredQuestionCount = answeredCount questions
  openCounted : openQuestionCount + answeredCount questions = questions.length

theorem openCount_add (questions : List QuestionLedgerEntry) :
    questions.length - answeredCount questions + answeredCount questions = questions.length :=
  Nat.sub_add_cancel (List.countP_le_length (p := QuestionLedgerEntry.isAnswered))

/-- `ResearchLedgerProjection.snapshot` -/
def snapshot (projectId : EventIdentifier) (fold : LedgerFold) (lastSequence : Nat) :
    Except ResearchError ResearchLedger :=
  if h : inRange 0 cloudEventsIntegerMax lastSequence = true ∧
      fold.questions.all QuestionLedgerEntry.answerFieldsMatchStatus = true then
    .ok {
      projectId := projectId
      lastSequence := ⟨lastSequence, h.1⟩
      proposals := fold.proposals
      dissents := fold.dissents
      decisions := fold.decisions
      questions := fold.questions
      decisionCount := fold.decisions.length
      answeredQuestionCount := answeredCount fold.questions
      openQuestionCount := fold.questions.length - answeredCount fold.questions
      rationaleCharacters := (fold.decisions.map fun item => item.rationale.val.length).sum
      overriddenDissentCount :=
        (fold.decisions.flatMap fun item => item.overriddenDissentIds.val).dedup.length
      questionsAreValid := h.2
      decisionsCounted := rfl
      answeredCounted := rfl
      openCounted := openCount_add fold.questions }
  else .error .validation

/-- `empty_research_ledger` -/
def emptyResearchLedger (projectId : EventIdentifier) (lastSequence : Nat) :
    Except ResearchError ResearchLedger :=
  if h : inRange 0 cloudEventsIntegerMax lastSequence = true then
    .ok {
      projectId := projectId
      lastSequence := ⟨lastSequence, h⟩
      proposals := []
      dissents := []
      decisions := []
      questions := []
      decisionCount := 0
      answeredQuestionCount := 0
      openQuestionCount := 0
      rationaleCharacters := 0
      overriddenDissentCount := 0
      questionsAreValid := rfl
      decisionsCounted := rfl
      answeredCounted := rfl
      openCounted := rfl }
  else .error .validation

/-- `build_research_ledger` -/
def buildResearchLedger (projectId : EventIdentifier) (events : List ResearchEvent)
    (lastSequence : Nat) : Except ResearchError ResearchLedger :=
  match events with
  | [] => emptyResearchLedger projectId lastSequence
  | events => do
    let fold ← replayResearch projectId events
    snapshot projectId fold lastSequence

inductive ControlError where
  | research (error : ResearchError)
  | store (error : StoreError)
  deriving DecidableEq, Repr

def fromResearch {α : Type} : Except ResearchError α → Except ControlError α
  | .ok a => .ok a
  | .error e => .error (.research e)

@[simp] theorem fromResearch_eq_ok {α : Type} {r : Except ResearchError α} {a : α} :
    fromResearch r = .ok a ↔ r = .ok a := by
  cases r <;> simp [fromResearch]

structure ResearchControlHead where
  lastSequence : Nat
  snapshot : ResearchLedger
  fold : LedgerFold

structure ResearchControlResult where
  stored : ResearchEvent
  snapshot : ResearchLedger

/-- A research draft, with the head that its caller has seen. -/
structure ResearchControlCall where
  document : Document
  expectedLastSequence : Option Nat

/-- The draft as the research fact behind a head. -/
def preflightEvent (projectId : EventIdentifier) (head : Nat) (document : Document) :
    Except ResearchError ResearchEvent :=
  match Storage.preflightDraft head document with
  | .error .notAnObject => .error (.control "event draft must be a JSON object" "invalid-draft")
  | .error (.storeAssigned names) =>
    .error (.control ("ResearchControl does not accept store-assigned fields; caller supplied: " ++
      names) "store-assigned-fields")
  | .error .exhausted => .error (.control "global event sequence is exhausted" "sequence-exhausted")
  | .error .invalid =>
    .error (.payload "event draft failed ResearchEvent validation" "invalid-event")
  | .ok event =>
    if event.data.projectId ≠ projectId then
      .error (.control "event projectId does not match this ResearchControl" "project-mismatch")
    else if DecisionEventType.ofText event.type.val = none then
      .error (.control "event type is not a research decision type" "unknown-research-type")
    else .ok event

def requireHead (head : Nat) : Option Nat → Except ControlError Unit
  | none => .ok ()
  | some expected =>
    if head ≠ expected then .error (.store (.sequenceConflict expected head)) else .ok ()

/-- The validation of the ledger that an append would leave. -/
def requireProspective (projectId : EventIdentifier) (fold : LedgerFold) (lastSequence : Nat) :
    Except ResearchError Unit :=
  match snapshot projectId fold lastSequence with
  | .ok _ => .ok ()
  | .error _ =>
    .error (.control "prospective ledger failed validation" "invalid-prospective-ledger")

/-- The checks of a draft against the fold at a head. -/
def checkAppend (projectId : EventIdentifier) (head : Nat) (fold : LedgerFold)
    (document : Document) : Except ResearchError LedgerFold := do
  let event ← preflightEvent projectId head document
  let next ← applyResearchEvent projectId fold event
  requireProspective projectId next (head + 1)
  .ok next

/-- `append` behind its replay, up to the compare-and-append. -/
def draft (projectId : EventIdentifier) (call : ResearchControlCall) (head : Nat)
    (fold : LedgerFold) : Except ControlError Document := do
  let _ ← fromResearch (snapshot projectId fold head)
  requireHead head call.expectedLastSequence
  let _ ← fromResearch (checkAppend projectId head fold call.document)
  .ok call.document

def commit (log : EventLog) (document : Document) (head : Nat) :
    Except ControlError ResearchEvent :=
  match log.append document (some head) with
  | .ok event => .ok event
  | .error error => .error (.store error)

/-- The snapshot that the committed fact produces. -/
def finish (projectId : EventIdentifier) (fold : LedgerFold) (stored : ResearchEvent) :
    Except ControlError ResearchControlResult := do
  let next ← fromResearch (applyResearchEvent projectId fold stored)
  let ledger ← fromResearch (snapshot projectId next stored.sequence.val)
  .ok ⟨stored, ledger⟩

/-- Calls of `append`, among appends of other facts behind the head. -/
def researchControl : FrozenReplay EventIdentifier ResearchControlCall Document ResearchEvent
    LedgerFold ResearchControlResult ControlError where
  position event := event.sequence.val
  misplaced highWater expected found :=
    .store (.integrity (Storage.misplacedText highWater expected found))
  init := LedgerFold.empty
  apply projectId fold event := fromResearch (applyResearchEvent projectId fold event)
  draft := draft
  commit := commit
  finish projectId _ _ fold stored := finish projectId fold stored
  admits log event := (DecisionEventType.ofText event.type.val).isNone &&
    decide (event.sequence.val = log.length + 1)

/-- `ResearchControl.rebuild` -/
def rebuild (projectId : EventIdentifier) (log : EventLog) :
    Except ControlError ResearchControlHead := do
  let fold ← researchControl.visit projectId log.length 1 LedgerFold.empty log
  let ledger ← fromResearch (snapshot projectId fold log.length)
  .ok ⟨log.length, ledger, fold⟩

variable {projectId : EventIdentifier} {log : EventLog} {head : Nat} {fold : LedgerFold}
  {document : Document} {event : ResearchEvent}

theorem snapshot_ok_iff {lastSequence : Nat} :
    (∃ ledger, snapshot projectId fold lastSequence = .ok ledger) ↔
      lastSequence ≤ cloudEventsIntegerMax ∧
        fold.questions.all QuestionLedgerEntry.answerFieldsMatchStatus = true := by
  have hrange : inRange 0 cloudEventsIntegerMax lastSequence = true ↔
      lastSequence ≤ cloudEventsIntegerMax := by
    rw [inRange_iff]
    omega
  unfold snapshot
  split_ifs with h
  · exact ⟨fun _ => ⟨hrange.mp h.1, h.2⟩, fun _ => ⟨_, rfl⟩⟩
  · constructor
    · rintro ⟨ledger, hledger⟩
      cases hledger
    · rintro ⟨hlast, hvalid⟩
      exact (h ⟨hrange.mpr hlast, hvalid⟩).elim

/-- The ledger of no facts is the snapshot of the empty fold. -/
theorem buildResearchLedger_eq (events : List ResearchEvent) (lastSequence : Nat) :
    buildResearchLedger projectId events lastSequence =
      replayResearch projectId events >>= fun fold => snapshot projectId fold lastSequence := by
  cases events with
  | nil =>
    change emptyResearchLedger projectId lastSequence =
      snapshot projectId LedgerFold.empty lastSequence
    unfold emptyResearchLedger snapshot
    by_cases h : inRange 0 cloudEventsIntegerMax lastSequence = true
    · rw [dif_pos h, dif_pos ⟨h, rfl⟩]
      rfl
    · rw [dif_neg h, dif_neg fun hboth => h hboth.1]
  | cons event events => rfl

theorem preflightEvent_ok (h : preflightEvent projectId head document = .ok event) :
    Storage.Preflight head document event ∧ event.data.projectId = projectId ∧
      DecisionEventType.ofText event.type.val ≠ none := by
  unfold preflightEvent at h
  split at h
  all_goals try cases h
  rename_i found hfound
  split_ifs at h with hproject htype
  cases h
  exact ⟨Storage.preflightDraft_ok hfound, not_not.mp hproject, htype⟩

theorem commit_ok (h : commit log document head = .ok event) :
    log.append document (some head) = .ok event := by
  unfold commit at h
  split at h
  · rename_i found hfound
    cases h
    exact hfound
  · cases h

/-- A research fact that has been checked against the ledger at a head. -/
structure CheckedFact (projectId : EventIdentifier) (head : Nat) (fold : LedgerFold)
    (event : ResearchEvent) (next : LedgerFold) : Prop where
  sequence : event.sequence.val = head + 1
  project : event.data.projectId = projectId
  applied : applyResearchEvent projectId fold event = .ok next
  prospective : ∃ ledger, snapshot projectId next (head + 1) = .ok ledger

/-- The stored fact folds as the preflight fact did. -/
theorem checkedFact_of_committed {call : ResearchControlCall}
    (hdraft : draft projectId call log.length fold = .ok document)
    (hcommit : commit log document log.length = .ok event) :
    ∃ next, CheckedFact projectId log.length fold event next := by
  obtain ⟨_, -, hdraft⟩ := Fold.bind_eq_ok.mp hdraft
  obtain ⟨_, -, hdraft⟩ := Fold.bind_eq_ok.mp hdraft
  obtain ⟨_, hcheck, hdraft⟩ := Fold.bind_eq_ok.mp hdraft
  cases hdraft
  obtain ⟨preflight, hpreflight, hcheck⟩ := Fold.bind_eq_ok.mp (fromResearch_eq_ok.mp hcheck)
  obtain ⟨next, hnext, hcheck⟩ := Fold.bind_eq_ok.mp hcheck
  obtain ⟨_, hprospective, -⟩ := Fold.bind_eq_ok.mp hcheck
  obtain ⟨hpreflight, hproject, -⟩ := preflightEvent_ok hpreflight
  have hadded := Storage.EventLog.append_ok (commit_ok hcommit)
  have hevent := hpreflight.added hadded
  refine ⟨next, hadded.sequence, ?_, ?_, ?_⟩
  · rw [hevent]
    exact hproject
  · rw [hevent]
    exact hnext
  · unfold requireProspective at hprospective
    split at hprospective
    · rename_i ledger hledger
      exact ⟨ledger, hledger⟩
    · cases hprospective

/-- What `ResearchControl` commits is a research fact. -/
theorem type_of_committed {call : ResearchControlCall}
    (hdraft : draft projectId call log.length fold = .ok document)
    (hcommit : commit log document log.length = .ok event) :
    DecisionEventType.ofText event.type.val ≠ none := by
  obtain ⟨_, -, hdraft⟩ := Fold.bind_eq_ok.mp hdraft
  obtain ⟨_, -, hdraft⟩ := Fold.bind_eq_ok.mp hdraft
  obtain ⟨_, hcheck, hdraft⟩ := Fold.bind_eq_ok.mp hdraft
  cases hdraft
  obtain ⟨preflight, hpreflight, -⟩ := Fold.bind_eq_ok.mp (fromResearch_eq_ok.mp hcheck)
  obtain ⟨hpreflight, -, htype⟩ := preflightEvent_ok hpreflight
  rw [hpreflight.added (Storage.EventLog.append_ok (commit_ok hcommit))]
  exact htype

theorem applyResearchEvent_foreign {other : EventIdentifier} (hother : other ≠ projectId)
    (hproject : event.data.projectId = projectId) (fold : LedgerFold) :
    applyResearchEvent other fold event = .ok fold := by
  apply if_pos
  rw [hproject]
  exact hother.symm

/-- A fact of another kind at most names a run. -/
theorem applyResearchEvent_other (htype : DecisionEventType.ofText event.type.val = none)
    (projectId : EventIdentifier) (fold : LedgerFold) :
    ∃ runIds, applyResearchEvent projectId fold event = .ok { fold with runIds := runIds } := by
  have hnoted : ∃ runIds, noteRun fold event = { fold with runIds := runIds } := by
    unfold noteRun
    split
    · split_ifs
      · exact ⟨_, rfl⟩
      · exact ⟨fold.runIds, rfl⟩
    · exact ⟨fold.runIds, rfl⟩
  obtain ⟨runIds, hnoted⟩ := hnoted
  unfold applyResearchEvent
  rw [htype]
  by_cases hproject : event.data.projectId = projectId
  · refine ⟨runIds, ?_⟩
    rw [if_neg (not_not.mpr hproject), hnoted]
  · exact ⟨fold.runIds, if_pos hproject⟩

theorem researchControl_lawful : researchControl.Lawful where
  head h := (Storage.EventLog.append_ok (commit_ok h)).expected _ rfl |>.symm
  folds _ hdraft hcommit := by
    obtain ⟨next, hchecked⟩ := checkedFact_of_committed hdraft hcommit
    exact ⟨next, fromResearch_eq_ok.mpr hchecked.applied⟩
  others hdraft hcommit hother fold := by
    obtain ⟨next, hchecked⟩ := checkedFact_of_committed hdraft hcommit
    exact ⟨fold, fromResearch_eq_ok.mpr
      (applyResearchEvent_foreign hother hchecked.project fold)⟩
  foreign hadmits projectId fold := by
    simp only [researchControl, Bool.and_eq_true, Option.isNone_iff_eq_none] at hadmits
    obtain ⟨runIds, happly⟩ := applyResearchEvent_other hadmits.1 projectId fold
    exact ⟨_, fromResearch_eq_ok.mpr happly⟩

theorem replay_eq_ok {events : List ResearchEvent} :
    researchControl.replay projectId events = .ok fold ↔
      replayResearch projectId events = .ok fold := by
  induction events using List.reverseRecOn generalizing fold with
  | nil => simp [FrozenReplay.replay, replayResearch, researchControl, pure, Except.pure]
  | append_singleton events event ih =>
    rw [FrozenReplay.replay, replayResearch, Fold.foldlM_concat_eq_ok, Fold.foldlM_concat_eq_ok]
    constructor
    · rintro ⟨before, hbefore, hstep⟩
      exact ⟨before, ih.mp hbefore, fromResearch_eq_ok.mp hstep⟩
    · rintro ⟨before, hbefore, hstep⟩
      exact ⟨before, ih.mpr hbefore, fromResearch_eq_ok.mpr hstep⟩

/-- A log whose rebuild succeeds. -/
structure Rebuilds (projectId : EventIdentifier) (log : EventLog) : Prop where
  inPlace : researchControl.InPlace log
  within : log.length ≤ cloudEventsIntegerMax
  folded : ∃ fold, replayResearch projectId log = .ok fold ∧
    fold.questions.all QuestionLedgerEntry.answerFieldsMatchStatus = true

theorem Rebuilds.rebuild (h : Rebuilds projectId log) :
    ∃ head, rebuild projectId log = .ok head := by
  obtain ⟨fold, hfold, hvalid⟩ := h.folded
  obtain ⟨ledger, hledger⟩ := snapshot_ok_iff.mpr ⟨h.within, hvalid⟩
  have hvisit : researchControl.visit projectId log.length 1 LedgerFold.empty log = .ok fold := by
    refine FrozenReplay.visit_eq_ok.mpr ⟨?_, replay_eq_ok.mpr hfold⟩
    intro i entry hentry
    rw [h.inPlace i entry hentry]
    omega
  refine ⟨⟨log.length, ledger, fold⟩, ?_⟩
  rw [Research.rebuild, hvisit]
  change fromResearch (snapshot projectId fold log.length) >>= _ = _
  rw [hledger]
  rfl

theorem within_concat (hsequence : event.sequence.val = log.length + 1) :
    (log ++ [event]).length ≤ cloudEventsIntegerMax := by
  have hmax := event.sequence.le_max
  rw [List.length_append, List.length_singleton]
  omega

/-- Another fact whose fold keeps the questions keeps the rebuild. -/
theorem Rebuilds.concat (h : Rebuilds projectId log)
    (hsequence : event.sequence.val = log.length + 1)
    (hkept : ∀ fold, ∃ next, applyResearchEvent projectId fold event = .ok next ∧
      next.questions = fold.questions) : Rebuilds projectId (log ++ [event]) := by
  obtain ⟨fold, hfold, hvalid⟩ := h.folded
  obtain ⟨next, hnext, hquestions⟩ := hkept fold
  refine ⟨h.inPlace.concat hsequence, within_concat hsequence, next, ?_, ?_⟩
  · exact Fold.foldlM_concat_eq_ok.mpr ⟨fold, hfold, hnext⟩
  · rw [hquestions]
    exact hvalid

theorem rebuilds_committed {call : ResearchControlCall} (hplace : researchControl.InPlace log)
    (h : researchControl.Committed log projectId call event document fold) :
    Rebuilds projectId (log ++ [event]) := by
  obtain ⟨next, hchecked⟩ := checkedFact_of_committed h.drafted h.committed
  have hvalid := snapshot_ok_iff.mp hchecked.prospective
  exact ⟨hplace.concat hchecked.sequence, within_concat hchecked.sequence, next,
    Fold.foldlM_concat_eq_ok.mpr ⟨fold, replay_eq_ok.mp h.folded, hchecked.applied⟩, hvalid.2⟩

/-- An accepted fact makes its project rebuild, and no append stops a project that rebuilds. -/
theorem rebuilds_persist : researchControl.Persists Rebuilds where
  established hplace hcommitted := rebuilds_committed hplace hcommitted
  kept {log k call event document fold k'} hcommitted hrebuilds := by
    by_cases hkey : k' = k
    · subst hkey
      exact rebuilds_committed hrebuilds.inPlace hcommitted
    · obtain ⟨next, hchecked⟩ := checkedFact_of_committed hcommitted.drafted hcommitted.committed
      exact hrebuilds.concat hchecked.sequence fun fold =>
        ⟨fold, applyResearchEvent_foreign hkey hchecked.project fold, rfl⟩
  foreign {log event} hadmits projectId hrebuilds := by
    simp only [researchControl, Bool.and_eq_true, Option.isNone_iff_eq_none,
      decide_eq_true_eq] at hadmits
    refine hrebuilds.concat hadmits.2 fun fold => ?_
    obtain ⟨runIds, happly⟩ := applyResearchEvent_other hadmits.1 projectId fold
    exact ⟨_, happly, rfl⟩

/-! Clients on one store. -/

abbrev ResearchClient :=
  FrozenReplay.Client EventIdentifier ResearchControlCall Document ResearchEvent LedgerFold
    ResearchControlResult ControlError

/-- The store and its clients after a run of their steps, from any log. -/
def researchClients (start : EventLog)
    (actions : List (Clients.Action ResearchEvent ResearchClient Unit)) :
    Clients.State ResearchEvent ResearchClient :=
  researchControl.clients.run ⟨start, []⟩ actions

/-- What a committed fact returns is the ledger of the log that ends with it. -/
theorem finish_of_committed {call : ResearchControlCall}
    (h : researchControl.Committed log projectId call event document fold) :
    ∃ ledger, finish projectId fold event = .ok ⟨event, ledger⟩ ∧
      buildResearchLedger projectId (log ++ [event]) event.sequence.val = .ok ledger := by
  obtain ⟨next, hchecked⟩ := checkedFact_of_committed h.drafted h.committed
  obtain ⟨ledger, hledger⟩ := hchecked.prospective
  rw [← hchecked.sequence] at hledger
  refine ⟨ledger, ?_, ?_⟩
  · simp only [finish, hchecked.applied, fromResearch, hledger, bind, Except.bind]
  · rw [buildResearchLedger_eq]
    exact Fold.bind_eq_ok.mpr ⟨next, Fold.foldlM_concat_eq_ok.mpr
      ⟨fold, replay_eq_ok.mp h.folded, hchecked.applied⟩, hledger⟩

/-- From any log, and whatever the other clients do: the project of a fact that an append has
returned rebuilds from then on, the ledger returned is that of the log up to the fact, and a step
that raises appends nothing. -/
theorem research_control_closed (start : EventLog)
    (actions : List (Clients.Action ResearchEvent ResearchClient Unit)) :
    ∀ client ∈ (researchClients start actions).clients,
      (∀ event result, client.phase = .returned event result →
        result.stored = event ∧
        (∃ before, before ++ [event] <+: (researchClients start actions).log ∧
          buildResearchLedger client.key (before ++ [event]) event.sequence.val =
            .ok result.snapshot) ∧
        ∃ head, rebuild client.key (researchClients start actions).log = .ok head) ∧
      ∀ error,
        (researchControl.advance (researchClients start actions).log client).1 = .raised error →
        (researchControl.advance (researchClients start actions).log client).2 = none := by
  intro client hclient
  have hpersists := researchControl_lawful.returned_persists rebuilds_persist start actions client
    hclient
  have hsound : researchControl.Sound (researchClients start actions).log client :=
    (researchControl_lawful.run start actions).2 client hclient
  constructor
  · intro event result hphase
    have hreturned := hsound
    simp only [FrozenReplay.Sound, hphase] at hreturned
    obtain ⟨before, document, fold, hlonger, hcommitted, hfinish⟩ := hreturned
    obtain ⟨ledger, hsame, hledger⟩ := finish_of_committed hcommitted
    have hresult : finish client.key fold event = .ok result := hfinish
    rw [hsame] at hresult
    cases hresult
    exact ⟨rfl, ⟨before, hlonger, hledger⟩, (hpersists event _ hphase).rebuild⟩
  · intro error hraised
    cases happend : (researchControl.advance (researchClients start actions).log client).2 with
    | none => rfl
    | some event =>
      obtain ⟨document, fold, hphase, hcommitted⟩ :=
        hsound.committed researchControl_lawful happend
      obtain ⟨ledger, hfinish, -⟩ := finish_of_committed hcommitted
      have hresult : researchControl.finish client.key client.call document fold event =
          .ok ⟨event, ledger⟩ := hfinish
      simp only [FrozenReplay.advance, hphase, hcommitted.committed, hresult] at hraised
      cases hraised

/-! A question that one client asks. -/

def trialQuestion : Document :=
  ⟨.obj [("data", .obj [("actor", .obj [("id", .str "assistant"), ("kind", .str "ai")]),
      ("evidenceRefs", .arr []), ("experimentRevision", .int 1),
      ("payload", .obj [("blocking", .bool true), ("evidenceRefs", .arr []),
        ("question", .str "Which seed?"),
        ("questionId", .str "which"), ("uncertainty", .str "The seed is not recorded."),
        ("whyNotObservable", .str "No event names it.")]),
      ("projectId", .str "project"), ("schemaVersion", .str "v0alpha1")]),
    ("datacontenttype", .str "application/json"),
    ("dataschema", .str researchEventSchemaId), ("id", .str "event-1"),
    ("source", .str "urn:trial"), ("specversion", .str "1.0"), ("streamid", .str "project"),
    ("subject", .str "which"), ("time", .str "2026-01-01T00:00:00Z"),
    ("type", .str "question.asked")], by decide⟩

def trialAsked : List (Clients.Action ResearchEvent ResearchClient Unit) :=
  [.join ⟨⟨"project", .refl true⟩, ⟨trialQuestion, some 0⟩, 100, .called⟩, .move 0 (), .move 0 (),
    .move 0 ()]

theorem research_control_closed_trial : ∃ event head, ∃ result : ResearchControlResult,
    (researchClients [] trialAsked).log = [event] ∧ result.stored = event ∧
      rebuild ⟨"project", by decide⟩ (researchClients [] trialAsked).log = .ok head := by
  have hreturned : (researchClients [] trialAsked).clients.map (fun client =>
      (client.key.val, match client.phase with
        | .returned _ _ => true
        | _ => false)) = [("project", true)] := by decide +kernel
  have hlength : (researchClients [] trialAsked).log.length = 1 := by decide +kernel
  obtain ⟨client, hclients, hclient⟩ := List.map_eq_singleton_iff.mp hreturned
  obtain ⟨hkey, hphase⟩ := Prod.mk.inj hclient
  have hclosed := research_control_closed [] trialAsked client
    (by rw [hclients]; exact List.mem_cons_self)
  obtain ⟨event, hevent⟩ := List.length_eq_one_iff.mp hlength
  cases hfound : client.phase with
  | returned stored result =>
    obtain ⟨hsame, ⟨before, hbefore, -⟩, head, hhead⟩ := hclosed.1 stored result hfound
    have hproject : client.key = ⟨"project", by decide⟩ := Subtype.ext hkey
    have hstored : stored = event := by
      have hmem : stored ∈ (researchClients [] trialAsked).log :=
        hbefore.subset (List.mem_append_right _ List.mem_cons_self)
      rw [hevent] at hmem
      exact List.mem_singleton.mp hmem
    rw [hproject] at hhead
    exact ⟨event, head, result, hevent, hsame.trans hstored, hhead⟩
  | called | reading | drafted | raised =>
    rw [hfound] at hphase
    cases hphase

end ResearchOs.Research
