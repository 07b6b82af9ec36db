import ResearchOs.Budget.Conservation
import ResearchOs.Core.Storage.Control

/-! `BudgetControl`: a budget fact checked against a frozen fold, appended at its head. -/
namespace ResearchOs.Budget

open Storage (Document EventLog StoreError)

inductive ControlError where
  | budget (error : BudgetError)
  | store (error : StoreError)
  deriving DecidableEq, Repr

def fromBudget {α : Type} : Except BudgetError α → Except ControlError α
  | .ok a => .ok a
  | .error e => .error (.budget e)

@[simp] theorem fromBudget_eq_ok {α : Type} {r : Except BudgetError α} {a : α} :
    fromBudget r = .ok a ↔ r = .ok a := by
  cases r <;> simp [fromBudget]

/-- `_preflight_event` -/
def preflightEvent (projectId : EventIdentifier) (frozenHead : Nat) (document : Document) :
    Except BudgetError ResearchEvent :=
  match Storage.preflightDraft frozenHead document with
  | .error .notAnObject => .error (.call "event draft must be a JSON object" "invalid-draft")
  | .error (.storeAssigned names) =>
    .error (.call ("BudgetControl does not accept store-assigned fields; caller supplied: " ++
      names) "store-assigned-fields")
  | .error .exhausted => .error (.call "global event sequence is exhausted" "sequence-exhausted")
  | .error .invalid =>
    .error (.payload "event draft failed ResearchEvent validation" "invalid-event")
  | .ok event =>
    if event.data.projectId = projectId then .ok event
    else .error (.call "event projectId does not match this BudgetControl" "project-mismatch")

/-- The checks of `_append_at`. -/
def checkAppend (projectId : EventIdentifier) (head : Nat) (fold : BudgetFold)
    (document : Document) : Except BudgetError BudgetFold := do
  let event ← preflightEvent projectId head document
  applyBudgetFold projectId fold event

/-- `parse_budget_payload` of any event. -/
def parsePayload (event : ResearchEvent) : Except BudgetError BudgetPayload :=
  match BudgetEventType.ofText event.type.val with
  | none => .error (.payload ("event type is not a budget type (event id " ++ event.id.val ++ ")")
      "unknown-budget-type")
  | some type => parseBudgetPayload type event

def requireReserved : BudgetPayload → Except BudgetError ReservationPayload
  | .reserved payload => .ok payload
  | _ => .error (.call "reserve_or_exceed reserved draft must be budget.reserved" "invalid-draft")

def requireExceeded (event : ResearchEvent) : Except BudgetError Unit :=
  requireCall (BudgetEventType.ofText event.type.val = some .exceeded)
    "reserve_or_exceed exceeded draft must be budget.exceeded" "invalid-draft"

inductive BudgetCall where
  | append (document : Document)
  | reserveOrExceed (reservedDocument exceededDocument : Document)
      (expectedLastSequence : Option Nat)

/-- A document that has passed the checks, and whether it records an excess. -/
structure BudgetDraft where
  document : Document
  exceeds : Bool

def requireHead (head : Nat) : Option Nat → Except ControlError Unit
  | none => .ok ()
  | some expected =>
    if head ≠ expected then .error (.store (.sequenceConflict expected head)) else .ok ()

/-- The document that `reserve_or_exceed` appends. -/
def chooseDraft (projectId : EventIdentifier) (head : Nat) (fold : BudgetFold) (exceeds : Bool)
    (reservedDocument exceededDocument : Document) : Except BudgetError BudgetDraft :=
  if exceeds then do
    let exceededEvent ← preflightEvent projectId head exceededDocument
    requireExceeded exceededEvent
    let _ ← checkAppend projectId head fold exceededDocument
    .ok ⟨exceededDocument, true⟩
  else do
    let _ ← checkAppend projectId head fold reservedDocument
    .ok ⟨reservedDocument, false⟩

/-- `reserve_or_exceed` between the rebuild and the append. -/
def reserveOrExceed (projectId : EventIdentifier) (head : Nat) (fold : BudgetFold)
    (reservedDocument exceededDocument : Document) : Except BudgetError BudgetDraft := do
  let reservedEvent ← preflightEvent projectId head reservedDocument
  let parsed ← parsePayload reservedEvent
  let payload ← requireReserved parsed
  let requested := parseMoney payload.amount
  let cap := parseMoney payload.cap
  requireReservationWithinApprovedLimit fold requested cap
  chooseDraft projectId head fold (reservationWouldExceed fold requested cap) reservedDocument
    exceededDocument

/-- A call between its rebuild and its append. -/
def draft (projectId : EventIdentifier) (call : BudgetCall) (head : Nat) (fold : BudgetFold) :
    Except ControlError BudgetDraft :=
  match call with
  | .append document => do
    let _ ← fromBudget (checkAppend projectId head fold document)
    .ok ⟨document, false⟩
  | .reserveOrExceed reservedDocument exceededDocument expectedLastSequence => do
    requireHead head expectedLastSequence
    fromBudget (reserveOrExceed projectId head fold reservedDocument exceededDocument)

def commit (log : EventLog) (draft : BudgetDraft) (head : Nat) : Except ControlError ResearchEvent :=
  match log.append draft.document (some head) with
  | .ok event => .ok event
  | .error e => .error (.store e)

/-- What a call returns after its append. An excess raises, with its fact committed. -/
def finish (draft : BudgetDraft) (event : ResearchEvent) : Except ControlError ResearchEvent :=
  if draft.exceeds then .error (.budget (.exceeded "budget cap exceeded" "budget-exceeded"))
  else .ok event

/-- Calls of `append` and `reserve_or_exceed`, among appends of other facts. -/
def budgetControl : FrozenReplay EventIdentifier BudgetCall BudgetDraft ResearchEvent BudgetFold
    ResearchEvent ControlError where
  position event := event.sequence.val
  misplaced highWater expected found :=
    .store (.integrity (Storage.misplacedText highWater expected found))
  init := BudgetFold.empty
  apply projectId fold event := fromBudget (applyBudgetFold projectId fold event)
  draft := draft
  commit := commit
  finish _ _ draft _ event := finish draft event
  admits _ event := (BudgetEventType.ofText event.type.val).isNone

structure BudgetHead where
  lastSequence : Nat
  fold : BudgetFold

/-- `BudgetControl.rebuild` -/
def rebuild (projectId : EventIdentifier) (log : EventLog) : Except ControlError BudgetHead := do
  let fold ← budgetControl.visit projectId log.length 1 BudgetFold.empty log
  .ok ⟨log.length, fold⟩

variable {projectId : EventIdentifier} {log : EventLog} {head : Nat} {fold : BudgetFold}
  {document : Document} {event : ResearchEvent}

theorem preflightEvent_ok (h : preflightEvent projectId head document = .ok event) :
    Storage.Preflight head document event ∧ event.data.projectId = projectId := by
  unfold preflightEvent at h
  split at h
  all_goals try cases h
  rename_i found hfound
  split_ifs at h with hproject
  cases h
  exact ⟨Storage.preflightDraft_ok hfound, hproject⟩

theorem commit_ok {drafted : BudgetDraft} (h : commit log drafted head = .ok event) :
    log.append drafted.document (some head) = .ok event := by
  unfold commit at h
  split at h
  · rename_i found hfound
    cases h
    exact hfound
  · cases h

theorem chooseDraft_ok {exceeds : Bool} {reservedDocument exceededDocument : Document}
    {drafted : BudgetDraft} (h : chooseDraft projectId head fold exceeds reservedDocument
      exceededDocument = .ok drafted) :
    drafted.exceeds = exceeds ∧
      ∃ next, checkAppend projectId head fold drafted.document = .ok next := by
  unfold chooseDraft at h
  split_ifs at h with hexceeds
  · obtain ⟨_, -, h⟩ := Fold.bind_eq_ok.mp h
    obtain ⟨_, -, h⟩ := Fold.bind_eq_ok.mp h
    obtain ⟨next, hnext, h⟩ := Fold.bind_eq_ok.mp h
    cases h
    exact ⟨hexceeds.symm, next, hnext⟩
  · obtain ⟨next, hnext, h⟩ := Fold.bind_eq_ok.mp h
    cases h
    exact ⟨(by simpa using hexceeds : exceeds = false).symm, next, hnext⟩

/-- A drafted document has been checked against the fold. -/
theorem draft_ok {call : BudgetCall} {drafted : BudgetDraft}
    (h : draft projectId call head fold = .ok drafted) :
    ∃ next, checkAppend projectId head fold drafted.document = .ok next := by
  cases call with
  | append document =>
    obtain ⟨next, hnext, h⟩ := Fold.bind_eq_ok.mp h
    cases h
    exact ⟨next, fromBudget_eq_ok.mp hnext⟩
  | reserveOrExceed reservedDocument exceededDocument expectedLastSequence =>
    obtain ⟨_, -, h⟩ := Fold.bind_eq_ok.mp h
    obtain ⟨_, -, h⟩ := Fold.bind_eq_ok.mp (fromBudget_eq_ok.mp h)
    obtain ⟨_, -, h⟩ := Fold.bind_eq_ok.mp h
    obtain ⟨_, -, h⟩ := Fold.bind_eq_ok.mp h
    obtain ⟨_, -, h⟩ := Fold.bind_eq_ok.mp h
    exact (chooseDraft_ok h).2

/-- The stored event folds as the preflight event did. -/
theorem committed_folds {call : BudgetCall} {drafted : BudgetDraft}
    (hdraft : draft projectId call log.length fold = .ok drafted)
    (hcommit : commit log drafted log.length = .ok event) :
    event.data.projectId = projectId ∧ ∃ next, applyBudgetFold projectId fold event = .ok next := by
  obtain ⟨next, hcheck⟩ := draft_ok hdraft
  obtain ⟨preflight, hpreflight, hnext⟩ := Fold.bind_eq_ok.mp hcheck
  obtain ⟨hpreflight, hproject⟩ := preflightEvent_ok hpreflight
  have hevent := hpreflight.added (Storage.EventLog.append_ok (commit_ok hcommit))
  rw [hevent]
  exact ⟨hproject, next, hnext⟩

theorem budgetControl_lawful : budgetControl.Lawful where
  head h := (Storage.EventLog.append_ok (commit_ok h)).expected _ rfl |>.symm
  folds _ hdraft hcommit := by
    obtain ⟨-, next, hnext⟩ := committed_folds hdraft hcommit
    exact ⟨next, fromBudget_eq_ok.mpr hnext⟩
  others hdraft hcommit hother fold := by
    obtain ⟨hproject, -⟩ := committed_folds hdraft hcommit
    refine ⟨fold, fromBudget_eq_ok.mpr (if_pos ?_)⟩
    rw [hproject]
    exact hother.symm
  foreign hadmits projectId fold := by
    refine ⟨fold, fromBudget_eq_ok.mpr ?_⟩
    simp only [budgetControl, Option.isNone_iff_eq_none] at hadmits
    unfold applyBudgetFold
    rw [hadmits]
    split <;> rfl

/-! What every log of budget clients conserves, and which reservations it admits. -/

theorem replay_eq_ok {projectId : EventIdentifier} {events : List ResearchEvent}
    {fold : BudgetFold} :
    budgetControl.replay projectId events = .ok fold ↔ replayBudget projectId events = .ok fold := by
  induction events using List.reverseRecOn generalizing fold with
  | nil => simp [FrozenReplay.replay, replayBudget, budgetControl, pure, Except.pure]
  | append_singleton events event ih =>
    rw [FrozenReplay.replay, replayBudget, Fold.foldlM_concat_eq_ok, Fold.foldlM_concat_eq_ok]
    constructor
    · rintro ⟨before, hbefore, hstep⟩
      exact ⟨before, ih.mp hbefore, fromBudget_eq_ok.mp hstep⟩
    · rintro ⟨before, hbefore, hstep⟩
      exact ⟨before, ih.mpr hbefore, fromBudget_eq_ok.mpr hstep⟩

abbrev BudgetAction :=
  Clients.Action ResearchEvent (FrozenReplay.Client EventIdentifier BudgetCall BudgetDraft
    ResearchEvent BudgetFold ResearchEvent ControlError) Unit

/-- The log after a run of calls and of appends of other facts, from an empty store. -/
def runLog (actions : List BudgetAction) : EventLog :=
  (budgetControl.clients.run ⟨[], []⟩ actions).log

/-- Every prefix of the log folds. -/
theorem runLog_replays (actions : List BudgetAction) (projectId : EventIdentifier) (n : Nat) :
    ∃ fold, replayBudget projectId ((runLog actions).take n) = .ok fold := by
  have hholds := budgetControl_lawful.run [] actions
  obtain ⟨fold, hfold⟩ := hholds.1 projectId ⟨_, rfl⟩
  rw [replay_eq_ok] at hfold
  have hsplit := List.take_append_drop n (runLog actions)
  rw [runLog] at hsplit
  rw [← hsplit] at hfold
  obtain ⟨before, hbefore, -⟩ := Fold.foldlM_append_eq_ok.mp hfold
  exact ⟨before, hbefore⟩

/-- In every reachable fold the exposure is exact and at most the largest cap recorded so far,
every id is opened at most once and closed at most once, and both totals can be written. -/
theorem budget_conserved (actions : List BudgetAction) (projectId : EventIdentifier) (n : Nat) :
    ∃ fold, replayBudget projectId ((runLog actions).take n) = .ok fold ∧
      0 ≤ fold.consumed ∧ 0 ≤ fold.outstanding ∧
      fold.consumed + fold.outstanding ≤ largestCap projectId ((runLog actions).take n) ∧
      fold.outstanding = exactSum fold.reservations ∧
      (openedIds projectId ((runLog actions).take n)).Nodup ∧
      (closingIds projectId ((runLog actions).take n)).Nodup ∧
      fold.closedIds = closingIds projectId ((runLog actions).take n) ∧
      fold.openIds = ((openedIds projectId ((runLog actions).take n)).filter
        fun id => id ∉ fold.closedIds) ∧
      (∀ id ∈ fold.openIds, id ∉ fold.closedIds) ∧
      (∃ amount : MoneyAmount, formatMoney fold.consumed = .ok amount.val ∧
        parseMoney amount = fold.consumed) ∧
      ∃ amount : MoneyAmount, formatMoney fold.outstanding = .ok amount.val ∧
        parseMoney amount = fold.outstanding := by
  obtain ⟨fold, hfold⟩ := runLog_replays actions projectId n
  have h := replayBudget_conserved hfold
  have hsum := h.sum_nonneg
  have hconsumed := h.consumed
  have hwithin := h.within
  have hbounded := h.bounded
  rw [← h.outstanding_eq] at hsum hwithin
  exact ⟨fold, hfold, hconsumed, hsum, hwithin, h.outstanding_eq, h.openedOnce, h.closedOnce,
    h.closed, h.opened, fun id hid => h.disjoint hid, formatMoney_ok hconsumed (by omega),
    formatMoney_ok hsum (by omega)⟩

end ResearchOs.Budget
