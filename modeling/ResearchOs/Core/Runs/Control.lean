import ResearchOs.Core.Runs.Safety
import ResearchOs.Core.Storage.Control

/-! `RunControl`: a lifecycle draft checked against a frozen replay, appended at its head. -/
namespace ResearchOs.Runs

open Storage (Document EventLog StoreError PreflightError)

inductive ControlError where
  | control (message : String)
  | run (error : RunError)
  | store (error : StoreError)
  deriving DecidableEq, Repr

def fromRun {α : Type} : Except RunError α → Except ControlError α
  | .ok a => .ok a
  | .error e => .error (.run e)

@[simp] theorem fromRun_eq_ok {α : Type} {r : Except RunError α} {a : α} :
    fromRun r = .ok a ↔ r = .ok a := by
  cases r <;> simp [fromRun]

/-- A lifecycle draft, with the head that its caller has seen. -/
structure RunControlCall where
  document : Document
  expectedLastSequence : Option Nat

/-- One committed event, and the snapshot produced from it. -/
structure RunControlResult where
  stored : ResearchEvent
  snapshot : RunSnapshot

def preflightText : PreflightError → String
  | .notAnObject => "event draft must be a JSON object"
  | .storeAssigned names =>
    "RunControl does not accept store-assigned fields; caller supplied: " ++ names
  | .exhausted => "global event sequence is exhausted"
  | .invalid => "event draft failed ResearchEvent validation"

/-- The draft as the lifecycle event behind a head. -/
def preflightLifecycle (projection : RunStateProjection) (head : Nat) (document : Document) :
    Except ControlError ResearchEvent :=
  match Storage.preflightDraft head document with
  | .error error => .error (.control (preflightText error))
  | .ok event =>
    if ¬ (event.data.projectId = projection.projectId ∧
        event.data.runId = some projection.runId) then
      .error (.control "event projectId/runId does not match this RunControl")
    else if ResearchEvent.lifecycleType? event = none then
      .error (.control "event type is not a Run/Attempt lifecycle type")
    else .ok event

def requireHead (head : Nat) : Option Nat → Except ControlError Unit
  | none => .ok ()
  | some expected =>
    if head ≠ expected then .error (.store (.sequenceConflict expected head)) else .ok ()

def requireSnapshot (message : String) : Option RunSnapshot → Except ControlError RunSnapshot
  | some snapshot => .ok snapshot
  | none => .error (.control message)

/-- `append` between the rebuild and the compare-and-append. -/
def draftLifecycle (projection : RunStateProjection) (call : RunControlCall) (head : Nat)
    (snapshot : Option RunSnapshot) : Except ControlError Document := do
  requireHead head call.expectedLastSequence
  let event ← preflightLifecycle projection head call.document
  let preflight ← fromRun (projection.apply snapshot event)
  let _ ← requireSnapshot "lifecycle preflight produced no snapshot" preflight
  .ok call.document

def commitLifecycle (log : EventLog) (document : Document) (head : Nat) :
    Except ControlError ResearchEvent :=
  match log.append document (some head) with
  | .ok event => .ok event
  | .error error => .error (.store error)

/-- The snapshot that the committed fact produces. -/
def finishLifecycle (projection : RunStateProjection) (snapshot : Option RunSnapshot)
    (stored : ResearchEvent) : Except ControlError RunControlResult := do
  let committed ← fromRun (projection.apply snapshot stored)
  let next ← requireSnapshot "committed lifecycle event produced no snapshot" committed
  .ok ⟨stored, next⟩

/-- Calls of `append`, among appends of facts of no run. A call of `rebuild` is the part of one
that reads. The rows of the projection cache take no part in the replay. -/
def runControl : FrozenReplay RunStateProjection RunControlCall Document ResearchEvent
    (Option RunSnapshot) RunControlResult ControlError where
  position event := event.sequence.val
  misplaced highWater expected found :=
    .store (.integrity (Storage.misplacedText highWater expected found))
  init := none
  apply projection snapshot event := fromRun (projection.apply snapshot event)
  draft := draftLifecycle
  commit := commitLifecycle
  finish projection _ _ snapshot stored := finishLifecycle projection snapshot stored
  admits _ event := event.data.runId.isNone

structure RunControlHead where
  lastSequence : Nat
  snapshot : Option RunSnapshot

/-- `RunControl.rebuild`, without its writes to the projection cache. -/
def rebuild (projection : RunStateProjection) (log : EventLog) :
    Except ControlError RunControlHead := do
  let snapshot ← runControl.visit projection log.length 1 none log
  .ok ⟨log.length, snapshot⟩

variable {projection : RunStateProjection} {log : EventLog} {head : Nat}
  {snapshot : Option RunSnapshot} {document : Document} {event : ResearchEvent}

/-- The projection reads nothing of an event's stream. -/
theorem apply_placed (projection : RunStateProjection) (snapshot : Option RunSnapshot)
    (event : ResearchEvent) (version : StreamVersion) :
    projection.apply snapshot (event.placed event.sequence version) =
      projection.apply snapshot event := rfl

theorem requireSnapshot_ok {message : String} {result : Option RunSnapshot} {next : RunSnapshot}
    (h : requireSnapshot message result = .ok next) : result = some next := by
  cases result with
  | none => cases h
  | some found => exact congrArg some (Except.ok.inj h)

theorem preflightLifecycle_ok (h : preflightLifecycle projection head document = .ok event) :
    Storage.Preflight head document event ∧
      belongs event projection.projectId projection.runId = true ∧
      ∃ type, ResearchEvent.lifecycleType? event = some type := by
  unfold preflightLifecycle at h
  split at h
  · cases h
  · rename_i found hfound
    split_ifs at h with hmatch htype
    cases h
    exact ⟨Storage.preflightDraft_ok hfound, belongs_iff.mpr hmatch,
      Option.ne_none_iff_exists'.mp htype⟩

/-- A lifecycle draft that has been checked against a snapshot at a head. -/
structure CheckedDraft (projection : RunStateProjection) (head : Nat) (snapshot : Option RunSnapshot)
    (document : Document) (event : ResearchEvent) (next : RunSnapshot) : Prop where
  preflight : Storage.Preflight head document event
  belongs : belongs event projection.projectId projection.runId = true
  lifecycle : ∃ type, ResearchEvent.lifecycleType? event = some type
  applied : projection.apply snapshot event = .ok (some next)

theorem draftLifecycle_ok {call : RunControlCall}
    (h : draftLifecycle projection call head snapshot = .ok document) :
    document = call.document ∧ (∀ v, call.expectedLastSequence = some v → head = v) ∧
      ∃ event next, CheckedDraft projection head snapshot document event next := by
  obtain ⟨_, hhead, h⟩ := Fold.bind_eq_ok.mp h
  obtain ⟨event, hevent, h⟩ := Fold.bind_eq_ok.mp h
  obtain ⟨preflight, hpreflight, h⟩ := Fold.bind_eq_ok.mp h
  obtain ⟨next, hnext, h⟩ := Fold.bind_eq_ok.mp h
  cases h
  obtain ⟨hdraft, hbelongs, hlifecycle⟩ := preflightLifecycle_ok hevent
  have happlied := fromRun_eq_ok.mp hpreflight
  rw [requireSnapshot_ok hnext] at happlied
  refine ⟨rfl, ?_, event, next, hdraft, hbelongs, hlifecycle, happlied⟩
  rintro v hv
  rw [hv] at hhead
  simp only [requireHead] at hhead
  split_ifs at hhead with hne
  exact not_not.mp hne

theorem commitLifecycle_ok (h : commitLifecycle log document head = .ok event) :
    log.append document (some head) = .ok event := by
  unfold commitLifecycle at h
  split at h
  · rename_i found hfound
    cases h
    exact hfound
  · cases h

/-- The stored event produces the snapshot of the preflight. -/
theorem CheckedDraft.stored {preflight : ResearchEvent} {next : RunSnapshot}
    (h : CheckedDraft projection log.length snapshot document preflight next)
    (happend : log.append document (some log.length) = .ok event) :
    CheckedDraft projection log.length snapshot document event next := by
  have hadded := Storage.EventLog.append_ok happend
  have hevent := h.preflight.added hadded
  have hdocument := hadded.document
  rw [hevent]
  rw [hevent] at hdocument
  exact ⟨⟨h.preflight.sequence, hdocument⟩, h.belongs, h.lifecycle, h.applied⟩

theorem finishLifecycle_ok {result : RunControlResult}
    (h : finishLifecycle projection snapshot event = .ok result) :
    result.stored = event ∧ projection.apply snapshot event = .ok (some result.snapshot) := by
  obtain ⟨committed, hcommitted, h⟩ := Fold.bind_eq_ok.mp h
  obtain ⟨next, hnext, h⟩ := Fold.bind_eq_ok.mp h
  cases h
  refine ⟨rfl, ?_⟩
  rw [fromRun_eq_ok.mp hcommitted, requireSnapshot_ok hnext]

theorem CheckedDraft.finishes {next : RunSnapshot}
    (h : CheckedDraft projection head snapshot document event next) :
    finishLifecycle projection snapshot event = .ok ⟨event, next⟩ := by
  simp only [finishLifecycle, h.applied, fromRun, requireSnapshot, bind, Except.bind]

theorem runControl_lawful : runControl.Lawful where
  head h := (Storage.EventLog.append_ok (commitLifecycle_ok h)).expected _ rfl |>.symm
  folds _ hdraft hcommit := by
    obtain ⟨-, -, preflight, next, hchecked⟩ := draftLifecycle_ok hdraft
    exact ⟨some next, fromRun_eq_ok.mpr (hchecked.stored (commitLifecycle_ok hcommit)).applied⟩
  others {log k call draft state event k'} hdraft hcommit hother other := by
    obtain ⟨-, -, preflight, next, hchecked⟩ := draftLifecycle_ok hdraft
    have hbelongs := (hchecked.stored (commitLifecycle_ok hcommit)).belongs
    refine ⟨other, fromRun_eq_ok.mpr (if_neg ?_)⟩
    rw [belongs_iff] at hbelongs ⊢
    rintro ⟨hproject, hrun⟩
    apply hother
    rw [hbelongs.1] at hproject
    rw [hbelongs.2] at hrun
    cases k
    cases k'
    cases hproject
    cases hrun
    rfl
  foreign hadmits projection snapshot := by
    refine ⟨snapshot, fromRun_eq_ok.mpr (if_neg ?_)⟩
    rw [belongs_iff]
    rintro ⟨-, hrun⟩
    simp only [runControl, hrun] at hadmits
    cases hadmits

theorem replay_eq_ok {events : List ResearchEvent} :
    runControl.replay projection events = .ok snapshot ↔ projection.fold events = .ok snapshot := by
  induction events using List.reverseRecOn generalizing snapshot with
  | nil => simp [FrozenReplay.replay, RunStateProjection.fold, runControl, pure, Except.pure]
  | append_singleton events event ih =>
    rw [FrozenReplay.replay, RunStateProjection.fold, Fold.foldlM_concat_eq_ok,
      Fold.foldlM_concat_eq_ok]
    constructor
    · rintro ⟨before, hbefore, hstep⟩
      exact ⟨before, ih.mp hbefore, fromRun_eq_ok.mp hstep⟩
    · rintro ⟨before, hbefore, hstep⟩
      exact ⟨before, ih.mpr hbefore, fromRun_eq_ok.mpr hstep⟩

/-! Clients on one store. -/

abbrev RunClient :=
  FrozenReplay.Client RunStateProjection RunControlCall Document ResearchEvent (Option RunSnapshot)
    RunControlResult ControlError

/-- The store and its clients after a run of their steps, from any log. -/
def runClients (start : EventLog) (actions : List (Clients.Action ResearchEvent RunClient Unit)) :
    Clients.State ResearchEvent RunClient :=
  runControl.clients.run ⟨start, []⟩ actions

theorem runClients_holds (start : EventLog)
    (actions : List (Clients.Action ResearchEvent RunClient Unit)) :
    Clients.Holds (fun log => ∀ projection, runControl.Foldable projection start →
      runControl.Foldable projection log) runControl.Sound (runClients start actions) :=
  runControl_lawful.run start actions

theorem foldable_iff : runControl.Foldable projection log ↔
    ∃ snapshot, projection.fold log = .ok snapshot :=
  exists_congr fun _ => replay_eq_ok

/-- What an append has done when it lands: it has folded all that precedes it. -/
structure Lands (log : EventLog) (client : RunClient) (event : ResearchEvent)
    (snapshot : Option RunSnapshot) (next : RunSnapshot) : Prop where
  folded : client.key.fold log = .ok snapshot
  expected : ∀ v, client.call.expectedLastSequence = some v → log.length = v
  appended : log.append client.call.document (some log.length) = .ok event
  lifecycle : ∃ type, ResearchEvent.lifecycleType? event = some type
  belongs : belongs event client.key.projectId client.key.runId = true
  applied : client.key.apply snapshot event = .ok (some next)

theorem Lands.fold {client : RunClient} {next : RunSnapshot}
    (h : Lands log client event snapshot next) :
    client.key.fold (log ++ [event]) = .ok (some next) :=
  Fold.foldlM_concat_eq_ok.mpr ⟨snapshot, h.folded, h.applied⟩

theorem lands_of_committed {client : RunClient}
    (h : runControl.Committed log client.key client.call event document snapshot) :
    ∃ next, Lands log client event snapshot next ∧
      runControl.finish client.key client.call document snapshot event = .ok ⟨event, next⟩ := by
  obtain ⟨rfl, hexpected, preflight, next, hchecked⟩ := draftLifecycle_ok h.drafted
  have happend := commitLifecycle_ok h.committed
  have hstored := hchecked.stored happend
  exact ⟨next, ⟨replay_eq_ok.mp h.folded, hexpected, happend, hstored.lifecycle, hstored.belongs,
    hstored.applied⟩, hstored.finishes⟩

/-- A step that appends lands, and its call returns what it has appended. -/
theorem advance_appends {client : RunClient} (hsound : runControl.Sound log client)
    (happend : (runControl.advance log client).2 = some event) :
    ∃ snapshot next, Lands log client event snapshot next ∧
      (runControl.advance log client).1 = .returned event ⟨event, next⟩ := by
  obtain ⟨document, snapshot, hphase, hcommitted⟩ := hsound.committed runControl_lawful happend
  obtain ⟨next, hlands, hfinish⟩ := lands_of_committed hcommitted
  refine ⟨snapshot, next, hlands, ?_⟩
  simp only [FrozenReplay.advance, hphase, hcommitted.committed, hfinish]

/-- Whatever folds in the beginning folds after every run of the clients, what an append has
returned is the replay of the log up to its event, a step that raises appends nothing, and an
event is only appended after the replay of all that precedes it has accepted it. -/
theorem run_control_serializable (start : EventLog)
    (actions : List (Clients.Action ResearchEvent RunClient Unit)) :
    (∀ projection : RunStateProjection, (∃ snapshot, projection.fold start = .ok snapshot) →
      ∃ snapshot, projection.fold (runClients start actions).log = .ok snapshot) ∧
    ∀ client ∈ (runClients start actions).clients,
      (∀ event result, client.phase = .returned event result →
        result.stored = event ∧ ∃ before, before ++ [event] <+: (runClients start actions).log ∧
          client.key.fold (before ++ [event]) = .ok (some result.snapshot)) ∧
      (∀ error, (runControl.advance (runClients start actions).log client).1 = .raised error →
        (runControl.advance (runClients start actions).log client).2 = none) ∧
      ∀ event, (runControl.advance (runClients start actions).log client).2 = some event →
        ∃ snapshot next, Lands (runClients start actions).log client event snapshot next ∧
          (runControl.advance (runClients start actions).log client).1 =
            .returned event ⟨event, next⟩ := by
  obtain ⟨hlog, hclients⟩ := runClients_holds start actions
  refine ⟨fun projection hfold => foldable_iff.mp (hlog projection (foldable_iff.mpr hfold)), ?_⟩
  intro client hclient
  have hsound := hclients client hclient
  refine ⟨?_, ?_, fun event happend => advance_appends hsound happend⟩
  · intro event result hphase
    have hreturned := hsound
    simp only [FrozenReplay.Sound, hphase] at hreturned
    obtain ⟨before, document, snapshot, hlonger, hcommitted, hfinish⟩ := hreturned
    obtain ⟨next, hlands, hsame⟩ := lands_of_committed hcommitted
    rw [hsame] at hfinish
    cases hfinish
    exact ⟨rfl, before, hlonger, hlands.fold⟩
  · intro error hraised
    cases happend : (runControl.advance (runClients start actions).log client).2 with
    | none => rfl
    | some event =>
      obtain ⟨snapshot, next, -, hreturned⟩ := advance_appends hsound happend
      rw [hraised] at hreturned
      cases hreturned

end ResearchOs.Runs
