import ResearchOs.Application.Receipts
import ResearchOs.Research.Control
import ResearchOs.Core.Runs.Committed
import ResearchOs.Core.Workers.Plane

/-! `RunControl`, `ResearchControl`, `WorkerControl` and `authorization.revoke` on one log. -/
namespace ResearchOs.Application

open JsonText (FloatText)
open Research (ResearchClient researchControl)
open Runs (Committed LifecycleType ResearchEvent.lifecycleType? Revisioned RunClient
  RunStateProjection runControl)
open Storage (Document EventLog)
open Workers (PlaneError WorkerDraft)

/-! Calls of `WorkerControl.append`, in which every call of a worker plane that records ends. -/

inductive AppendPhase where
  | called
  | checked (head : Nat)
  | returned (result : Except PlaneError ResearchEvent)

structure WorkerAppend where
  projectId : EventIdentifier
  document : Document
  expectedLastSequence : Option Nat
  phase : AppendPhase

/-- One step of a call: check against the rebuilt fold, then append at its head. -/
def WorkerAppend.advance (F : FloatText) (log : EventLog) (call : WorkerAppend) :
    AppendPhase × Option ResearchEvent :=
  match call.phase with
  | .called =>
    match Workers.appendHead F call.projectId log call.document call.expectedLastSequence with
    | .ok head => (.checked head, none)
    | .error error => (.returned (.error error), none)
  | .checked head =>
    match log.append call.document (some head) with
    | .ok event => (.returned (.ok event), some event)
    | .error error => (.returned (.error (.store error)), none)
  | .returned result => (.returned result, none)

/-! `authorization.revoke` -/

def workerEventSource : String := "researchos-dev/projects/control-plane"

/-- What `_revoke` reads of a workspace, a command and its operation. -/
structure RevokeCommand where
  projectId : EventIdentifier
  actorId : EventIdentifier
  submittedAt : Rfc3339Timestamp
  expectedHead : Option Nat
  grantId : EventIdentifier
  eventId : CloudEventsString
  reasonCode : EventIdentifier

/-- The default of `grant_revoked_draft`, which `_revoke` does not override. -/
def defaultExperimentRevision : Nat := 1

def RevokeCommand.draft (command : RevokeCommand) (grant : Workers.GrantRecord) : WorkerDraft :=
  Workers.grantRevokedDraft command.projectId.val command.grantId.val grant.runId.val
    grant.attemptId.val command.eventId.val command.submittedAt.val workerEventSource
    command.actorId.val command.reasonCode.val defaultExperimentRevision

/-- `_same_committed_fact`: the draft is the document of a fact, without its place. -/
def sameCommittedFact (draft : WorkerDraft) (existing : ResearchEvent) : Bool :=
  decide (validateEventDocument (.obj (Storage.assigned draft.members existing.sequence
    existing.streamversion)) = some existing)

/-- What `_revoke` does once it has read the log: cite a fact, or append one. -/
inductive Revocation where
  | existing (fact : ResearchEvent)
  | append (draft : WorkerDraft)

/-- The grant that `_revoke` may revoke. -/
def revocableGrant (F : FloatText) (command : RevokeCommand) (log : EventLog) :
    Except ApplicationError Workers.GrantRecord :=
  match Workers.rebuild F command.projectId log with
  | .error _ => .error ⟨"authorization-revoke", "grant revocation was refused"⟩
  | .ok head =>
    match head.fold.grant command.grantId with
    | none => .error ⟨"unknown-grant", "grant is not recorded"⟩
    | some grant =>
      if grant.consumedLeaseId.isSome then
        .error ⟨"grant-consumed", "used authority cannot be revoked here"⟩
      else .ok grant

/-- `_revoke` up to `control.append` -/
def revoke (F : FloatText) (command : RevokeCommand) (log : EventLog) :
    Except ApplicationError Revocation := do
  let grant ← revocableGrant F command log
  match log.getEvent command.eventId.val with
  | none => .ok (.append (command.draft grant))
  | some existing =>
    if sameCommittedFact (command.draft grant) existing then .ok (.existing existing)
    else .error ⟨"duplicate-event", "event identity is already committed"⟩

/-! The writers of the log. -/

inductive Writer where
  | run (client : RunClient)
  | research (client : ResearchClient)
  | worker (call : WorkerAppend)
  | revoke (command : RevokeCommand)
  | revoked (result : Except ApplicationError ResearchEvent)

namespace Writer

/-- A call that was just made. -/
def starts : Writer → Bool
  | .run client => runControl.clients.starts client
  | .research client => researchControl.clients.starts client
  | .worker call =>
    match call.phase with
    | .called => true
    | _ => false
  | .revoke _ => true
  | .revoked _ => false

def move (F : FloatText) (log : EventLog) : Writer → Writer × Option ResearchEvent
  | .run client =>
    (.run { client with phase := (runControl.advance log client).1 },
      (runControl.advance log client).2)
  | .research client =>
    (.research { client with phase := (researchControl.advance log client).1 },
      (researchControl.advance log client).2)
  | .worker call => (.worker { call with phase := (call.advance F log).1 }, (call.advance F log).2)
  | .revoke command =>
    match Application.revoke F command log with
    | .ok (.append draft) =>
      (.worker ⟨command.projectId, draft.document, command.expectedHead, .called⟩, none)
    | .ok (.existing fact) => (.revoked (.ok fact), none)
    | .error error => (.revoked (.error error), none)
  | .revoked result => (.revoked result, none)

end Writer

def writers (F : FloatText) : Clients ResearchEvent Writer Unit where
  starts := Writer.starts
  admits _ _ := false
  move log writer _ := writer.move F log

/-- The log and its writers after a run of their steps, from the empty store. -/
def writersRun (F : FloatText) (actions : List (Clients.Action ResearchEvent Writer Unit)) :
    Clients.State ResearchEvent Writer :=
  (writers F).run ⟨[], []⟩ actions

/-- Whether the document carries a type of the run lifecycle. -/
def namesLifecycle (document : Document) : Bool :=
  match document.val with
  | .obj ms =>
    match ms.lookup "type" with
    | some (.str text) => (LifecycleType.ofText text).isSome
    | _ => false
  | _ => false

/-- `WorkerControl.append` is called with no lifecycle draft. -/
def Writer.isOrderly : Writer → Bool
  | .worker call => !namesLifecycle call.document
  | _ => true

variable {F : FloatText} {log : EventLog} {event : ResearchEvent}

theorem lifecycleType_of_decision
    (h : Research.DecisionEventType.ofText event.type.val ≠ none) :
    ResearchEvent.lifecycleType? event = none := by
  obtain ⟨type, htype⟩ := Option.ne_none_iff_exists'.mp h
  have htext := List.find?_some htype
  have hvalue : event.type.val = type.text := by simpa [eq_comm] using htext
  change LifecycleType.ofText event.type.val = none
  rw [hvalue]
  cases type <;> decide

/-- What the store adds from a draft of another kind is no lifecycle fact. -/
theorem lifecycleType_of_added {document : Document} {head : Option Nat}
    (h : log.Added document head event) (hdraft : namesLifecycle document = false) :
    ResearchEvent.lifecycleType? event = none := by
  obtain ⟨ms, hms, hvalid⟩ := h.document
  obtain ⟨-, htype, -⟩ := validateEventDocument_members hvalid
  rw [Storage.lookup_assigned (by decide)] at htype
  simpa [namesLifecycle, Storage.draftMembers_ok hms, htype, ResearchEvent.lifecycleType?]
    using hdraft

theorem namesLifecycle_revoked (command : RevokeCommand) (grant : Workers.GrantRecord) :
    namesLifecycle (command.draft grant).document = false := by
  have htype : (command.draft grant).members.lookup "type" =
      some (.str "authorization.grant.revoked") :=
    Json.lookup_ofPairs _ _
  have hother : LifecycleType.ofText "authorization.grant.revoked" = none := by decide
  simp [namesLifecycle, WorkerDraft.document, htype, hother]
/-! Every fact lands in its place, and a lifecycle fact behind the fold of its run. -/

/-- What each writer has read of the log. -/
def Writer.Sound (log : EventLog) : Writer → Prop
  | .run client => runControl.Sound log client
  | .research client => researchControl.Sound log client
  | .worker call => namesLifecycle call.document = false
  | .revoke _ => True
  | .revoked _ => True

theorem Writer.Sound.mono {writer : Writer} (h : writer.Sound log) (event : ResearchEvent) :
    writer.Sound (log ++ [event]) := by
  cases writer with
  | run client => exact FrozenReplay.Sound.mono h event
  | research client => exact FrozenReplay.Sound.mono h event
  | worker call => exact h
  | revoke command => trivial
  | revoked result => trivial

theorem committed_run {client : RunClient} (h : Committed log)
    (hclient : runControl.Sound log client) :
    Committed (log ++ (runControl.advance log client).2.toList) := by
  cases happend : (runControl.advance log client).2 with
  | none => simpa using h
  | some event =>
    obtain ⟨snapshot, next, hlands, -⟩ := Runs.advance_appends hclient happend
    exact h.lands hlands

theorem committed_research {client : ResearchClient} (h : Committed log)
    (hclient : researchControl.Sound log client) :
    Committed (log ++ (researchControl.advance log client).2.toList) := by
  cases happend : (researchControl.advance log client).2 with
  | none => simpa using h
  | some event =>
    obtain ⟨document, fold, -, hcommitted⟩ :=
      hclient.committed Research.researchControl_lawful happend
    have hadded := Storage.EventLog.append_ok (Research.commit_ok hcommitted.committed)
    have htype := Research.type_of_committed hcommitted.drafted hcommitted.committed
    exact h.other hadded.sequence (lifecycleType_of_decision htype)

theorem committed_worker {call : WorkerAppend} (h : Committed log)
    (hcall : namesLifecycle call.document = false) :
    Committed (log ++ (call.advance F log).2.toList) := by
  cases hphase : call.phase with
  | called =>
    have hsilent : (call.advance F log).2 = none := by
      simp only [WorkerAppend.advance, hphase]
      split <;> rfl
    simpa [hsilent] using h
  | checked head =>
    simp only [WorkerAppend.advance, hphase]
    cases happend : log.append call.document (some head) with
    | ok event =>
      have hadded := Storage.EventLog.append_ok happend
      exact h.other hadded.sequence (lifecycleType_of_added hadded hcall)
    | error error => simpa using h
  | returned result => simpa [WorkerAppend.advance, hphase] using h

theorem revoke_draft {command : RevokeCommand} {draft : WorkerDraft}
    (h : revoke F command log = .ok (.append draft)) :
    ∃ grant, draft = command.draft grant := by
  obtain ⟨grant, -, h⟩ := Fold.bind_eq_ok.mp h
  refine ⟨grant, ?_⟩
  split at h
  · cases h
    rfl
  · split_ifs at h
    cases h

theorem writers_invariant (F : FloatText) :
    ((writers F).only Writer.isOrderly).Invariant Committed fun log writer => writer.Sound log where
  mono _ event _ hwriter := hwriter.mono event
  start log writer hstarts := by
    obtain ⟨hstarts, horderly⟩ := Bool.and_eq_true_iff.mp hstarts
    cases writer with
    | run client => exact (Runs.runControl_lawful.invariant []).start log client hstarts
    | research client =>
      exact (Research.researchControl_lawful.invariant []).start log client hstarts
    | worker call => simpa [Writer.isOrderly, Writer.Sound] using horderly
    | revoke command => trivial
    | revoked result => trivial
  foreign _ _ _ hadmits := by cases hadmits
  move log writer _ hlog hwriter := by
    cases writer with
    | run client =>
      exact ⟨committed_run hlog hwriter, FrozenReplay.Sound.advance Runs.runControl_lawful hwriter⟩
    | research client =>
      exact ⟨committed_research hlog hwriter,
        FrozenReplay.Sound.advance Research.researchControl_lawful hwriter⟩
    | worker call => exact ⟨committed_worker hlog hwriter, hwriter⟩
    | revoke command =>
      change Committed (log ++ (Writer.move F log (.revoke command)).2.toList) ∧
        (Writer.move F log (.revoke command)).1.Sound _
      simp only [Writer.move]
      split
      · rename_i draft hdraft
        obtain ⟨grant, rfl⟩ := revoke_draft hdraft
        exact ⟨by simpa using hlog, namesLifecycle_revoked command grant⟩
      · exact ⟨by simpa using hlog, trivial⟩
      · exact ⟨by simpa using hlog, trivial⟩
    | revoked result =>
      change Committed (log ++ []) ∧ True
      exact ⟨by simpa using hlog, trivial⟩

/-- The log that the writers leave is committed. -/
theorem committed_writersRun (actions : List (Clients.Action ResearchEvent Writer Unit))
    (h : ∀ writer, .join writer ∈ actions → writer.isOrderly = true) :
    Committed (writersRun F actions).log := by
  rw [writersRun, ← Clients.run_only _ h]
  exact ((writers_invariant F).run ⟨.empty, by simp⟩ actions).1

/-- A run folds to a state that `RunControl.rebuild` finds. -/
def Rebuilds (log : EventLog) (p : RunStateProjection) : Prop :=
  ∃ state, p.fold log = .ok state ∧ runControl.visit p log.length 1 none log = .ok state

theorem rebuilds_of_fold {p : RunStateProjection} {state : Option Runs.RunSnapshot}
    (h : Committed log) (hfold : p.fold log = .ok state) : Rebuilds log p := by
  refine ⟨state, hfold, FrozenReplay.visit_eq_ok.mpr ⟨?_, Runs.replay_eq_ok.mpr hfold⟩⟩
  intro i event hevent
  have hplace := h.inPlace i event hevent
  change event.sequence.val = 1 + i
  omega

/-- However the writers interleave, where no lifecycle draft goes through `WorkerControl`, every
run can be rebuilt exactly when every fact carries the revision of the queued run it names. -/
theorem runs_rebuild_iff (F : FloatText)
    (actions : List (Clients.Action ResearchEvent Writer Unit))
    (horderly : ∀ writer, .join writer ∈ actions → writer.isOrderly = true) :
    (∀ p, Rebuilds (writersRun F actions).log p) ↔ Revisioned (writersRun F actions).log := by
  have hcommitted := committed_writersRun (F := F) actions horderly
  rw [← hcommitted.folds_iff]
  constructor
  · intro hrebuilds p
    obtain ⟨state, hfold, -⟩ := hrebuilds p
    exact ⟨state, hfold⟩
  · intro hfolds p
    obtain ⟨state, hfold⟩ := hfolds p
    exact rebuilds_of_fold hcommitted hfold

/-! A grant of a run of the second revision, revoked at the default one. -/

def trialProject : EventIdentifier := ⟨"project", .refl true⟩

def trialRun : EventIdentifier := ⟨"run-1", .refl true⟩

def trialDigest : String :=
  "sha256:0000000000000000000000000000000000000000000000000000000000000000"

def trialQueued (experimentRevision : Nat) : Runs.LifecycleDraft where
  eventId := "queue-1"
  eventType := .runQueued
  time := "2026-01-01T00:00:00Z"
  source := "urn:researchos:run"
  subject := "run"
  streamId := "run-1"
  actorId := "run-control"
  actorKind := some .system
  projectId := trialProject
  experimentRevision := experimentRevision
  runId := trialRun
  attemptId := none
  payload := [("maxAttempts", .int 1), ("planDigest", .str trialDigest),
    ("registryDigest", .str trialDigest), ("specDigest", .str trialDigest),
    ("workflowId", .str "flow")]
  payloadIsCanonical := by simp [Json.canonical]

def trialRegistered (experimentRevision : Nat) : WorkerDraft where
  eventId := "worker-1"
  eventType := .workerRegistered
  time := "2026-01-01T00:00:00Z"
  source := "urn:researchos:worker"
  subject := "worker"
  streamId := "project"
  actorId := "operator"
  actorKind := .human
  projectId := "project"
  experimentRevision := experimentRevision
  payload := [("workerId", .str "worker")]
  payloadIsCanonical := by simp [Json.canonical]
  evidenceRefs := []
  runId := none
  attemptId := none

def trialGranted (experimentRevision : Nat) : WorkerDraft where
  eventId := "grant-1"
  eventType := .grantRecorded
  time := "2026-01-01T00:00:00Z"
  source := "urn:researchos:worker"
  subject := "grant"
  streamId := "project"
  actorId := "operator"
  actorKind := .human
  projectId := "project"
  experimentRevision := experimentRevision
  payload := [("authorizationEventId", .str "event-0"), ("authorizationSequence", .str "1"),
    ("configDigest", .str trialDigest), ("expiresAt", .str "2026-01-02T00:00:00Z"),
    ("grantId", .str "grant"), ("imageDigest", .str trialDigest), ("keyId", .str "local.hmac.1"),
    ("nonce", .str "nonce"), ("taskId", .str "task"), ("workerId", .str "worker")]
  payloadIsCanonical := by simp [Json.canonical]
  evidenceRefs := []
  runId := some "run-1"
  attemptId := some "attempt-1"

def trialRevoke : RevokeCommand where
  projectId := trialProject
  actorId := ⟨"operator", .refl true⟩
  submittedAt := ⟨"2026-01-01T00:00:00Z", .refl true⟩
  expectedHead := some 3
  grantId := ⟨"grant", .refl true⟩
  eventId := ⟨"revoke-1", .refl true⟩
  reasonCode := ⟨"human.revoke", .refl true⟩

def trialWorker (draft : WorkerDraft) : Writer :=
  .worker ⟨trialProject, draft.document, none, .called⟩

/-- A run is queued and a worker holds a grant for it, both at one revision. -/
def grantedActions (experimentRevision : Nat) :
    List (Clients.Action ResearchEvent Writer Unit) := [
  .join (.run ⟨⟨trialProject, trialRun⟩, ⟨(trialQueued experimentRevision).document, none⟩, 100,
    .called⟩),
  .move 0 (), .move 0 (), .move 0 (),
  .join (trialWorker (trialRegistered experimentRevision)), .move 1 (), .move 1 (),
  .join (trialWorker (trialGranted experimentRevision)), .move 2 (), .move 2 ()]

/-- The grant is revoked. -/
def revokedActions (experimentRevision : Nat) : List (Clients.Action ResearchEvent Writer Unit) :=
  grantedActions experimentRevision ++ [.join (.revoke trialRevoke), .move 3 (), .move 3 (),
    .move 3 ()]

/-- Whether no lifecycle draft joins through `WorkerControl`. -/
def isOrderlyAction : Clients.Action ResearchEvent Writer Unit → Bool
  | .join writer => writer.isOrderly
  | _ => true

theorem isOrderly_of_all {actions : List (Clients.Action ResearchEvent Writer Unit)}
    (h : actions.all isOrderlyAction = true) :
    ∀ writer, .join writer ∈ actions → writer.isOrderly = true :=
  fun _ hwriter => List.all_eq_true.mp h _ hwriter

theorem runs_rebuild_revoked :
    (writersRun JsonText.scientific (revokedActions 1)).log.length = 4 ∧
      ∀ p, Rebuilds (writersRun JsonText.scientific (revokedActions 1)).log p := by
  have hrun : (writersRun JsonText.scientific (revokedActions 1)).log.length = 4 ∧
      Revisioned (writersRun JsonText.scientific (revokedActions 1)).log := by
    decide +kernel
  refine ⟨hrun.1, (runs_rebuild_iff JsonText.scientific (revokedActions 1) ?_).mpr hrun.2⟩
  exact isOrderly_of_all (by decide +kernel)

/-- Every append is accepted, and the run can never be rebuilt. -/
theorem revoked_unreadable :
    (writersRun JsonText.scientific (revokedActions 2)).log.length = 4 ∧
      ∀ state, RunStateProjection.fold ⟨trialProject, trialRun⟩
        (writersRun JsonText.scientific (revokedActions 2)).log ≠ .ok state := by
  have hrun : (writersRun JsonText.scientific (revokedActions 2)).log.length = 4 ∧
      ((RunStateProjection.fold ⟨trialProject, trialRun⟩
        (writersRun JsonText.scientific (revokedActions 2)).log).toOption).isNone = true := by
    decide +kernel
  refine ⟨hrun.1, ?_⟩
  intro state hfold
  have hraises := hrun.2
  rw [hfold] at hraises
  cases hraises

end ResearchOs.Application
