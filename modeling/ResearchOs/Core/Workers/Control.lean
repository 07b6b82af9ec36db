import ResearchOs.Core.Storage.Log
import ResearchOs.Core.Workers.Fold

/-! `WorkerControl`: one fact checked against a rebuilt fold, appended at the head of that fold. -/
namespace ResearchOs.Workers

open JsonText (FloatText)
open Storage (Document EventLog StoreError assigned)

inductive PlaneError where
  | worker (error : WorkerError)
  | store (error : StoreError)
  | raised (exception : String)
  deriving DecidableEq, Repr

def fromWorker {α : Type} : Except WorkerError α → Except PlaneError α
  | .ok a => .ok a
  | .error e => .error (.worker e)

@[simp] theorem fromWorker_eq_ok {α : Type} {r : Except WorkerError α} {a : α} :
    fromWorker r = .ok a ↔ r = .ok a := by
  cases r <;> simp [fromWorker]

structure WorkerHead where
  lastSequence : Nat
  fold : WorkerFold

/-- `rebuild` -/
def rebuild (F : FloatText) (projectId : EventIdentifier) (log : EventLog) :
    Except PlaneError WorkerHead := do
  let fold ← fromWorker (replayWorkers F projectId log)
  .ok ⟨log.length, fold⟩

/-- `_preflight_event` -/
def preflightEvent (projectId : EventIdentifier) (frozenHead : Nat) (document : Document) :
    Except WorkerError ResearchEvent :=
  match document.val with
  | .obj ms =>
    let supplied := Storage.storeAssignedFields.filter fun key => (ms.lookup key).isSome
    if supplied ≠ [] then
      .error (.call ("WorkerControl does not accept store-assigned fields; caller supplied: " ++
        Storage.namesText supplied) "store-assigned-fields")
    else if h : frozenHead < cloudEventsIntegerMax then
      match validateEventDocument (.obj (assigned ms
        ⟨frozenHead + 1, inRange_succ h⟩ Storage.firstStreamVersion)) with
      | none => .error (.payload "event draft failed ResearchEvent validation" "invalid-event")
      | some event =>
        if event.data.projectId = projectId then .ok event
        else .error (.call "event projectId does not match this WorkerControl" "project-mismatch")
    else .error (.call "global event sequence is exhausted" "sequence-exhausted")
  | _ => .error (.call "event draft must be a JSON object" "invalid-draft")

/-- The checks of `_append_at`: the draft as the next event must fold. -/
def foldDraft (F : FloatText) (projectId : EventIdentifier) (head : WorkerHead)
    (document : Document) : Except WorkerError WorkerFold := do
  let event ← preflightEvent projectId head.lastSequence document
  applyWorkerFold F projectId head.fold event

def requireHead (head : WorkerHead) : Option Nat → Except PlaneError Unit
  | none => .ok ()
  | some expected =>
    if head.lastSequence ≠ expected then
      .error (.store (.sequenceConflict expected head.lastSequence))
    else .ok ()

/-- `append` up to the call of the store: the head at which it appends. -/
def appendHead (F : FloatText) (projectId : EventIdentifier) (log : EventLog) (document : Document)
    (expectedLastSequence : Option Nat) : Except PlaneError Nat := do
  let head ← rebuild F projectId log
  requireHead head expectedLastSequence
  let _ ← fromWorker (foldDraft F projectId head document)
  .ok head.lastSequence

variable {F : FloatText} {projectId : EventIdentifier} {log : EventLog} {document : Document}

theorem rebuild_ok {head : WorkerHead} (h : rebuild F projectId log = .ok head) :
    replayWorkers F projectId log = .ok head.fold ∧ head.lastSequence = log.length := by
  obtain ⟨fold, hfold, h⟩ := Fold.bind_eq_ok.mp h
  cases h
  exact ⟨fromWorker_eq_ok.mp hfold, rfl⟩

/-- The preflight event is the event of the draft at the next sequence. -/
theorem preflightEvent_ok {frozenHead : Nat} {event : ResearchEvent}
    (h : preflightEvent projectId frozenHead document = .ok event) :
    event.data.projectId = projectId ∧ event.sequence.val = frozenHead + 1 ∧
      ∃ ms, Storage.draftMembers document.val = .ok ms ∧
        validateEventDocument (.obj (assigned ms event.sequence event.streamversion)) =
          some event := by
  unfold preflightEvent at h
  split at h
  · rename_i ms hdocument
    dsimp only at h
    split_ifs at h with hsupplied hhead
    split at h
    · cases h
    · rename_i found hvalid
      split_ifs at h with hproject
      cases h
      obtain ⟨hsequence, hversion⟩ := Storage.place_of_validate hvalid
      refine ⟨hproject, congrArg Subtype.val hsequence, ms, ?_, ?_⟩
      · rw [hdocument]
        exact if_pos (not_not.mp hsupplied)
      · rw [hsequence, hversion]
        exact hvalid
  · cases h

/-- What the checks before an append have established. -/
structure AppendChecked (F : FloatText) (projectId : EventIdentifier) (log : EventLog)
    (document : Document) (head : Nat) : Prop where
  atHead : head = log.length
  folds : ∃ fold next event, replayWorkers F projectId log = .ok fold ∧
    preflightEvent projectId head document = .ok event ∧
    applyWorkerFold F projectId fold event = .ok next

theorem appendHead_ok {expectedLastSequence : Option Nat} {head : Nat}
    (h : appendHead F projectId log document expectedLastSequence = .ok head) :
    AppendChecked F projectId log document head ∧ ∀ v, expectedLastSequence = some v → head = v := by
  obtain ⟨rebuilt, hrebuilt, h⟩ := Fold.bind_eq_ok.mp h
  obtain ⟨_, hexpected, h⟩ := Fold.bind_eq_ok.mp h
  obtain ⟨next, hfolds, h⟩ := Fold.bind_eq_ok.mp h
  obtain ⟨event, hevent, hnext⟩ := Fold.bind_eq_ok.mp (fromWorker_eq_ok.mp hfolds)
  obtain ⟨hfold, hhead⟩ := rebuild_ok hrebuilt
  cases h
  refine ⟨⟨hhead, rebuilt.fold, next, event, hfold, hevent, hnext⟩, ?_⟩
  rintro v rfl
  simp only [requireHead] at hexpected
  split_ifs at hexpected with hv
  exact not_not.mp hv

/-- The stream version of an event does not matter to the fold. -/
theorem applyWorkerFold_placed (fold : WorkerFold) (event : ResearchEvent)
    (streamVersion : StreamVersion) :
    applyWorkerFold F projectId fold (event.placed event.sequence streamVersion) =
      applyWorkerFold F projectId fold event := rfl

/-- A fact that the store adds after the checks is a fact of the project that folds. -/
theorem AppendChecked.folds_added {head : Nat} {event : ResearchEvent}
    (hchecked : AppendChecked F projectId log document head)
    (hadded : log.Added document (some head) event) :
    event.data.projectId = projectId ∧
      ∃ fold next, replayWorkers F projectId log = .ok fold ∧
        applyWorkerFold F projectId fold event = .ok next := by
  obtain ⟨fold, next, preflight, hfold, hpreflight, hnext⟩ := hchecked.folds
  obtain ⟨hproject, hsequence, ms, hms, hvalid⟩ := preflightEvent_ok hpreflight
  obtain ⟨ms', hms', hvalid'⟩ := hadded.document
  rw [hms] at hms'
  cases hms'
  have hplaced : event = preflight.placed event.sequence event.streamversion := by
    rw [Storage.validate_assigned ms _ preflight.sequence _ preflight.streamversion,
      hvalid] at hvalid'
    exact (Option.some.inj hvalid').symm
  have hsame : preflight.sequence = event.sequence := by
    apply Subtype.ext
    rw [hsequence, hadded.sequence, hchecked.atHead]
  rw [hplaced, ← hsame]
  exact ⟨hproject, fold, next, hfold, hnext⟩

end ResearchOs.Workers
