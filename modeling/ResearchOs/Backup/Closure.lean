import ResearchOs.Backup.Objects
import ResearchOs.Core.Workers.Plane

/-! Whether the prefix of a workspace can be backed up, after any appends and publications. -/
namespace ResearchOs.Backup

open Storage (Document EventLog)

/-- The log of a workspace and its objects. -/
structure Workspace where
  log : EventLog
  store : ArtifactStore

/-- An append, in which every call of a control ends, or the publication of an object. -/
inductive Action where
  | append (document : Document) (expectedHead : Option Nat)
  | publish (bytes : List Nat)

def step (w : Workspace) : Action → Workspace
  | .append document expectedHead =>
    match w.log.append document expectedHead with
    | .ok event => { w with log := w.log ++ [event] }
    | .error _ => w
  | .publish bytes => { w with store := w.store.put bytes }

def run (w : Workspace) (actions : List Action) : Workspace := actions.foldl step w

def emptyWorkspace : Workspace := ⟨[], ⟨[]⟩⟩

/-- `create_backup` finds every object of the prefix. -/
def Closed (w : Workspace) : Prop :=
  ∃ objects, copyObjects w.store (prefixDigests w.log) = .ok objects

/-- The draft of an append that the store accepts cites no object that is still to be published. -/
def CitesHeld (w : Workspace) : Action → Prop
  | .append document expectedHead => (∃ event, w.log.append document expectedHead = .ok event) →
    ∀ digest ∈ citedDigests document, w.store.holds digest = true
  | .publish _ => True

variable {w : Workspace} {a : Action} {digest : String}

theorem step_append {document : Document} {expectedHead : Option Nat} {event : ResearchEvent}
    (h : w.log.append document expectedHead = .ok event) :
    step w (.append document expectedHead) = { w with log := w.log ++ [event] } := by
  simp only [step, h]

/-- No step takes an object away. -/
theorem holds_step (h : w.store.holds digest = true) (a : Action) :
    (step w a).store.holds digest = true := by
  cases a with
  | append document expectedHead =>
    simp only [step]
    split <;> exact h
  | publish bytes => exact holds_put.mpr (.inl h)

theorem mem_step {event : ResearchEvent} (h : event ∈ w.log) (a : Action) : event ∈ (step w a).log := by
  cases a with
  | append document expectedHead =>
    simp only [step]
    split
    · exact List.mem_append_left _ h
    · exact h
  | publish bytes => exact h

/-- An object appears only by its own publication. -/
theorem held_of_step (h : (step w a).store.holds digest = true) :
    w.store.holds digest = true ∨ ∃ bytes, a = .publish bytes ∧ fileDigest bytes = digest := by
  cases a with
  | append document expectedHead =>
    simp only [step] at h
    split at h <;> exact .inl h
  | publish bytes =>
    rcases holds_put.mp h with hheld | hdigest
    · exact .inl hheld
    · exact .inr ⟨bytes, rfl, hdigest⟩

/-- Until a missing object is published, no later state has a backup. -/
theorem not_closed_run {later : List Action} {event : ResearchEvent} (hevent : event ∈ w.log)
    (hcited : digest ∈ objectDigests event) (hmissing : w.store.holds digest = false)
    (hlater : ∀ bytes, .publish bytes ∈ later → fileDigest bytes ≠ digest) :
    ¬ Closed (run w later) := by
  induction later generalizing w with
  | nil =>
    intro hclosed
    have hheld := copyObjects_ok_iff.mp hclosed event hevent digest hcited
    rw [run, List.foldl_nil, hmissing] at hheld
    cases hheld
  | cons a later ih =>
    have hstill : (Backup.step w a).store.holds digest = false := by
      rw [Bool.eq_false_iff]
      intro hheld
      rcases held_of_step hheld with hheld | ⟨bytes, rfl, hbytes⟩
      · rw [hmissing] at hheld
        cases hheld
      · exact hlater bytes List.mem_cons_self hbytes
    exact ih (mem_step hevent a) hstill fun bytes hbytes =>
      hlater bytes (List.mem_cons_of_mem a hbytes)

theorem Closed.step (h : Closed w) (hcites : CitesHeld w a) : Closed (step w a) := by
  refine copyObjects_ok_iff.mpr fun event hevent digest hdigest => ?_
  have hlog := copyObjects_ok_iff.mp h
  cases a with
  | append document expectedHead =>
    cases happend : w.log.append document expectedHead with
    | ok added =>
      rw [step_append happend] at hevent ⊢
      rcases List.mem_append.mp hevent with hevent | hevent
      · exact hlog event hevent digest hdigest
      · cases List.mem_singleton.mp hevent
        exact hcites ⟨event, happend⟩ digest ((mem_citedDigests happend).mp hdigest)
    | error error =>
      simp only [Backup.step, happend] at hevent ⊢
      exact hlog event hevent digest hdigest
  | publish bytes => exact holds_step (hlog event hevent digest hdigest) _

/-- A fact that cites a missing object leaves a prefix without a backup. -/
theorem citesHeld_of_closed (h : Closed (step w a)) : CitesHeld w a := by
  cases a with
  | append document expectedHead =>
    rintro ⟨event, happend⟩ digest hdigest
    rw [step_append happend] at h
    exact copyObjects_ok_iff.mp h event (List.mem_append_right _ List.mem_cons_self) digest
      ((mem_citedDigests happend).mpr hdigest)
  | publish bytes => trivial

theorem run_take_succ {actions : List Action} {n : Nat} (h : actions[n]? = some a) :
    run w (actions.take (n + 1)) = step (run w (actions.take n)) a := by
  rw [run, List.take_add_one, h, List.foldl_append]
  rfl

/-- Every state of a run can be backed up exactly when every draft that the run accepts cites only
objects that the store holds by then. -/
theorem backup_closed_iff (actions : List Action) :
    (∀ n, Closed (run emptyWorkspace (actions.take n))) ↔
      ∀ n a, actions[n]? = some a → CitesHeld (run emptyWorkspace (actions.take n)) a := by
  constructor
  · intro hclosed n a ha
    have hnext := hclosed (n + 1)
    rw [run_take_succ ha] at hnext
    exact citesHeld_of_closed hnext
  · intro hcites n
    induction n with
    | zero => exact copyObjects_ok_iff.mpr (by simp [run, emptyWorkspace])
    | succ n ih =>
      cases ha : actions[n]? with
      | none =>
        have hlength := List.getElem?_eq_none_iff.mp ha
        rw [List.take_of_length_le (by omega)]
        rw [List.take_of_length_le hlength] at ih
        exact ih
      | some a =>
        rw [run_take_succ ha]
        exact ih.step (hcites n a ha)

/-! Container work, whose image is no object of the store. -/

/-- `work_queued_draft` of container work without config, inputs or accelerators. -/
def containerDraft (projectId taskId runId attemptId imageDigest configDigest eventId time
    source : String) (experimentRevision : Nat) : Workers.WorkerDraft where
  eventId := eventId
  eventType := .workQueued
  time := time
  source := source
  subject := taskId
  streamId := projectId
  actorId := "control.plane"
  actorKind := .system
  projectId := projectId
  experimentRevision := experimentRevision
  payload := [("taskId", .str taskId), ("imageDigest", .str imageDigest),
    ("imageMediaType", .str "researchos.oci-image/v0alpha1"), ("runtime", .str "oci-container"),
    ("config", .obj []), ("inputs", .obj []), ("configDigest", .str configDigest),
    ("requiredAccelerators", .arr [])]
  payloadIsCanonical := by
    simp [Json.canonical, Json.canonicalItems, Json.canonicalMembers, Json.sorted_nil]
  evidenceRefs := []
  runId := some runId
  attemptId := some attemptId

def trialImage : String :=
  "sha256:1111111111111111111111111111111111111111111111111111111111111111"

/-- The draft that `enqueue` hands to `WorkerControl` for work in a container image. -/
def trialWork : Workers.WorkerDraft :=
  containerDraft "project" "task" "run-1" "attempt-1" trialImage
    "jcs-sha256:edae3d4b42f0cb040a83e2a5099b3bd2e14e5eed2d86b3071406b45ef865143b" "work-1"
    "2026-01-01T00:00:00Z" "urn:trial" 1

/-- An enqueue in a workspace without objects is accepted, and no later state has a backup until the
image itself becomes an object. -/
theorem container_work_unbackupable :
    (Workers.appendHead JsonText.scientific ⟨"project", by decide⟩ [] trialWork.document
        none).toOption = some 0 ∧
      ∀ later, (∀ bytes, .publish bytes ∈ later → fileDigest bytes ≠ trialImage) →
        ¬ Closed (run emptyWorkspace (.append trialWork.document (some 0) :: later)) := by
  refine ⟨by decide +kernel, fun later hlater => ?_⟩
  have haccepted : (Storage.EventLog.append [] trialWork.document (some 0)).toOption.map
      objectDigests = some [trialImage] := by decide +kernel
  cases happend : Storage.EventLog.append [] trialWork.document (some 0) with
  | error error =>
    rw [happend] at haccepted
    cases haccepted
  | ok event =>
    rw [happend] at haccepted
    have hcited : objectDigests event = [trialImage] := Option.some.inj haccepted
    have hstep := step_append (w := emptyWorkspace) happend
    have hmember : event ∈ (step emptyWorkspace (.append trialWork.document (some 0))).log := by
      rw [hstep]
      exact List.mem_append_right _ List.mem_cons_self
    have hmissing : (step emptyWorkspace (.append trialWork.document (some 0))).store.holds
        trialImage = false := by
      rw [hstep]
      rfl
    have himage : trialImage ∈ objectDigests event := by
      rw [hcited]
      exact List.mem_singleton_self _
    exact not_closed_run (w := step emptyWorkspace _) hmember himage hmissing hlater

end ResearchOs.Backup
