import ResearchOs.Core.Runs.Draft
import ResearchOs.Core.Runs.Exit

/-! The pair of events that settles an attempt and closes its run. -/
namespace ResearchOs.Runs

open Storage (EventLog assigned)

/-- How an attempt and its run end. -/
inductive Ending where
  | succeeded
  | failed
  | cancelled
  deriving DecidableEq, Repr

namespace Ending

def attemptType : Ending → LifecycleType
  | succeeded => .attemptSucceeded
  | failed => .attemptFailed
  | cancelled => .attemptCancelled

def runType : Ending → LifecycleType
  | succeeded => .runCompleted
  | failed => .runFailed
  | cancelled => .runCancelled

def attemptStatus : Ending → AttemptStatus
  | succeeded => .succeeded
  | failed => .failed
  | cancelled => .cancelled

def runStatus : Ending → RunStatus
  | succeeded => .completed
  | failed => .failed
  | cancelled => .cancelled

/-- The statuses that the event of the attempt moves on. -/
def allowed : Ending → List AttemptStatus
  | succeeded => attemptSucceededStatuses
  | failed => attemptFailedStatuses
  | cancelled => attemptCancelledStatuses

/-- The retry hint that the payload of the attempt event hands on. -/
def Hints : Ending → LifecyclePayload → Option RetryHint → Prop
  | failed, parsed, hint => ∃ reason given, parsed = .attemptFailed reason given ∧ hint = some given
  | succeeded, _, hint => hint = none
  | cancelled, _, hint => hint = none

theorem runStatus_terminal (ending : Ending) : ending.runStatus ∈ terminalRunStatuses := by
  cases ending <;> decide

theorem attemptStatus_terminal (ending : Ending) :
    ending.attemptStatus ∈ terminalAttemptStatuses := by
  cases ending <;> decide

theorem allowed_unresolved {ending : Ending} {status : AttemptStatus} (h : status ∈ ending.allowed) :
    status.unresolved := by
  cases ending <;> cases status <;> revert h <;> decide

theorem Hints.isSome {ending : Ending} {parsed : LifecyclePayload} {hint : Option RetryHint}
    (h : ending.Hints parsed hint) : hint.isSome ↔ ending.attemptStatus = .failed := by
  cases ending with
  | failed =>
    obtain ⟨reason, given, -, rfl⟩ := h
    simp [attemptStatus]
  | succeeded =>
    obtain rfl : hint = none := h
    simp [attemptStatus]
  | cancelled =>
    obtain rfl : hint = none := h
    simp [attemptStatus]

end Ending

variable {p : RunStateProjection} {s : RunSnapshot} {e : ResearchEvent} {attempt : AttemptSnapshot}
  {ending : Ending} {parsed : LifecyclePayload} {hint : Option RetryHint}

/-! The attempt. -/

theorem findAttempt_id {attemptId : EventIdentifier} (h : findAttempt s attemptId = some attempt) :
    attempt.attemptId = attemptId := by
  simpa using List.find?_some h

theorem activeAttempt_of_found (hs : s.Invariant) {attemptId : EventIdentifier}
    (h : findAttempt s attemptId = some attempt) (hu : attempt.status.unresolved) :
    ActiveAttempt s attempt := by
  have hmem := List.mem_of_find?_eq_some h
  exact activeAttempt_of_unresolved hs (hs.unresolved_is_latest hmem hu) hu

/-- A run with an open attempt is open. -/
theorem RunSnapshot.Invariant.open_of_unresolved (hs : s.Invariant) (hmem : attempt ∈ s.attempts)
    (hu : attempt.status.unresolved) : s.status = attempt.status.runStatus := by
  have hadmits := hs.status
  rw [hs.unresolved_is_latest hmem hu, Option.map_some] at hadmits
  cases hstatus : s.status <;> cases hattempt : attempt.status <;>
    simp_all [RunStatus.admits, AttemptStatus.runStatus] <;> revert hu <;> decide

theorem runStatus_open {status : AttemptStatus} (h : status.unresolved) :
    status.runStatus ∉ terminalRunStatuses := by
  cases status <;> revert h <;> decide

/-- The event of the ending settles the open attempt. -/
theorem Carries.settles (h : Carries p e ending.attemptType (some attempt.attemptId) parsed)
    (hs : s.Invariant) (hf : Follows s e) (ha : ActiveAttempt s attempt)
    (hallowed : attempt.status ∈ ending.allowed) (hhints : ending.Hints parsed hint)
    (hrequested : ending = .cancelled →
      s.cancellationRequested = true ∨ attempt.cancellationRequested = true) :
    p.apply (some s) e =
      .ok (some (stamped (movedRun s attempt e ending.attemptStatus hint) e)) := by
  have hmem := List.mem_of_find?_eq_some ha.found
  have hopen : s.status ∉ terminalRunStatuses := by
    rw [hs.open_of_unresolved hmem ha.unresolved]
    exact runStatus_open ha.unresolved
  refine h.moves hs hf hopen ha (by cases ending <;> decide) hhints.isSome ?_
  cases ending with
  | succeeded =>
    obtain rfl : hint = none := hhints
    exact transitionAttempt_eq hallowed (by decide)
  | failed =>
    obtain ⟨reason, given, rfl, rfl⟩ := hhints
    exact transitionAttempt_eq hallowed (by decide)
  | cancelled =>
    obtain rfl : hint = none := hhints
    exact (guardTransition_of (hrequested rfl)).trans (transitionAttempt_eq hallowed (by decide))

theorem findAttempt_moved (ha : ActiveAttempt s attempt) (status : AttemptStatus)
    (hint : Option RetryHint) :
    findAttempt (stamped (movedRun s attempt e status hint) e) attempt.attemptId =
      some (movedAttempt attempt e status hint) := by
  have hfound : s.attempts.find? (fun item => item.attemptId = attempt.attemptId) = some attempt :=
    ha.found
  have hmoved : (fun item : AttemptSnapshot => decide (item.attemptId = attempt.attemptId)) ∘
      (fun item => if item.attemptId = attempt.attemptId then movedAttempt attempt e status hint
        else item) = fun item => decide (item.attemptId = attempt.attemptId) := by
    funext item
    by_cases hitem : item.attemptId = attempt.attemptId <;> simp [hitem, movedAttempt]
  change (replaced s.attempts (movedAttempt attempt e status hint)).find? _ = _
  rw [replaced, List.find?_map]
  change Option.map _ (s.attempts.find? ((fun item : AttemptSnapshot =>
    decide (item.attemptId = attempt.attemptId)) ∘ fun item => if item.attemptId = attempt.attemptId
      then movedAttempt attempt e status hint else item)) = _
  rw [hmoved, hfound]
  exact congrArg some (if_pos rfl)

/-- An attempt that has ended otherwise than by a failure is the latest one. -/
theorem RunSnapshot.Invariant.latest_of_not_failed (hs : s.Invariant) (hmem : attempt ∈ s.attempts)
    (hstatus : attempt.status ≠ .failed) : s.attempts.getLast? = some attempt := by
  rcases List.eq_nil_or_concat s.attempts with hnil | ⟨earlier, latest, heq⟩
  · rw [hnil] at hmem
    cases hmem
  · rw [List.concat_eq_append] at heq
    rw [heq] at hmem ⊢
    rcases List.mem_append.mp hmem with hmem | hmem
    · have hfailed := RetryLink.dropLast_failed hs.linked.chain attempt (by simpa [heq] using hmem)
      exact absurd hfailed hstatus
    · simp [List.mem_singleton.mp hmem]

theorem latestSettledAs_of_latest (hs : s.Invariant) (hl : s.attempts.getLast? = some attempt)
    (hterminal : attempt.status ∈ terminalAttemptStatuses) :
    latestSettledAs s attempt.status := by
  have hsettled : ¬ attempt.status.unresolved := by
    intro hu
    exact not_terminal_of_unresolved hu hterminal
  refine ⟨by simp [latestAttempt, hl], ?_⟩
  rw [unresolvedAttempt, hs.unresolved, hl]
  simp [Option.filter, hsettled]

/-! The run. -/

/-- The event of the ending closes a run whose latest attempt has ended so. -/
theorem Carries.closes (h : Carries p e ending.runType none parsed) (hs : s.Invariant)
    (hf : Follows s e) (ht : s.status ∉ terminalRunStatuses)
    (hsettled : latestSettledAs s ending.attemptStatus)
    (hrequested : ending = .cancelled → s.cancellationRequested = true) :
    p.apply (some s) e =
      .ok (some (stamped { s with status := ending.runStatus, activeAttemptId := none } e)) := by
  have hlatest : ending = .cancelled → ∀ latest ∈ latestAttempt s, latest.status = .cancelled := by
    rintro rfl latest hlatest
    have hstatus := hsettled.1
    rw [hlatest] at hstatus
    exact Option.some.inj hstatus
  have hcloses : Closes s ending.runStatus := by
    cases ending with
    | succeeded => exact .completed hsettled
    | failed => exact .failed hsettled
    | cancelled => exact .cancelled (hrequested rfl) hsettled.2 (hlatest rfl)
  refine h.apply hs hf ht (by cases ending <;> decide) (.closed ht hcloses) ?_
  cases ending with
  | succeeded => exact guardTransition_of hsettled
  | failed => exact guardTransition_of hsettled
  | cancelled =>
    change applyRunCancelled s e = _
    rw [applyRunCancelled, guardTransition_of (hrequested rfl), guardTransition_of hsettled.2,
      guardTransition_of (hlatest rfl)]
    rfl

/-- A run is not cancelled without a request on the run. -/
theorem RunSnapshot.Invariant.requested_of_cancelled (hs : s.Invariant)
    (h : s.status = .cancelled) : s.cancellationRequested = true := by
  have hadmits := hs.status
  rw [h] at hadmits
  exact hadmits.1

/-- `run.cancelled` is refused for a run that was not asked to be cancelled. -/
theorem cancelled_refused {state : Option RunSnapshot} (hs : s.cancellationRequested = false)
    (hb : belongs e p.projectId p.runId = true)
    (hl : ResearchEvent.lifecycleType? e = some .runCancelled) :
    p.apply (some s) e ≠ .ok state := by
  intro h
  simp only [RunStateProjection.apply, if_pos hb, hl] at h
  cases hlifecycle : RunStateProjection.applyLifecycle .runCancelled (some s) e with
  | error error =>
    rw [hlifecycle] at h
    cases h
  | ok next =>
    simp only [RunStateProjection.applyLifecycle] at hlifecycle
    obtain ⟨_, -, hlifecycle⟩ := Fold.bind_eq_ok.mp hlifecycle
    obtain ⟨payload, -, hlifecycle⟩ := Fold.bind_eq_ok.mp hlifecycle
    obtain ⟨_, -, hlifecycle⟩ := Fold.bind_eq_ok.mp hlifecycle
    rw [if_neg (by decide)] at hlifecycle
    obtain ⟨_, -, hlifecycle⟩ := Fold.bind_eq_ok.mp hlifecycle
    rw [if_pos (by decide)] at hlifecycle
    obtain ⟨_, hguard, -⟩ := Fold.bind_eq_ok.mp hlifecycle
    simp [guardTransition, hs, transitionError] at hguard

/-- The outcome of the latest attempt of a run that is not open. -/
theorem RunSnapshot.Invariant.status_of_latest (hs : s.Invariant)
    (hl : s.attempts.getLast? = some attempt) (hstatus : attempt.status = ending.attemptStatus) :
    s.status = ending.attemptStatus.runStatus ∨ s.status = ending.runStatus := by
  have hadmits := hs.status
  rw [hl, Option.map_some, hstatus] at hadmits
  cases ending <;> cases hrun : s.status <;>
    simp_all [RunStatus.admits, Ending.attemptStatus, Ending.runStatus, AttemptStatus.runStatus]

/-! The append of a draft to a run that is open. -/

/-- A draft that the log has room for, for the run of a snapshot of the log. -/
structure Placeable (p : RunStateProjection) (log : EventLog) (s : RunSnapshot)
    (draft : LifecycleDraft) : Prop where
  project : draft.projectId = p.projectId
  run : draft.runId = p.runId
  revision : draft.experimentRevision = s.experimentRevision.val
  valid : ∃ event, validateEventDocument (.obj (assigned draft.members Storage.firstSequence
    Storage.firstStreamVersion)) = some event
  fresh : ∀ earlier ∈ log, earlier.id.val ≠ draft.eventId
  room : log.length < cloudEventsIntegerMax

/-- The events of a log stand before its end. -/
def Within (log : EventLog) : Prop := ∀ event ∈ log, event.sequence.val ≤ log.length

theorem fold_cursor {log : EventLog} (hwithin : Within log) (h : p.fold log = .ok (some s)) :
    s.lastSequence.val ≤ log.length := by
  suffices hall : ∀ t ∈ some s, RunSnapshot.Invariant t ∧ t.lastSequence.val ≤ log.length from
    (hall s rfl).2
  refine Fold.foldlM_invariant_of
    (P := fun state => ∀ s ∈ state, RunSnapshot.Invariant s ∧ s.lastSequence.val ≤ log.length)
    ?_ hwithin (by simp) h
  intro state e state' he hstate happly s hs
  have hinvariant := fun s hs => (hstate s hs).1
  have hreply := apply_reply (p := p) (e := e) hinvariant
  rw [happly] at hreply
  refine ⟨hreply.invariant hinvariant s hs, ?_⟩
  cases hreply with
  | foreign _ => exact (hstate s hs).2
  | unqueued => cases hs
  | opened payload _ _ =>
    obtain rfl := Option.some.inj hs
    exact he
  | moved _ _ _ =>
    obtain rfl := Option.some.inj hs
    exact he

theorem Placeable.appends {log : EventLog} {draft : LifecycleDraft}
    (h : Placeable p log s draft) (hwithin : Within log) (hfold : p.fold log = .ok (some s))
    (henvelope : draft.attemptId = none ↔ draft.eventType ∈ LifecycleType.runTypes)
    (hparse : payloadModel draft.eventType (.obj (Json.ofPairs draft.payload)) = some parsed) :
    ∃ stored, draft.Says stored ∧ Carries p stored draft.eventType draft.attemptId parsed ∧
      Follows s stored ∧ Within (log ++ [stored]) ∧
      ∀ next, p.apply (some s) stored = .ok (some next) →
        appendAlone p log ⟨draft.document, none⟩ = .ok ⟨stored, next⟩ := by
  obtain ⟨event, hvalid⟩ := h.valid
  obtain ⟨stored, hsaid, hsequence, happend⟩ :=
    appendAlone_draft h.project h.run hvalid hfold h.fresh h.room
  have hbound := fold_bound hfold s rfl
  have hcursor := fold_cursor hwithin hfold
  refine ⟨stored, hsaid, hsaid.carries h.project h.run henvelope hparse, ?_, ?_, happend⟩
  · refine ⟨by omega, ?_, ?_, ?_⟩
    · exact Subtype.ext (hsaid.experimentRevision.trans h.revision)
    · rw [hsaid.projectId, h.project, hbound.1]
    · rw [hsaid.runId, h.run, hbound.2]
  · intro event hevent
    rw [List.length_append, List.length_singleton]
    rcases List.mem_append.mp hevent with hevent | hevent
    · exact Nat.le_succ_of_le (hwithin event hevent)
    · rw [List.mem_singleton.mp hevent, hsequence]

end ResearchOs.Runs
