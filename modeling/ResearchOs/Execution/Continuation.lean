import ResearchOs.Execution.Progress
import ResearchOs.Core.Runs.Start

/-! The remaining path of a simulated run is accepted to its end. -/
namespace ResearchOs.Execution

open Runs

/-- The snapshot is as far as the progress says. -/
inductive Shows : Option RunSnapshot → Progress → Prop
  | absent : Shows none .absent
  | queued {s : RunSnapshot} (h : s.status = .queued) (hattempts : s.attempts = []) :
      Shows (some s) (.queued s.cancellationRequested)
  | started {s : RunSnapshot} (h : s.status = .running) (hattempts : s.attempts = []) :
      Shows (some s) (.started s.cancellationRequested)
  | attempted {s : RunSnapshot} {attempt : AttemptSnapshot}
      (h : s.status = attempt.status.runStatus) (hattempts : s.attempts = [attempt]) :
      Shows (some s)
        (.attempted attempt.status attempt.cancellationRequested s.cancellationRequested)
  | closed {s : RunSnapshot} {ending : Ending} (h : s.status = ending.runStatus) :
      Shows (some s) (.closed ending)

variable {p : RunStateProjection} {s t : RunSnapshot} {state : Option RunSnapshot}
  {e : ResearchEvent} {progress next last : Progress} {type : LifecycleType}
  {path : List LifecycleType} {outcome : SimulatedOutcome} {request : SimulationRequest}
  {run : RunBinding} {planned : PlannedRun} {identity : SimulationEventIdentity}
  {attempt : AttemptSnapshot}

theorem exists_shows (hs : ∀ s ∈ state, s.Invariant) (hone : ∀ s ∈ state, s.attempts.length ≤ 1) :
    ∃ progress, Shows state progress := by
  cases state with
  | none => exact ⟨_, .absent⟩
  | some s =>
    have hadmits := (hs s rfl).status
    have hlength := hone s rfl
    cases hattempts : s.attempts with
    | nil =>
      rw [hattempts] at hadmits
      cases hstatus : s.status with
      | queued => exact ⟨_, .queued hstatus hattempts⟩
      | running => exact ⟨_, .started hstatus hattempts⟩
      | cancelled => exact ⟨_, .closed (show _ = Ending.cancelled.runStatus from hstatus)⟩
      | _ =>
        rw [hstatus] at hadmits
        cases hadmits
    | cons attempt rest =>
      obtain rfl : rest = [] := by
        rw [hattempts, List.length_cons] at hlength
        exact List.length_eq_zero_iff.mp (by omega)
      rw [hattempts] at hadmits
      cases hstatus : s.status with
      | completed => exact ⟨_, .closed (show _ = Ending.succeeded.runStatus from hstatus)⟩
      | failed => exact ⟨_, .closed (show _ = Ending.failed.runStatus from hstatus)⟩
      | cancelled => exact ⟨_, .closed (show _ = Ending.cancelled.runStatus from hstatus)⟩
      | queued =>
        rw [hstatus] at hadmits
        cases hadmits
      | running =>
        rw [hstatus] at hadmits
        exact ⟨_, .attempted (hstatus.trans (hadmits _ rfl).symm) hattempts⟩
      | _ =>
        rw [hstatus] at hadmits
        have hattempt : attempt.status = _ := Option.some.inj hadmits
        exact ⟨_, .attempted (hstatus.trans (by rw [hattempt]; rfl)) hattempts⟩

/-! What the simulation reads off a snapshot. -/

theorem activeAttempt_none (hattempts : s.attempts = []) :
    activeAttempt s = none := by
  simp [activeAttempt, hattempts]

theorem activeAttempt_single (hs : s.Invariant) (hattempts : s.attempts = [attempt]) :
    activeAttempt s = if attempt.status.unresolved then some attempt else none := by
  have hactive := hs.active
  rw [hattempts] at hactive
  by_cases hu : attempt.status.unresolved
  · simp [activeAttempt, hattempts, hactive, hu, Option.filter]
  · simp [activeAttempt, hattempts, hactive, hu, Option.filter]

theorem resumeOutcome_eq {emitted : List LifecycleType} (h : emittedTypes s = .ok emitted) :
    (resumeOutcome s outcome).toOption.map Prod.fst =
      if emitted = (pathForOutcome outcome).take emitted.length then
        some ((pathForOutcome outcome).drop emitted.length) else none := by
  simp only [resumeOutcome, h, bind, Except.bind]
  by_cases hprefix : emitted = (pathForOutcome outcome).take emitted.length
  · rw [if_neg (not_not.mpr hprefix), if_pos hprefix]
    split_ifs with hnil
    · rw [hnil]
      rfl
    · rfl
  · rw [if_pos hprefix, if_neg hprefix]
    rfl


/-- An attempt that is still open is cancelled on a request, and goes on to the outcome
otherwise. -/
theorem continuation_of_open (hs : s.Invariant) (h : s.status = .running)
    (hattempts : s.attempts = [attempt])
    (hstatus : attempt.status = .queued ∨ attempt.status = .running)
    (outcome : SimulatedOutcome) :
    continuation (some s) outcome =
      if attempt.cancellationRequested || s.cancellationRequested then
        .ok (.attemptCancelled :: if s.cancellationRequested then [.runCancelled] else [], none)
      else resumeOutcome s outcome := by
  have hactive : activeAttempt s = some attempt := by
    rw [activeAttempt_single hs hattempts]
    rcases hstatus with hstatus | hstatus <;> rw [hstatus] <;> rfl
  have hobserved : outcomeAlreadyObserved s = false := by
    rcases hstatus with hstatus | hstatus <;> simp [outcomeAlreadyObserved, hattempts, hstatus]
  have hactionable : cancellationActionable s =
      (attempt.cancellationRequested || s.cancellationRequested) := by
    rcases hstatus with hstatus | hstatus <;>
      simp [cancellationActionable, hactive, hattempts, hstatus, Bool.or_comm]
  simp only [continuation, h, hobserved, hactionable, Bool.not_false, Bool.true_and]
  by_cases hasked : (attempt.cancellationRequested || s.cancellationRequested) = true
  · have hopen : attempt.status ≠ .cancelled := by
      rcases hstatus with hstatus | hstatus <;> simp [hstatus]
    have hremaining : cancelRemaining s =
        .attemptCancelled :: if s.cancellationRequested then [.runCancelled] else [] := by
      have hany : s.cancellationRequested = true ∨ attempt.cancellationRequested = true := by
        simpa [or_comm] using hasked
      simp [cancelRemaining, hactive, hopen, hany]
    rw [if_pos hasked, if_pos hasked, hremaining, if_neg (List.cons_ne_nil _ _)]
  · rw [if_neg hasked, if_neg hasked]

/-- The continuation of a run is what its progress still needs. -/
theorem Shows.remaining (h : Shows state progress) (hs : ∀ s ∈ state, s.Invariant)
    (outcome : SimulatedOutcome) :
    (continuation state outcome).toOption.map Prod.fst = progress.remaining outcome := by
  cases h with
  | absent => rfl
  | @queued s h hattempts =>
    have hactive := activeAttempt_none hattempts
    cases hrequested : s.cancellationRequested with
    | true =>
      simp [continuation, h, outcomeAlreadyObserved, cancellationActionable, cancelRemaining,
        hattempts, hactive, hrequested, Except.toOption, Progress.remaining]
    | false =>
      have hemitted : emittedTypes s = .ok [.runQueued] := by simp [emittedTypes, h]
      simp only [continuation, h, outcomeAlreadyObserved, cancellationActionable, hattempts,
        hactive, hrequested]
      change (resumeOutcome s outcome).toOption.map Prod.fst = _
      rw [resumeOutcome_eq hemitted]
      cases outcome <;> rfl
  | @started s h hattempts =>
    have hactive := activeAttempt_none hattempts
    cases hrequested : s.cancellationRequested with
    | true =>
      simp [continuation, h, outcomeAlreadyObserved, cancellationActionable, cancelRemaining,
        hattempts, hactive, hrequested, Except.toOption, Progress.remaining]
    | false =>
      have hemitted : emittedTypes s = .ok [.runQueued, .runStarted] := by
        simp [emittedTypes, h, hattempts]
      simp only [continuation, h, outcomeAlreadyObserved, cancellationActionable, hattempts,
        hactive, hrequested]
      change (resumeOutcome s outcome).toOption.map Prod.fst = _
      rw [resumeOutcome_eq hemitted]
      cases outcome <;> rfl
  | @attempted s attempt h hattempts =>
    cases hstatus : attempt.status with
    | queued =>
      rw [hstatus] at h
      have hemitted : emittedTypes s = .ok [.runQueued, .runStarted, .attemptQueued] := by
        simp only [emittedTypes, h, hattempts, hstatus]
        rfl
      rw [continuation_of_open (hs s rfl) h hattempts (.inl hstatus), Progress.remaining]
      split_ifs
      · rfl
      · rfl
      · rw [resumeOutcome_eq hemitted]
        cases outcome <;> rfl
    | running =>
      rw [hstatus] at h
      have hemitted : emittedTypes s =
          .ok [.runQueued, .runStarted, .attemptQueued, .attemptStarted] := by
        simp only [emittedTypes, h, hattempts, hstatus]
        rfl
      rw [continuation_of_open (hs s rfl) h hattempts (.inr hstatus), Progress.remaining]
      split_ifs
      · rfl
      · rfl
      · rw [resumeOutcome_eq hemitted]
        cases outcome <;> rfl
    | lost =>
      rw [hstatus] at h
      simp [continuation, h, AttemptStatus.runStatus, Except.toOption, Progress.remaining]
    | unknown =>
      rw [hstatus] at h
      simp [continuation, h, AttemptStatus.runStatus, Except.toOption, Progress.remaining]
    | succeeded =>
      rw [hstatus] at h
      have hobserved : outcomeAlreadyObserved s = true := by
        simp [outcomeAlreadyObserved, hattempts, hstatus]
      have hemitted : emittedTypes s = .ok [.runQueued, .runStarted, .attemptQueued,
          .attemptStarted, .attemptSucceeded] := by
        simp only [emittedTypes, h, hattempts, hstatus]
        rfl
      simp only [continuation, h, hobserved]
      change (resumeOutcome s outcome).toOption.map Prod.fst = _
      rw [resumeOutcome_eq hemitted]
      cases outcome <;> rfl
    | failed =>
      rw [hstatus] at h
      have hobserved : outcomeAlreadyObserved s = true := by
        simp [outcomeAlreadyObserved, hattempts, hstatus]
      have hemitted : emittedTypes s = .ok [.runQueued, .runStarted, .attemptQueued,
          .attemptStarted, .attemptFailed] := by
        simp only [emittedTypes, h, hattempts, hstatus]
        rfl
      simp only [continuation, h, hobserved]
      change (resumeOutcome s outcome).toOption.map Prod.fst = _
      rw [resumeOutcome_eq hemitted]
      cases outcome <;> rfl
    | cancelled =>
      rw [hstatus] at h
      have hactive : activeAttempt s = none := by
        rw [activeAttempt_single (hs s rfl) hattempts, hstatus]
        rfl
      cases hrequested : s.cancellationRequested <;>
        simp [continuation, h, AttemptStatus.runStatus, outcomeAlreadyObserved,
          cancellationActionable, cancelRemaining, hattempts, hstatus, hactive, hrequested,
          Except.toOption, Progress.remaining]
  | @closed s ending h =>
    cases ending <;> simp [continuation, h, Ending.runStatus, Except.toOption, Progress.remaining]


/-! What the event of a remaining draft says. -/

/-- The request is for the run of the projection, at the revision and for the attempt of the
snapshot. -/
structure Matches (p : RunStateProjection) (state : Option RunSnapshot)
    (request : SimulationRequest) (run : RunBinding) : Prop where
  projectId : run.projectId = p.projectId
  runId : run.runId = p.runId
  revision : ∀ s ∈ state, s.experimentRevision = run.experimentRevision
  attemptId : ∀ s ∈ state, ∀ attempt ∈ s.attempts, attempt.attemptId = request.attemptId

/-- A run that passes the check of the runtime fits its request. -/
theorem matches_of_requireMatchingRun (hs : s.Invariant) (hb : p.Bound s) (hrun : run.runId = p.runId)
    (h : requireMatchingRun s run planned request.attemptId = .ok ()) :
    Matches p (some s) request run ∧ s.maxAttempts.val = maxAttempts := by
  simp only [requireMatchingRun, requireMatch_bind_eq_ok] at h
  obtain ⟨hproject, hrevision, -, -, -, -, -, -, h⟩ := h
  split at h
  · cases h
  simp only [requireMatch_bind_eq_ok, requireMatch_eq_ok] at h
  obtain ⟨-, -, hmax, hattempt⟩ := h
  have hbudget := hs.budget
  rw [hmax] at hbudget
  refine ⟨⟨hproject.symm.trans hb.1, hrun, ?_, ?_⟩, hmax⟩
  · rintro t ⟨⟩
    exact hrevision
  · rintro t ⟨⟩ attempt hmem
    cases hattempts : s.attempts with
    | nil =>
      rw [hattempts] at hmem
      cases hmem
    | cons first rest =>
      obtain rfl : rest = [] := by
        rw [hattempts, List.length_cons] at hbudget
        exact List.length_eq_zero_iff.mp (Nat.le_zero.mp (Nat.le_of_succ_le_succ hbudget))
      rw [hattempts, List.mem_singleton] at hmem
      rw [hmem]
      exact hattempt first (by rw [hattempts]; rfl)

/-- The payload of `run.queued`, as the projection reads it. -/
def PlannedRun.payload (planned : PlannedRun) : RunQueuedPayload where
  workflowId := planned.workflowId
  specDigest := planned.specDigest
  registryDigest := planned.registryDigest
  planDigest := planned.planDigest
  decisionDigest := some planned.decisionDigest
  authorizationEventId := some planned.authorizationEventId
  authorizationSequence := some planned.authorizationSequence
  maxAttempts := ⟨maxAttempts, by decide⟩
  authorizationCitationIsComplete := rfl

theorem validate_runQueued (planned : PlannedRun) :
    RunQueuedPayload.validate (.obj (Json.ofPairs (payloadFor .runQueued planned))) =
      some planned.payload := by
  have hlookup := fun key => Json.lookup_ofPairs key (payloadFor .runQueued planned)
  have hkeys : (Json.ofPairs (payloadFor .runQueued planned)).all (fun member =>
      ["workflowId", "specDigest", "registryDigest", "planDigest", "decisionDigest",
        "authorizationEventId", "authorizationSequence", "maxAttempts"].contains member.1) = true := by
    apply List.all_eq_true.mpr
    intro member hmember
    have hpair := Json.mem_ofPairs hmember
    simp only [payloadFor, List.mem_cons, List.not_mem_nil, or_false] at hpair
    rcases hpair with rfl | rfl | rfl | rfl | rfl | rfl | rfl | rfl <;> rfl
  unfold RunQueuedPayload.validate Strict.identifier Strict.cloudEventsString
  rw [Strict.closed_bind hkeys,
    Strict.required_bind (hlookup "workflowId") (Strict.text_str planned.workflowId),
    Strict.required_bind (hlookup "specDigest") (Strict.text_str planned.specDigest),
    Strict.required_bind (hlookup "registryDigest") (Strict.text_str planned.registryDigest),
    Strict.required_bind (hlookup "planDigest") (Strict.text_str planned.planDigest),
    Strict.omittable_bind (o := some planned.decisionDigest) (fun digest => .str digest.val)
      (hlookup "decisionDigest") (fun digest _ => Strict.text_str digest),
    Strict.omittable_bind (o := some planned.authorizationEventId) (fun id => .str id.val)
      (hlookup "authorizationEventId") (fun id _ => Strict.text_str id),
    Strict.omittable_bind (o := some planned.authorizationSequence)
      (fun sequence => .str (sequenceText sequence)) (hlookup "authorizationSequence")
      (fun sequence _ => sequenceInteger_sequenceText sequence),
    Strict.required_bind (hlookup "maxAttempts") (Strict.natural_int ⟨maxAttempts, by decide⟩)]
  rfl


def failureReason : EventIdentifier := ⟨"simulation.outcome.failure", by decide⟩

def unknownReason : EventIdentifier := ⟨"simulation.outcome.unknown", by decide⟩

/-- The payload of a remaining event, as the projection reads it. -/
def parsedFor (type : LifecycleType) (planned : PlannedRun) : LifecyclePayload :=
  match type with
  | .runQueued => .runQueued planned.payload
  | .attemptQueued => .attemptQueued firstAttempt
  | .attemptFailed => .attemptFailed failureReason .notRetryable
  | .runFailed => .reasonCode failureReason
  | .attemptUnknown => .reasonCode unknownReason
  | _ => .empty

/-- The types that a path can hold. -/
def simulatedTypes : List LifecycleType :=
  [.runQueued, .runStarted, .runCompleted, .runFailed, .runCancelled] ++ attemptTypes

theorem Progress.Step.mem_simulatedTypes (h : Progress.Step progress type next) :
    type ∈ simulatedTypes := by
  cases h with
  | settles ending _ _ => cases ending <;> decide
  | closes ending _ => cases ending <;> decide
  | _ => decide

theorem payloadModel_payloadFor (planned : PlannedRun) (h : type ∈ simulatedTypes) :
    payloadModel type (.obj (Json.ofPairs (payloadFor type planned))) =
      some (parsedFor type planned) := by
  cases type with
  | runQueued =>
    change (RunQueuedPayload.validate _).map _ = _
    rw [validate_runQueued]
    rfl
  | attemptQueued => rfl
  | attemptFailed => rfl
  | runFailed => rfl
  | attemptUnknown => rfl
  | runCancelRequested => exact absurd h (by decide)
  | runReviewed => exact absurd h (by decide)
  | attemptHeartbeat => exact absurd h (by decide)
  | attemptCancelRequested => exact absurd h (by decide)
  | attemptLost => exact absurd h (by decide)
  | attemptRecovered => exact absurd h (by decide)
  | _ => rfl

/-- The event of a remaining draft is a well-formed lifecycle event of the run. -/
theorem Matches.carries (hm : Matches p state request run) (htype : type ∈ simulatedTypes)
    (htold : (simulatedDraft request run planned type identity).Says e) :
    Carries p e type (if type ∈ attemptTypes then some request.attemptId else none)
      (parsedFor type planned) := by
  refine htold.carries hm.projectId hm.runId ?_ (payloadModel_payloadFor planned htype)
  have henvelope : ∀ type ∈ simulatedTypes,
      (type ∉ attemptTypes ↔ type ∈ LifecycleType.runTypes) := by decide
  change (if type ∈ attemptTypes then some request.attemptId else none) = none ↔
    type ∈ LifecycleType.runTypes
  rw [← henvelope type htype]
  by_cases hattempt : type ∈ attemptTypes <;> simp [hattempt]

theorem Matches.follows (hm : Matches p (some s) request run) (hb : p.Bound s)
    (htold : (simulatedDraft request run planned type identity).Says e)
    (hbehind : s.lastSequence.val < e.sequence.val) : Follows s e where
  cursor := hbehind
  revision := by
    rw [hm.revision s rfl]
    exact Subtype.ext htold.experimentRevision
  projectId := by rw [htold.projectId, hb.1, ← hm.projectId]; rfl
  runId := by rw [htold.runId, hb.2, ← hm.runId]; rfl


/-! One step of the lifecycle is one accepted event. -/

theorem Shows.of_absent (h : Shows state .absent) : state = none := by
  cases h
  rfl

theorem Shows.of_queued {requested : Bool} (h : Shows state (.queued requested)) :
    ∃ s, state = some s ∧ s.status = .queued ∧ s.attempts = [] ∧
      s.cancellationRequested = requested := by
  generalize hprogress : Progress.queued requested = progress at h
  cases h with
  | queued h hattempts =>
    injection hprogress with hrequested
    exact ⟨_, rfl, h, hattempts, hrequested.symm⟩
  | _ => cases hprogress

theorem Shows.of_started {requested : Bool} (h : Shows state (.started requested)) :
    ∃ s, state = some s ∧ s.status = .running ∧ s.attempts = [] ∧
      s.cancellationRequested = requested := by
  generalize hprogress : Progress.started requested = progress at h
  cases h with
  | started h hattempts =>
    injection hprogress with hrequested
    exact ⟨_, rfl, h, hattempts, hrequested.symm⟩
  | _ => cases hprogress

theorem Shows.of_attempted {status : AttemptStatus} {asked requested : Bool}
    (h : Shows state (.attempted status asked requested)) :
    ∃ s attempt, state = some s ∧ s.status = status.runStatus ∧ s.attempts = [attempt] ∧
      attempt.status = status ∧ attempt.cancellationRequested = asked ∧
      s.cancellationRequested = requested := by
  generalize hprogress : Progress.attempted status asked requested = progress at h
  cases h with
  | attempted h hattempts =>
    injection hprogress with hstatus hasked hrequested
    exact ⟨_, _, rfl, hstatus ▸ h, hattempts, hstatus.symm, hasked.symm, hrequested.symm⟩
  | _ => cases hprogress

/-- What the snapshot after an event has to do with the event and the request. -/
structure Reached (p : RunStateProjection) (request : SimulationRequest) (run : RunBinding)
    (e : ResearchEvent) (next : Progress) (t : RunSnapshot) : Prop where
  cursor : t.lastSequence = e.sequence
  fits : Matches p (some t) request run
  shows : Shows (some t) next

theorem Reached.of_run {u : RunSnapshot} (hm : Matches p (some s) request run)
    (hrevision : u.experimentRevision = s.experimentRevision) (hattempts : u.attempts = s.attempts)
    (h : Shows (some (stamped u e)) next) : Reached p request run e next (stamped u e) where
  cursor := rfl
  fits :=
    { projectId := hm.projectId
      runId := hm.runId
      revision := by
        rintro t ⟨⟩
        exact hrevision.trans (hm.revision s rfl)
      attemptId := by
        rintro t ⟨⟩ attempt hattempt
        refine hm.attemptId s rfl attempt ?_
        rw [← hattempts]
        exact hattempt }
  shows := h

theorem replaced_single {moved : AttemptSnapshot} (hid : moved.attemptId = attempt.attemptId) :
    replaced [attempt] moved = [moved] := by
  simp [replaced, hid]

theorem Reached.of_moved {status : AttemptStatus} {hint : Option RetryHint}
    (hm : Matches p (some s) request run) (hattempts : s.attempts = [attempt]) :
    Reached p request run e (.attempted status attempt.cancellationRequested s.cancellationRequested)
      (stamped (movedRun s attempt e status hint) e) := by
  have hmoved : (movedRun s attempt e status hint).attempts =
      [movedAttempt attempt e status hint] := by
    change replaced s.attempts (movedAttempt attempt e status hint) = _
    rw [hattempts]
    exact replaced_single rfl
  refine ⟨rfl, ⟨hm.projectId, hm.runId, ?_, ?_⟩, ?_⟩
  · rintro t ⟨⟩
    exact hm.revision s rfl
  · rintro t ⟨⟩ found hfound
    rw [show (stamped (movedRun s attempt e status hint) e).attempts = _ from hmoved,
      List.mem_singleton] at hfound
    rw [hfound]
    exact hm.attemptId s rfl attempt (by rw [hattempts]; exact List.mem_singleton_self attempt)
  · exact .attempted (s := stamped (movedRun s attempt e status hint) e) rfl hmoved


/-- A run without an attempt is cancelled on a request. -/
theorem cancels_unattempted (hs : s.Invariant) (hf : Follows s e) (hm : Matches p (some s) request run)
    (hc : Carries p e .runCancelled none .empty) (ht : s.status ∉ terminalRunStatuses)
    (hattempts : s.attempts = []) (hrequested : s.cancellationRequested = true) :
    ∃ t, p.apply (some s) e = .ok (some t) ∧
      Reached p request run e (.closed .cancelled) t := by
  have hunresolved : unresolvedAttempt s = none := by
    simp [unresolvedAttempt, hattempts, unresolvedAttempts]
  have hlatest : ∀ latest ∈ latestAttempt s, latest.status = .cancelled := by
    simp [latestAttempt, hattempts]
  have hhandler : applyRunCancelled s e =
      stamp { s with status := .cancelled, activeAttemptId := none } e := by
    rw [applyRunCancelled, guardTransition_of hrequested, guardTransition_of hunresolved,
      guardTransition_of hlatest]
  have hupdate := Update.closed (e := e) ht (.cancelled hrequested hunresolved hlatest)
  exact ⟨_, hc.apply hs hf ht (by decide) hupdate hhandler,
    .of_run hm rfl rfl (.closed rfl)⟩

theorem activeAttempt_of_single (hs : s.Invariant) (hattempts : s.attempts = [attempt])
    (hu : attempt.status.unresolved) : ActiveAttempt s attempt :=
  activeAttempt_of_unresolved hs (by rw [hattempts]; rfl) hu

theorem Matches.attemptId_single (hm : Matches p (some s) request run)
    (hattempts : s.attempts = [attempt]) : attempt.attemptId = request.attemptId :=
  hm.attemptId s rfl attempt (by rw [hattempts]; exact List.mem_singleton_self attempt)

/-- The event of a step is accepted, and its snapshot is one step further. -/
theorem Shows.step (h : Shows state progress) (hs : ∀ s ∈ state, s.Invariant)
    (hb : ∀ s ∈ state, p.Bound s) (hm : Matches p state request run)
    (hstep : Progress.Step progress type next)
    (htold : (simulatedDraft request run planned type identity).Says e)
    (hbehind : ∀ s ∈ state, s.lastSequence.val < e.sequence.val) :
    ∃ t, p.apply state e = .ok (some t) ∧ Reached p request run e next t := by
  have hcarries := hm.carries hstep.mem_simulatedTypes htold
  cases hstep with
  | runQueued =>
    obtain rfl := h.of_absent
    have hopens : Carries p e .runQueued none (.runQueued planned.payload) := hcarries
    refine ⟨_, hopens.opens, rfl, ⟨hm.projectId, hm.runId, ?_, ?_⟩, .queued rfl rfl⟩
    · rintro t ⟨⟩
      exact Subtype.ext htold.experimentRevision
    · rintro t ⟨⟩ attempt hattempt
      cases hattempt
  | runStarted =>
    obtain ⟨s, rfl, hstatus, hattempts, rfl⟩ := h.of_queued
    have hfollows := hm.follows (hb s rfl) htold (hbehind s rfl)
    have hopen : s.status ∉ terminalRunStatuses := by rw [hstatus]; decide
    have happly := hcarries.apply (hs s rfl) hfollows hopen (by decide) (.started hstatus)
      (guardTransition_of hstatus)
    exact ⟨_, happly, .of_run hm rfl rfl (.started rfl hattempts)⟩
  | attemptQueued =>
    obtain ⟨s, rfl, hstatus, hattempts, hcancel⟩ := h.of_started
    have hfollows := hm.follows (hb s rfl) htold (hbehind s rfl)
    have hopen : s.status ∉ terminalRunStatuses := by rw [hstatus]; decide
    have hqueues := @queues_first request.attemptId _ e hstatus hcancel hattempts
    have hhandler := applyAttemptEvent_first hstatus hcancel hattempts hcarries.attempt
    have happly := hcarries.apply (hs s rfl) hfollows hopen (by decide)
      (.attemptQueued _ hopen hqueues) ((if_neg (by decide)).trans hhandler)
    refine ⟨_, happly, rfl, ⟨hm.projectId, hm.runId, ?_, ?_⟩, ?_⟩
    · rintro t ⟨⟩
      exact hm.revision s rfl
    · rintro t ⟨⟩ attempt hattempt
      change attempt ∈ s.attempts ++ [_] at hattempt
      rw [hattempts, List.nil_append, List.mem_singleton] at hattempt
      rw [hattempt]
      rfl
    · have hqueued : s.attempts ++ [queuedAttempt e firstAttempt request.attemptId] =
          [queuedAttempt e firstAttempt request.attemptId] := by
        rw [hattempts, List.nil_append]
      nth_rewrite 2 [← hcancel]
      exact .attempted (s := stamped { s with
        status := .running
        activeAttemptId := some request.attemptId
        attempts := s.attempts ++ [queuedAttempt e firstAttempt request.attemptId] } e) rfl hqueued
  | @attemptStarted asked requested =>
    obtain ⟨s, attempt, rfl, hstatus, hattempts, hattempt, rfl, rfl⟩ := h.of_attempted
    have hfollows := hm.follows (hb s rfl) htold (hbehind s rfl)
    have hopen : s.status ∉ terminalRunStatuses := by rw [hstatus]; decide
    have hactive := activeAttempt_of_single (hs s rfl) hattempts (by rw [hattempt]; decide)
    have hmoves : Carries p e .attemptStarted (some attempt.attemptId) .empty := by
      rw [hm.attemptId_single hattempts]
      exact hcarries
    have happly : p.apply (some s) e =
        .ok (some (stamped (movedRun s attempt e .running none) e)) :=
      hmoves.moves (hs s rfl) hfollows hopen hactive (by decide) (by decide)
        (transitionAttempt_eq (by rw [hattempt]; decide) (by decide))
    exact ⟨_, happly, .of_moved hm hattempts⟩
  | @attemptUnknown asked requested =>
    obtain ⟨s, attempt, rfl, hstatus, hattempts, hattempt, rfl, rfl⟩ := h.of_attempted
    have hfollows := hm.follows (hb s rfl) htold (hbehind s rfl)
    have hopen : s.status ∉ terminalRunStatuses := by rw [hstatus]; decide
    have hactive := activeAttempt_of_single (hs s rfl) hattempts (by rw [hattempt]; decide)
    have hmoves : Carries p e .attemptUnknown (some attempt.attemptId)
        (.reasonCode unknownReason) := by
      rw [hm.attemptId_single hattempts]
      exact hcarries
    have happly : p.apply (some s) e =
        .ok (some (stamped (movedRun s attempt e .unknown none) e)) :=
      hmoves.moves (hs s rfl) hfollows hopen hactive (by decide) (by decide)
        (transitionAttempt_eq (by rw [hattempt]; decide) (by decide))
    exact ⟨_, happly, .of_moved hm hattempts⟩
  | @settles status asked requested ending hallowed hrequested =>
    obtain ⟨s, attempt, rfl, hstatus, hattempts, hattempt, rfl, rfl⟩ := h.of_attempted
    have hfollows := hm.follows (hb s rfl) htold (hbehind s rfl)
    rw [← hattempt] at hallowed
    have hactive := activeAttempt_of_single (hs s rfl) hattempts (Ending.allowed_unresolved hallowed)
    have hsettles : Carries p e ending.attemptType (some attempt.attemptId)
        (parsedFor ending.attemptType planned) := by
      rw [hm.attemptId_single hattempts]
      cases ending <;> exact hcarries
    obtain ⟨hint, hhints⟩ : ∃ hint, ending.Hints (parsedFor ending.attemptType planned) hint := by
      cases ending with
      | succeeded => exact ⟨none, rfl⟩
      | failed => exact ⟨_, failureReason, .notRetryable, rfl, rfl⟩
      | cancelled => exact ⟨none, rfl⟩
    have happly := hsettles.settles (hs s rfl) hfollows hactive hallowed hhints hrequested
    exact ⟨_, happly, .of_moved hm hattempts⟩
  | @closes asked requested ending hrequested =>
    obtain ⟨s, attempt, rfl, hstatus, hattempts, hattempt, rfl, rfl⟩ := h.of_attempted
    have hfollows := hm.follows (hb s rfl) htold (hbehind s rfl)
    have hopen : s.status ∉ terminalRunStatuses := by rw [hstatus]; cases ending <;> decide
    have hterminal : attempt.status ∈ terminalAttemptStatuses := by
      rw [hattempt]
      exact ending.attemptStatus_terminal
    have hsettled := latestSettledAs_of_latest (hs s rfl) (by rw [hattempts]; rfl) hterminal
    rw [hattempt] at hsettled
    have hcloses : Carries p e ending.runType none (parsedFor ending.runType planned) := by
      cases ending <;> exact hcarries
    have happly := hcloses.closes (hs s rfl) hfollows hopen hsettled hrequested
    exact ⟨_, happly, .of_run hm rfl rfl (.closed rfl)⟩
  | queuedCancelled =>
    obtain ⟨s, rfl, hstatus, hattempts, hcancel⟩ := h.of_queued
    have hfollows := hm.follows (hb s rfl) htold (hbehind s rfl)
    have hopen : s.status ∉ terminalRunStatuses := by rw [hstatus]; decide
    exact cancels_unattempted (hs s rfl) hfollows hm hcarries hopen hattempts hcancel
  | startedCancelled =>
    obtain ⟨s, rfl, hstatus, hattempts, hcancel⟩ := h.of_started
    have hfollows := hm.follows (hb s rfl) htold (hbehind s rfl)
    have hopen : s.status ∉ terminalRunStatuses := by rw [hstatus]; decide
    exact cancels_unattempted (hs s rfl) hfollows hm hcarries hopen hattempts hcancel


/-- The events of a path, as the runtime appends them behind a snapshot. -/
structure Appended (state : Option RunSnapshot) (drafts : List LifecycleDraft)
    (events : List ResearchEvent) : Prop where
  recorded : List.Forall₂ LifecycleDraft.Says drafts events
  ordered : events.Pairwise fun e later => e.sequence.val < later.sequence.val
  behind : ∀ s ∈ state, ∀ e ∈ events, s.lastSequence.val < e.sequence.val

theorem says_of_remainingDrafts {drafts : List LifecycleDraft} {events : List ResearchEvent}
    (h : remainingDrafts path request run planned = .ok drafts)
    (htold : List.Forall₂ LifecycleDraft.Says drafts events) :
    List.Forall₂ (fun type e => ∃ identity,
      (simulatedDraft request run planned type identity).Says e) path events := by
  rw [remainingDrafts] at h
  split_ifs at h
  induction path generalizing drafts events with
  | nil =>
    cases h
    cases htold
    exact .nil
  | cons type path ih =>
    rw [List.mapM_cons] at h
    obtain ⟨draft, hdraft, h⟩ := Fold.bind_eq_ok.mp h
    obtain ⟨rest, hrest, h⟩ := Fold.bind_eq_ok.mp h
    cases h
    cases htold with
    | cons hfirst htold =>
      refine .cons ?_ (ih htold hrest)
      split at hdraft
      · cases hdraft
      · cases hdraft
        exact ⟨_, hfirst⟩

/-- The events of the steps are accepted one after another. -/
theorem Shows.steps {events : List ResearchEvent} (h : Shows state progress)
    (hs : ∀ s ∈ state, s.Invariant ∧ p.Bound s) (hm : Matches p state request run)
    (hsteps : Progress.Steps progress path last)
    (htold : List.Forall₂ (fun type e => ∃ identity,
      (simulatedDraft request run planned type identity).Says e) path events)
    (hordered : events.Pairwise fun e later => e.sequence.val < later.sequence.val)
    (hbehind : ∀ s ∈ state, ∀ e ∈ events, s.lastSequence.val < e.sequence.val) :
    ∃ final, events.foldlM p.apply state = .ok final ∧ Shows final last ∧
      ∀ s ∈ final, s.Invariant := by
  induction htold generalizing state progress with
  | nil =>
    obtain rfl : progress = last := hsteps
    exact ⟨state, rfl, h, fun s hmem => (hs s hmem).1⟩
  | @cons type e path events hfirst _ ih =>
    obtain ⟨next, hstep, hsteps⟩ := hsteps
    obtain ⟨identity, hsaid⟩ := hfirst
    obtain ⟨hahead, hordered⟩ := List.pairwise_cons.mp hordered
    obtain ⟨t, happly, hreached⟩ := h.step (fun s hmem => (hs s hmem).1)
      (fun s hmem => (hs s hmem).2) hm hstep hsaid
      (fun s hmem => hbehind s hmem e List.mem_cons_self)
    have hnext : ∀ s ∈ some t, ∀ later ∈ events, s.lastSequence.val < later.sequence.val := by
      rintro s ⟨⟩ later hlater
      rw [hreached.cursor]
      exact hahead later hlater
    obtain ⟨final, hfold, hshown, hfinal⟩ :=
      ih hreached.shows (apply_keeps hs happly) hreached.fits hsteps hordered hnext
    exact ⟨final, Fold.foldlM_cons_eq_ok.mpr ⟨some t, happly, hfold⟩, hshown, hfinal⟩

/-! The claim of the simulation on its runs. -/

theorem length_attempts_le {history : List ResearchEvent} (hfold : p.fold history = .ok state)
    (hmax : ∀ s ∈ state, s.maxAttempts.val = maxAttempts) : ∀ s ∈ state, s.attempts.length ≤ 1 := by
  intro s hs
  have hbudget := (fold_invariant hfold s hs).budget
  rw [hmax s hs] at hbudget
  exact hbudget

theorem Shows.status (h : Shows (some t) last) {status : RunStatus}
    (hstatus : last.status = some status) : t.status = status := by
  cases h with
  | queued h _ => exact h.trans (Option.some.inj hstatus)
  | started h _ => exact h.trans (Option.some.inj hstatus)
  | attempted h _ => exact h.trans (Option.some.inj hstatus)
  | closed h => exact h.trans (Option.some.inj hstatus)

theorem Shows.cancelling (h : Shows (some s) progress) (hopen : progress.remaining outcome ≠ some [])
    (hrequested : s.cancellationRequested = true)
    (hattempts : ∀ attempt ∈ s.attempts, attempt.status ≠ .succeeded ∧ attempt.status ≠ .failed) :
    progress.Cancelling := by
  cases h with
  | queued _ _ => exact hrequested
  | started _ _ => exact hrequested
  | attempted _ hsingle => exact ⟨hrequested, hattempts _ (by rw [hsingle]; exact List.mem_cons_self)⟩
  | closed _ => exact absurd rfl hopen

theorem Shows.undisturbed (h : Shows state progress)
    (hquiet : ∀ s ∈ state, s.cancellationRequested = false ∧
      ∀ attempt ∈ s.attempts, attempt.cancellationRequested = false) : progress.Undisturbed := by
  cases h with
  | absent => trivial
  | queued _ _ => exact (hquiet _ rfl).1
  | started _ _ => exact (hquiet _ rfl).1
  | attempted _ hsingle =>
    exact ⟨(hquiet _ rfl).2 _ (by rw [hsingle]; exact List.mem_cons_self), (hquiet _ rfl).1⟩
  | closed _ => trivial

theorem remaining_eq_some {result : Option SimulationDisposition}
    (h : Shows state progress) (hs : ∀ s ∈ state, s.Invariant)
    (hcontinuation : continuation state outcome = .ok (path, result)) :
    progress.remaining outcome = some path := by
  rw [← h.remaining hs outcome, hcontinuation]
  rfl

theorem continuation_of_remaining (h : Shows state progress) (hs : ∀ s ∈ state, s.Invariant)
    (hremaining : progress.remaining outcome = some path) :
    ∃ result, continuation state outcome = .ok (path, result) := by
  rw [← h.remaining hs outcome] at hremaining
  cases hresult : continuation state outcome with
  | error error =>
    rw [hresult] at hremaining
    cases hremaining
  | ok result =>
    rw [hresult] at hremaining
    exact ⟨result.2, congrArg Except.ok (Prod.ext (Option.some.inj hremaining) rfl)⟩


/-- Every event of the remaining path is accepted behind the snapshot. A path that is not empty
ends in a cancelled run when the run was asked to be cancelled before its attempt had an outcome,
and in the outcome when nobody asked for a cancellation; and nothing remains behind it. -/
theorem continuation_accepted (p : RunStateProjection) (history : List ResearchEvent)
    (state : Option RunSnapshot) (outcome : SimulatedOutcome) (path : List LifecycleType)
    (disposition : Option SimulationDisposition) (request : SimulationRequest) (run : RunBinding)
    (planned : PlannedRun) (drafts : List LifecycleDraft) (events : List ResearchEvent)
    (hfold : p.fold history = .ok state) (hmax : ∀ s ∈ state, s.maxAttempts.val = maxAttempts)
    (hcontinuation : continuation state outcome = .ok (path, disposition))
    (hmatches : Matches p state request run)
    (hdrafts : remainingDrafts path request run planned = .ok drafts)
    (happended : Appended state drafts events) :
    ∃ t, events.foldlM p.apply state = .ok (some t) ∧
      (path ≠ [] → (∃ s ∈ state, s.cancellationRequested = true ∧
        ∀ attempt ∈ s.attempts, attempt.status ≠ .succeeded ∧ attempt.status ≠ .failed) →
          t.status = .cancelled) ∧
      (path ≠ [] → (∀ s ∈ state, s.cancellationRequested = false ∧
        ∀ attempt ∈ s.attempts, attempt.cancellationRequested = false) →
          t.status = outcome.runStatus) ∧
      ∃ result, continuation (some t) outcome = .ok ([], result) := by
  have hinvariant := fold_invariant hfold
  have hkept := fun s hs => And.intro (hinvariant s hs) (fold_bound hfold s hs)
  obtain ⟨progress, hshows⟩ := exists_shows hinvariant (length_attempts_le hfold hmax)
  have hremaining := remaining_eq_some hshows hinvariant hcontinuation
  obtain ⟨last, hsteps, hlast⟩ := Progress.steps_of_remaining hremaining
  obtain ⟨final, hrun, hshown, hfinal⟩ := hshows.steps hkept hmatches hsteps
    (says_of_remainingDrafts hdrafts happended.recorded) happended.ordered happended.behind
  obtain ⟨t, rfl⟩ : ∃ t, final = some t := by
    cases hshown with
    | absent => cases outcome <;> cases hlast
    | _ => exact ⟨_, rfl⟩
  refine ⟨t, hrun, ?_, ?_, continuation_of_remaining hshown hfinal hlast⟩
  · rintro hne ⟨s, rfl, hrequested, hattempts⟩
    have hopen : progress.remaining outcome ≠ some [] := by
      rw [hremaining]
      exact fun hnil => hne (Option.some.inj hnil)
    exact hshown.status
      (hsteps.cancelled hremaining hne (hshows.cancelling hopen hrequested hattempts))
  · intro hne hquiet
    exact hshown.status (hsteps.reaches hremaining hne (hshows.undisturbed hquiet))


/-! A run whose attempt has started, and that goes on to success. -/

def trialRequest : SimulationRequest where
  attemptId := trialAttemptId
  source := "urn:researchos:run"
  subject := "run"
  streamId := "run-1"
  actorId := "run-control"
  events := [("attempt.succeeded", ⟨"event-5", "2026-01-01T00:00:00Z"⟩),
    ("run.completed", ⟨"event-6", "2026-01-01T00:00:01Z"⟩)]

def trialPlanned : PlannedRun where
  workflowId := ⟨"flow", .refl true⟩
  specDigest := ⟨startDigest, .refl true⟩
  registryDigest := ⟨startDigest, .refl true⟩
  planDigest := ⟨startDigest, .refl true⟩
  decisionDigest := ⟨startDigest, .refl true⟩
  authorizationEventId := ⟨"authorization", .refl true⟩
  authorizationSequence := ⟨1, .refl true⟩

def trialSucceeded : ResearchEvent :=
  { lifecycleEvent trialProjection.first ⟨5, .refl true⟩ .attemptSucceeded (some trialAttemptId) []
    with id := ⟨"event-5", .refl true⟩ }

def trialCompleted : ResearchEvent :=
  { lifecycleEvent trialProjection.first ⟨6, .refl true⟩ .runCompleted none []
    with id := ⟨"event-6", .refl true⟩ }

theorem continuation_accepted_success :
    ∃ state t, trialProjection.fold (startEvents trialProjection trialAttemptId) = .ok state ∧
      [trialSucceeded, trialCompleted].foldlM trialProjection.apply state = .ok (some t) ∧
      t.status = .completed := by
  obtain ⟨t, hfold, -, hcompleted, -⟩ := continuation_accepted trialProjection
    (startEvents trialProjection trialAttemptId) _ .success [.attemptSucceeded, .runCompleted] none
    trialRequest trialProjection.first trialPlanned _ [trialSucceeded, trialCompleted] rfl
    (by rintro s ⟨⟩; rfl) rfl
    ⟨rfl, rfl, by rintro s ⟨⟩; rfl, by rintro s ⟨⟩ attempt hattempt; cases hattempt with
      | head => rfl
      | tail _ h => cases h⟩ rfl
    ⟨.cons ⟨rfl, rfl, rfl, rfl, rfl, rfl, rfl, rfl⟩
      (.cons ⟨rfl, rfl, rfl, rfl, rfl, rfl, rfl, rfl⟩ .nil), by decide, by decide⟩
  exact ⟨_, t, rfl, hfold, hcompleted (by decide) (by decide)⟩

end ResearchOs.Execution
