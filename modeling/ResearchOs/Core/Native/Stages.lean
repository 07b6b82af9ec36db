import ResearchOs.Core.Native.Writes

/-! The stages of a report that is repeated until its run is closed. -/
namespace ResearchOs.Native

open JsonText (FloatText)
open Resume (InTurn)
open Runs (LifecycleType RunSnapshot AttemptSnapshot Ending Within payloadModel stamped movedRun
  movedAttempt)
open Storage (EventLog)
open Workers

theorem attemptFact_type (ending : Ending) : (attemptFact ending).type = ending.attemptType := by
  cases ending <;> rfl

theorem runFact_type (ending : Ending) : (runFact ending).type = ending.runType := by
  cases ending <;> rfl

theorem attemptFact_payload (ending : Ending) :
    ∃ parsed hint, payloadModel (attemptFact ending).type
        (.obj (Json.ofPairs (attemptFact ending).payload)) = some parsed ∧
      ending.Hints parsed hint := by
  cases ending with
  | succeeded => exact ⟨_, none, rfl, rfl⟩
  | failed => exact ⟨_, _, rfl, _, _, rfl, rfl⟩
  | cancelled => exact ⟨_, none, rfl, rfl⟩

theorem runFact_payload (ending : Ending) :
    ∃ parsed, payloadModel (runFact ending).type
      (.obj (Json.ofPairs (runFact ending).payload)) = some parsed := by
  cases ending <;> exact ⟨_, rfl⟩

theorem cancelFact_payload :
    ∃ parsed, payloadModel cancelFact.type (.obj (Json.ofPairs cancelFact.payload)) = some parsed :=
  ⟨_, rfl⟩

theorem types_apart (ending : Ending) : ending.attemptType ≠ ending.runType ∧
    LifecycleType.runCancelRequested ≠ ending.attemptType ∧
    LifecycleType.runCancelRequested ≠ ending.runType := by
  cases ending <;> decide

section

variable (F : FloatText) (contentDigest : Json → Option String) (context : NativeContext)
  (plane : WorkerPlane) (call : OutcomeCall) (grant : GrantRecord) (request : NativeRequest)

/-- A log that a report is checked against, with room for what it has still to append. -/
structure At (pending : List LifecycleType) (log : EventLog) (lease : LeaseRecord) (s : RunSnapshot)
    (attempt : AttemptSnapshot) : Prop where
  report : Report F contentDigest context plane call log ⟨lease, grant, request⟩ s attempt
  within : Within log
  free : ∀ type ∈ pending, ∀ earlier ∈ log, earlier.id.val ≠ request.remoteEventId type
  room : log.length + pending.length + (if lease.status = .leased then 1 else 0) ≤
    cloudEventsIntegerMax

end

/-- The facts that a report may append are valid events. -/
def FactsValid (request : NativeRequest) (ending : Ending) (visit : Visit) : Prop :=
  ∀ fact ∈ [cancelFact, attemptFact ending, runFact ending],
    Valid (request.draft request.remoteEventId visit.time fact).members

/-- So is the failure of the lease. -/
def FailureValid (plane : WorkerPlane) (call : OutcomeCall) (lease : LeaseRecord) (visit : Visit) :
    Prop :=
  ∀ reasonCode ∈ [taskFailed, Recovery.cancelObserved],
    Valid (workFailed plane call lease reasonCode visit.stamp).members

/-- The lease has failed as its observed cancellation. -/
def Observed (log : EventLog) (lease : LeaseRecord) : Prop :=
  lease.status = .failed ∧ lease.reasonCode.map Subtype.val = some Recovery.cancelObserved ∧
    (log.getEvent (failedEventId lease.leaseId.val)).isSome = true

/-- The lease is settled as the document says. -/
def Settled (context : NativeContext) (request : NativeRequest) (ending : Ending) (log : EventLog)
    (lease : LeaseRecord) (s : RunSnapshot) : Prop :=
  match ending with
  | .succeeded => lease.status = .completed ∧ context.output request lease = .ok ()
  | .failed => lease.status = .failed ∧ lease.reasonCode.map Subtype.val = some taskFailed
  | .cancelled => s.cancellationRequested = true ∧ Observed log lease

/-- The lease is still open, and its failure would be observed by the run. -/
structure Failable (plane : WorkerPlane) (log : EventLog) (lease : LeaseRecord) (s : RunSnapshot) :
    Prop where
  leased : lease.status = .leased
  free : ∀ earlier ∈ log, earlier.id.val ≠ failedEventId lease.leaseId.val
  revision : plane.experimentRevision = s.experimentRevision.val

section

variable {F : FloatText} {contentDigest : Json → Option String} {context : NativeContext}
  {plane : WorkerPlane} {call : OutcomeCall} {grant : GrantRecord} {request : NativeRequest}
  {pending : List LifecycleType} {log : EventLog} {lease : LeaseRecord} {s : RunSnapshot}
  {attempt : AttemptSnapshot} {fact : LifecycleFact} {ending : Ending}

/-- The first of the pending facts. -/
theorem At.record (h : At F contentDigest context plane call grant request (fact.type :: pending)
      log lease s attempt) (next : ResearchEvent → RunSnapshot)
    (moved : ResearchEvent → AttemptSnapshot) (hnew : fact.type ∉ pending) {time : String}
    (hvalid : Valid (request.draft request.remoteEventId time fact).members)
    {parsed : Runs.LifecyclePayload}
    (hparse : payloadModel fact.type (.obj (Json.ofPairs fact.payload)) = some parsed)
    (hnext : ∀ stored, Runs.Carries request.projection stored fact.type
        (if fact.type ∈ LifecycleType.attemptTypes then some attempt.attemptId else none) parsed →
      Runs.Follows s stored → request.projection.apply (some s) stored = .ok (some (next stored)))
    (hmoved : ∀ stored, (next stored).attempts = [moved stored] ∧
      (moved stored).attemptId = attempt.attemptId) :
    ∃ stored, appendBound request time fact log = .ok (some (log ++ [stored])) ∧
      stored.id.val = request.remoteEventId fact.type ∧ Has request (log ++ [stored]) fact ∧
      At F contentDigest context plane call grant request pending (log ++ [stored]) lease
        (next stored) (moved stored) := by
  have hroom := h.room
  rw [List.length_cons] at hroom
  obtain ⟨stored, happend, hid, hhas, hwithin, hreport⟩ := h.report.record h.within next moved hvalid
    (h.free fact.type List.mem_cons_self) (by omega) hparse hnext hmoved
  refine ⟨stored, happend, hid, hhas, hreport, hwithin, ?_, ?_⟩
  · intro type htype earlier hearlier
    rcases List.mem_append.mp hearlier with hearlier | hearlier
    · exact h.free type (List.mem_cons_of_mem _ htype) earlier hearlier
    · rw [List.mem_singleton.mp hearlier, hid]
      intro hsame
      apply hnew
      rw [remoteEventId_injective hsame]
      exact htype
  · rw [List.length_append, List.length_singleton]
    omega

/-- The failure of the lease. -/
theorem At.fail (h : At F contentDigest context plane call grant request pending log lease s attempt)
    (hfailable : Failable plane log lease s) {stamp : String} {reasonCode : EventIdentifier}
    (hvalid : Valid (workFailed plane call lease reasonCode.val stamp).members) :
    ∃ stored, appendWorker F plane (workFailed plane call lease reasonCode.val stamp) log =
        .ok (some (log ++ [stored])) ∧
      (Storage.EventLog.getEvent (log ++ [stored]) (failedEventId lease.leaseId.val)).isSome = true ∧
      At F contentDigest context plane call grant request pending (log ++ [stored])
        (lease.failed reasonCode) (stamped s stored) attempt := by
  have hroom := h.room
  rw [if_pos hfailable.leased] at hroom
  obtain ⟨stored, happend, hid, hwithin, hreport⟩ := h.report.fail h.within hvalid hfailable.free
    (by omega) hfailable.leased hfailable.revision
  refine ⟨stored, happend, ?_, hreport, hwithin, ?_, ?_⟩
  · have hnew : ∀ earlier ∈ log, earlier.id.val ≠ stored.id.val := by
      rw [hid]
      exact hfailable.free
    have hconcat := getEvent_concat hnew
    rw [hid] at hconcat
    rw [hconcat]
    rfl
  · intro type htype earlier hearlier
    rcases List.mem_append.mp hearlier with hearlier | hearlier
    · exact h.free type htype earlier hearlier
    · rw [List.mem_singleton.mp hearlier, hid]
      exact failedEventId_ne request lease.leaseId.val type
  · rw [List.length_append, List.length_singleton, if_neg (by simp [LeaseRecord.failed])]
    omega

/-- What the fact of the attempt leaves. -/
structure Ended (ending : Ending) (s t : RunSnapshot) (attempt ended : AttemptSnapshot) : Prop where
  status : ended.status = ending.attemptStatus
  runStatus : t.status = ending.attemptStatus.runStatus
  cancellation : t.cancellationRequested = s.cancellationRequested

theorem At.settle
    (h : At F contentDigest context plane call grant request [ending.attemptType, ending.runType] log
      lease s attempt) (hallowed : attempt.status ∈ ending.allowed)
    (hrequested : ending = .cancelled → s.cancellationRequested = true) {visit : Visit}
    (hvalid : FactsValid request ending visit) :
    ∃ later t ended, appendBound request visit.time (attemptFact ending) log = .ok (some later) ∧
      Has request later (attemptFact ending) ∧ log <+: later ∧ Ended ending s t attempt ended ∧
      At F contentDigest context plane call grant request [ending.runType] later lease t ended := by
  obtain ⟨parsed, hint, hparse, hhints⟩ := attemptFact_payload ending
  have hactive := Runs.activeAttempt_of_found h.report.invariant h.report.found
    (Ending.allowed_unresolved hallowed)
  have htypes : ending.attemptType ∈ LifecycleType.attemptTypes := by cases ending <;> decide
  rw [← attemptFact_type] at h htypes
  obtain ⟨stored, happend, -, hhas, hat⟩ := h.record
    (fun stored => stamped (movedRun s attempt stored ending.attemptStatus hint) stored)
    (fun stored => movedAttempt attempt stored ending.attemptStatus hint)
    (by
      rw [attemptFact_type, List.mem_singleton]
      exact (types_apart ending).1)
    (hvalid _ (by simp)) hparse
    (by
      intro stored hcarries hfollows
      rw [if_pos htypes, attemptFact_type] at hcarries
      exact hcarries.settles h.report.invariant hfollows hactive hallowed hhints
        (fun hcancelled => .inl (hrequested hcancelled)))
    (by
      intro stored
      simp [movedRun, Runs.replaced, movedAttempt, h.report.attempts, stamped])
  exact ⟨_, stamped (movedRun s attempt stored ending.attemptStatus hint) stored, _, happend, hhas,
    List.prefix_append _ _, ⟨rfl, rfl, rfl⟩, hat⟩

theorem At.close
    (h : At F contentDigest context plane call grant request [ending.runType] log lease s attempt)
    (hended : attempt.status = ending.attemptStatus) (hopen : s.status ∉ Runs.terminalRunStatuses)
    (hrequested : ending = .cancelled → s.cancellationRequested = true) {visit : Visit}
    (hvalid : FactsValid request ending visit) :
    ∃ later t, appendBound request visit.time (runFact ending) log = .ok (some later) ∧
      Has request later (runFact ending) ∧ log <+: later ∧ t.status = ending.runStatus ∧
      t.cancellationRequested = s.cancellationRequested ∧
      At F contentDigest context plane call grant request [] later lease t attempt := by
  obtain ⟨parsed, hparse⟩ := runFact_payload ending
  have htypes : ending.runType ∉ LifecycleType.attemptTypes := by cases ending <;> decide
  have hlatest : s.attempts.getLast? = some attempt := by rw [h.report.attempts]; rfl
  have hsettled : Runs.latestSettledAs s ending.attemptStatus := by
    rw [← hended]
    refine Runs.latestSettledAs_of_latest h.report.invariant hlatest ?_
    rw [hended]
    exact ending.attemptStatus_terminal
  rw [← runFact_type] at h htypes
  obtain ⟨stored, happend, -, hhas, hat⟩ := h.record
    (fun stored =>
      stamped { s with status := ending.runStatus, activeAttemptId := none } stored)
    (fun _ => attempt) List.not_mem_nil (hvalid _ (by simp)) hparse
    (by
      intro stored hcarries hfollows
      rw [if_neg htypes, runFact_type] at hcarries
      exact hcarries.closes h.report.invariant hfollows hopen hsettled hrequested)
    (fun stored => ⟨h.report.attempts, rfl⟩)
  exact ⟨_, stamped { s with status := ending.runStatus, activeAttemptId := none } stored, happend,
    hhas, List.prefix_append _ _, rfl, rfl, hat⟩

theorem At.askRun
    (h : At F contentDigest context plane call grant request
      (LifecycleType.runCancelRequested :: pending) log lease s attempt)
    (hnew : LifecycleType.runCancelRequested ∉ pending) (hopen : s.status ∉ Runs.terminalRunStatuses)
    {visit : Visit} (hvalid : FactsValid request ending visit) :
    ∃ stored, appendBound request visit.time cancelFact log = .ok (some (log ++ [stored])) ∧
      stored.id.val = request.remoteEventId .runCancelRequested ∧
      At F contentDigest context plane call grant request pending (log ++ [stored]) lease
        (stamped { s with cancellationRequested := true } stored) attempt := by
  obtain ⟨parsed, hparse⟩ := cancelFact_payload
  obtain ⟨stored, happend, hid, -, hat⟩ := h.record
    (fun stored => stamped { s with cancellationRequested := true } stored)
    (fun _ => attempt) hnew (hvalid _ (by simp)) hparse
    (fun stored hcarries hfollows => hcarries.requests h.report.invariant hfollows hopen)
    (fun stored => ⟨h.report.attempts, rfl⟩)
  exact ⟨stored, happend, hid, hat⟩

end

end ResearchOs.Native
