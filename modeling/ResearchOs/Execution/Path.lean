import ResearchOs.Execution.Continuation
import ResearchOs.Execution.Metrics
import ResearchOs.Core.Runs.Recorded

/-! `SimulatedRuntime.run`: the remaining lifecycle events and the metric facts of one request. -/
namespace ResearchOs.Execution

open Runs
open JsonText (FloatText)
open Storage (EventLog assigned)

inductive RuntimeError where
  | simulation (error : SimulationError)
  | control (error : ControlError)
  | canonicalization (message : String)
  deriving DecidableEq, Repr

def fromSimulation {α : Type} : Except SimulationError α → Except RuntimeError α
  | .ok a => .ok a
  | .error e => .error (.simulation e)

def fromControl {α : Type} : Except ControlError α → Except RuntimeError α
  | .ok a => .ok a
  | .error e => .error (.control e)

def fromCanonical {α : Type} : Except String α → Except RuntimeError α
  | .ok a => .ok a
  | .error message => .error (.canonicalization message)

@[simp] theorem fromSimulation_eq_ok {α : Type} {r : Except SimulationError α} {a : α} :
    fromSimulation r = .ok a ↔ r = .ok a := by
  cases r <;> simp [fromSimulation]

@[simp] theorem fromControl_eq_ok {α : Type} {r : Except ControlError α} {a : α} :
    fromControl r = .ok a ↔ r = .ok a := by
  cases r <;> simp [fromControl]

@[simp] theorem fromCanonical_eq_ok {α : Type} {r : Except String α} {a : α} :
    fromCanonical r = .ok a ↔ r = .ok a := by
  cases r <;> simp [fromCanonical]

/-- Raise unless a condition holds. -/
def requireSimulation (condition : Prop) [Decidable condition] (message code : String) :
    Except RuntimeError Unit :=
  if condition then .ok () else .error (.simulation ⟨message, code⟩)

@[simp] theorem requireSimulation_eq_ok {condition : Prop} [Decidable condition]
    {message code : String} : requireSimulation condition message code = .ok () ↔ condition := by
  by_cases h : condition <;> simp [requireSimulation, h]

/-- What a run has fixed before it reads the log. `requireConsumable` is what
`consume_local_authorization` asks of the event that the request cites. -/
structure PreparedRun where
  outcome : SimulatedOutcome
  workflowId : EventIdentifier
  specDigest : StrictDigest
  registryDigest : StrictDigest
  planDigest : StrictDigest
  decisionDigest : StrictDigest
  requireConsumable : ResearchEvent → Except SimulationError Unit

def PreparedRun.planned (prepared : PreparedRun) (consumed : ResearchEvent) : PlannedRun where
  workflowId := prepared.workflowId
  specDigest := prepared.specDigest
  registryDigest := prepared.registryDigest
  planDigest := prepared.planDigest
  decisionDigest := prepared.decisionDigest
  authorizationEventId := consumed.id
  authorizationSequence := consumed.sequence

/-- A call of `run`, with what the spec, the registry and the request come to: the dry run, the
supported plan, its authorization and the outcome, or the error of one of them. -/
structure SimulationCall where
  request : SimulationRequest
  authorizationEventId : String
  authorizationSequence : String
  prepared : Except SimulationError PreparedRun

structure SimulatedRuntime where
  floatText : FloatText
  run : RunBinding

structure SimulationResult where
  snapshot : RunSnapshot
  stored : List ResearchEvent
  disposition : SimulationDisposition

/-- `consume_local_authorization` -/
def consumeLocalAuthorization (log : EventLog) (call : SimulationCall) (prepared : PreparedRun) :
    Except SimulationError ResearchEvent :=
  match log.getEvent call.authorizationEventId with
  | none => .error ⟨"authorization event was not found", "authorization-event-not-found"⟩
  | some event =>
    if sequenceText event.sequence ≠ call.authorizationSequence then
      .error ⟨"authorization event sequence does not match", "authorization-sequence-mismatch"⟩
    else do
      prepared.requireConsumable event
      .ok event

/-- `_should_emit_synthetic_metrics` -/
def shouldEmitSyntheticMetrics (outcome : SimulatedOutcome) (remaining : List LifecycleType)
    (events : List (String × SimulationEventIdentity)) : Bool :=
  decide (outcome = .success) &&
    !(remaining.contains .attemptCancelled || remaining.contains .runCancelled) &&
    !(metricTypesInRequest events).isEmpty

/-- `_require_resumable_metric` -/
def requireResumableMetric (F : FloatText) (existing : ResearchEvent) (draft : MetricDraft) :
    Except RuntimeError Unit := do
  requireSimulation (existing.type.val = draft.eventType.text)
    "simulation event id already exists" "event-id-exists"
  let current ← fromCanonical (Jcs.canonicalJson F (.obj (draftDump existing)))
  let expected ← fromCanonical (Jcs.canonicalJson F (.obj draft.members))
  requireSimulation (current = expected) "simulation event id already exists" "event-id-exists"

namespace SimulatedRuntime

variable (runtime : SimulatedRuntime)

def projection : RunStateProjection := ⟨runtime.run.projectId, runtime.run.runId⟩

/-- The identity that the request has for a metric. -/
def metricIdentity (request : SimulationRequest) (type : MetricType) :
    Except RuntimeError SimulationEventIdentity :=
  match request.events.lookup type.text with
  | none => .error (.simulation ⟨"simulation event identities are incomplete", "incomplete-events"⟩)
  | some identity => .ok identity

/-- `metric_event_draft` -/
def metricEventDraft (request : SimulationRequest) (type : MetricType) :
    Except RuntimeError MetricDraft := do
  let identity ← metricIdentity request type
  let seed ← fromCanonical (metricSeedDigest runtime.floatText runtime.run.runId.val
    request.attemptId.val type)
  .ok
    { eventId := identity.id
      eventType := type
      time := identity.time
      source := request.source
      subject := request.subject
      streamId := request.streamId
      actorId := request.actorId
      run := runtime.run
      attemptId := request.attemptId
      seed := seed }

/-- `_preflight_remaining`, from one draft on. -/
def preflightDrafts (log : EventLog) : Nat → Option RunSnapshot → List LifecycleDraft →
    Except RuntimeError (Option RunSnapshot)
  | _, probe, [] => .ok probe
  | head, probe, draft :: drafts => do
    requireSimulation (log.getEvent draft.eventId = none) "simulation event id already exists"
      "SimulationError"
    match Storage.preflightDraft head draft.document with
    | .error _ =>
      .error (.simulation { message := "event draft failed ResearchEvent validation" })
    | .ok event => do
      let next ← fromControl (fromRun (runtime.projection.apply probe event))
      preflightDrafts log (head + 1) next drafts

/-- `_preflight_remaining` -/
def preflightRemaining (log : EventLog) (snapshot : Option RunSnapshot)
    (drafts : List LifecycleDraft) : Except RuntimeError Unit := do
  requireSimulation (log.length + drafts.length ≤ cloudEventsIntegerMax)
    "global event sequence is exhausted" "SimulationError"
  let probe ← runtime.preflightDrafts log log.length snapshot drafts
  requireSimulation (probe ≠ none) "simulation produced no snapshot" "SimulationError"

/-- The check of one metric that stands in the log, and whether it is still missing. -/
def preflightExisting (log : EventLog) (request : SimulationRequest) (type : MetricType) :
    Except RuntimeError Bool := do
  let identity ← metricIdentity request type
  match log.getEvent identity.id with
  | none => .ok true
  | some existing => do
    let draft ← runtime.metricEventDraft request type
    requireResumableMetric runtime.floatText existing draft
    .ok false

/-- The check of one metric that is still missing. -/
def preflightMissing (log : EventLog) (request : SimulationRequest) (type : MetricType) :
    Except RuntimeError Unit := do
  let identity ← metricIdentity request type
  match log.getEvent identity.id with
  | some _ => .ok ()
  | none => do
    let draft ← runtime.metricEventDraft request type
    match validateEventDocument (.obj (assigned draft.members Storage.firstSequence
      Storage.firstStreamVersion)) with
    | none =>
      .error (.simulation ⟨"event draft failed ResearchEvent validation", "invalid-event-draft"⟩)
    | some event =>
      requireSimulation (event.id.val = identity.id ∧ event.time.val = identity.time)
        "simulation event identities are invalid" "invalid-identity"

/-- `preflight_synthetic_metrics` -/
def preflightSyntheticMetrics (log : EventLog) (request : SimulationRequest)
    (lifecycleDraftCount : Nat) : Except RuntimeError Unit := do
  let wanted := metricTypesInRequest request.events
  let missing ← wanted.mapM (runtime.preflightExisting log request)
  requireSimulation
    (log.length + lifecycleDraftCount + missing.countP (fun missing => missing) ≤
      cloudEventsIntegerMax)
    "global event sequence is exhausted" "sequence-exhausted"
  wanted.forM (runtime.preflightMissing log request)

def commitMetric (log : EventLog) (draft : MetricDraft) (head : Nat) :
    Except RuntimeError ResearchEvent :=
  match log.append draft.document (some head) with
  | .ok event => .ok event
  | .error error => .error (.control (.store error))

/-- `append_synthetic_metrics` -/
def appendSyntheticMetrics (request : SimulationRequest) :
    List MetricType → EventLog → Option Nat → Except RuntimeError (List ResearchEvent)
  | [], _, _ => .ok []
  | type :: types, log, callerHead => do
    let draft ← runtime.metricEventDraft request type
    match log.getEvent draft.eventId with
    | some existing => do
      requireResumableMetric runtime.floatText existing draft
      appendSyntheticMetrics request types log callerHead
    | none => do
      fromControl (requireHead log.length callerHead)
      let stored ← commitMetric log draft log.length
      let rest ← appendSyntheticMetrics request types (log ++ [stored]) none
      .ok (stored :: rest)

/-- The loop over the drafts: what it stores, and the last snapshot. -/
def appendDrafts (request : SimulationRequest) (emitMetrics : Bool) :
    List LifecycleDraft → EventLog → Option RunSnapshot → Option Nat →
      Except RuntimeError (List ResearchEvent × Option RunSnapshot)
  | [], _, committed, _ => .ok ([], committed)
  | draft :: drafts, log, _, callerHead => do
    let result ← fromControl (appendAlone runtime.projection log ⟨draft.document, callerHead⟩)
    if emitMetrics && result.stored.type.val = LifecycleType.attemptStarted.text then do
      let facts ← runtime.appendSyntheticMetrics request (metricTypesInRequest request.events)
        (log ++ [result.stored]) none
      let head ← fromControl (rebuild runtime.projection (log ++ [result.stored] ++ facts))
      let (rest, committed) ← appendDrafts request emitMetrics drafts
        (log ++ [result.stored] ++ facts) head.snapshot none
      .ok (result.stored :: facts ++ rest, committed)
    else do
      let (rest, committed) ← appendDrafts request emitMetrics drafts (log ++ [result.stored])
        (some result.snapshot) none
      .ok (result.stored :: rest, committed)

/-- The writes of a call: metric facts that an earlier call still owes, then the drafts. -/
def appendRemaining (request : SimulationRequest) (emitMetrics : Bool)
    (remaining : List LifecycleType) (drafts : List LifecycleDraft) (log : EventLog)
    (snapshot : Option RunSnapshot) (callerHead : Option Nat) :
    Except RuntimeError (List ResearchEvent × Option RunSnapshot) :=
  if emitMetrics && !remaining.contains .attemptStarted then do
    let facts ← runtime.appendSyntheticMetrics request (metricTypesInRequest request.events) log
      callerHead
    let head ← fromControl (rebuild runtime.projection (log ++ facts))
    let (rest, committed) ← runtime.appendDrafts request emitMetrics drafts (log ++ facts)
      head.snapshot (if facts = [] then callerHead else none)
    .ok (facts ++ rest, committed)
  else runtime.appendDrafts request emitMetrics drafts log snapshot callerHead

/-- `_require_snapshot`, and the check at the end of `run`. -/
def requireProduced : Option RunSnapshot → Except RuntimeError RunSnapshot
  | some snapshot => .ok snapshot
  | none => .error (.simulation { message := "simulation produced no snapshot" })

/-- An existing run agrees with the request. -/
def requireExisting (call : SimulationCall) (planned : PlannedRun) :
    Option RunSnapshot → Except RuntimeError Unit
  | none => .ok ()
  | some snapshot =>
    fromSimulation (requireMatchingRun snapshot runtime.run planned call.request.attemptId)

def preflightMetrics (log : EventLog) (request : SimulationRequest) (emitMetrics : Bool)
    (lifecycleDraftCount : Nat) : Except RuntimeError Unit :=
  if emitMetrics then runtime.preflightSyntheticMetrics log request lifecycleDraftCount else .ok ()

/-- The end of `run`, for a run that goes on. -/
def goOn (call : SimulationCall) (prepared : PreparedRun) (consumed : ResearchEvent)
    (expectedLastSequence : Option Nat) (log : EventLog) (snapshot : Option RunSnapshot)
    (remaining : List LifecycleType) : Except RuntimeError SimulationResult := do
  let drafts ← fromSimulation (remainingDrafts remaining call.request runtime.run
    (prepared.planned consumed))
  runtime.preflightRemaining log snapshot drafts
  let emitMetrics := shouldEmitSyntheticMetrics prepared.outcome remaining call.request.events
  runtime.preflightMetrics log call.request emitMetrics drafts.length
  let (stored, committed) ← runtime.appendRemaining call.request emitMetrics remaining drafts log
    snapshot expectedLastSequence
  let produced ← requireProduced committed
  .ok ⟨produced, stored, dispositionForSnapshot produced⟩

/-- `SimulatedRuntime.run` -/
def runOnce (call : SimulationCall) (expectedLastSequence : Option Nat) (log : EventLog) :
    Except RuntimeError SimulationResult := do
  let prepared ← fromSimulation call.prepared
  let consumed ← fromSimulation (consumeLocalAuthorization log call prepared)
  let head ← fromControl (rebuild runtime.projection log)
  runtime.requireExisting call (prepared.planned consumed) head.snapshot
  let (remaining, stop) ← fromSimulation (continuation head.snapshot prepared.outcome)
  match stop with
  | some disposition => do
    let snapshot ← requireProduced head.snapshot
    .ok ⟨snapshot, [], disposition⟩
  | none => runtime.goOn call prepared consumed expectedLastSequence log head.snapshot remaining

end SimulatedRuntime

end ResearchOs.Execution

/-! The path that is left of a simulated run, and the drafts for it. -/
namespace ResearchOs.Execution

open Runs
open Storage (EventLog assigned)

variable {e : ResearchEvent} {metric : MetricDraft} {log : EventLog} {type : LifecycleType}
  {path : List LifecycleType} {drafts : List LifecycleDraft} {state : Option RunSnapshot}
  {progress : Progress} {outcome : SimulatedOutcome} {request : SimulationRequest}
  {run : RunBinding} {planned : PlannedRun} {s t : RunSnapshot}

/-! The events of a log by their ids. -/

def missing (log : EventLog) (metric : MetricDraft) : Bool := (log.getEvent metric.eventId).isNone

theorem getEvent_concat (log : EventLog) (e : ResearchEvent) (id : String) :
    Storage.EventLog.getEvent (log ++ [e]) id =
      (log.getEvent id).or (if e.id.val = id then some e else none) := by
  simp only [Storage.EventLog.getEvent, List.find?_append, List.find?_singleton, decide_eq_true_eq]

theorem getEvent_eq_none {id : String} :
    log.getEvent id = none ↔ ∀ e ∈ log, e.id.val ≠ id := by
  simp [Storage.EventLog.getEvent]

theorem missing_concat :
    missing (log ++ [e]) metric = (missing log metric && decide (e.id.val ≠ metric.eventId)) := by
  rw [missing, missing, getEvent_concat]
  cases log.getEvent metric.eventId with
  | some _ => rfl
  | none => by_cases h : e.id.val = metric.eventId <;> simp [h]

/-! The path of a progress. -/

/-- A path ends the path of the outcome, or cuts it short. -/
theorem shape_of_remaining (h : progress.remaining outcome = some path) :
    (∃ n, path = (pathForOutcome outcome).drop n) ∨
      path ∈ [[], [.runCancelled], [.attemptCancelled], [.attemptCancelled, .runCancelled]] := by
  cases progress with
  | absent => exact .inl ⟨0, (Option.some.inj h).symm⟩
  | queued requested =>
    cases requested <;> cases h
    · exact .inl ⟨1, rfl⟩
    · exact .inr (by decide)
  | started requested =>
    cases requested <;> cases h
    · exact .inl ⟨2, rfl⟩
    · exact .inr (by decide)
  | attempted status asked requested =>
    cases status with
    | queued =>
      cases asked <;> cases requested <;> cases h <;>
        first | exact .inl ⟨3, rfl⟩ | exact .inr (by decide)
    | running =>
      cases asked <;> cases requested <;> cases h <;>
        first | exact .inl ⟨4, rfl⟩ | exact .inr (by decide)
    | succeeded =>
      rw [Progress.remaining] at h
      split_ifs at h with hsuccess
      cases h
      exact .inl ⟨5, by rw [hsuccess]; rfl⟩
    | failed =>
      rw [Progress.remaining] at h
      split_ifs at h with hfailure
      cases h
      exact .inl ⟨5, by rw [hfailure]; rfl⟩
    | cancelled => cases requested <;> cases h <;> exact .inr (by decide)
    | _ =>
      cases h
      exact .inr (by decide)
  | closed ending =>
    cases h
    exact .inr (by decide)

theorem nodup_of_remaining (h : progress.remaining outcome = some path) : path.Nodup := by
  obtain ⟨n, rfl⟩ | hcut := shape_of_remaining h
  · have hpath : (pathForOutcome outcome).Nodup := by cases outcome <;> decide
    exact hpath.sublist (List.drop_sublist n _)
  · simp only [List.mem_cons, List.not_mem_nil, or_false] at hcut
    rcases hcut with rfl | rfl | rfl | rfl <;> decide

/-- Whether metrics are emitted does not change before the end of a path. -/
theorem emits_tail {events : List (String × SimulationEventIdentity)}
    (h : progress.remaining outcome = some (type :: path)) (hne : path ≠ []) :
    shouldEmitSyntheticMetrics outcome path events =
      shouldEmitSyntheticMetrics outcome (type :: path) events := by
  obtain ⟨n, hn⟩ | hcut := shape_of_remaining h
  · have hfull : .attemptCancelled ∉ pathForOutcome outcome ∧
        .runCancelled ∉ pathForOutcome outcome := by
      cases outcome <;> decide
    have hattempt : .attemptCancelled ∉ type :: path := by
      rw [hn]
      exact fun hmem => hfull.1 (List.mem_of_mem_drop hmem)
    have hrun : .runCancelled ∉ type :: path := by
      rw [hn]
      exact fun hmem => hfull.2 (List.mem_of_mem_drop hmem)
    have hattempt' : .attemptCancelled ∉ path := fun hmem =>
      hattempt (List.mem_cons_of_mem type hmem)
    have hrun' : .runCancelled ∉ path := fun hmem => hrun (List.mem_cons_of_mem type hmem)
    simp only [shouldEmitSyntheticMetrics, List.contains_eq_mem, hattempt, hrun, hattempt', hrun']
  · simp only [List.mem_cons, List.not_mem_nil, or_false, List.cons.injEq, hne, and_false, false_or,
      reduceCtorEq] at hcut
    obtain ⟨rfl, rfl⟩ := hcut
    rfl

/-- An outcome leaves a path to go on with unless the run stops. -/
theorem continuation_stops {result : Option SimulationDisposition}
    (h : continuation state outcome = .ok (path, result)) : result = none ↔ path ≠ [] := by
  have hfull : pathForOutcome outcome ≠ [] := by cases outcome <;> decide
  cases state with
  | none =>
    cases h
    simpa using hfull
  | some s =>
    have hresume : resumeOutcome s outcome = .ok (path, result) → (result = none ↔ path ≠ []) := by
      intro h
      obtain ⟨emitted, -, h⟩ := Fold.bind_eq_ok.mp h
      dsimp only at h
      split_ifs at h with hprefix hnil
      · cases h
      · cases h
        simp
      · cases h
        simpa using hnil
    simp only [continuation] at h
    split at h
    all_goals first
      | (cases h; simp)
      | (split_ifs at h with hcancel hnil
         · cases h
           simp
         · cases h
           simpa using hnil
         · exact hresume h)

/-! The run that a snapshot cites. -/

structure Cites (s : RunSnapshot) (run : RunBinding) (planned : PlannedRun) : Prop where
  projectId : s.projectId = run.projectId
  experimentRevision : s.experimentRevision = run.experimentRevision
  runId : s.runId = run.runId
  workflowId : s.workflowId = planned.workflowId
  digests : s.digests = ⟨planned.specDigest, planned.registryDigest, planned.planDigest,
    some planned.decisionDigest⟩
  consumed : s.consumedAuthorization =
    some ⟨planned.authorizationEventId, planned.authorizationSequence⟩
  maxAttempts : s.maxAttempts.val = maxAttempts

theorem requireMatchingRun_eq_ok {attemptId : EventIdentifier} :
    requireMatchingRun s run planned attemptId = .ok () ↔
      Cites s run planned ∧ ∀ first ∈ s.attempts.head?, first.attemptId = attemptId := by
  simp only [requireMatchingRun, requireMatch_bind_eq_ok]
  constructor
  · rintro ⟨hproject, hrevision, hrun, hworkflow, hspec, hregistry, hplan, hdecision, h⟩
    split at h
    · cases h
    rename_i authorization hconsumed
    simp only [requireMatch_bind_eq_ok, requireMatch_eq_ok] at h
    obtain ⟨hevent, hsequence, hmax, hattempt⟩ := h
    refine ⟨⟨hproject, hrevision, hrun, hworkflow, ?_, ?_, hmax⟩, hattempt⟩
    · rw [← hspec, ← hregistry, ← hplan, ← hdecision]
    · rw [hconsumed, ← hevent, ← hsequence]
  · rintro ⟨h, hattempt⟩
    refine ⟨h.projectId, h.experimentRevision, h.runId, h.workflowId, ?_, ?_, ?_, ?_, ?_⟩
    · rw [h.digests]
    · rw [h.digests]
    · rw [h.digests]
    · rw [h.digests]
    · rw [h.consumed]
      simp only [requireMatch_bind_eq_ok, requireMatch_eq_ok]
      exact ⟨trivial, trivial, h.maxAttempts, hattempt⟩

variable {p : RunStateProjection}

/-- No event changes what the run cites. -/
theorem Cites.apply (h : Cites s run planned) (hs : s.Invariant)
    (happly : p.apply (some s) e = .ok (some t)) : Cites t run planned := by
  have hstate : ∀ found ∈ some s, RunSnapshot.Invariant found := by
    rintro found ⟨⟩
    exact hs
  have hreply := apply_reply (p := p) (e := e) hstate
  rw [happly] at hreply
  cases hreply with
  | foreign _ => exact h
  | moved _ _ hu =>
    cases hu <;> exact ⟨h.projectId, h.experimentRevision, h.runId, h.workflowId, h.digests,
      h.consumed, h.maxAttempts⟩

/-! The drafts of a path. -/

/-- The draft of one type, under the identity that the request has for it. -/
def Drafts (request : SimulationRequest) (run : RunBinding) (planned : PlannedRun)
    (type : LifecycleType) (draft : LifecycleDraft) : Prop :=
  ∃ identity, request.events.lookup type.text = some identity ∧
    draft = simulatedDraft request run planned type identity

theorem remainingDrafts_eq_ok : remainingDrafts path request run planned = .ok drafts ↔
    (request.events.map (·.2.id)).Nodup ∧ List.Forall₂ (Drafts request run planned) path drafts := by
  rw [remainingDrafts]
  by_cases hnodup : (request.events.map (·.2.id)).Nodup
  · rw [if_pos hnodup, Fold.mapM_eq_ok]
    simp only [hnodup, true_and]
    constructor
    · intro h
      refine h.imp fun type draft hdraft => ?_
      cases hfound : request.events.lookup type.text with
      | none => simp [hfound] at hdraft
      | some identity =>
        rw [hfound] at hdraft
        exact ⟨identity, hfound, (Except.ok.inj hdraft).symm⟩
    · intro h
      refine h.imp fun type draft hdraft => ?_
      obtain ⟨identity, hfound, rfl⟩ := hdraft
      rw [hfound]
  · rw [if_neg hnodup]
    simp [hnodup]

theorem lifecycle_of_text {a b : LifecycleType} (h : a.text = b.text) : a = b := by
  have hparsed := congrArg LifecycleType.ofText h
  rw [LifecycleType.ofText_text, LifecycleType.ofText_text] at hparsed
  exact Option.some.inj hparsed

/-- Different keys of the request have different event ids. -/
theorem key_of_id {events : List (String × SimulationEventIdentity)} {key other : String}
    {identity found : SimulationEventIdentity} (hnodup : (events.map (·.2.id)).Nodup)
    (h : events.lookup key = some identity) (hother : events.lookup other = some found)
    (hid : identity.id = found.id) : key = other := by
  have hmem : ∀ {key : String} {identity : SimulationEventIdentity},
      events.lookup key = some identity → (key, identity) ∈ events := by
    intro key identity hlookup
    obtain ⟨before, after, heq, -⟩ := List.lookup_eq_some_iff.mp hlookup
    rw [heq]
    simp
  have hsame := List.inj_on_of_nodup_map hnodup (hmem h) (hmem hother) hid
  exact congrArg Prod.fst hsame

end ResearchOs.Execution
