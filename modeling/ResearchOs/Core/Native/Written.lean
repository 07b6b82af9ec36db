import ResearchOs.Data.Retry
import ResearchOs.Core.Native.Converge
import ResearchOs.Core.Native.Stages

/-! What the appends of a report leave, and the reports that are never answered. -/
namespace ResearchOs.Native

open JsonText (FloatText)
open Resume (Stalls)
open Runs (LifecycleType LifecycleDraft RunSnapshot AttemptSnapshot Ending)
open Storage (EventLog)
open Workers

/-- What a snapshot of the run has, when the log folds. -/
def Folds (request : NativeRequest) (Q : RunSnapshot → Prop) (log : EventLog) : Prop :=
  ∀ state, request.projection.fold log = .ok state → ∃ s, state = some s ∧ Q s

section

variable {F : FloatText} {contentDigest : Json → Option String} {context : NativeContext}
  {plane : WorkerPlane} {call : OutcomeCall} {grant : GrantRecord} {request : NativeRequest}
  {log grown : EventLog} {lease : LeaseRecord} {stored : ResearchEvent} {fact : LifecycleFact}
  {time : String} {Q R : RunSnapshot → Prop}

theorem Folds.mono (h : Folds request Q log) (hle : ∀ s, Q s → R s) : Folds request R log := by
  intro state hfold
  obtain ⟨s, hstate, hs⟩ := h state hfold
  exact ⟨s, hstate, hle s hs⟩

theorem Folds.concat (h : Folds request Q log)
    (hstep : ∀ s state, Q s → s.Invariant →
      request.projection.apply (some s) stored = .ok state → ∃ t, state = some t ∧ R t) :
    Folds request R (log ++ [stored]) := by
  intro state hfold
  obtain ⟨before, hbefore, happly⟩ := Fold.foldlM_concat_eq_ok.mp hfold
  obtain ⟨s, rfl, hs⟩ := h before hbefore
  exact hstep s state hs (Runs.fold_invariant hbefore s rfl) happly

/-! What is appended. -/

/-- The event that the append of a fact has stored. -/
structure Recording (request : NativeRequest) (log : EventLog) (fact : LifecycleFact)
    (stored : ResearchEvent) (grown : EventLog) : Prop where
  appended : grown = log ++ [stored]
  stated : ∃ time, (request.draft request.remoteEventId time fact).Says stored
  fresh : ∀ earlier ∈ log, earlier.id.val ≠ request.remoteEventId fact.type
  folds : ∃ s, request.projection.fold grown = .ok (some s)

theorem appendBound_written (h : appendBound request time fact log = .ok (some grown)) :
    ∃ stored, Recording request log fact stored grown := by
  unfold appendBound at h
  simp only at h
  split at h
  · obtain ⟨-, h⟩ := requireNative_bind_ok.mp h
    cases h
  · rename_i hnone
    obtain ⟨result, hresult, h⟩ := Fold.bind_eq_ok.mp h
    obtain rfl := Option.some.inj (Except.ok.inj h)
    rw [fromRecovery_eq_ok, Recovery.fromControl_eq_ok] at hresult
    obtain ⟨hadded, -, hfolds⟩ := Runs.appendAlone_ok hresult
    obtain ⟨ms, hms, hdocument⟩ := hadded.document
    rw [LifecycleDraft.draftMembers_document] at hms
    cases hms
    obtain ⟨hid, htype, hdata⟩ := LifecycleDraft.data_of_validate hdocument
    exact ⟨result.stored, rfl, ⟨time, LifecycleDraft.says_of_data hid htype hdata⟩,
      getEvent_eq_none.mp hnone, _, hfolds⟩

/-- What is passed over has been recorded. -/
theorem appendBound_passed (h : appendBound request time fact log = .ok none) :
    Has request log fact := by
  unfold appendBound at h
  simp only at h
  split at h
  · rename_i stored hstored
    exact ⟨stored, hstored, (requireNative_bind_ok.mp h).1⟩
  · obtain ⟨result, -, h⟩ := Fold.bind_eq_ok.mp h
    cases h

theorem Recording.id (h : Recording request log fact stored grown) :
    stored.id.val = request.remoteEventId fact.type := by
  obtain ⟨time, hsaid⟩ := h.stated
  exact hsaid.id

theorem Recording.names (h : Recording request log fact stored grown)
    (hnames : Names F contentDigest context plane call log ⟨lease, grant, request⟩) :
    Names F contentDigest context plane call grown ⟨lease, grant, request⟩ := by
  obtain ⟨fold, hreplay, hbound⟩ := hnames
  obtain ⟨time, hsaid⟩ := h.stated
  rw [h.appended]
  exact ⟨fold, replay_lifecycle hreplay hsaid.type, hbound⟩

theorem Recording.concat (h : Recording request log fact stored grown)
    (hfolds : Folds request Q log)
    (hstep : ∀ s state, Q s → s.Invariant →
      Runs.belongs stored request.projection.projectId request.projection.runId = true →
      Runs.ResearchEvent.lifecycleType? stored = some fact.type →
      request.projection.apply (some s) stored = .ok state → ∃ t, state = some t ∧ R t) :
    Folds request R grown := by
  obtain ⟨time, hsaid⟩ := h.stated
  rw [h.appended]
  exact hfolds.concat fun s state hs hinvariant happly =>
    hstep s state hs hinvariant hsaid.belongs hsaid.lifecycle happly

/-- The event that the failure of a lease has stored. -/
structure FailureRecording (F : FloatText) (contentDigest : Json → Option String)
    (context : NativeContext) (plane : WorkerPlane) (call : OutcomeCall) (grant : GrantRecord)
    (request : NativeRequest) (log : EventLog) (lease : LeaseRecord) (stored : ResearchEvent)
    (grown : EventLog) : Prop where
  appended : grown = log ++ [stored]
  leased : lease.status = .leased
  id : stored.id.val = failedEventId lease.leaseId.val
  belongs : Runs.belongs stored request.projection.projectId request.projection.runId = true
  observed : Runs.ResearchEvent.lifecycleType? stored = none
  revision : stored.data.experimentRevision.val = plane.experimentRevision
  names : ∃ reasonCode,
    Names F contentDigest context plane call grown ⟨lease.failed reasonCode, grant, request⟩

theorem failure_written {reasonCode : EventIdentifier} {stamp : String}
    (hnames : Names F contentDigest context plane call log ⟨lease, grant, request⟩)
    (hnot : lease.status ≠ .failed)
    (h : appendWorker F plane (workFailed plane call lease reasonCode.val stamp) log =
      .ok (some grown)) :
    ∃ stored,
      FailureRecording F contentDigest context plane call grant request log lease stored grown := by
  unfold appendWorker at h
  split at h
  · cases h
  · rename_i head hhead
    split at h
    · cases h
    · rename_i stored happend
      obtain rfl := Option.some.inj (Except.ok.inj h)
      have hadded := Storage.EventLog.append_ok happend
      obtain ⟨-, fold, next, hreplay, happly⟩ := (appendHead_ok hhead).1.folds_added hadded
      obtain ⟨ms, hms, hdocument⟩ := hadded.document
      rw [WorkerDraft.draftMembers_document] at hms
      cases hms
      have hsaid : (workFailed plane call lease reasonCode.val stamp).Says stored :=
        WorkerDraft.says_of_validate hdocument
      obtain ⟨fold', hreplay', hbound⟩ := hnames
      rw [hreplay] at hreplay'
      cases hreplay'
      obtain ⟨claims, work, plan, hbindings⟩ := bindReport_eq_ok.mp hbound
      have hlease : fold.lease lease.leaseId = some lease :=
        (bindResultAuthorization_ok hbindings.result).recordedLease
      have hleased := open_of_failure hsaid hlease hnot happly
      have hfailed := @applyWorkerFold_failure F _ _ plane _ _ _ _ _ _ _ hsaid hlease hleased
      have hof := ofLease_of_bindReport hbound
      have hlater : replayWorkers F plane.projectId (log ++ [stored]) = .ok
          { fold with leases := replaceLease fold.leases (lease.failed reasonCode) } :=
        Fold.foldlM_concat_eq_ok.mpr ⟨fold, hreplay, hfailed⟩
      have hnamed : Names F contentDigest context plane call (log ++ [stored])
          ⟨lease.failed reasonCode, grant, request⟩ := by
        have hkept := bindReport_failed reasonCode hbound
        exact ⟨_, hlater, hkept⟩
      refine ⟨stored, rfl, hleased, hsaid.id, ?_, ?_, hsaid.revision, reasonCode, hnamed⟩
      · refine Runs.belongs_iff.mpr ⟨?_, ?_⟩
        · change _ = request.projectId
          rw [hof.project]
          exact Subtype.ext hsaid.projectId
        · change _ = some request.runId
          rw [hof.run]
          exact hsaid.run lease.runId rfl
      · rw [Runs.ResearchEvent.lifecycleType?, hsaid.type]
        exact (by decide : LifecycleType.ofText WorkerEventType.workFailed.text = none)

/-! Calls that come to no answer. -/

theorem reconcile_stalls {Stuck : Nat → EventLog → Prop} {visit : Visit} {store : NativeStore}
    (hnames : ∀ log, Stuck 0 log →
      ∃ lease, Names F contentDigest context plane call log ⟨lease, grant, request⟩)
    (hstalls : Stalls (performStep F context plane call request visit) (outcomeSteps call.document)
      Stuck) (hs : Stuck 0 store.log) :
    Stuck 0 (reconcileNativeOutcome F contentDigest context plane call visit store).1.log ∧
      ∃ error,
        (reconcileNativeOutcome F contentDigest context plane call visit store).2 = .error error := by
  obtain ⟨lease, hnamed⟩ := hnames _ hs
  unfold reconcileNativeOutcome
  split
  · rename_i error herror
    exact ⟨hs, error, rfl⟩
  · rename_i bound snapshot attempt hreport
    obtain rfl := hnamed.unique (checkReport_eq_ok.mp hreport).workers
    split
    · rename_i error herror
      exact ⟨hs, error, rfl⟩
    · obtain ⟨hstuck, error, herror⟩ :=
        hstalls.resume NativeError.interrupted hs visit.budget
      dsimp only
      rw [herror]
      exact ⟨hstuck, error, rfl⟩

theorem not_settles_of_stalls {Stuck : Nat → EventLog → Prop} {whole : Visit} {visits : List Visit}
    {store : NativeStore} {goal : NativeStore → Prop}
    (hnames : ∀ log, Stuck 0 log →
      ∃ lease, Names F contentDigest context plane call log ⟨lease, grant, request⟩)
    (hstalls : ∀ visit ∈ whole :: visits,
      Stalls (performStep F context plane call request visit) (outcomeSteps call.document) Stuck)
    (hs : Stuck 0 store.log) :
    ¬ Retry.Settles (reconcileNativeOutcome F contentDigest context plane call) whole goal store
      visits := by
  refine Retry.not_settles (P := fun store => Stuck 0 store.log) ?_ ?_ hs
  · intro visit hvisit store hstuck
    exact (reconcile_stalls hnames (hstalls visit hvisit) hstuck).1
  · intro store hstuck receipt hanswer
    obtain ⟨-, error, herror⟩ :=
      reconcile_stalls hnames (hstalls whole List.mem_cons_self) hstuck
    rw [hanswer] at herror
    cases herror

end

end ResearchOs.Native

/-! What a step of a report writes, and why an ended run answers no other report. -/
namespace ResearchOs.Native

open JsonText (FloatText)
open Runs (RunSnapshot AttemptSnapshot Ending)
open Storage (EventLog)
open Workers

section

variable {F : FloatText} {contentDigest : Json → Option String} {context : NativeContext}
  {plane : WorkerPlane} {call : OutcomeCall} {grant : GrantRecord} {request : NativeRequest}
  {log grown : EventLog} {lease : LeaseRecord} {s : RunSnapshot} {attempt : AttemptSnapshot}
  {visit : Visit} {step : OutcomeStep} {ending : Ending} {bound : Bound}

theorem failObservedCancellation_ok {requested : Bool} {result : Option EventLog}
    (h : failObservedCancellation F plane call lease grant requested visit log = .ok result) :
    requested = true ∧ (result = none ∧ Observed log lease ∨ lease.status = .leased ∧
      appendWorker F plane (workFailed plane call lease Recovery.cancelObserved visit.stamp) log =
        .ok result) := by
  unfold failObservedCancellation at h
  obtain ⟨-, h⟩ := requireNative_bind_ok.mp h
  obtain ⟨hrequested, h⟩ := requireNative_bind_ok.mp h
  refine ⟨hrequested, ?_⟩
  split at h
  · rename_i hobserved
    exact .inl ⟨(Except.ok.inj h).symm, hobserved⟩
  · exact .inr (requireNative_bind_ok.mp h)

/-- What a step writes. -/
inductive Written (F : FloatText) (contentDigest : Json → Option String) (context : NativeContext)
    (plane : WorkerPlane) (call : OutcomeCall) (grant : GrantRecord) (request : NativeRequest)
    (log : EventLog) (lease : LeaseRecord) (grown : EventLog) : OutcomeStep → Prop
  | requested {stored : ResearchEvent} (hrevoked : grant.revoked = true)
      (hread : cancellationRequested request log = .ok false)
      (h : Recording request log cancelFact stored grown) :
      Written F contentDigest context plane call grant request log lease grown .requestCancellation
  | recorded {fact : LifecycleFact} {stored : ResearchEvent}
      (h : Recording request log fact stored grown) :
      Written F contentDigest context plane call grant request log lease grown (.record fact)
  | failed {step : OutcomeStep} {stored : ResearchEvent}
      (hstep : step = .failLease ∨ step = .observeCancellation)
      (h : FailureRecording F contentDigest context plane call grant request log lease stored grown) :
      Written F contentDigest context plane call grant request log lease grown step

theorem performStep_written
    (hnames : Names F contentDigest context plane call log ⟨lease, grant, request⟩)
    (h : performStep F context plane call request visit step log = .ok (some grown)) :
    Written F contentDigest context plane call grant request log lease grown step := by
  have hauthorized := hnames.authorized
  cases step with
  | record fact =>
    obtain ⟨stored, hrecording⟩ := appendBound_written h
    exact .recorded hrecording
  | verify =>
    simp only [performStep, performLease, hauthorized, bind, Except.bind] at h
    obtain ⟨-, h⟩ := requireNative_bind_ok.mp h
    split at h
    · cases h
    · cases h
  | requireTaskFailed =>
    simp only [performStep, performLease, hauthorized, bind, Except.bind] at h
    obtain ⟨-, h⟩ := requireNative_bind_ok.mp h
    cases h
  | failLease =>
    simp only [performStep, performLease, hauthorized, bind, Except.bind] at h
    by_cases hfailed : lease.status = .failed
    · rw [if_pos hfailed] at h
      cases h
    rw [if_neg hfailed] at h
    obtain ⟨requested, -, h⟩ := Fold.bind_eq_ok.mp h
    obtain ⟨-, h⟩ := requireNative_bind_ok.mp h
    obtain ⟨claims, -, h⟩ := Fold.bind_eq_ok.mp h
    obtain ⟨_, -, h⟩ := Fold.bind_eq_ok.mp h
    obtain ⟨reasonCode, hreason⟩ := taskFailed_valid
    rw [← hreason] at h
    obtain ⟨stored, hrecording⟩ := failure_written hnames hfailed h
    exact .failed (.inl rfl) hrecording
  | requestCancellation =>
    simp only [performStep, performLease, hauthorized, bind, Except.bind] at h
    obtain ⟨requested, hread, h⟩ := Fold.bind_eq_ok.mp h
    split_ifs at h with hasked
    · obtain ⟨hrevoked, rfl⟩ := hasked
      obtain ⟨stored, hrecording⟩ := appendBound_written h
      exact .requested hrevoked hread hrecording
    · cases h
  | observeCancellation =>
    simp only [performStep, performLease, hauthorized, bind, Except.bind] at h
    obtain ⟨requested, -, h⟩ := Fold.bind_eq_ok.mp h
    obtain ⟨-, ⟨hnone, -⟩ | ⟨hleased, h⟩⟩ := failObservedCancellation_ok h
    · cases hnone
    obtain ⟨reasonCode, hreason⟩ := cancelObserved_valid
    rw [← hreason] at h
    have hnot : lease.status ≠ .failed := by
      rw [hleased]
      decide
    obtain ⟨stored, hrecording⟩ := failure_written hnames hnot h
    exact .failed (.inr rfl) hrecording

/-! One report answers for an ended run. -/

/-- A log that goes on after the end of its run has the fact of an ending only if it ended so. -/
structure Agreed (F : FloatText) (contentDigest : Json → Option String) (context : NativeContext)
    (plane : WorkerPlane) (call : OutcomeCall) (grant : GrantRecord) (request : NativeRequest)
    (ending : Ending) (s : RunSnapshot) (ended log : EventLog) : Prop where
  names : ∃ lease, Names F contentDigest context plane call log ⟨lease, grant, request⟩
  later : ended <+: log
  closing : ∀ event ∈ log, event.id.val = request.remoteEventId ending.runType →
    Runs.belongs event request.projection.projectId request.projection.runId = true →
    Runs.ResearchEvent.lifecycleType? event = some ending.runType → s.status = ending.runStatus

theorem status_of_later {ended : EventLog} {t : RunSnapshot}
    (hfold : request.projection.fold ended = .ok (some s)) (hs : s.status ∈ Runs.terminalRunStatuses)
    (hlater : ended <+: log) (ht : request.projection.fold log = .ok (some t)) :
    t.status = s.status := by
  obtain ⟨rest, rfl⟩ := hlater
  rw [Runs.RunStateProjection.fold, List.foldlM_append] at ht
  obtain ⟨before, hbefore, hrest⟩ := Fold.bind_eq_ok.mp ht
  obtain rfl : some s = before := Except.ok.inj (hfold.symm.trans hbefore)
  obtain ⟨t', hsame, hextends, -⟩ :=
    Runs.foldlM_apply_extends (Runs.fold_invariant hfold s rfl) hrest
  cases hsame
  rw [hextends.terminal hs]

theorem Recording.agrees {stored : ResearchEvent} {fact : LifecycleFact} {ended : EventLog}
    (h : Recording request log fact stored grown)
    (hfold : request.projection.fold ended = .ok (some s)) (hs : s.status ∈ Runs.terminalRunStatuses)
    (hagreed : Agreed F contentDigest context plane call grant request ending s ended log) :
    Agreed F contentDigest context plane call grant request ending s ended grown := by
  have hgrown := h.appended
  obtain ⟨lease, hnames⟩ := hagreed.names
  obtain ⟨t, ht⟩ := h.folds
  have hlater : ended <+: grown := by
    rw [hgrown]
    exact hagreed.later.trans (List.prefix_append _ _)
  refine ⟨⟨lease, h.names hnames⟩, hlater, ?_⟩
  intro event hevent _ hbelongs hlifecycle
  rw [← status_of_later hfold hs hlater ht]
  exact Runs.status_of_runType ht hevent hbelongs hlifecycle

theorem FailureRecording.agrees {stored : ResearchEvent} {ended : EventLog}
    (h : FailureRecording F contentDigest context plane call grant request log lease stored grown)
    (hagreed : Agreed F contentDigest context plane call grant request ending s ended log) :
    Agreed F contentDigest context plane call grant request ending s ended grown := by
  obtain ⟨reasonCode, hnames⟩ := h.names
  have hobserved := h.observed
  rw [h.appended] at hnames ⊢
  refine ⟨⟨_, hnames⟩, hagreed.later.trans (List.prefix_append _ _), ?_⟩
  intro event hevent hid hbelongs hlifecycle
  rcases List.mem_append.mp hevent with hevent | hevent
  · exact hagreed.closing event hevent hid hbelongs hlifecycle
  · rw [List.mem_singleton.mp hevent, hobserved] at hlifecycle
    cases hlifecycle

theorem Agreed.written {ended : EventLog} (hfold : request.projection.fold ended = .ok (some s))
    (hs : s.status ∈ Runs.terminalRunStatuses)
    (hwrites : performStep F context plane call request visit step log = .ok (some grown))
    (h : Agreed F contentDigest context plane call grant request ending s ended log) :
    Agreed F contentDigest context plane call grant request ending s ended grown := by
  obtain ⟨lease, hnames⟩ := h.names
  cases performStep_written hnames hwrites with
  | requested hrevoked hread hrecording => exact hrecording.agrees hfold hs h
  | recorded hrecording => exact hrecording.agrees hfold hs h
  | failed hstep hrecording => exact hrecording.agrees h

/-- The closing fact of a report that got through its steps names the status of the run. -/
theorem Agreed.through {ended : EventLog} (hfold : request.projection.fold ended = .ok (some s))
    (hs : s.status ∈ Runs.terminalRunStatuses)
    (h : Agreed F contentDigest context plane call grant request ending s ended log)
    (hrecord : performStep F context plane call request visit (.record (runFact ending)) log =
        .ok none ∨
      ∃ grown, performStep F context plane call request visit (.record (runFact ending)) log =
        .ok (some grown)) :
    s.status = ending.runStatus := by
  rcases hrecord with hpassed | ⟨grown, hwrites⟩
  · obtain ⟨stored, hstored, htype, hdata⟩ := appendBound_passed hpassed
    have hid : stored.id.val = request.remoteEventId (runFact ending).type := by
      simpa using List.find?_some hstored
    have hsaid := Runs.LifecycleDraft.says_of_data hid htype hdata
    refine h.closing stored (List.mem_of_find?_eq_some hstored) ?_ hsaid.belongs ?_
    · rw [hid, runFact_type]
    · rw [← runFact_type]
      exact hsaid.lifecycle
  · obtain ⟨stored, hrecording⟩ := appendBound_written hwrites
    obtain ⟨time, hsaid⟩ := hrecording.stated
    have hagreed := hrecording.agrees hfold hs h
    refine hagreed.closing stored ?_ (by rw [hrecording.id, runFact_type]) hsaid.belongs ?_
    · rw [hrecording.appended]
      exact List.mem_append_right _ (List.mem_singleton_self _)
    · rw [← runFact_type]
      exact hsaid.lifecycle

/-- An ended run answers a report of its own ending only. -/
theorem reconcile_exclusive {store later : NativeStore} {receipt : NativeOutcomeReceipt}
    (hreport : Report F contentDigest context plane call store.log bound s attempt)
    (hs : s.status ∈ Runs.terminalRunStatuses)
    (h : reconcileNativeOutcome F contentDigest context plane call visit store =
      (later, .ok receipt)) :
    ∃ ending : Ending, call.document.outcome = outcomeOf ending ∧ s.status = ending.runStatus := by
  unfold reconcileNativeOutcome at h
  rw [checkReport_eq_ok.mpr hreport] at h
  dsimp only at h
  split at h
  · cases h
  · rename_i journals hjournals
    have hknown : call.document.outcome ≠ .unknown := by
      intro hunknown
      unfold journalOutcome at hjournals
      simp only at hjournals
      rw [if_pos hunknown] at hjournals
      have hopen := (requireNative_bind_ok.mp hjournals).1
      revert hs hopen
      cases s.status <;> decide
    obtain ⟨ending, hending⟩ : ∃ ending, call.document.outcome = outcomeOf ending := by
      cases houtcome : call.document.outcome with
      | completed => exact ⟨.succeeded, rfl⟩
      | failed => exact ⟨.failed, rfl⟩
      | cancelled => exact ⟨.cancelled, rfl⟩
      | unknown => exact absurd houtcome hknown
    refine ⟨ending, hending, ?_⟩
    set result := Resume.resume (performStep F context plane call bound.request visit)
      NativeError.interrupted (outcomeSteps call.document) visit.budget store.log with hresult
    obtain ⟨-, hfinish⟩ := Prod.mk.inj h
    have hthrough : result = (result.1, .ok ()) := by
      cases hanswer : result.2 with
      | error error =>
        rw [hanswer] at hfinish
        cases hfinish
      | ok answer => rw [← hanswer]
    have hmem : OutcomeStep.record (runFact ending) ∈ outcomeSteps call.document := by
      rw [outcomeSteps_eq hending]
      simp [endingSteps]
    have hagreed : Agreed F contentDigest context plane call bound.grant bound.request ending s
        store.log store.log := by
      refine ⟨⟨bound.lease, hreport.workers⟩, List.prefix_refl _, ?_⟩
      intro event hevent _ hbelongs hlifecycle
      exact Runs.status_of_runType hreport.folds hevent hbelongs hlifecycle
    obtain ⟨u, hu, hrecord⟩ := Resume.resume_ok
      (R := fun u v => Agreed F contentDigest context plane call bound.grant bound.request ending s
          store.log u →
        Agreed F contentDigest context plane call bound.grant bound.request ending s store.log v)
      (fun _ => id) (fun _ _ _ hfirst hsecond hstart => hsecond (hfirst hstart))
      (fun _ _ _ _ hwrites => Agreed.written hreport.folds hs hwrites)
      (hresult.symm.trans hthrough) hmem
    rcases hrecord with ⟨hpassed, -⟩ | ⟨v, hwrites, -⟩
    · exact (hu hagreed).through hreport.folds hs (.inl hpassed)
    · exact (hu hagreed).through hreport.folds hs (.inr ⟨v, hwrites⟩)

end

end ResearchOs.Native
