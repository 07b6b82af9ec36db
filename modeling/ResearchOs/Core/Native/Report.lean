import ResearchOs.Core.Native.Outcome
import ResearchOs.Core.Runs.Recorded
import ResearchOs.Core.Workers.Failure
import ResearchOs.Core.Workers.Results

/-! What the checks of a report have established, and what each kind of its appends keeps of it. -/
namespace ResearchOs.Native

open JsonText (FloatText)
open Runs (LifecycleType RunSnapshot AttemptSnapshot)
open Storage (EventLog)
open Workers

section

variable {F : FloatText} {contentDigest : Json → Option String} {context : NativeContext}
  {plane : WorkerPlane} {call : OutcomeCall} {fold : WorkerFold} {log : EventLog} {bound : Bound}
  {s : RunSnapshot} {attempt : AttemptSnapshot} {request : NativeRequest}

@[simp] theorem requireNative_bind_ok {condition : Prop} [Decidable condition]
    {message code : String} {α : Type} {k : Unit → Except NativeError α} {r : α} :
    requireNative condition message code >>= k = .ok r ↔ condition ∧ k () = .ok r := by
  by_cases h : condition <;>
    simp [requireNative, requireCall, fromWorker, fromPlane, h, bind, Except.bind]

@[simp] theorem presentNative_eq_ok {α : Type} {value : Option α} {message code : String} {a : α} :
    presentNative value message code = .ok a ↔ value = some a := by
  cases value <;> simp [presentNative, presentCall, fromWorker, fromPlane]

/-! The binding of a report. -/

/-- What a bound report has been checked for. -/
structure Bindings (contentDigest : Json → Option String) (context : NativeContext)
    (plane : WorkerPlane) (call : OutcomeCall) (fold : WorkerFold) (bound : Bound)
    (claims : GrantClaims) (work : QueuedWork) (plan : AuthorizedPlan) : Prop where
  verified : call.claims = .ok claims
  result : bindResultAuthorization plane fold call.workerId call.document.leaseId claims =
    .ok (bound.lease, bound.grant)
  queued : fold.queuedWork bound.lease.taskId bound.lease.attemptId = some work
  native : work.runtime = .nativeReviewed ∧ bound.lease.claimed = true ∧
    bound.grant.consumedLeaseId = some bound.lease.leaseId
  execution : requireExecutionMatch contentDigest plane bound.grant work claims = .ok ()
  authorized : context.authorization bound.grant work = .ok plan
  request : bound.request = nativeRequest plane bound.grant work plan
  digest : call.document.requestDigest = context.requestDigest bound.request
  journal : context.startJournal bound.request
    ⟨call.workerId, bound.grant.grantId, call.document⟩ = .ok ()

theorem bindReport_eq_ok : bindReport contentDigest context plane call fold = .ok bound ↔
    ∃ claims work plan, Bindings contentDigest context plane call fold bound claims work plan := by
  constructor
  · intro h
    obtain ⟨claims, hclaims, h⟩ := Fold.bind_eq_ok.mp h
    obtain ⟨⟨lease, grant⟩, hresult, h⟩ := Fold.bind_eq_ok.mp h
    obtain ⟨work, hwork, h⟩ := Fold.bind_eq_ok.mp h
    obtain ⟨_, hexecution, h⟩ := Fold.bind_eq_ok.mp h
    obtain ⟨plan, hplan, h⟩ := Fold.bind_eq_ok.mp h
    obtain ⟨hdigest, h⟩ := requireNative_bind_ok.mp h
    obtain ⟨_, hjournal, h⟩ := Fold.bind_eq_ok.mp h
    cases h
    obtain ⟨hwork, hnative⟩ := Option.filter_eq_some_iff.mp (presentNative_eq_ok.mp hwork)
    simp only [fromPlane_eq_ok, fromWorker_eq_ok] at hclaims hresult hexecution hplan hjournal
    exact ⟨claims, work, plan, hclaims, hresult, hwork, by simpa using hnative, hexecution, hplan,
      rfl, hdigest, hjournal⟩
  · rintro ⟨claims, work, plan, h⟩
    have hwork : (fold.queuedWork bound.lease.taskId bound.lease.attemptId).filter (fun work =>
        work.runtime = .nativeReviewed ∧ bound.lease.claimed = true ∧
          bound.grant.consumedLeaseId = some bound.lease.leaseId) = some work :=
      Option.filter_eq_some_iff.mpr ⟨h.queued, by simpa using h.native⟩
    have hrequest := h.request
    have hdigest := h.digest
    have hjournal := h.journal
    obtain ⟨lease, grant, request⟩ := bound
    dsimp only at hrequest
    subst hrequest
    unfold bindReport
    refine Fold.bind_eq_ok.mpr ⟨claims, by simpa using h.verified, ?_⟩
    refine Fold.bind_eq_ok.mpr ⟨(lease, grant), by simpa using h.result, ?_⟩
    refine Fold.bind_eq_ok.mpr ⟨work, presentNative_eq_ok.mpr hwork, ?_⟩
    refine Fold.bind_eq_ok.mpr ⟨(), by simpa using h.execution, ?_⟩
    refine Fold.bind_eq_ok.mpr ⟨plan, by simpa using h.authorized, ?_⟩
    refine requireNative_bind_ok.mpr ⟨hdigest, ?_⟩
    exact Fold.bind_eq_ok.mpr ⟨(), by simpa using hjournal, rfl⟩

theorem findLease_of_lease {lease : LeaseRecord} {leaseId : EventIdentifier}
    (h : fold.lease leaseId = some lease) : fold.findLease leaseId.val = some lease := by
  simpa only [WorkerFold.findLease, WorkerFold.lease, Subtype.ext_iff] using h

/-- The binding of a lease outlives its failure. -/
theorem bindResultAuthorization_failed {workerId leaseId : String} {claims : GrantClaims}
    {lease : LeaseRecord} {grant : GrantRecord} (reasonCode : EventIdentifier)
    (h : bindResultAuthorization plane fold workerId leaseId claims = .ok (lease, grant)) :
    bindResultAuthorization plane
        { fold with leases := replaceLease fold.leases (lease.failed reasonCode) } workerId leaseId
        claims = .ok (lease.failed reasonCode, grant) := by
  have hbinding := bindResultAuthorization_ok h
  have hreplaced : WorkerFold.lease
      { fold with leases := replaceLease fold.leases (lease.failed reasonCode) } lease.leaseId =
      some (lease.failed reasonCode) := by
    have hlease : fold.leases.find? (fun item => item.leaseId = lease.leaseId) = some lease :=
      hbinding.recordedLease
    change (replaceLease fold.leases (lease.failed reasonCode)).find? _ = _
    rw [find?_replaceLease, hlease, Option.map_some]
    exact congrArg some (if_pos rfl)
  have hfound := findLease_of_lease hreplaced
  rw [hbinding.leaseId] at hfound
  simp only [bindResultAuthorization, requireGrant_bind_ok, presentGrant_bind_ok,
    presentCall_bind_ok, requireCall_bind_ok] at h ⊢
  obtain ⟨hworker, hproject, grant', hgrant, lease', hlease, howner, ⟨htask, hrun, hattempt,
    hbound⟩, hnonce, hexecution, h⟩ := h
  cases h
  exact ⟨hworker, hproject, grant, hgrant, lease.failed reasonCode, hfound, howner,
    ⟨htask, hrun, hattempt, ⟨hbound.taskId, hbound.runId, hbound.attemptId, hbound.workerId,
      hbound.grantId⟩⟩, hnonce, hexecution, rfl⟩

/-- A bound report stays bound when its lease fails. -/
def Bound.failed (bound : Bound) (reasonCode : EventIdentifier) : Bound :=
  { bound with lease := bound.lease.failed reasonCode }

theorem bindReport_failed (reasonCode : EventIdentifier)
    (h : bindReport contentDigest context plane call fold = .ok bound) :
    bindReport contentDigest context plane call
        { fold with leases := replaceLease fold.leases (bound.lease.failed reasonCode) } =
      .ok (bound.failed reasonCode) := by
  obtain ⟨claims, work, plan, hbindings⟩ := bindReport_eq_ok.mp h
  apply bindReport_eq_ok.mpr
  exact ⟨claims, work, plan, hbindings.verified,
    bindResultAuthorization_failed reasonCode hbindings.result, hbindings.queued, hbindings.native,
    hbindings.execution, hbindings.authorized, hbindings.request, hbindings.digest, hbindings.journal⟩

/-- The request of a report is for the run and the attempt of its lease. -/
structure OfLease (plane : WorkerPlane) (bound : Bound) : Prop where
  project : bound.request.projectId = plane.projectId
  run : bound.request.runId = bound.lease.runId
  attempt : bound.request.attemptId = bound.lease.attemptId

theorem ofLease_of_bindReport (h : bindReport contentDigest context plane call fold = .ok bound) :
    OfLease plane bound := by
  obtain ⟨claims, work, plan, hbindings⟩ := bindReport_eq_ok.mp h
  have hbinding := bindResultAuthorization_ok hbindings.result
  refine ⟨?_, ?_, ?_⟩ <;> rw [hbindings.request]
  · rfl
  · exact hbinding.bound.runId
  · exact hbinding.bound.attemptId

/-! The checks of a report. -/

/-- The event under the identifier of a fact records it. -/
def Has (request : NativeRequest) (log : EventLog) (fact : LifecycleFact) : Prop :=
  ∃ stored, log.getEvent (request.remoteEventId fact.type) = some stored ∧
    Recorded (request.draft request.remoteEventId "" fact) stored

/-- The log binds the report. -/
def Names (F : FloatText) (contentDigest : Json → Option String) (context : NativeContext)
    (plane : WorkerPlane) (call : OutcomeCall) (log : EventLog) (bound : Bound) : Prop :=
  ∃ fold, replayWorkers F plane.projectId log = .ok fold ∧
    bindReport contentDigest context plane call fold = .ok bound

/-- What a checked report has found in a log. -/
structure Report (F : FloatText) (contentDigest : Json → Option String) (context : NativeContext)
    (plane : WorkerPlane) (call : OutcomeCall) (log : EventLog) (bound : Bound) (s : RunSnapshot)
    (attempt : AttemptSnapshot) : Prop where
  workers : Names F contentDigest context plane call log bound
  started : ∀ fact ∈ startFacts bound.request, Has bound.request log fact
  folds : bound.request.projection.fold log = .ok (some s)
  attempts : s.attempts = [attempt]
  attemptId : attempt.attemptId = bound.request.attemptId

theorem requireRecorded_eq_ok {fact : LifecycleFact} :
    requireRecorded request log fact = .ok () ↔ Has request log fact := by
  unfold requireRecorded Has
  rw [Fold.bind_eq_ok]
  refine exists_congr fun stored => ?_
  rw [presentNative_eq_ok]
  refine and_congr_right fun _ => ?_
  by_cases h : Recorded (request.draft request.remoteEventId "" fact) stored <;>
    simp [requireNative, requireCall, fromWorker, fromPlane, h]

theorem forM_eq_ok {facts : List LifecycleFact} :
    facts.forM (requireRecorded request log) = .ok () ↔ ∀ fact ∈ facts, Has request log fact :=
  Fold.forM_eq_ok.trans (forall₂_congr fun _ _ => requireRecorded_eq_ok)

theorem requireAttempt_eq_ok : requireAttempt request log = .ok (s, attempt) ↔
    request.projection.fold log = .ok (some s) ∧ s.attempts = [attempt] ∧
      attempt.attemptId = request.attemptId := by
  unfold requireAttempt
  rw [Fold.bind_eq_ok]
  constructor
  · rintro ⟨state, hfold, h⟩
    rw [fromRecovery_eq_ok, Recovery.rebuildRun_eq_ok] at hfold
    obtain ⟨snapshot, rfl, hfound⟩ := Option.bind_eq_some_iff.mp (presentNative_eq_ok.mp h)
    split at hfound
    · rename_i found hattempts
      split_ifs at hfound with hid
      cases hfound
      exact ⟨hfold, hattempts, hid⟩
    · cases hfound
  · rintro ⟨hfold, hattempts, hid⟩
    refine ⟨some s, fromRecovery_eq_ok.mpr (Recovery.rebuildRun_eq_ok.mpr hfold), ?_⟩
    apply presentNative_eq_ok.mpr
    simp only [Option.bind_some, hattempts, hid, if_true]

theorem checkReport_eq_ok :
    checkReport F contentDigest context plane call log = .ok (bound, s, attempt) ↔
      Report F contentDigest context plane call log bound s attempt := by
  unfold checkReport
  constructor
  · intro h
    obtain ⟨head, hhead, h⟩ := Fold.bind_eq_ok.mp h
    obtain ⟨found, hbound, h⟩ := Fold.bind_eq_ok.mp h
    obtain ⟨_, hstarted, h⟩ := Fold.bind_eq_ok.mp h
    obtain ⟨pair, hattempt, h⟩ := Fold.bind_eq_ok.mp h
    cases h
    obtain ⟨hreplay, -⟩ := rebuild_ok (fromPlane_eq_ok.mp hhead)
    obtain ⟨hfolds, hattempts, hid⟩ := requireAttempt_eq_ok.mp hattempt
    exact ⟨⟨head.fold, hreplay, hbound⟩, forM_eq_ok.mp hstarted, hfolds, hattempts, hid⟩
  · intro h
    obtain ⟨fold, hreplay, hbound⟩ := h.workers
    have hhead : rebuild F plane.projectId log = .ok ⟨log.length, fold⟩ := by
      simp only [rebuild, hreplay, fromWorker, bind, Except.bind]
    refine Fold.bind_eq_ok.mpr ⟨⟨log.length, fold⟩, fromPlane_eq_ok.mpr hhead, ?_⟩
    refine Fold.bind_eq_ok.mpr ⟨bound, hbound, ?_⟩
    refine Fold.bind_eq_ok.mpr ⟨(), forM_eq_ok.mpr h.started, ?_⟩
    exact Fold.bind_eq_ok.mpr
      ⟨(s, attempt), requireAttempt_eq_ok.mpr ⟨h.folds, h.attempts, h.attemptId⟩, rfl⟩

/-- A log binds one report. -/
theorem Names.unique {other : Bound} (h : Names F contentDigest context plane call log bound)
    (hother : Names F contentDigest context plane call log other) : other = bound := by
  obtain ⟨fold, hreplay, hbound⟩ := h
  obtain ⟨fold', hreplay', hbound'⟩ := hother
  rw [hreplay] at hreplay'
  cases hreplay'
  rw [hbound] at hbound'
  exact (Except.ok.inj hbound').symm

end

end ResearchOs.Native
