import ResearchOs.Core.Workers.Exclusive
import ResearchOs.Core.Workers.Invariant

/-! When a revocation that is stored first keeps a result out. -/
namespace ResearchOs.Workers

open JsonText (FloatText)
open Storage (EventLog)

/-- The lease that a result fact settles; an observed cancellation is none. -/
def settledLease (F : FloatText) (event : ResearchEvent) : Option EventIdentifier :=
  match workerPayload F event.data.projectId event with
  | some (.workCompleted payload) => some payload.leaseId
  | some (.workFailed payload) =>
    if payload.reasonCode.val = cancelObserved then none else some payload.leaseId
  | _ => none

/-- After the log the lease is open, and its grant is recorded, bound to it and not revoked. -/
def Authorized (F : FloatText) (projectId : EventIdentifier) (log : EventLog)
    (leaseId : EventIdentifier) : Prop :=
  ∃ fold lease grant, replayWorkers F projectId log = .ok fold ∧
    fold.lease leaseId = some lease ∧ lease.unsettled ∧
    fold.grant lease.grantId = some grant ∧ BoundTo grant lease ∧ grant.revoked = false

def ResultBarrier (F : FloatText) (log : EventLog) (event : ResearchEvent) : Prop :=
  ∀ leaseId, settledLease F event = some leaseId →
    Authorized F event.data.projectId log leaseId

/-- The checked grant was revoked after its check. -/
def RevokedSince (F : FloatText) (projectId : EventIdentifier) (log : EventLog)
    (check : GrantCheck) : Prop :=
  ∃ event ∈ log.drop check.head, revokedGrant F projectId event = some check.grantId

/-! Repeated results. -/

/-- The fact says what the call says. -/
def SameResult (F : FloatText) (plane : WorkerPlane) (fact : ResearchEvent) : PlaneCall → Prop
  | .complete call => ∃ payload, workerPayload F plane.projectId fact =
      some (.workCompleted payload) ∧ payload.leaseId.val = call.leaseId ∧
      payload.resultDigest.val = call.resultDigest ∧
      payload.artifactDigest.val = call.artifactDigest
  | .fail call => ∃ payload, workerPayload F plane.projectId fact = some (.workFailed payload) ∧
      payload.leaseId.val = call.leaseId ∧ payload.reasonCode.val = call.reasonCode
  | .completeNativeOutput call => ∃ payload, workerPayload F plane.projectId fact =
      some (.workCompleted payload) ∧ payload.leaseId.val = call.leaseId ∧
      payload.artifactDigest.val = call.digest
  | _ => False

/-- The authorized caller asks for the result that its lease was settled with. -/
def Repeated (F : FloatText) (contentDigest : Json → Option String) (log : EventLog)
    (plane : WorkerPlane) (reads : Reads) : PlaneCall → Prop
  | .complete call => ∃ claims fold lease grant, call.claims = .ok claims ∧
      replayWorkers F plane.projectId log = .ok fold ∧
      bindResultAuthorization plane fold call.workerId call.leaseId claims = .ok (lease, grant) ∧
      ¬ (call.requireNativeOutputTransport = true ∧
        (fold.queuedWork lease.taskId lease.attemptId).any
          fun work => work.runtime = .nativeReviewed) ∧
      lease.status = .completed ∧ lease.resultDigest.map Subtype.val = some call.resultDigest ∧
      lease.artifactDigest.map Subtype.val = some call.artifactDigest
  | .fail call => ∃ claims fold lease grant, call.claims = .ok claims ∧
      replayWorkers F plane.projectId log = .ok fold ∧
      bindResultAuthorization plane fold call.workerId call.leaseId claims = .ok (lease, grant) ∧
      lease.status = .failed ∧ lease.reasonCode.map Subtype.val = some call.reasonCode
  | .completeNativeOutput call => ∃ authority resultDigest,
      "sha256:" ++ String.ofList (Sha256.digest (call.payload.map UInt8.toNat)).hex =
        call.digest ∧
      authorizeNativeOutput F contentDigest plane call reads log = .ok authority ∧
      authority.lease.status = .completed ∧ reads.outputDigest = .ok resultDigest ∧
      authority.lease.resultDigest.map Subtype.val = some resultDigest ∧
      reads.artifact = .ok ()
  | _ => False

/-- The barrier at one step: a result fact has a live grant, and a repeated result is answered
with the stored fact. -/
structure StepBarrier (F : FloatText) (contentDigest : Json → Option String)
    (s : Clients.State ResearchEvent Caller) (a : Clients.Action ResearchEvent Caller Reads) :
    Prop where
  authorized : ∀ caller event,
    (planeCallers F contentDigest).appends s a = some (caller, event) →
      ResultBarrier F s.log event
  repeated : ∀ caller ∈ s.clients, ∀ reads, caller.phase = .checking →
    Repeated F contentDigest s.log caller.plane reads caller.call →
      ∃ fact missing, Storage.EventLog.getEvent s.log fact.id.val = some fact ∧
        SameResult F caller.plane fact caller.call ∧
        caller.move F contentDigest s.log reads =
          ({ caller with phase := .replaying fact.id.val missing }, none)
  replayed : ∀ caller ∈ s.clients, ∀ reads eventId missing,
    caller.phase = .replaying eventId missing →
      ∃ fact, Storage.EventLog.getEvent s.log eventId = some fact ∧
        caller.move F contentDigest s.log reads =
          ({ caller with phase := .returned (.ok fact) }, none)

/-- No revocation of the call's grant came between its check and the result fact of this step. -/
def GuardedStep (F : FloatText) (contentDigest : Json → Option String)
    (s : Clients.State ResearchEvent Caller) (a : Clients.Action ResearchEvent Caller Reads) :
    Prop :=
  ∀ caller event, (planeCallers F contentDigest).appends s a = some (caller, event) →
    caller.isNative = false → settledLease F event ≠ none →
      ∀ c, caller.check = some c → ¬ RevokedSince F caller.plane.projectId s.log c

variable {F : FloatText} {contentDigest : Json → Option String} {log : EventLog} {caller : Caller}
  {event : ResearchEvent} {reads : Reads} {leaseId : EventIdentifier}

theorem settledLease_some (h : settledLease F event = some leaseId) :
    (∃ payload, workerPayload F event.data.projectId event = some (.workCompleted payload) ∧
      payload.leaseId = leaseId) ∨
    ∃ payload, workerPayload F event.data.projectId event = some (.workFailed payload) ∧
      payload.leaseId = leaseId := by
  unfold settledLease at h
  split at h
  · rename_i payload hpayload
    cases h
    exact .inl ⟨payload, hpayload, rfl⟩
  · rename_i payload hpayload
    split_ifs at h
    cases h
    exact .inr ⟨payload, hpayload, rfl⟩
  · cases h

theorem BoundTo.of_terms {grant later : GrantRecord} {lease laterLease : LeaseRecord}
    (h : BoundTo grant lease) (hgrant : later.terms = grant.terms)
    (hlease : laterLease.terms = lease.terms) : BoundTo later laterLease := by
  simp only [GrantRecord.terms, LeaseRecord.terms, Prod.mk.injEq] at hgrant hlease
  obtain ⟨hg, hw, ht, hr, ha⟩ := hgrant
  obtain ⟨hlw, hlt, hlg, hlr, hla, -⟩ := hlease
  exact ⟨by rw [ht, hlt, h.taskId], by rw [hr, hlr, h.runId], by rw [ha, hla, h.attemptId],
    by rw [hw, hlw, h.workerId], by rw [hg, hlg, h.grantId]⟩

/-- A result fact under a new id found its lease open. -/
theorem open_of_result {fold next : WorkerFold} {projectId : EventIdentifier}
    (hlog : LogOk F log) (hfold : replayWorkers F projectId log = .ok fold)
    (hproject : event.data.projectId = projectId)
    (happly : applyWorkerFold F projectId fold event = .ok next)
    (hids : ResultIds F event) (hfresh : ∀ earlier ∈ log, earlier.id ≠ event.id)
    (hsettled : settledLease F event = some leaseId) :
    ∃ lease, fold.lease leaseId = some lease ∧ lease.unsettled := by
  subst hproject
  have hnew : ∀ fact, log.getEvent event.id.val = some fact → False := by
    intro fact hfact
    have hid : fact.id.val = event.id.val := by simpa using List.find?_some hfact
    exact hfresh fact (List.mem_of_find?_eq_some hfact) (Subtype.ext hid)
  rcases settledLease_some hsettled with ⟨payload, hpayload, rfl⟩ | ⟨payload, hpayload, rfl⟩
  · have hid := hids.completed payload hpayload
    cases foldStep happly with
    | completed hstep hcurrent hopen hclaimed =>
      rw [hpayload] at hstep
      cases hstep
      exact ⟨_, hcurrent, hopen⟩
    | completedAgain hstep hcurrent hdone =>
      rw [hpayload] at hstep
      cases hstep
      obtain ⟨hlease, hmem⟩ := leaseId_of_lease hcurrent
      obtain ⟨fact, hfact, -⟩ := getEvent_completed hlog hfold hmem hdone
      rw [hlease, ← hid] at hfact
      exact (hnew fact hfact).elim
    | _ => simp_all
  · have hid := hids.failed payload hpayload
    cases foldStep happly with
    | failed hstep hcurrent hopen =>
      rw [hpayload] at hstep
      cases hstep
      exact ⟨_, hcurrent, hopen⟩
    | failedAgain hstep hcurrent hdone =>
      rw [hpayload] at hstep
      cases hstep
      obtain ⟨hlease, hmem⟩ := leaseId_of_lease hcurrent
      obtain ⟨fact, hfact, -⟩ := getEvent_failed hlog hfold hmem hdone
      rw [hlease, ← hid] at hfact
      exact (hnew fact hfact).elim
    | _ => simp_all

/-- The result of a prepared draft is authorized unless its grant was revoked since the check. -/
theorem authorized_iff {draft : WorkerDraft} {head : Nat} {check : Option GrantCheck}
    (hlog : LogOk F log) (h : Prepared F caller log draft head check)
    (happend : log.append draft.document (some head) = .ok event)
    (hsettled : settledLease F event = some leaseId) :
    ∃ c, check = some c ∧ (Authorized F event.data.projectId log leaseId ↔
      ¬ RevokedSince F caller.plane.projectId log c) := by
  obtain ⟨hadded, hhead, hchecked⟩ := h.added happend
  obtain ⟨hproject, fold, next, hfold, happly⟩ := hchecked.folds_added hadded
  have hids := resultIds_of_request h.request hadded
  obtain ⟨lease, hlease, hopen⟩ :=
    open_of_result hlog hfold hproject happly hids hadded.fresh hsettled
  have hrequest : ResultRequest F caller.plane log check leaseId := by
    rcases settledLease_some hsettled with ⟨payload, hpayload, rfl⟩ | ⟨payload, hpayload, rfl⟩
    · exact (request_completed h.request hadded hpayload).1
    · exact (request_failed h.request hadded hpayload).1
  obtain ⟨c, before, checkedLease, checkedGrant, hc, hlive⟩ := hrequest.live
  have hid : checkedLease.leaseId = leaseId := Subtype.ext hlive.binding.leaseId
  -- From the check to the fact the log ran over what the others appended.
  have hrun : (log.drop c.head).foldlM (applyWorkerFold F caller.plane.projectId) before =
      .ok fold := by
    have hsplit := hfold
    rw [replayWorkers, ← List.take_append_drop c.head log, Fold.foldlM_append_eq_ok] at hsplit
    obtain ⟨mid, hmid, hrest⟩ := hsplit
    have hreplays := hlive.replays
    rw [replayWorkers, hmid] at hreplays
    cases hreplays
    exact hrest
  obtain ⟨laterLease, hlaterLease, hleaseTerms⟩ := lease_run hlive.binding.recordedLease hrun
  obtain ⟨laterGrant, hlaterGrant, hkept⟩ := grant_run hlive.binding.recordedGrant hrun
  rw [hid, hlease] at hlaterLease
  cases hlaterLease
  have hbound := hlive.binding.bound.of_terms hkept.terms hleaseTerms
  have hgrantId : laterGrant.grantId = checkedGrant.grantId := grantId_of_grant hlaterGrant
  have hgrant : fold.grant lease.grantId = some laterGrant := by
    rw [← hbound.grantId, hgrantId]
    exact hlaterGrant
  have hrevoked : laterGrant.revoked = true ↔ RevokedSince F caller.plane.projectId log c := by
    rw [hkept.revoked, hlive.live, hlive.grantId]
    simp [RevokedSince]
  refine ⟨c, hc, ?_⟩
  rw [← hrevoked, Bool.not_eq_true, hproject]
  constructor
  · rintro ⟨fold', lease', grant', hfold', hlease', -, hgrant', -, hlive'⟩
    rw [hfold] at hfold'
    cases hfold'
    rw [hlease] at hlease'
    cases hlease'
    rw [hgrant] at hgrant'
    cases hgrant'
    exact hlive'
  · intro hnot
    exact ⟨fold, lease, laterGrant, hfold, hlease, hopen, hgrant, hbound, hnot⟩

/-- A native completion is appended at the head of its check: nothing came in between. -/
theorem Prepared.not_revokedSince {draft : WorkerDraft} {head : Nat} {check : Option GrantCheck}
    {c : GrantCheck} (h : Prepared F caller log draft head check) (hhead : head = log.length)
    (hnative : caller.isNative = true) (hc : check = some c) :
    ¬ RevokedSince F caller.plane.projectId log c := by
  rintro ⟨fact, hfact, -⟩
  rw [h.native hnative c hc, hhead, List.drop_length] at hfact
  cases hfact

/-! A repeated result is answered with the stored fact. -/

theorem rebuild_of_replay {projectId : EventIdentifier} {fold : WorkerFold}
    (h : replayWorkers F projectId log = .ok fold) :
    rebuild F projectId log = .ok ⟨log.length, fold⟩ := by
  simp [rebuild, h, fromWorker, bind, Except.bind]

theorem id_of_getEvent {id : String} (h : log.getEvent id = some event) : event.id.val = id := by
  simpa using List.find?_some h

theorem complete_repeated {plane : WorkerPlane} {call : CompleteCall} (hlog : LogOk F log)
    (h : Repeated F contentDigest log plane reads (.complete call)) :
    ∃ fact missing, log.getEvent fact.id.val = some fact ∧
      SameResult F plane fact (.complete call) ∧
      complete F plane call reads log = .ok (.replay fact.id.val missing) := by
  obtain ⟨claims, fold, lease, grant, hclaims, hfold, hbind, htransport, hdone, hresult,
    hartifact⟩ := h
  have hbinding := bindResultAuthorization_ok hbind
  obtain ⟨fact, hfact, payload, hpayload, hlease, hresult', hartifact'⟩ :=
    getEvent_completed hlog hfold (leaseId_of_lease hbinding.recordedLease).2 hdone
  have hid := id_of_getEvent hfact
  refine ⟨fact, .call "completed lease is missing its fact" "complete-missing", ?_, ?_, ?_⟩
  · rw [hid]
    exact hfact
  · refine ⟨payload, hpayload, ?_, ?_, ?_⟩
    · rw [hlease, hbinding.leaseId]
    · simpa [hresult'] using hresult
    · simpa [hartifact'] using hartifact
  · rw [hid]
    simp only [complete, hclaims, rebuild_of_replay hfold, hbind, fromWorker, bind, Except.bind,
      requireCall, if_pos htransport, if_pos hdone, if_pos (And.intro hresult hartifact)]

theorem fail_repeated {plane : WorkerPlane} {call : FailCall} (hlog : LogOk F log)
    (h : Repeated F contentDigest log plane reads (.fail call)) :
    ∃ fact missing, log.getEvent fact.id.val = some fact ∧
      SameResult F plane fact (.fail call) ∧
      fail F plane call reads log = .ok (.replay fact.id.val missing) := by
  obtain ⟨claims, fold, lease, grant, hclaims, hfold, hbind, hdone, hreason⟩ := h
  have hbinding := bindResultAuthorization_ok hbind
  obtain ⟨fact, hfact, payload, hpayload, hlease, hreason'⟩ :=
    getEvent_failed hlog hfold (leaseId_of_lease hbinding.recordedLease).2 hdone
  have hid := id_of_getEvent hfact
  refine ⟨fact, .call "failed lease is missing its fact" "fail-missing", ?_, ?_, ?_⟩
  · rw [hid]
    exact hfact
  · refine ⟨payload, hpayload, ?_, ?_⟩
    · rw [hlease, hbinding.leaseId]
    · simpa [hreason'] using hreason
  · rw [hid]
    simp only [fail, hclaims, rebuild_of_replay hfold, hbind, fromWorker, bind, Except.bind,
      requireCall, if_pos hdone, if_pos hreason]

theorem publishOutput_repeated {plane : WorkerPlane} {call : NativeOutputCall}
    (hlog : LogOk F log)
    (h : Repeated F contentDigest log plane reads (.completeNativeOutput call)) :
    ∃ fact missing, log.getEvent fact.id.val = some fact ∧
      SameResult F plane fact (.completeNativeOutput call) ∧
      publishOutput F contentDigest plane call reads log =
        .ok (.replay fact.id.val missing) := by
  obtain ⟨authority, resultDigest, hdigest, hauthority, hdone, houtput, hresult, hartifact⟩ := h
  have hauthorized := authorizeNativeOutput_ok hauthority
  obtain ⟨fold, hfold, hlease⟩ := hauthorized.recorded
  obtain ⟨fact, hfact, payload, hpayload, hleaseId, -, hartifact'⟩ :=
    getEvent_completed hlog hfold hlease hdone
  have hid := id_of_getEvent hfact
  refine ⟨fact, .call "completion fact is missing" "complete-missing", ?_, ?_, ?_⟩
  · rw [hid]
    exact hfact
  · refine ⟨payload, hpayload, ?_, ?_⟩
    · rw [hleaseId, hauthorized.names]
    · simpa [hartifact'] using hauthorized.settled hdone
  · rw [hid]
    simp only [publishOutput, hauthority, houtput, replayOutput, hartifact, fromWorker, bind,
      Except.bind, requireCall, if_pos hdigest, if_pos hdone, if_pos hresult]

theorem checking_repeated (hlog : LogOk F log) (hphase : caller.phase = .checking)
    (h : Repeated F contentDigest log caller.plane reads caller.call) :
    ∃ fact missing, log.getEvent fact.id.val = some fact ∧
      SameResult F caller.plane fact caller.call ∧
      caller.move F contentDigest log reads =
        ({ caller with phase := .replaying fact.id.val missing }, none) := by
  have hmove : caller.move F contentDigest log reads =
      (caller.settle (caller.firstCheck F contentDigest reads log), none) := by
    simp only [Caller.move, hphase]
  rw [hmove]
  obtain ⟨plane, call, phase, retries⟩ := caller
  cases call with
  | revokeGrant call => exact h.elim
  | expireLease call => exact h.elim
  | complete call =>
    obtain ⟨fact, missing, hfact, hsame, hnext⟩ := complete_repeated hlog h
    exact ⟨fact, missing, hfact, hsame, by simp [Caller.firstCheck, hnext, Caller.settle]⟩
  | fail call =>
    obtain ⟨fact, missing, hfact, hsame, hnext⟩ := fail_repeated hlog h
    exact ⟨fact, missing, hfact, hsame, by simp [Caller.firstCheck, hnext, Caller.settle]⟩
  | completeNativeOutput call =>
    obtain ⟨fact, missing, hfact, hsame, hnext⟩ := publishOutput_repeated hlog h
    exact ⟨fact, missing, hfact, hsame, by simp [Caller.firstCheck, hnext, Caller.settle]⟩

theorem replaying_returns {eventId : String} {missing : WorkerError} (h : CallerOk F log caller)
    (hphase : caller.phase = .replaying eventId missing) :
    ∃ fact, log.getEvent eventId = some fact ∧
      caller.move F contentDigest log reads =
        ({ caller with phase := .returned (.ok fact) }, none) := by
  simp only [CallerOk, hphase] at h
  obtain ⟨fact, hfact⟩ := h
  exact ⟨fact, hfact, by simp only [Caller.move, hphase, Caller.replay, hfact]⟩

/-- At a step from a state with the invariant the barrier holds exactly when the step is guarded. -/
theorem stepBarrier_iff {s : Clients.State ResearchEvent Caller}
    {a : Clients.Action ResearchEvent Caller Reads}
    (hs : Clients.Holds (LogOk F) (CallerOk F) s) :
    StepBarrier F contentDigest s a ↔ GuardedStep F contentDigest s a := by
  -- A step that appends is the store call of a prepared draft.
  have hprepared : ∀ caller event,
      (planeCallers F contentDigest).appends s a = some (caller, event) →
      ∃ draft head, caller.phase = .prepared draft head caller.check ∧
        Prepared F caller s.log draft head caller.check ∧
        Storage.EventLog.append s.log draft.document (some head) = .ok event := by
    intro caller event happends
    obtain ⟨hmem, reads, hmove⟩ := Clients.appends_eq_some happends
    have hcaller := hs.2 caller hmem
    rcases @move_cases F contentDigest s.log caller reads with
      hquiet | ⟨draft, head, check, event', hphase, happend, hmoved⟩
    · rw [show (planeCallers F contentDigest).move = Caller.move F contentDigest from rfl,
        hquiet] at hmove
      cases hmove
    · rw [show (planeCallers F contentDigest).move = Caller.move F contentDigest from rfl,
        hmoved] at hmove
      cases hmove
      have hcheck : caller.check = check := by simp [Caller.check, hphase]
      simp only [CallerOk, hphase] at hcaller
      exact ⟨draft, head, hcheck ▸ hphase, hcheck ▸ hcaller, happend⟩
  constructor
  · intro hbarrier caller event happends _ hsettled c hc
    obtain ⟨draft, head, hphase, hprep, happend⟩ := hprepared caller event happends
    obtain ⟨leaseId, hlease⟩ := Option.ne_none_iff_exists'.mp hsettled
    obtain ⟨c', hc', hiff⟩ := authorized_iff hs.1 hprep happend hlease
    rw [hc] at hc'
    cases hc'
    exact hiff.mp (hbarrier.authorized caller event happends leaseId hlease)
  · intro hguarded
    refine ⟨?_, ?_, ?_⟩
    · intro caller event happends leaseId hlease
      obtain ⟨draft, head, hphase, hprep, happend⟩ := hprepared caller event happends
      obtain ⟨c, hc, hiff⟩ := authorized_iff hs.1 hprep happend hlease
      apply hiff.mpr
      cases hnative : caller.isNative with
      | true => exact hprep.not_revokedSince (hprep.added happend).2.1 hnative hc
      | false => exact hguarded caller event happends hnative (by simp [hlease]) c hc
    · intro caller hmem reads hphase hrepeated
      exact checking_repeated hs.1 hphase hrepeated
    · intro caller hmem reads eventId missing hphase
      exact replaying_returns (hs.2 caller hmem) hphase

/-- In every run of any callers a result has a live bound grant in the log before it, and a
repeated result is answered with its stored fact, exactly when no revocation of the grant was
stored between the check and the result of a call of `complete` or `fail`. -/
theorem result_barrier_iff (F : FloatText) (contentDigest : Json → Option String)
    (actions : List (Clients.Action ResearchEvent Caller Reads)) :
    (∀ p ∈ (planeCallers F contentDigest).trace ⟨[], []⟩ actions,
      StepBarrier F contentDigest p.1 p.2) ↔
    ∀ p ∈ (planeCallers F contentDigest).trace ⟨[], []⟩ actions,
      GuardedStep F contentDigest p.1 p.2 := by
  have hempty : Clients.Holds (LogOk F) (CallerOk F)
      (⟨[], []⟩ : Clients.State ResearchEvent Caller) := by
    refine ⟨⟨List.nodup_nil, ?_⟩, ?_⟩
    · intro event hevent
      cases hevent
    · intro caller hcaller
      cases hcaller
  have hinvariant := (planeCallers_invariant F contentDigest).trace hempty actions
  exact forall₂_congr fun p hp => stepBarrier_iff (hinvariant p hp)

/-! A revocation between the check and the result of one call of `complete`. -/

def trialPlane : WorkerPlane := ⟨trialProject, "urn:trial", 1⟩

def trialReads : Reads where
  now := Rfc3339Timestamp.instant ⟨"2026-01-01T00:00:30Z", by decide⟩
  stamp := "2026-01-01T00:00:30Z"
  artifact := .ok ()
  cancelRequested := .ok false
  requestDigest := .ok trialDigest
  outputDigest := .ok trialDigest
  storeFault := none

/-- The claims of the token of the trial grant. -/
def trialClaims : GrantClaims where
  grantId := "grant-a"
  grantEventId := "event-3"
  workerId := "worker-a"
  taskId := "task"
  attemptId := "attempt-1"
  runId := "run-1"
  nonce := "nonce"
  projectId := "project"
  imageDigest := trialDigest
  configDigest := trialDigest
  exp := .ok (Rfc3339Timestamp.instant ⟨"2026-01-02T00:00:00Z", by decide⟩)

def trialCompletion : Caller :=
  ⟨trialPlane, .complete ⟨"worker-a", .ok trialClaims, "lease.grant-a", trialDigest, trialDigest,
    none, false⟩, .checking, nativeRetries⟩

def trialRevocation : Caller :=
  ⟨trialPlane, .revokeGrant ⟨"grant-a", "operator", "event-7", "human.revoke", none⟩, .checking,
    nativeRetries⟩

/-- The completion is checked, the revocation is stored, and then the completion is. -/
def revokedActions : List (Clients.Action ResearchEvent Caller Reads) := [
  .foreign { trialRegistered ⟨1, .refl true⟩ "worker-a" with id := ⟨"event-1", .refl true⟩ },
  .foreign { trialWorkQueued ⟨2, .refl true⟩ with id := ⟨"event-2", .refl true⟩ },
  .foreign { trialGrant ⟨3, .refl true⟩ "worker-a" "grant-a" with id := ⟨"event-3", .refl true⟩ },
  .foreign { trialLeased ⟨4, .refl true⟩ "worker-a" "grant-a" "lease.grant-a" with
    id := ⟨"event-4", .refl true⟩ },
  .foreign { trialClaimed ⟨5, .refl true⟩ "worker-a" "lease.grant-a" with
    id := ⟨"event-5", .refl true⟩ },
  .foreign { trialConsumed ⟨6, .refl true⟩ "grant-a" "lease.grant-a" with
    id := ⟨"event-6", .refl true⟩ },
  .join trialCompletion, .join trialRevocation, .move 0 trialReads, .move 1 trialReads,
  .move 1 trialReads, .move 1 trialReads, .move 0 trialReads]

def trialCallers : Clients ResearchEvent Caller Reads :=
  planeCallers JsonText.scientific fun _ => none

/-- Whether the grant of a lease is revoked after the log. -/
def leaseRevoked (F : FloatText) (projectId : EventIdentifier) (log : EventLog)
    (leaseId : EventIdentifier) : Option Bool :=
  (replayWorkers F projectId log).toOption.bind fun fold =>
    (fold.lease leaseId).bind fun lease =>
      (fold.grant lease.grantId).map GrantRecord.revoked

theorem Authorized.leaseRevoked {projectId : EventIdentifier}
    (h : Authorized F projectId log leaseId) :
    leaseRevoked F projectId log leaseId = some false := by
  obtain ⟨fold, lease, grant, hfold, hlease, -, hgrant, -, hlive⟩ := h
  simp [Workers.leaseRevoked, hfold, hlease, hgrant, hlive, Except.toOption]

theorem revoked_result_appended :
    ¬ ∀ p ∈ trialCallers.trace ⟨[], []⟩ (revokedActions ++ [.move 0 trialReads]),
      StepBarrier JsonText.scientific (fun _ => none) p.1 p.2 := by
  intro hbarrier
  have hstep := hbarrier _ (trialCallers.mem_trace_concat ⟨[], []⟩ revokedActions _)
  have hevaluated : ((trialCallers.appends (trialCallers.run ⟨[], []⟩ revokedActions)
      (.move 0 trialReads)).bind fun p => (settledLease JsonText.scientific p.2).bind fun leaseId =>
        leaseRevoked JsonText.scientific p.2.data.projectId
          (trialCallers.run ⟨[], []⟩ revokedActions).log leaseId) = some true := by
    decide +kernel
  obtain ⟨⟨caller, event⟩, happends, hevent⟩ := Option.bind_eq_some_iff.mp hevaluated
  obtain ⟨leaseId, hlease, hrevoked⟩ := Option.bind_eq_some_iff.mp hevent
  have hauthorized := hstep.authorized caller event happends leaseId hlease
  rw [hauthorized.leaseRevoked] at hrevoked
  cases hrevoked

end ResearchOs.Workers
