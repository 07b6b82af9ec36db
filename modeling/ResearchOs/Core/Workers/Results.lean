import ResearchOs.Core.Workers.Callers
import ResearchOs.Core.Workers.Grants

/-! What the checks of the calls have established when a call goes on. -/
namespace ResearchOs.Workers

open JsonText (FloatText)
open Storage (EventLog)

@[simp] theorem requireGrant_bind_ok {condition : Prop} [Decidable condition]
    {message code : String} {α : Type} {k : Unit → Except WorkerError α} {r : α} :
    requireGrant condition message code >>= k = .ok r ↔ condition ∧ k () = .ok r := by
  by_cases h : condition <;> simp [requireGrant, h, bind, Except.bind]

@[simp] theorem presentGrant_bind_ok {α β : Type} {value : Option α} {message code : String}
    {k : α → Except WorkerError β} {r : β} :
    presentGrant value message code >>= k = .ok r ↔ ∃ a, value = some a ∧ k a = .ok r := by
  cases value <;> simp [presentGrant, bind, Except.bind]

@[simp] theorem fromWorker_bind_ok {α β : Type} {r : Except WorkerError α}
    {k : α → Except PlaneError β} {b : β} :
    fromWorker r >>= k = .ok b ↔ ∃ a, r = .ok a ∧ k a = .ok b := by
  simp [Fold.bind_eq_ok]

variable {F : FloatText} {contentDigest : Json → Option String} {plane : WorkerPlane}
  {fold : WorkerFold} {log : EventLog} {reads : Reads}

theorem WorkerFold.findGrant_some {grantId : String} {grant : GrantRecord}
    (h : fold.findGrant grantId = some grant) : fold.grant grant.grantId = some grant := by
  have hid : grant.grantId.val = grantId := by simpa using List.find?_some h
  subst hid
  simpa only [findGrant, WorkerFold.grant, Subtype.ext_iff] using h

theorem WorkerFold.findLease_some {leaseId : String} {lease : LeaseRecord}
    (h : fold.findLease leaseId = some lease) :
    lease.leaseId.val = leaseId ∧ fold.lease lease.leaseId = some lease := by
  have hid : lease.leaseId.val = leaseId := by simpa using List.find?_some h
  subst hid
  exact ⟨rfl, by simpa only [findLease, WorkerFold.lease, Subtype.ext_iff] using h⟩

/-- The lease and the grant that a result path works on. -/
structure ResultBinding (fold : WorkerFold) (leaseId : String) (lease : LeaseRecord)
    (grant : GrantRecord) : Prop where
  leaseId : lease.leaseId.val = leaseId
  recordedLease : fold.lease lease.leaseId = some lease
  recordedGrant : fold.grant grant.grantId = some grant
  bound : BoundTo grant lease

theorem bindResultAuthorization_ok {workerId leaseId : String} {claims : GrantClaims}
    {lease : LeaseRecord} {grant : GrantRecord}
    (h : bindResultAuthorization plane fold workerId leaseId claims = .ok (lease, grant)) :
    ResultBinding fold leaseId lease grant := by
  simp only [bindResultAuthorization, requireGrant_bind_ok, presentGrant_bind_ok,
    presentCall_bind_ok, requireCall_bind_ok] at h
  obtain ⟨-, -, found, hgrant, lease', hlease, -, ⟨-, -, -, hbound⟩, -, -, h⟩ := h
  cases h
  obtain ⟨hid, hlease⟩ := WorkerFold.findLease_some hlease
  exact ⟨hid, hlease, WorkerFold.findGrant_some hgrant, hbound⟩

theorem requireLiveResultGrant_ok {grant : GrantRecord} {claims : GrantClaims}
    {lease : LeaseRecord} {now : Instant} {u : Unit}
    (h : requireLiveResultGrant grant claims lease now = .ok u) : grant.revoked = false := by
  simp only [requireLiveResultGrant, requireGrant_bind_ok] at h
  exact h.1

/-- At its check the lease had a grant that was recorded, bound to it and not revoked. -/
structure LiveAt (F : FloatText) (projectId : EventIdentifier) (log : EventLog) (leaseId : String)
    (check : GrantCheck) (fold : WorkerFold) (lease : LeaseRecord) (grant : GrantRecord) :
    Prop where
  head : check.head ≤ log.length
  replays : replayWorkers F projectId (log.take check.head) = .ok fold
  binding : ResultBinding fold leaseId lease grant
  grantId : grant.grantId = check.grantId
  live : grant.revoked = false

/-- What a call may ask the store to append. -/
inductive Request (F : FloatText) (plane : WorkerPlane) (log : EventLog) :
    WorkerDraft → Option GrantCheck → Prop
  | revocation (grantId runId attemptId eventId time actorId reasonCode : String) :
      Request F plane log (grantRevokedDraft plane.projectId.val grantId runId attemptId eventId
        time plane.source actorId reasonCode plane.experimentRevision) none
  | expiry (leaseId workerId runId attemptId eventId time : String) :
      Request F plane log
        (workLeaseExpiredDraft plane leaseId workerId runId attemptId eventId time) none
  | completion {leaseId : String} {check : GrantCheck} {fold : WorkerFold} {lease : LeaseRecord}
      {grant : GrantRecord} (workerId resultDigest artifactDigest runId attemptId time : String)
      (hlive : LiveAt F plane.projectId log leaseId check fold lease grant) :
      Request F plane log (workCompletedDraft plane leaseId workerId resultDigest artifactDigest
        runId attemptId (completedEventId leaseId) time) (some check)
  | failure {leaseId : String} {check : GrantCheck} {fold : WorkerFold} {lease : LeaseRecord}
      {grant : GrantRecord} (workerId reasonCode runId attemptId time : String)
      (hlive : LiveAt F plane.projectId log leaseId check fold lease grant) :
      Request F plane log (workFailedDraft plane leaseId workerId reasonCode runId attemptId
        (failedEventId leaseId) time) (some check)

theorem LiveAt.concat {projectId : EventIdentifier} {leaseId : String} {check : GrantCheck}
    {lease : LeaseRecord} {grant : GrantRecord}
    (h : LiveAt F projectId log leaseId check fold lease grant) (event : ResearchEvent) :
    LiveAt F projectId (log ++ [event]) leaseId check fold lease grant where
  head := by
    have hhead := h.head
    simp only [List.length_append, List.length_singleton]
    omega
  replays := by
    rw [List.take_append_of_le_length h.head]
    exact h.replays
  binding := h.binding
  grantId := h.grantId
  live := h.live

theorem Request.concat {draft : WorkerDraft} {check : Option GrantCheck}
    (h : Request F plane log draft check) (event : ResearchEvent) :
    Request F plane (log ++ [event]) draft check := by
  cases h with
  | revocation => exact .revocation ..
  | expiry => exact .expiry ..
  | completion workerId resultDigest artifactDigest runId attemptId time hlive =>
    exact .completion _ _ _ _ _ _ (hlive.concat event)
  | failure workerId reasonCode runId attemptId time hlive =>
    exact .failure _ _ _ _ _ (hlive.concat event)

/-- The result facts of the log carry the ids that their leases determine. -/
structure ResultIds (F : FloatText) (event : ResearchEvent) : Prop where
  completed : ∀ payload, workerPayload F event.data.projectId event =
    some (.workCompleted payload) → event.id.val = completedEventId payload.leaseId.val
  failed : ∀ payload, workerPayload F event.data.projectId event =
    some (.workFailed payload) → event.id.val = failedEventId payload.leaseId.val

structure LogOk (F : FloatText) (log : EventLog) : Prop where
  ids : (log.map ResearchEvent.id).Nodup
  results : ∀ event ∈ log, ResultIds F event

theorem project_of_workerPayload {projectId : EventIdentifier} {event : ResearchEvent}
    {payload : WorkerPayload} (h : workerPayload F projectId event = some payload) :
    event.data.projectId = projectId := by
  unfold workerPayload at h
  split_ifs at h with hproject
  exact not_not.mp hproject

theorem getEvent_of_mem (hlog : LogOk F log) {event : ResearchEvent} (hevent : event ∈ log) :
    log.getEvent event.id.val = some event := by
  cases hfound : log.getEvent event.id.val with
  | none =>
    have habsent := List.find?_eq_none.mp hfound event hevent
    simp at habsent
  | some found =>
    have hid : found.id.val = event.id.val := by simpa using List.find?_some hfound
    have hmem := List.mem_of_find?_eq_some hfound
    rw [List.inj_on_of_nodup_map hlog.ids hmem hevent (Subtype.ext hid)]

/-- The fact that completed a lease is stored under the id of the lease. -/
theorem getEvent_completed {projectId : EventIdentifier} {lease : LeaseRecord}
    (hlog : LogOk F log) (hfold : replayWorkers F projectId log = .ok fold)
    (hlease : lease ∈ fold.leases) (hstatus : lease.status = .completed) :
    ∃ fact, log.getEvent (completedEventId lease.leaseId.val) = some fact ∧
      Completes F projectId lease fact := by
  obtain ⟨fact, hfact, hcompletes⟩ := (documented_replay hfold lease hlease).completed hstatus
  obtain ⟨payload, hpayload, hid, -⟩ := id hcompletes
  have hproject := project_of_workerPayload hpayload
  have hfactId := (hlog.results fact hfact).completed payload (hproject ▸ hpayload)
  rw [hid] at hfactId
  exact ⟨fact, hfactId ▸ getEvent_of_mem hlog hfact, hcompletes⟩

theorem getEvent_failed {projectId : EventIdentifier} {lease : LeaseRecord}
    (hlog : LogOk F log) (hfold : replayWorkers F projectId log = .ok fold)
    (hlease : lease ∈ fold.leases) (hstatus : lease.status = .failed) :
    ∃ fact, log.getEvent (failedEventId lease.leaseId.val) = some fact ∧
      Fails F projectId lease fact := by
  obtain ⟨fact, hfact, hfails⟩ := (documented_replay hfold lease hlease).failed hstatus
  obtain ⟨payload, hpayload, hid, -⟩ := id hfails
  have hproject := project_of_workerPayload hpayload
  have hfactId := (hlog.results fact hfact).failed payload (hproject ▸ hpayload)
  rw [hid] at hfactId
  exact ⟨fact, hfactId ▸ getEvent_of_mem hlog hfact, hfails⟩

/-! The checks, call by call. -/

/-- What a check that goes on has established; a native append names the head of its check. -/
def NextOk (F : FloatText) (plane : WorkerPlane) (log : EventLog) (isNative : Bool) :
    Next → Prop
  | .replay eventId _ => ∃ fact, log.getEvent eventId = some fact
  | .publish _ => True
  | .append draft expectedLastSequence check => Request F plane log draft check ∧
      (isNative = true → ∀ c, check = some c → expectedLastSequence = some c.head)

theorem liveAt_of_rebuild {head : WorkerHead} {leaseId : String} {lease : LeaseRecord}
    {grant : GrantRecord} (hhead : rebuild F plane.projectId log = .ok head)
    (hbinding : ResultBinding head.fold leaseId lease grant) (hlive : grant.revoked = false) :
    LiveAt F plane.projectId log leaseId ⟨grant.grantId, head.lastSequence⟩ head.fold lease grant := by
  obtain ⟨hfold, hlength⟩ := rebuild_ok hhead
  refine ⟨hlength.le, ?_, hbinding, rfl, hlive⟩
  rw [hlength, List.take_length]
  exact hfold

theorem revokeGrant_ok {call : RevokeGrantCall} {next : Next}
    (h : revokeGrant F plane call reads log = .ok next) : NextOk F plane log false next := by
  obtain ⟨head, -, h⟩ := Fold.bind_eq_ok.mp h
  obtain ⟨grant, -, h⟩ := fromWorker_bind_ok.mp h
  cases h
  exact ⟨.revocation .., by simp⟩

theorem expireLease_ok {call : ExpireLeaseCall} {next : Next}
    (h : expireLease F plane call reads log = .ok next) : NextOk F plane log false next := by
  obtain ⟨head, -, h⟩ := Fold.bind_eq_ok.mp h
  obtain ⟨lease, -, h⟩ := fromWorker_bind_ok.mp h
  cases h
  exact ⟨.expiry .., by simp⟩

theorem complete_ok {call : CompleteCall} {next : Next} (hlog : LogOk F log)
    (h : complete F plane call reads log = .ok next) : NextOk F plane log false next := by
  obtain ⟨claims, -, h⟩ := fromWorker_bind_ok.mp h
  obtain ⟨head, hhead, h⟩ := Fold.bind_eq_ok.mp h
  obtain ⟨⟨lease, grant⟩, hbind, h⟩ := fromWorker_bind_ok.mp h
  obtain ⟨_, -, h⟩ := fromWorker_bind_ok.mp h
  have hbinding := bindResultAuthorization_ok hbind
  split_ifs at h with hdone
  · obtain ⟨_, -, h⟩ := fromWorker_bind_ok.mp h
    cases h
    obtain ⟨hfold, -⟩ := rebuild_ok hhead
    obtain ⟨fact, hfact, -⟩ := getEvent_completed hlog hfold
      (leaseId_of_lease hbinding.recordedLease).2 hdone
    exact ⟨fact, hfact⟩
  · obtain ⟨_, hlive, h⟩ := fromWorker_bind_ok.mp h
    obtain ⟨_, -, h⟩ := Fold.bind_eq_ok.mp h
    cases h
    have hlive := liveAt_of_rebuild hhead hbinding (requireLiveResultGrant_ok hlive)
    rw [← hbinding.leaseId] at hlive
    exact ⟨.completion _ _ _ _ _ _ hlive, by simp⟩

theorem fail_ok {call : FailCall} {next : Next} (hlog : LogOk F log)
    (h : fail F plane call reads log = .ok next) : NextOk F plane log false next := by
  obtain ⟨claims, -, h⟩ := fromWorker_bind_ok.mp h
  obtain ⟨head, hhead, h⟩ := Fold.bind_eq_ok.mp h
  obtain ⟨⟨lease, grant⟩, hbind, h⟩ := fromWorker_bind_ok.mp h
  have hbinding := bindResultAuthorization_ok hbind
  dsimp only at h
  split_ifs at h with hdone
  · obtain ⟨_, -, h⟩ := fromWorker_bind_ok.mp h
    cases h
    obtain ⟨hfold, -⟩ := rebuild_ok hhead
    obtain ⟨fact, hfact, -⟩ := getEvent_failed hlog hfold
      (leaseId_of_lease hbinding.recordedLease).2 hdone
    exact ⟨fact, hfact⟩
  · obtain ⟨_, hlive, h⟩ := fromWorker_bind_ok.mp h
    cases h
    have hlive := liveAt_of_rebuild hhead hbinding (requireLiveResultGrant_ok hlive)
    rw [← hbinding.leaseId] at hlive
    exact ⟨.failure _ _ _ _ _ hlive, by simp⟩

/-- What an authorization of a native output has established. -/
structure NativeAuthorized (F : FloatText) (plane : WorkerPlane) (log : EventLog)
    (leaseId digest : String) (authority : NativeOutputAuthority) : Prop where
  names : authority.lease.leaseId.val = leaseId
  settled : authority.lease.status = .completed →
    authority.lease.artifactDigest.map Subtype.val = some digest
  recorded : ∃ fold, replayWorkers F plane.projectId log = .ok fold ∧
    authority.lease ∈ fold.leases
  live : authority.lease.status ≠ .completed → ∃ fold grant,
    LiveAt F plane.projectId log leaseId ⟨authority.lease.grantId, authority.headSequence⟩ fold
      authority.lease grant

theorem authorizeNativeOutput_ok {call : NativeOutputCall} {authority : NativeOutputAuthority}
    (h : authorizeNativeOutput F contentDigest plane call reads log = .ok authority) :
    NativeAuthorized F plane log call.leaseId call.digest authority := by
  obtain ⟨claims, -, h⟩ := fromWorker_bind_ok.mp h
  obtain ⟨head, hhead, h⟩ := Fold.bind_eq_ok.mp h
  obtain ⟨⟨lease, grant⟩, hbind, h⟩ := fromWorker_bind_ok.mp h
  obtain ⟨work, -, h⟩ := fromWorker_bind_ok.mp h
  obtain ⟨_, -, h⟩ := Fold.bind_eq_ok.mp h
  obtain ⟨_, -, h⟩ := fromWorker_bind_ok.mp h
  obtain ⟨byteLimit, -, h⟩ := Fold.bind_eq_ok.mp h
  obtain ⟨_, -, h⟩ := fromWorker_bind_ok.mp h
  obtain ⟨_, houtput, h⟩ := Fold.bind_eq_ok.mp h
  obtain ⟨requestDigest, -, h⟩ := Fold.bind_eq_ok.mp h
  cases h
  have hbinding := bindResultAuthorization_ok hbind
  obtain ⟨hfold, -⟩ := rebuild_ok hhead
  unfold requireOutput at houtput
  refine ⟨hbinding.leaseId, ?_, ⟨head.fold, hfold, (leaseId_of_lease hbinding.recordedLease).2⟩, ?_⟩
  · intro hdone
    rw [if_pos hdone] at houtput
    exact requireCall_eq_ok.mp (fromWorker_eq_ok.mp houtput)
  · intro hopen
    rw [if_neg hopen] at houtput
    obtain ⟨_, hlive, -⟩ := fromWorker_bind_ok.mp houtput
    have hlive := liveAt_of_rebuild hhead hbinding (requireLiveResultGrant_ok hlive)
    rw [hbinding.bound.grantId] at hlive
    exact ⟨head.fold, grant, hlive⟩

theorem replayOutput_ok {leaseId digest : String} {authority : NativeOutputAuthority}
    {resultDigest : String} {next : Next} (hlog : LogOk F log)
    (hauthorized : NativeAuthorized F plane log leaseId digest authority)
    (hdone : authority.lease.status = .completed)
    (h : replayOutput authority resultDigest reads = .ok next) :
    NextOk F plane log true next := by
  obtain ⟨_, -, h⟩ := Fold.bind_eq_ok.mp h
  obtain ⟨_, -, h⟩ := fromWorker_bind_ok.mp h
  cases h
  obtain ⟨fold, hfold, hlease⟩ := hauthorized.recorded
  obtain ⟨fact, hfact, -⟩ := getEvent_completed hlog hfold hlease hdone
  exact ⟨fact, hfact⟩

theorem publishOutput_ok {call : NativeOutputCall} {next : Next} (hlog : LogOk F log)
    (h : publishOutput F contentDigest plane call reads log = .ok next) :
    NextOk F plane log true next := by
  obtain ⟨_, -, h⟩ := fromWorker_bind_ok.mp h
  obtain ⟨authority, hauthority, h⟩ := Fold.bind_eq_ok.mp h
  obtain ⟨resultDigest, -, h⟩ := Fold.bind_eq_ok.mp h
  split_ifs at h with hdone
  · exact replayOutput_ok hlog (authorizeNativeOutput_ok hauthority) hdone h
  · obtain ⟨_, -, h⟩ := Fold.bind_eq_ok.mp h
    cases h
    trivial

theorem appendOutput_ok {call : NativeOutputCall} {resultDigest : String} {next : Next}
    (hlog : LogOk F log)
    (h : appendOutput F contentDigest plane call resultDigest reads log = .ok next) :
    NextOk F plane log true next := by
  obtain ⟨authority, hauthority, h⟩ := Fold.bind_eq_ok.mp h
  have hauthorized := authorizeNativeOutput_ok hauthority
  split_ifs at h with hdone
  · exact replayOutput_ok hlog hauthorized hdone h
  · cases h
    obtain ⟨fold, grant, hlive⟩ := hauthorized.live hdone
    refine ⟨.completion _ _ _ _ _ _ hlive, ?_⟩
    intro _ c hc
    cases hc
    rfl

end ResearchOs.Workers
