import ResearchOs.Core.Workers.Results

/-! What the log and the calls in flight keep, whatever the others do. -/
namespace ResearchOs.Workers

open JsonText (FloatText)
open Storage (EventLog)

variable {F : FloatText} {contentDigest : Json → Option String} {log : EventLog} {caller : Caller}
  {event : ResearchEvent} {reads : Reads}

/-! The facts of the drafts. -/

theorem draft_fields {draft : WorkerDraft} {expectedHead : Option Nat}
    (hadded : log.Added draft.document expectedHead event) :
    event.id.val = draft.eventId ∧ event.type.val = draft.eventType.text ∧
      event.data.payload = Json.ofPairs draft.payload := by
  obtain ⟨ms, hms, hvalid⟩ := hadded.document
  rw [WorkerDraft.draftMembers_document] at hms
  cases hms
  obtain ⟨hid, htype, -, hpayload⟩ := WorkerDraft.fields_of_validate hvalid
  exact ⟨hid, htype, hpayload⟩

theorem WorkerEventType.ofText_text (type : WorkerEventType) :
    WorkerEventType.ofText type.text = some type := by
  cases type <;> rfl

theorem payload_of_draft {draft : WorkerDraft} {expectedHead : Option Nat}
    (hadded : log.Added draft.document expectedHead event) :
    workerPayload F event.data.projectId event =
      payloadModel F draft.eventType (.obj (Json.ofPairs draft.payload)) := by
  obtain ⟨-, htype, hpayload⟩ := draft_fields hadded
  simp [workerPayload, htype, WorkerEventType.ofText_text, hpayload]

theorem leaseId_of_completed {leaseId : String} {ms : Json.Members} {payload : WorkCompletedPayload}
    (hlookup : ms.lookup "leaseId" = some (.str leaseId))
    (h : WorkCompletedPayload.validate (.obj ms) = some payload) :
    payload.leaseId.val = leaseId := by
  simp only [WorkCompletedPayload.validate, Option.bind_eq_bind, Option.bind_eq_some_iff] at h
  obtain ⟨ms', hms, leaseId', hid, resultDigest, -, artifactDigest, -, h⟩ := h
  cases Strict.closed_some hms
  cases h
  rw [Strict.required_text hid] at hlookup
  simpa using hlookup

theorem leaseId_of_failed {leaseId : String} {ms : Json.Members} {payload : WorkFailedPayload}
    (hlookup : ms.lookup "leaseId" = some (.str leaseId))
    (h : WorkFailedPayload.validate (.obj ms) = some payload) : payload.leaseId.val = leaseId := by
  simp only [WorkFailedPayload.validate, identifierAndReason, Option.map_eq_some_iff,
    Option.bind_eq_bind, Option.bind_eq_some_iff] at h
  obtain ⟨p, ⟨ms', hms, leaseId', hid, reasonCode, -, hp⟩, h⟩ := h
  cases Strict.closed_some hms
  cases hp
  cases h
  rw [Strict.required_text hid] at hlookup
  simpa using hlookup

/-- What stands behind a result fact of a request. -/
structure ResultRequest (F : FloatText) (plane : WorkerPlane) (log : EventLog)
    (check : Option GrantCheck) (leaseId : EventIdentifier) : Prop where
  live : ∃ c fold lease grant, check = some c ∧
    LiveAt F plane.projectId log leaseId.val c fold lease grant

theorem request_completed {plane : WorkerPlane} {draft : WorkerDraft} {check : Option GrantCheck}
    {expectedHead : Option Nat} {payload : WorkCompletedPayload}
    (hrequest : Request F plane log draft check)
    (hadded : log.Added draft.document expectedHead event)
    (hpayload : workerPayload F event.data.projectId event = some (.workCompleted payload)) :
    ResultRequest F plane log check payload.leaseId ∧
      event.id.val = completedEventId payload.leaseId.val := by
  rw [payload_of_draft hadded] at hpayload
  obtain ⟨hid, -, -⟩ := draft_fields hadded
  cases hrequest with
  | revocation => simp [payloadModel, grantRevokedDraft] at hpayload
  | expiry => simp [payloadModel, workLeaseExpiredDraft, leaseDraft] at hpayload
  | failure => simp [payloadModel, workFailedDraft, leaseDraft] at hpayload
  | completion workerId resultDigest artifactDigest runId attemptId time hlive =>
    simp only [payloadModel, workCompletedDraft, leaseDraft, Option.map_eq_some_iff,
      WorkerPayload.workCompleted.injEq, exists_eq_right] at hpayload
    have hlease := leaseId_of_completed (by rw [Json.lookup_ofPairs]; rfl) hpayload
    rw [← hlease] at hlive hid
    exact ⟨⟨_, _, _, _, rfl, hlive⟩, hid⟩

theorem request_failed {plane : WorkerPlane} {draft : WorkerDraft} {check : Option GrantCheck}
    {expectedHead : Option Nat} {payload : WorkFailedPayload}
    (hrequest : Request F plane log draft check)
    (hadded : log.Added draft.document expectedHead event)
    (hpayload : workerPayload F event.data.projectId event = some (.workFailed payload)) :
    ResultRequest F plane log check payload.leaseId ∧
      event.id.val = failedEventId payload.leaseId.val := by
  rw [payload_of_draft hadded] at hpayload
  obtain ⟨hid, -, -⟩ := draft_fields hadded
  cases hrequest with
  | revocation => simp [payloadModel, grantRevokedDraft] at hpayload
  | expiry => simp [payloadModel, workLeaseExpiredDraft, leaseDraft] at hpayload
  | completion => simp [payloadModel, workCompletedDraft, leaseDraft] at hpayload
  | failure workerId reasonCode runId attemptId time hlive =>
    simp only [payloadModel, workFailedDraft, leaseDraft, Option.map_eq_some_iff,
      WorkerPayload.workFailed.injEq, exists_eq_right] at hpayload
    have hlease := leaseId_of_failed (by rw [Json.lookup_ofPairs]; rfl) hpayload
    rw [← hlease] at hlive hid
    exact ⟨⟨_, _, _, _, rfl, hlive⟩, hid⟩

theorem resultIds_of_request {plane : WorkerPlane} {draft : WorkerDraft}
    {check : Option GrantCheck} {expectedHead : Option Nat}
    (hrequest : Request F plane log draft check)
    (hadded : log.Added draft.document expectedHead event) : ResultIds F event where
  completed _ hpayload := (request_completed hrequest hadded hpayload).2
  failed _ hpayload := (request_failed hrequest hadded hpayload).2

/-! The invariant of a call. -/

structure Prepared (F : FloatText) (caller : Caller) (log : EventLog) (draft : WorkerDraft)
    (head : Nat) (check : Option GrantCheck) : Prop where
  request : Request F caller.plane log draft check
  within : head ≤ log.length
  checked : AppendChecked F caller.plane.projectId (log.take head) draft.document head
  native : caller.isNative = true → ∀ c, check = some c → c.head = head

def CallerOk (F : FloatText) (log : EventLog) (caller : Caller) : Prop :=
  match caller.phase with
  | .replaying eventId _ => ∃ fact, log.getEvent eventId = some fact
  | .appending draft expectedLastSequence check => Request F caller.plane log draft check ∧
      (caller.isNative = true → ∀ c, check = some c → expectedLastSequence = some c.head)
  | .prepared draft head check => Prepared F caller log draft head check
  | _ => True

theorem callerOk_concat (event : ResearchEvent) (h : CallerOk F log caller) :
    CallerOk F (log ++ [event]) caller := by
  unfold CallerOk at h ⊢
  split at h
  · obtain ⟨fact, hfact⟩ := h
    exact ⟨fact, by simp_all [EventLog.getEvent, List.find?_append]⟩
  · exact ⟨h.1.concat event, h.2⟩
  · rename_i draft head check hphase
    refine ⟨h.request.concat event, ?_, ?_, h.native⟩
    · have hhead := h.within
      simp only [List.length_append, List.length_singleton]
      omega
    · rw [List.take_append_of_le_length h.within]
      exact h.checked
  · trivial

theorem callerOk_raise (caller : Caller) (e : PlaneError) : CallerOk F log (caller.raise e) := by
  unfold Caller.raise
  split
  · split <;> trivial
  · trivial

theorem callerOk_settle {answer : Except PlaneError Next}
    (h : ∀ next, answer = .ok next → NextOk F caller.plane log caller.isNative next) :
    CallerOk F log (caller.settle answer) := by
  rcases answer with e | next
  · trivial
  · have hnext := h next rfl
    cases next with
    | replay eventId missing => exact hnext
    | publish resultDigest => trivial
    | append draft expectedLastSequence check => exact hnext

theorem callerOk_firstCheck (hlog : LogOk F log) :
    CallerOk F log (caller.settle (caller.firstCheck F contentDigest reads log)) := by
  apply callerOk_settle
  intro next hnext
  obtain ⟨plane, call, phase, retries⟩ := caller
  cases call with
  | revokeGrant call => exact revokeGrant_ok hnext
  | expireLease call => exact expireLease_ok hnext
  | complete call => exact complete_ok hlog hnext
  | fail call => exact fail_ok hlog hnext
  | completeNativeOutput call => exact publishOutput_ok hlog hnext

theorem callerOk_secondCheck {resultDigest : String} (hlog : LogOk F log)
    (h : CallerOk F log caller) :
    CallerOk F log (caller.secondCheck F contentDigest resultDigest reads log) := by
  unfold Caller.secondCheck
  split
  · rename_i call hcall
    apply callerOk_settle
    intro next hnext
    have hnative : caller.isNative = true := by simp [Caller.isNative, hcall]
    rw [hnative]
    exact appendOutput_ok hlog hnext
  · exact h

theorem callerOk_prepare {draft : WorkerDraft} {expectedLastSequence : Option Nat}
    {check : Option GrantCheck} (hrequest : Request F caller.plane log draft check)
    (hnative : caller.isNative = true → ∀ c, check = some c →
      expectedLastSequence = some c.head) :
    CallerOk F log (caller.prepare F draft expectedLastSequence check log) := by
  unfold Caller.prepare
  split
  · rename_i head hhead
    obtain ⟨hchecked, hexpected⟩ := appendHead_ok hhead
    refine ⟨hrequest, hchecked.atHead.le, ?_, ?_⟩
    · rw [hchecked.atHead, List.take_length, ← hchecked.atHead]
      exact hchecked
    · intro hisNative c hc
      exact (hexpected c.head (hnative hisNative c hc)).symm
  · exact callerOk_raise caller _

/-- The store appended a prepared draft: the checks were made on the log that it is appended to. -/
theorem Prepared.added {draft : WorkerDraft} {head : Nat} {check : Option GrantCheck}
    (h : Prepared F caller log draft head check)
    (happend : log.append draft.document (some head) = .ok event) :
    log.Added draft.document (some head) event ∧ head = log.length ∧
      AppendChecked F caller.plane.projectId log draft.document head := by
  have hadded := EventLog.append_ok happend
  have hhead := hadded.expected head rfl
  have hchecked := h.checked
  rw [← hhead, List.take_length] at hchecked
  exact ⟨hadded, hhead.symm, hhead ▸ hchecked⟩

theorem logOk_concat (hlog : LogOk F log) (hfresh : ∀ earlier ∈ log, earlier.id ≠ event.id)
    (hresult : ResultIds F event) : LogOk F (log ++ [event]) where
  ids := by
    rw [List.map_append, List.nodup_append]
    refine ⟨hlog.ids, by simp, ?_⟩
    intro id hid id' hid'
    obtain ⟨earlier, hearlier, rfl⟩ := List.mem_map.mp hid
    simp only [List.map_cons, List.map_nil, List.mem_singleton] at hid'
    rw [hid']
    exact hfresh earlier hearlier
  results := by
    intro fact hfact
    rcases List.mem_append.mp hfact with hfact | hfact
    · exact hlog.results fact hfact
    · cases List.mem_singleton.mp hfact
      exact hresult

theorem logOk_foreign (hlog : LogOk F log)
    (h : (planeCallers F contentDigest).admits log event = true) : LogOk F (log ++ [event]) := by
  simp only [planeCallers, Bool.and_eq_true, List.all_eq_true, decide_eq_true_eq] at h
  obtain ⟨hforeign, hfresh⟩ := h
  refine logOk_concat hlog hfresh ⟨?_, ?_⟩
  · intro payload hpayload
    simp [isForeign, hpayload] at hforeign
  · intro payload hpayload
    simp only [isForeign, hpayload, decide_eq_true_eq] at hforeign
    exact hforeign.2

theorem logOk_store {draft : WorkerDraft} {head : Nat} {check : Option GrantCheck}
    (hlog : LogOk F log) (h : Prepared F caller log draft head check)
    (happend : log.append draft.document (some head) = .ok event) : LogOk F (log ++ [event]) := by
  obtain ⟨hadded, -, -⟩ := h.added happend
  exact logOk_concat hlog hadded.fresh (resultIds_of_request h.request hadded)

/-- A move either appends nothing or stores a prepared draft. -/
theorem move_cases (log : EventLog) (caller : Caller) (reads : Reads) :
    (caller.move F contentDigest log reads).2 = none ∨
      ∃ draft head check event, caller.phase = .prepared draft head check ∧
        log.append draft.document (some head) = .ok event ∧
        caller.move F contentDigest log reads =
          ({ caller with phase := .returned (.ok event) }, some event) := by
  unfold Caller.move
  split
  all_goals try exact .inl rfl
  rename_i draft head check hphase
  unfold Caller.store
  split
  · exact .inl rfl
  · split
    · rename_i event happend
      exact .inr ⟨draft, head, check, event, hphase, happend, rfl⟩
    · exact .inl rfl

theorem callerOk_move (hlog : LogOk F log) (h : CallerOk F log caller) :
    CallerOk F log (caller.move F contentDigest log reads).1 := by
  unfold Caller.move
  cases hphase : caller.phase with
  | checking => exact callerOk_firstCheck hlog
  | publishing resultDigest => exact callerOk_secondCheck hlog h
  | replaying eventId missing =>
    dsimp only
    unfold Caller.replay
    split <;> trivial
  | appending draft expectedLastSequence check =>
    simp only [CallerOk, hphase] at h
    exact callerOk_prepare h.1 h.2
  | prepared draft head check =>
    dsimp only
    unfold Caller.store
    split
    · exact callerOk_raise caller _
    · split
      · trivial
      · exact callerOk_raise caller _
  | returned answer => exact h

theorem planeCallers_invariant (F : FloatText) (contentDigest : Json → Option String) :
    (planeCallers F contentDigest).Invariant (LogOk F) (CallerOk F) where
  mono log event caller h := callerOk_concat event h
  start log caller h := by
    simp only [planeCallers, Caller.starts] at h
    split at h
    · rename_i hphase
      simp [CallerOk, hphase]
    · cases h
  foreign log event hlog h := logOk_foreign hlog h
  move log caller reads hlog h := by
    change LogOk F (log ++ (caller.move F contentDigest log reads).2.toList) ∧
      CallerOk F (log ++ (caller.move F contentDigest log reads).2.toList)
        (caller.move F contentDigest log reads).1
    rcases move_cases log caller reads with
      hquiet | ⟨draft, head, check, event, hphase, happend, hmove⟩
    · rw [hquiet, Option.toList_none, List.append_nil]
      exact ⟨hlog, callerOk_move hlog h⟩
    · rw [hmove]
      simp only [CallerOk, hphase] at h
      exact ⟨logOk_store hlog h happend, trivial⟩

end ResearchOs.Workers
