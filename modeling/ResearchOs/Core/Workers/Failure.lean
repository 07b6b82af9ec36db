import ResearchOs.Core.Storage.Control
import ResearchOs.Core.Workers.Lease
import ResearchOs.Core.Workers.Plane

/-! The failure of a lease: the append of its fact, and what the fact leaves. -/
namespace ResearchOs.Workers

open JsonText (FloatText)
open Storage (EventLog assigned)

variable {F : FloatText} {projectId : EventIdentifier} {log : EventLog} {fold next : WorkerFold}
  {draft : WorkerDraft} {event : ResearchEvent}

/-! What an event of a draft says of its actor and of its revision. -/

theorem ActorKind.ofText_text (kind : ActorKind) : ActorKind.ofText kind.text = some kind := by
  cases kind <;> decide

theorem actor_of_validate {id : String} {kind : ActorKind} {actor : EventActor}
    (h : EventActor.validate (.obj (Json.ofPairs [("id", .str id), ("kind", .str kind.text)])) =
      some actor) : actor.kind = some kind := by
  have hlookup : (Json.ofPairs [("id", .str id), ("kind", .str kind.text)]).lookup "kind" =
      some (.str kind.text) := Json.lookup_ofPairs _ _
  simp only [EventActor.validate, Option.bind_eq_bind, Option.bind_eq_some_iff] at h
  obtain ⟨ms, hms, name, -, found, hkind, modelId, -, h⟩ := h
  cases Strict.closed_some hms
  split_ifs at h
  cases h
  simp only [Strict.defaulted, hlookup, Strict.nullable, Strict.enumeration,
    ActorKind.ofText_text, Option.map_some, Option.some.injEq] at hkind
  exact hkind.symm

/-- What an event that was stored for a draft says. -/
structure WorkerDraft.Says (draft : WorkerDraft) (event : ResearchEvent) : Prop where
  id : event.id.val = draft.eventId
  type : event.type.val = draft.eventType.text
  projectId : event.data.projectId.val = draft.projectId
  revision : event.data.experimentRevision.val = draft.experimentRevision
  payload : event.data.payload = Json.ofPairs draft.payload
  actor : event.data.actor.kind = some draft.actorKind
  run : ∀ runId : EventIdentifier, draft.runId = some runId.val → event.data.runId = some runId

theorem WorkerDraft.says_of_validate {sequence : SequenceNumber} {streamVersion : StreamVersion}
    (h : validateEventDocument (.obj (assigned draft.members sequence streamVersion)) =
      some event) : draft.Says event := by
  obtain ⟨hid, htype, hproject, hpayload⟩ := fields_of_validate h
  obtain ⟨-, -, hvalid⟩ := data_of_validate h
  obtain ⟨-, hrevision, hrun, -, -⟩ := ResearchEventData.validate_members hvalid
  rw [lookup_revision] at hrevision
  refine ⟨hid, htype, hproject, ?_, hpayload, ?_, ?_⟩
  · simp only [Option.some.injEq, Json.int.injEq] at hrevision
    exact (Int.ofNat.inj hrevision).symm
  · simp only [ResearchEventData.validate, Option.bind_eq_bind, Option.bind_eq_some_iff] at hvalid
    obtain ⟨ms, hms, _, -, actor, hactor, found, -, revision, -, runId, -, attemptId, -, blockId, -,
      payload, -, evidenceRefs, -, hvalid⟩ := hvalid
    cases Strict.closed_some hms
    split_ifs at hvalid
    obtain ⟨j, hj, hdecode⟩ := Option.bind_eq_some_iff.mp hactor
    rw [lookup_actor] at hj
    cases hj
    have hdata := Option.some.inj hvalid
    rw [← hdata]
    exact actor_of_validate hdecode
  · intro runId hnamed
    refine @nullable_identifier _ _ (some runId) _ ?_ hrun
    rw [lookup_runId, hnamed]
    rfl

/-! The append of a draft that folds. -/

/-- A valid draft with a new id is stored at the head, if its event folds. -/
theorem WorkerDraft.appended (hproject : draft.projectId = projectId.val)
    (hvalid : validateEventDocument (.obj (assigned draft.members Storage.firstSequence
      Storage.firstStreamVersion)) = some event)
    (hfold : replayWorkers F projectId log = .ok fold)
    (hfresh : ∀ earlier ∈ log, earlier.id.val ≠ draft.eventId)
    (hroom : log.length < cloudEventsIntegerMax) :
    ∃ stored, draft.Says stored ∧ stored.sequence.val = log.length + 1 ∧
      ∀ next, applyWorkerFold F projectId fold stored = .ok next →
        appendHead F projectId log draft.document none = .ok log.length ∧
          log.append draft.document (some log.length) = .ok stored := by
  set sequence : SequenceNumber :=
    ⟨log.length + 1, inRange_succ hroom⟩ with hsequence
  have hplaced := Storage.validate_assigned draft.members sequence Storage.firstSequence
    Storage.firstStreamVersion Storage.firstStreamVersion
  rw [hvalid, Option.map_some] at hplaced
  set preflight := event.placed sequence Storage.firstStreamVersion
  have hestablished : Storage.Preflight log.length draft.document preflight :=
    ⟨rfl, draft.members, draft.draftMembers_document, hplaced⟩
  have hsaid := says_of_validate hplaced
  have hchecked : preflightEvent projectId log.length draft.document = .ok preflight := by
    have hnamed : preflight.data.projectId = projectId :=
      Subtype.ext (hsaid.projectId.trans hproject)
    simp only [preflightEvent, document, draft.supplied_eq_nil, ne_eq, not_true_eq_false, if_false,
      dif_pos hroom, ← hsequence, hplaced, if_pos hnamed]
  have hstream : Storage.EventLog.nextStreamVersion log preflight.streamid.val ≤
      cloudEventsIntegerMax := (List.length_filter_le _ _).trans (Nat.le_of_lt hroom)
  have hnew : ∀ earlier ∈ log, earlier.id ≠ preflight.id := by
    intro earlier hearlier heq
    exact hfresh earlier hearlier (by rw [heq, hsaid.id])
  have happend := hestablished.append hnew hstream
  set stored := preflight.placed preflight.sequence
    ⟨Storage.EventLog.nextStreamVersion log preflight.streamid.val,
      inRange_zero hstream⟩
  refine ⟨stored, ⟨hsaid.id, hsaid.type, hsaid.projectId, hsaid.revision, hsaid.payload, hsaid.actor,
    hsaid.run⟩, rfl, ?_⟩
  intro next hnext
  refine ⟨?_, happend⟩
  have hfolds : foldDraft F projectId ⟨log.length, fold⟩ draft.document = .ok next := by
    simp only [foldDraft, hchecked, bind, Except.bind]
    exact hnext
  simp only [appendHead, rebuild, hfold, fromWorker, bind, Except.bind, requireHead, hfolds]

/-! The fact. -/

theorem ofPairs_failure (leaseId reasonCode : String) :
    Json.ofPairs [("leaseId", .str leaseId), ("reasonCode", .str reasonCode)] =
      [("leaseId", .str leaseId), ("reasonCode", .str reasonCode)] := by
  have horder : ¬ "reasonCode" < "leaseId" := by decide
  simp [Json.ofPairs, Json.insert, horder]

theorem payloadModel_failure (leaseId reasonCode : EventIdentifier) :
    payloadModel F .workFailed (.obj (Json.ofPairs [("leaseId", .str leaseId.val),
      ("reasonCode", .str reasonCode.val)])) = some (.workFailed ⟨leaseId, reasonCode⟩) := by
  have hmembers : Strict.closed ["leaseId", "reasonCode"] (.obj [("leaseId", .str leaseId.val),
      ("reasonCode", .str reasonCode.val)]) =
      some [("leaseId", .str leaseId.val), ("reasonCode", .str reasonCode.val)] := rfl
  have hlease : Strict.required [("leaseId", .str leaseId.val), ("reasonCode", .str reasonCode.val)]
      "leaseId" Strict.identifier = some leaseId := Strict.text_str leaseId
  have hreason : Strict.required [("leaseId", .str leaseId.val),
      ("reasonCode", .str reasonCode.val)] "reasonCode" Strict.identifier = some reasonCode :=
    Strict.text_str reasonCode
  rw [ofPairs_failure]
  simp only [payloadModel, WorkFailedPayload.validate, identifierAndReason, hmembers, hlease,
    hreason, Option.bind_eq_bind, Option.bind_some, Option.map_some]

/-- The lease as its failure leaves it. -/
def LeaseRecord.failed (lease : LeaseRecord) (reasonCode : EventIdentifier) : LeaseRecord :=
  { lease with status := .failed, reasonCode := some reasonCode }

/-- The event of a failure draft goes to the handler of failures. -/
theorem applyWorkerFold_of_failure {plane : WorkerPlane} {leaseId reasonCode : EventIdentifier}
    {workerId runId attemptId eventId time : String}
    (hsaid : (workFailedDraft plane leaseId.val workerId reasonCode.val runId attemptId eventId
      time).Says event) :
    applyWorkerFold F plane.projectId fold event = applyFailed fold ⟨leaseId, reasonCode⟩ := by
  have hproject : event.data.projectId = plane.projectId := Subtype.ext hsaid.projectId
  have htype : WorkerEventType.ofText event.type.val = some .workFailed := by
    rw [hsaid.type]
    rfl
  have hactor : requireWorkerActor .workFailed event = .ok () := by
    have hkind : event.data.actor.kind = some .system := hsaid.actor
    simp only [requireWorkerActor, hkind]
    rfl
  have hparsed : parseWorkerPayload F .workFailed event =
      .ok (.workFailed ⟨leaseId, reasonCode⟩) := by
    have hpayload : event.data.payload = Json.ofPairs [("leaseId", .str leaseId.val),
        ("reasonCode", .str reasonCode.val)] := hsaid.payload
    rw [parseWorkerPayload, hpayload, payloadModel_failure]
  rw [applyWorkerFold, if_neg (not_not.mpr hproject), htype]
  simp only [hactor, hparsed, applyPayload, bind, Except.bind]

/-- The fact that fails a lease that nothing has settled. -/
theorem applyWorkerFold_failure {plane : WorkerPlane} {lease : LeaseRecord}
    {workerId runId attemptId eventId time : String} {reasonCode : EventIdentifier}
    (hsaid : (workFailedDraft plane lease.leaseId.val workerId reasonCode.val runId attemptId eventId
      time).Says event) (hlease : fold.lease lease.leaseId = some lease)
    (hopen : lease.status = .leased) :
    applyWorkerFold F plane.projectId fold event = .ok { fold with
      leases := replaceLease fold.leases (lease.failed reasonCode) } := by
  have hneither : lease.status ≠ .failed ∧ lease.status ∉ terminalLease := by
    rw [hopen]
    decide
  have hcall : requireCall (lease.status ∉ terminalLease) "terminal lease cannot fail"
      "lease-terminal" = .ok () := if_pos hneither.2
  rw [applyWorkerFold_of_failure hsaid]
  simp only [applyFailed, hlease, presentCall, if_neg hneither.1, hcall, bind, Except.bind]
  rfl

/-- A lease that has not failed can fail only while it is open. -/
theorem open_of_failure {plane : WorkerPlane} {lease : LeaseRecord}
    {workerId runId attemptId eventId time : String} {reasonCode : EventIdentifier}
    (hsaid : (workFailedDraft plane lease.leaseId.val workerId reasonCode.val runId attemptId eventId
      time).Says event) (hlease : fold.lease lease.leaseId = some lease)
    (hnot : lease.status ≠ .failed)
    (h : applyWorkerFold F plane.projectId fold event = .ok next) : lease.status = .leased := by
  rw [applyWorkerFold_of_failure hsaid] at h
  obtain ⟨current, hcurrent, h⟩ := Fold.bind_eq_ok.mp h
  simp only [hlease, presentCall, Except.ok.injEq] at hcurrent
  subst hcurrent
  rw [if_neg hnot] at h
  have hopen := (requireCall_bind_ok.mp h).1
  cases hstatus : lease.status with
  | leased => rfl
  | _ => exact absurd (by rw [hstatus]; decide) hopen

end ResearchOs.Workers
