import ResearchOs.Core.Native.Report

/-! The two kinds of appends that a report makes. -/
namespace ResearchOs.Native

open JsonText (FloatText)
open Runs (LifecycleType LifecycleDraft LifecyclePayload RunSnapshot AttemptSnapshot Carries Follows
  Within payloadModel stamped)
open Storage (EventLog assigned)
open Workers

theorem getEvent_append {log later : EventLog} {id : String} {event : ResearchEvent}
    (h : log.getEvent id = some event) :
    Storage.EventLog.getEvent (log ++ later) id = some event := by
  rw [Storage.EventLog.getEvent] at h ⊢
  rw [List.find?_append, h, Option.some_or]

theorem getEvent_eq_none {log : EventLog} {id : String} :
    log.getEvent id = none ↔ ∀ event ∈ log, event.id.val ≠ id := by
  rw [Storage.EventLog.getEvent, List.find?_eq_none]
  simp

theorem getEvent_concat {log : EventLog} {event : ResearchEvent}
    (h : ∀ earlier ∈ log, earlier.id.val ≠ event.id.val) :
    Storage.EventLog.getEvent (log ++ [event]) event.id.val = some event := by
  have hnone := getEvent_eq_none.mpr h
  rw [Storage.EventLog.getEvent] at hnone ⊢
  simp [List.find?_append, hnone]

theorem Has.append {request : NativeRequest} {log : EventLog} {fact : LifecycleFact}
    (h : Has request log fact) (later : EventLog) : Has request (log ++ later) fact := by
  obtain ⟨stored, hstored, hrecorded⟩ := h
  exact ⟨stored, getEvent_append hstored, hrecorded⟩

theorem append_text_injective {before a b : String} (h : before ++ a = before ++ b) : a = b := by
  have hlist := congrArg String.toList h
  rw [String.toList_append, String.toList_append] at hlist
  exact String.toList_inj.mp (List.append_cancel_left hlist)

/-- The identifiers of two facts of a request tell their types apart. -/
theorem remoteEventId_injective {request : NativeRequest} {a b : LifecycleType}
    (h : request.remoteEventId a = request.remoteEventId b) : a = b := by
  have htext : a.text = b.text := append_text_injective h
  have hsome := LifecycleType.ofText_text a
  rw [htext, LifecycleType.ofText_text] at hsome
  exact (Option.some.inj hsome).symm

theorem append_apart {a b x y : String} (n : Nat) (ha : n ≤ a.toList.length)
    (hb : n ≤ b.toList.length) (h : a.toList.take n ≠ b.toList.take n) : a ++ x ≠ b ++ y := by
  intro heq
  have hlist := congrArg (fun s : String => s.toList.take n) heq
  simp only [String.toList_append] at hlist
  rw [List.take_append_of_le_length ha, List.take_append_of_le_length hb] at hlist
  exact h hlist

/-- The identifier of a failure is none of a fact of a run. -/
theorem failedEventId_ne (request : NativeRequest) (leaseId : String) (type : LifecycleType) :
    failedEventId leaseId ≠ request.remoteEventId type := by
  unfold failedEventId NativeRequest.remoteEventId
  simp only [String.append_assoc]
  exact append_apart 5 (by decide) (by decide) (by decide)

section

variable {F : FloatText} {contentDigest : Json → Option String} {context : NativeContext}
  {plane : WorkerPlane} {call : OutcomeCall} {log : EventLog} {bound : Bound} {s : RunSnapshot}
  {attempt : AttemptSnapshot} {request : NativeRequest} {fact : LifecycleFact}

/-! What a step reads of a log that a report is checked against. -/

theorem Names.authorized (h : Names F contentDigest context plane call log bound) :
    authorizedLease F plane call log = .ok (bound.lease, bound.grant) := by
  obtain ⟨fold, hreplay, hbound⟩ := h
  obtain ⟨claims, work, plan, hbindings⟩ := bindReport_eq_ok.mp hbound
  have hhead : rebuild F plane.projectId log = .ok ⟨log.length, fold⟩ := by
    simp only [rebuild, hreplay, fromWorker, bind, Except.bind]
  unfold authorizedLease
  refine Fold.bind_eq_ok.mpr ⟨claims, by simpa using hbindings.verified, ?_⟩
  refine Fold.bind_eq_ok.mpr ⟨⟨log.length, fold⟩, fromPlane_eq_ok.mpr hhead, ?_⟩
  simpa using hbindings.result

theorem Report.requested
    (h : Report F contentDigest context plane call log bound s attempt) :
    cancellationRequested bound.request log =
      .ok (s.cancellationRequested || attempt.cancellationRequested) := by
  have hfound : Runs.findAttempt s bound.request.attemptId = some attempt := by
    simp [Runs.findAttempt, h.attempts, h.attemptId]
  refine fromRecovery_eq_ok.mpr (Recovery.runCancelRequested_eq_ok.mpr ⟨some s, h.folds, ?_⟩)
  simp [Recovery.cancelRequested, hfound]

theorem Report.invariant
    (h : Report F contentDigest context plane call log bound s attempt) : s.Invariant :=
  Runs.fold_invariant h.folds s rfl

theorem Report.found (h : Report F contentDigest context plane call log bound s attempt) :
    Runs.findAttempt s attempt.attemptId = some attempt := by
  simp [Runs.findAttempt, h.attempts]

theorem Report.ofLease (h : Report F contentDigest context plane call log bound s attempt) :
    OfLease plane bound := by
  obtain ⟨fold, -, hbound⟩ := h.workers
  exact ofLease_of_bindReport hbound

/-- The run of a checked report has the revision of its request. -/
theorem Report.revision (h : Report F contentDigest context plane call log bound s attempt) :
    s.experimentRevision.val = bound.request.revision := by
  have hmem : LifecycleFact.bare .attemptStarted ∈ startFacts bound.request :=
    List.mem_append_right _ List.mem_cons_self
  obtain ⟨stored, hstored, htype, hdata⟩ := h.started _ hmem
  have hid : stored.id.val = bound.request.remoteEventId
      (LifecycleFact.bare .attemptStarted).type := by
    simpa using List.find?_some hstored
  have hsaid := LifecycleDraft.says_of_data hid htype hdata
  have hlifecycle : Runs.ResearchEvent.lifecycleType? stored = some .attemptStarted :=
    hsaid.lifecycle
  have hrevision := Runs.revision_of_mem (p := bound.request.projection) h.folds
    (List.mem_of_find?_eq_some hstored) hsaid.belongs hlifecycle (by decide) (by decide)
  rw [hrevision]
  exact hsaid.experimentRevision

/-! The append of a fact of the run. -/

/-- The draft is a valid event wherever the log ends. -/
def Valid (members : Json.Members) : Prop :=
  ∃ event, validateEventDocument (.obj (assigned members Storage.firstSequence
    Storage.firstStreamVersion)) = some event

theorem draft_envelope : (request.draft request.remoteEventId "" fact).attemptId = none ↔
    fact.type ∈ LifecycleType.runTypes := by
  have htypes := @Runs.mem_attemptTypes fact.type
  by_cases h : fact.type ∈ LifecycleType.attemptTypes
  · simp [NativeRequest.draft, h, htypes.mp h]
  · simp [NativeRequest.draft, h, not_not.mp (mt htypes.mpr h)]

/-- An event of the run is no fact of the workers. -/
theorem applyWorkerFold_lifecycle {fold : WorkerFold} {event : ResearchEvent} {type : LifecycleType}
    (htype : event.type.val = type.text) :
    applyWorkerFold F plane.projectId fold event = .ok fold := by
  have hforeign : WorkerEventType.ofText event.type.val = none := by
    rw [htype]
    cases type <;> decide
  unfold applyWorkerFold
  rw [hforeign]
  split_ifs <;> rfl

theorem replay_lifecycle {fold : WorkerFold} {event : ResearchEvent} {type : LifecycleType}
    (hreplay : replayWorkers F plane.projectId log = .ok fold)
    (htype : event.type.val = type.text) :
    replayWorkers F plane.projectId (log ++ [event]) = .ok fold :=
  Fold.foldlM_concat_eq_ok.mpr ⟨fold, hreplay, applyWorkerFold_lifecycle htype⟩

theorem appendBound_new {time : String} {result : Runs.RunControlResult}
    (hfresh : ∀ earlier ∈ log, earlier.id.val ≠ request.remoteEventId fact.type)
    (h : Runs.appendAlone request.projection log
      ⟨(request.draft request.remoteEventId time fact).document, none⟩ = .ok result) :
    appendBound request time fact log = .ok (some (log ++ [result.stored])) := by
  have hnone : log.getEvent (request.draft request.remoteEventId time fact).eventId = none :=
    getEvent_eq_none.mpr hfresh
  unfold appendBound
  simp only
  rw [hnone, Runs.appendAlone_expected, h]
  rfl

/-- A fact of the run that the projection accepts. -/
theorem Report.record (h : Report F contentDigest context plane call log bound s attempt)
    (hwithin : Within log) (next : ResearchEvent → RunSnapshot)
    (moved : ResearchEvent → AttemptSnapshot) {time : String}
    (hvalid : Valid (bound.request.draft bound.request.remoteEventId time fact).members)
    (hfresh : ∀ earlier ∈ log, earlier.id.val ≠ bound.request.remoteEventId fact.type)
    (hroom : log.length < cloudEventsIntegerMax) {parsed : LifecyclePayload}
    (hparse : payloadModel fact.type (.obj (Json.ofPairs fact.payload)) = some parsed)
    (hnext : ∀ stored, Carries bound.request.projection stored fact.type
        (if fact.type ∈ LifecycleType.attemptTypes then some attempt.attemptId else none) parsed →
      Follows s stored → bound.request.projection.apply (some s) stored = .ok (some (next stored)))
    (hmoved : ∀ stored, (next stored).attempts = [moved stored] ∧
      (moved stored).attemptId = attempt.attemptId) :
    ∃ stored, appendBound bound.request time fact log = .ok (some (log ++ [stored])) ∧
      stored.id.val = bound.request.remoteEventId fact.type ∧
      Has bound.request (log ++ [stored]) fact ∧ Within (log ++ [stored]) ∧
      Report F contentDigest context plane call (log ++ [stored]) bound (next stored)
        (moved stored) := by
  obtain ⟨event, hvalid⟩ := hvalid
  set draft := bound.request.draft bound.request.remoteEventId time fact
  have hplace : Runs.Placeable bound.request.projection log s draft :=
    ⟨rfl, rfl, h.revision.symm, ⟨event, hvalid⟩, hfresh, hroom⟩
  obtain ⟨stored, hsaid, hcarries, hfollows, hwithin', happend⟩ :=
    hplace.appends hwithin h.folds draft_envelope hparse
  have hcarries' : Carries bound.request.projection stored fact.type
      (if fact.type ∈ LifecycleType.attemptTypes then some attempt.attemptId else none) parsed := by
    rw [h.attemptId]
    exact hcarries
  have happly := hnext stored hcarries' hfollows
  have hstored := happend _ happly
  obtain ⟨hadded, -, hfold⟩ := Runs.appendAlone_ok hstored
  obtain ⟨ms, hms, hdocument⟩ := hadded.document
  rw [LifecycleDraft.draftMembers_document] at hms
  cases hms
  obtain ⟨hid, htype, hdata⟩ := LifecycleDraft.data_of_validate hdocument
  have hrecorded : Recorded (bound.request.draft bound.request.remoteEventId "" fact) stored :=
    ⟨htype, hdata⟩
  have hget : Storage.EventLog.getEvent (log ++ [stored]) (bound.request.remoteEventId fact.type) =
      some stored := by
    have hnew : ∀ earlier ∈ log, earlier.id.val ≠ stored.id.val := by
      rw [hid]
      exact hfresh
    have hconcat := getEvent_concat hnew
    rw [hid] at hconcat
    exact hconcat
  obtain ⟨fold, hreplay, hbound⟩ := h.workers
  obtain ⟨hattempts, hsame⟩ := hmoved stored
  refine ⟨stored, ?_, hid, ⟨stored, hget, hrecorded⟩, hwithin', ?_⟩
  · exact appendBound_new hfresh hstored
  · exact ⟨⟨fold, replay_lifecycle hreplay htype, hbound⟩,
      fun other hother => (h.started other hother).append _, hfold, hattempts,
      hsame.trans h.attemptId⟩

/-- A fact that is recorded already. -/
theorem appendBound_done {time : String} (h : Has request log fact) :
    appendBound request time fact log = .ok none := by
  obtain ⟨stored, hstored, hrecorded⟩ := h
  have hget : log.getEvent (request.draft request.remoteEventId time fact).eventId = some stored :=
    hstored
  have hsame : Recorded (request.draft request.remoteEventId time fact) stored := hrecorded
  unfold appendBound
  simp only
  rw [hget]
  exact requireNative_bind_ok.mpr ⟨hsame, rfl⟩

/-! The append of the failure of a lease. -/

theorem Report.fail (h : Report F contentDigest context plane call log bound s attempt)
    (hwithin : Within log) {stamp : String} {reasonCode : EventIdentifier}
    (hvalid : Valid (workFailed plane call bound.lease reasonCode.val stamp).members)
    (hfresh : ∀ earlier ∈ log, earlier.id.val ≠ failedEventId bound.lease.leaseId.val)
    (hroom : log.length < cloudEventsIntegerMax) (hopen : bound.lease.status = .leased)
    (hrevision : plane.experimentRevision = s.experimentRevision.val) :
    ∃ stored, appendWorker F plane (workFailed plane call bound.lease reasonCode.val stamp) log =
        .ok (some (log ++ [stored])) ∧
      stored.id.val = failedEventId bound.lease.leaseId.val ∧ Within (log ++ [stored]) ∧
      Report F contentDigest context plane call (log ++ [stored]) (bound.failed reasonCode)
        (stamped s stored) attempt := by
  obtain ⟨fold, hreplay, hbound⟩ := h.workers
  obtain ⟨claims, work, plan, hbindings⟩ := bindReport_eq_ok.mp hbound
  have hlease := (bindResultAuthorization_ok hbindings.result).recordedLease
  obtain ⟨event, hvalid⟩ := hvalid
  set draft := workFailed plane call bound.lease reasonCode.val stamp
  obtain ⟨stored, hsaid, hsequence, hstores⟩ :=
    WorkerDraft.appended rfl hvalid hreplay
      hfresh hroom
  have happly := @applyWorkerFold_failure F _ _ plane _ _ _ _ _ _ _ hsaid hlease hopen
  obtain ⟨hhead, happend⟩ := hstores _ happly
  have hof := h.ofLease
  have hbelongs : Runs.belongs stored bound.request.projectId bound.request.runId = true := by
    refine Runs.belongs_iff.mpr ⟨?_, ?_⟩
    · rw [hof.project]
      exact Subtype.ext hsaid.projectId
    · rw [hof.run]
      exact hsaid.run bound.lease.runId rfl
  have hobserved : Runs.ResearchEvent.lifecycleType? stored = none := by
    rw [Runs.ResearchEvent.lifecycleType?, hsaid.type]
    exact (by decide : LifecycleType.ofText WorkerEventType.workFailed.text = none)
  have hcursor := Runs.fold_cursor hwithin h.folds
  have hnamed := Runs.fold_bound h.folds s rfl
  obtain ⟨hproject, hrun⟩ := Runs.belongs_iff.mp hbelongs
  have hfollows : Follows s stored := by
    refine ⟨by omega, Subtype.ext ?_, ?_, ?_⟩
    · rw [← hrevision]
      exact hsaid.revision
    · rw [hproject, hnamed.1]
      rfl
    · rw [hrun, hnamed.2]
      rfl
  have hfold : bound.request.projection.fold (log ++ [stored]) = .ok (some (stamped s stored)) :=
    Fold.foldlM_concat_eq_ok.mpr
      ⟨some s, h.folds, Runs.apply_observed h.invariant hbelongs hobserved hfollows⟩
  refine ⟨stored, ?_, hsaid.id, ?_, ?_⟩
  · simp only [appendWorker, hhead, happend]
  · intro other hother
    rw [List.length_append, List.length_singleton]
    rcases List.mem_append.mp hother with hother | hother
    · exact Nat.le_succ_of_le (hwithin other hother)
    · rw [List.mem_singleton.mp hother, hsequence]
  · exact ⟨⟨_, Fold.foldlM_concat_eq_ok.mpr ⟨fold, hreplay, happly⟩,
      bindReport_failed reasonCode hbound⟩,
      fun fact hfact => (h.started fact hfact).append _, hfold, h.attempts, h.attemptId⟩

end

end ResearchOs.Native
