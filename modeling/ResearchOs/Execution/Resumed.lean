import ResearchOs.Execution.Path

/-! A simulated run that is cut after any of its writes, and taken up again. -/
namespace ResearchOs.Execution

open Runs
open Storage (EventLog assigned)

variable {runtime : SimulatedRuntime} {call : SimulationCall} {prepared : PreparedRun}
  {consumed e : ResearchEvent} {emit : Bool} {metrics : List MetricDraft} {metric : MetricDraft}
  {log : EventLog} {type : LifecycleType} {path : List LifecycleType} {draft : LifecycleDraft}
  {drafts : List LifecycleDraft} {events : List ResearchEvent} {state : Option RunSnapshot}
  {progress next : Progress} {request : SimulationRequest} {s t : RunSnapshot}

/-! The metrics of a request. -/

/-- The metrics that a call wants can be written, or stand in the log already. -/
structure MetricsReady (runtime : SimulatedRuntime) (request : SimulationRequest)
    (metrics : List MetricDraft) (log : EventLog) : Prop where
  drafted : List.Forall₂ (fun type metric => runtime.metricEventDraft request type = .ok metric)
    (metricTypesInRequest request.events) metrics
  writable : ∀ metric ∈ metrics, missing log metric = true → ∃ event, validateEventDocument
    (.obj (assigned metric.members Storage.firstSequence Storage.firstStreamVersion)) = some event
  resumable : ∀ metric ∈ metrics, ∀ existing, log.getEvent metric.eventId = some existing →
    requireResumableMetric runtime.floatText existing metric = .ok ()

theorem metricIdentity_eq_ok {metricType : MetricType} {identity : SimulationEventIdentity} :
    SimulatedRuntime.metricIdentity request metricType = .ok identity ↔
      request.events.lookup metricType.text = some identity := by
  unfold SimulatedRuntime.metricIdentity
  cases request.events.lookup metricType.text <;> simp

theorem metricEventDraft_ok {metricType : MetricType}
    (h : runtime.metricEventDraft request metricType = .ok metric) :
    metric.run = runtime.run ∧ ∃ identity, request.events.lookup metricType.text = some identity ∧
      metric.eventId = identity.id ∧ metric.time = identity.time := by
  obtain ⟨identity, hidentity, h⟩ := Fold.bind_eq_ok.mp h
  obtain ⟨seed, -, h⟩ := Fold.bind_eq_ok.mp h
  cases h
  exact ⟨rfl, identity, metricIdentity_eq_ok.mp hidentity, rfl, rfl⟩

/-- The seed of a metric can always be digested. -/
theorem exists_metricEventDraft (runtime : SimulatedRuntime) {metricType : MetricType}
    {identity : SimulationEventIdentity}
    (h : SimulatedRuntime.metricIdentity request metricType = .ok identity) :
    ∃ metric, runtime.metricEventDraft request metricType = .ok metric := by
  obtain ⟨seed, hseed⟩ : ∃ seed, metricSeedDigest runtime.floatText runtime.run.runId.val
      request.attemptId.val metricType = .ok seed := by
    refine (Jcs.contentDigest_ok_iff _).mpr (Planning.areSafe_ofPairs ?_)
    simp only [List.forall_mem_cons]
    exact ⟨rfl, rfl, rfl, List.forall_mem_nil _⟩
  exact ⟨_, Fold.bind_eq_ok.mpr ⟨identity, h,
    Fold.bind_eq_ok.mpr ⟨seed, fromCanonical_eq_ok.mpr hseed, rfl⟩⟩⟩

/-- A metric that was written for its draft is taken for it again. -/
theorem MetricDraft.Says.resumable {F : JsonText.FloatText} (h : metric.Says e) :
    requireResumableMetric F e metric = .ok () := by
  obtain ⟨text, htext⟩ := (Jcs.canonicalJson_ok_iff (F := F) _).mpr metric.isSafe_members
  rw [requireResumableMetric, h.dump, htext]
  simp [requireSimulation, h.type, fromCanonical, bind, Except.bind]

theorem MetricsReady.concat (h : MetricsReady runtime request metrics log)
    (hsaid : ∀ metric ∈ metrics, e.id.val = metric.eventId → metric.Says e) :
    MetricsReady runtime request metrics (log ++ [e]) where
  drafted := h.drafted
  writable := by
    intro metric hmetric hmissing
    rw [missing_concat, Bool.and_eq_true] at hmissing
    exact h.writable metric hmetric hmissing.1
  resumable := by
    intro metric hmetric existing hexisting
    rw [getEvent_concat] at hexisting
    cases hfound : log.getEvent metric.eventId with
    | some found =>
      rw [hfound, Option.some_or] at hexisting
      exact h.resumable metric hmetric existing (by rw [hfound, hexisting])
    | none =>
      rw [hfound, Option.none_or] at hexisting
      split_ifs at hexisting with hid
      cases hexisting
      exact (hsaid metric hmetric hid).resumable

theorem MetricsReady.exists_key (h : MetricsReady runtime request metrics log)
    (hmetric : metric ∈ metrics) : metric.run = runtime.run ∧
      ∃ (metricType : MetricType) (identity : SimulationEventIdentity),
        request.events.lookup metricType.text = some identity ∧ metric.eventId = identity.id ∧
          runtime.metricEventDraft request metricType = .ok metric := by
  obtain ⟨metricType, -, hdraft⟩ := Fold.exists_of_mem_right h.drafted hmetric
  obtain ⟨hrun, identity, hidentity, hid, -⟩ := metricEventDraft_ok hdraft
  exact ⟨hrun, metricType, identity, hidentity, hid, hdraft⟩

theorem MetricType.text_injective {a b : MetricType} (h : a.text = b.text) : a = b := by
  cases a <;> cases b <;> first | rfl | exact absurd h (by decide)

theorem lifecycle_ne_metric (type : LifecycleType) (metricType : MetricType) :
    type.text ≠ metricType.text := by
  cases type <;> cases metricType <;> decide

/-- Metrics of one request with the same event id are the same metric. -/
theorem MetricsReady.eq_of_id {other : MetricDraft} (h : MetricsReady runtime request metrics log)
    (hnodup : (request.events.map (·.2.id)).Nodup) (hmetric : metric ∈ metrics)
    (hother : other ∈ metrics) (hid : metric.eventId = other.eventId) : metric = other := by
  obtain ⟨-, metricType, identity, hidentity, hmetricId, hdraft⟩ := h.exists_key hmetric
  obtain ⟨-, otherType, found, hfound, hotherId, hotherDraft⟩ := h.exists_key hother
  have hkey := key_of_id hnodup hidentity hfound (by rw [← hmetricId, hid, hotherId])
  obtain rfl := MetricType.text_injective hkey
  exact Except.ok.inj (hdraft.symm.trans hotherDraft)

theorem MetricsReady.ne_draft {planned : PlannedRun} (h : MetricsReady runtime request metrics log)
    (hnodup : (request.events.map (·.2.id)).Nodup) (hmetric : metric ∈ metrics)
    (hdraft : Drafts request runtime.run planned type draft) : draft.eventId ≠ metric.eventId := by
  obtain ⟨-, metricType, identity, hidentity, hmetricId, -⟩ := h.exists_key hmetric
  obtain ⟨found, hfound, rfl⟩ := hdraft
  intro hid
  exact lifecycle_ne_metric type metricType
    (key_of_id hnodup hfound hidentity (hid.trans hmetricId))

/-! Calls that can go on. -/

/-- Every check of the call passes at the log, and a path of it is left. -/
structure Ready (runtime : SimulatedRuntime) (call : SimulationCall) (prepared : PreparedRun)
    (consumed : ResearchEvent) (emit : Bool) (metrics : List MetricDraft) (log : EventLog)
    (path : List LifecycleType) (drafts : List LifecycleDraft) : Prop where
  cited : consumeLocalAuthorization log call prepared = .ok consumed
  inPlace : runControl.InPlace log
  standing : ∃ state progress, runtime.projection.fold log = .ok state ∧ Shows state progress ∧
    Matches runtime.projection state call.request runtime.run ∧
    (∀ s ∈ state, Cites s runtime.run (prepared.planned consumed)) ∧
    progress.remaining prepared.outcome = some path
  unique : (call.request.events.map (·.2.id)).Nodup
  drafted : List.Forall₂ (Drafts call.request runtime.run (prepared.planned consumed)) path drafts
  writable : ∀ draft ∈ drafts, ∃ event, validateEventDocument (.obj (assigned draft.members
    Storage.firstSequence Storage.firstStreamVersion)) = some event
  fresh : ∀ draft ∈ drafts, ∀ earlier ∈ log, earlier.id.val ≠ draft.eventId
  room : log.length + drafts.length + metrics.countP (missing log) ≤ cloudEventsIntegerMax
  emits : path ≠ [] →
    shouldEmitSyntheticMetrics prepared.outcome path call.request.events = emit
  metrics : if emit then MetricsReady runtime call.request metrics log else metrics = []

theorem within_of_inPlace (h : runControl.InPlace log) : Within log := by
  intro event hevent
  obtain ⟨i, hi, hget⟩ := List.mem_iff_getElem.mp hevent
  have hplace := h i event (by rw [List.getElem?_eq_getElem hi, hget])
  have hposition : runControl.position event = event.sequence.val := rfl
  omega

theorem consume_concat (h : consumeLocalAuthorization log call prepared = .ok consumed) :
    consumeLocalAuthorization (log ++ [e]) call prepared = .ok consumed := by
  unfold consumeLocalAuthorization at h ⊢
  rw [getEvent_concat]
  cases hfound : log.getEvent call.authorizationEventId with
  | none =>
    rw [hfound] at h
    cases h
  | some event =>
    rw [hfound] at h
    exact h

theorem missing_concat_le :
    metrics.countP (missing (log ++ [e])) ≤ metrics.countP (missing log) := by
  refine List.countP_mono_left fun metric _ hmissing => ?_
  rw [missing_concat, Bool.and_eq_true] at hmissing
  exact hmissing.1

/-- An append of a valid draft is accepted by the log. -/
theorem append_of_valid {document : Storage.Document} {ms : Json.Members}
    (hms : Storage.draftMembers document.val = .ok ms)
    (hvalid : validateEventDocument (.obj (assigned ms Storage.firstSequence
      Storage.firstStreamVersion)) = some e)
    (hfresh : ∀ earlier ∈ log, earlier.id ≠ e.id) (hroom : log.length < cloudEventsIntegerMax) :
    ∃ sequence version, log.append document (some log.length) = .ok (e.placed sequence version) ∧
      sequence.val = log.length + 1 := by
  set sequence : SequenceNumber :=
    ⟨log.length + 1, inRange_succ hroom⟩
  have hplaced : validateEventDocument (.obj (assigned ms sequence Storage.firstStreamVersion)) =
      some (e.placed sequence Storage.firstStreamVersion) := by
    rw [Storage.validate_assigned ms _ Storage.firstSequence _ Storage.firstStreamVersion, hvalid]
    rfl
  have hpreflight : Storage.Preflight log.length document
      (e.placed sequence Storage.firstStreamVersion) := ⟨rfl, ms, hms, hplaced⟩
  have hstream : log.nextStreamVersion e.streamid.val ≤ cloudEventsIntegerMax :=
    (List.length_filter_le _ _).trans (Nat.le_of_lt hroom)
  exact ⟨sequence, _, hpreflight.append hfresh hstream, rfl⟩

/-- What a call of `append` returns stands behind the log. -/
theorem appendAlone_appends {p : RunStateProjection} {request : RunControlCall}
    {result : RunControlResult} (h : appendAlone p log request = .ok result) :
    log.append request.document (some log.length) = .ok result.stored := by
  obtain ⟨snapshot, -, h⟩ := Fold.bind_eq_ok.mp h
  obtain ⟨document, hdraft, h⟩ := Fold.bind_eq_ok.mp h
  obtain ⟨stored, hcommit, hfinish⟩ := Fold.bind_eq_ok.mp h
  obtain ⟨rfl, -⟩ := draftLifecycle_ok hdraft
  rw [(finishLifecycle_ok hfinish).1]
  exact commitLifecycle_ok hcommit

/-- The next event of the path is accepted, and the rest of the call can go on behind it. -/
theorem Ready.lifecycle
    (h : Ready runtime call prepared consumed emit metrics log (type :: path) (draft :: drafts)) :
    ∃ e t, log.append draft.document (some log.length) = .ok e ∧ e.type.val = type.text ∧
      runtime.projection.fold (log ++ [e]) = .ok (some t) ∧
      (∀ expected : Option Nat, (∀ v ∈ expected, v = log.length) →
        appendAlone runtime.projection log ⟨draft.document, expected⟩ = .ok ⟨e, t⟩) ∧
      Ready runtime call prepared consumed emit metrics (log ++ [e]) path drafts := by
  obtain ⟨state, progress, hfold, hshows, hmatches, hcites, hremaining⟩ := h.standing
  obtain ⟨next, hstep, hnext⟩ := Progress.step_of_remaining hremaining
  have hinvariant := fold_invariant hfold
  have hbound := fold_bound hfold
  obtain ⟨hdraft, hdrafts⟩ := List.forall₂_cons.mp h.drafted
  obtain ⟨identity, hidentity, rfl⟩ := hdraft
  obtain ⟨event, hvalid⟩ := h.writable _ List.mem_cons_self
  have hroom : log.length < cloudEventsIntegerMax := by
    have := h.room
    rw [List.length_cons] at this
    omega
  obtain ⟨e, hsaid, hsequence, happend⟩ := appendAlone_draft (p := runtime.projection) rfl rfl
    hvalid hfold (h.fresh _ List.mem_cons_self) hroom
  have hwithin := within_of_inPlace h.inPlace
  have hbehind : ∀ s ∈ state, s.lastSequence.val < e.sequence.val := by
    rintro s rfl
    have hcursor := fold_cursor hwithin hfold
    omega
  obtain ⟨t, happly, hreached⟩ := hshows.step hinvariant hbound hmatches hstep hsaid hbehind
  have halone := happend t happly
  have hadded := appendAlone_appends halone
  have hfolded : runtime.projection.fold (log ++ [e]) = .ok (some t) :=
    Fold.foldlM_concat_eq_ok.mpr ⟨state, hfold, happly⟩
  have hdistinct : ∀ other ∈ drafts, e.id.val ≠ other.eventId := by
    intro other hother hid
    obtain ⟨otherType, hmem, found, hfound, rfl⟩ := Fold.exists_of_mem_right hdrafts hother
    have hkey := key_of_id h.unique hidentity hfound (hsaid.id.symm.trans hid)
    obtain rfl := lifecycle_of_text hkey
    exact (List.nodup_cons.mp (nodup_of_remaining hremaining)).1 hmem
  refine ⟨e, t, hadded, hsaid.type, hfolded, ?_, ?_⟩
  · intro expected hexpected
    cases expected with
    | none => exact halone
    | some v =>
      obtain rfl := hexpected v rfl
      rw [appendAlone_expected, halone]
  · refine ⟨consume_concat h.cited, h.inPlace.concat hsequence, ?_, h.unique, hdrafts, ?_, ?_, ?_,
      ?_, ?_⟩
    · refine ⟨some t, next, hfolded, hreached.shows, hreached.fits, ?_, hnext⟩
      rintro u ⟨⟩
      cases state with
      | some s => exact (hcites s rfl).apply (hinvariant s rfl) happly
      | none =>
        obtain rfl : type = .runQueued := by
          cases hshows
          cases hstep
          rfl
        have hopens : Carries runtime.projection e .runQueued none
            (.runQueued (prepared.planned consumed).payload) :=
          hmatches.carries (by decide) hsaid
        have hqueued := hopens.opens
        rw [happly] at hqueued
        cases hqueued
        exact ⟨hsaid.projectId, Subtype.ext hsaid.experimentRevision, rfl, rfl, rfl, rfl, rfl⟩
    · exact fun other hother => h.writable other (List.mem_cons_of_mem _ hother)
    · intro other hother earlier hearlier
      rcases List.mem_append.mp hearlier with hearlier | hearlier
      · exact h.fresh other (List.mem_cons_of_mem _ hother) earlier hearlier
      · rw [List.mem_singleton.mp hearlier]
        exact hdistinct other hother
    · have hroom := h.room
      have hfewer : metrics.countP (missing (log ++ [e])) ≤ metrics.countP (missing log) :=
        missing_concat_le
      rw [List.length_cons] at hroom
      rw [List.length_append, List.length_singleton]
      omega
    · intro hne
      rw [emits_tail hremaining hne]
      exact h.emits (List.cons_ne_nil _ _)
    · have hmetrics := h.metrics
      split_ifs at hmetrics ⊢ with hemit
      · refine hmetrics.concat fun metric hmetric hid => ?_
        exact absurd (hsaid.id.symm.trans hid)
          (hmetrics.ne_draft h.unique hmetric ⟨identity, hidentity, rfl⟩)
      · exact hmetrics

/-- A metric is no lifecycle event. -/
theorem MetricDraft.Says.lifecycle (h : metric.Says e) : ResearchEvent.lifecycleType? e = none := by
  rw [ResearchEvent.lifecycleType?, h.type]
  cases metric.eventType <;> decide

theorem Shows.stamped (h : Shows (some s) progress) : Shows (some (stamped s e)) progress := by
  cases h with
  | queued h hattempts => exact .queued (s := Runs.stamped s e) h hattempts
  | started h hattempts => exact .started (s := Runs.stamped s e) h hattempts
  | attempted h hattempts => exact .attempted (s := Runs.stamped s e) h hattempts
  | closed h => exact .closed h

theorem countP_lt_of_mem {α : Type} {p q : α → Bool} {xs : List α} {x : α}
    (hsub : ∀ y ∈ xs, q y = true → p y = true) (hx : x ∈ xs) (hp : p x = true) (hq : q x = false) :
    xs.countP q < xs.countP p := by
  obtain ⟨before, after, rfl⟩ := List.append_of_mem hx
  have hbefore := List.countP_mono_left fun y hy => hsub y (List.mem_append_left _ hy)
  have hafter := List.countP_mono_left fun y hy =>
    hsub y (List.mem_append_right _ (List.mem_cons_of_mem x hy))
  rw [List.countP_append, List.countP_append, List.countP_cons_of_pos hp,
    List.countP_cons_of_neg (by simp [hq])]
  omega

/-- A missing metric is accepted once the attempt has started, and the rest of the call can go on
behind it. -/
theorem Ready.fact (h : Ready runtime call prepared consumed true metrics log path drafts)
    (hstarted : .attemptStarted ∉ path) (hmetric : metric ∈ metrics)
    (hmissing : missing log metric = true) :
    ∃ e, log.append metric.document (some log.length) = .ok e ∧ metric.Says e ∧
      Ready runtime call prepared consumed true metrics (log ++ [e]) path drafts := by
  obtain ⟨state, progress, hfold, hshows, hmatches, hcites, hremaining⟩ := h.standing
  have hready : MetricsReady runtime call.request metrics log := h.metrics
  obtain ⟨hrun, -⟩ := hready.exists_key hmetric
  have habsent := getEvent_eq_none.mp (Option.isNone_iff_eq_none.mp hmissing)
  obtain ⟨event, hvalid⟩ := hready.writable metric hmetric hmissing
  have hroom : log.length < cloudEventsIntegerMax := by
    have hroom := h.room
    have hpos : 0 < metrics.countP (missing log) :=
      List.countP_pos_iff.mpr ⟨metric, hmetric, hmissing⟩
    omega
  have hsaid := MetricDraft.says_of_validate hvalid
  have hnew : ∀ earlier ∈ log, earlier.id ≠ event.id := fun earlier hearlier hid =>
    habsent earlier hearlier (by rw [hid, hsaid.id])
  obtain ⟨sequence, version, hadded, hsequence⟩ :=
    append_of_valid metric.draftMembers_document hvalid hnew hroom
  set e := event.placed sequence version
  have hsaid : metric.Says e := hsaid.placed sequence version
  obtain ⟨s, rfl⟩ : ∃ s, state = some s := by
    cases hshows with
    | absent =>
      cases hremaining
      refine absurd ?_ hstarted
      cases prepared.outcome <;> decide
    | _ => exact ⟨_, rfl⟩
  have hfollows : Follows s e := by
    have hcursor := fold_cursor (within_of_inPlace h.inPlace) hfold
    have hcited := hcites s rfl
    refine ⟨?_, ?_, ?_, ?_⟩
    · have hplaced : e.sequence.val = log.length + 1 := hsequence
      omega
    · rw [hsaid.experimentRevision, hrun, hcited.experimentRevision]
    · rw [hsaid.projectId, hrun, hcited.projectId]
    · rw [hsaid.runId, hrun, hcited.runId]
  have hbelongs : belongs e runtime.projection.projectId runtime.projection.runId = true := by
    refine belongs_iff.mpr ⟨?_, ?_⟩
    · rw [hsaid.projectId, hrun]
      rfl
    · rw [hsaid.runId, hrun]
      rfl
  have happly := apply_observed (fold_invariant hfold s rfl) hbelongs hsaid.lifecycle hfollows
  refine ⟨e, hadded, hsaid, consume_concat h.cited, h.inPlace.concat hsequence, ?_, h.unique,
    h.drafted, h.writable, ?_, ?_, h.emits, ?_⟩
  · refine ⟨some (stamped s e), progress, Fold.foldlM_concat_eq_ok.mpr ⟨_, hfold, happly⟩,
      hshows.stamped, ⟨hmatches.projectId, hmatches.runId, ?_, ?_⟩, ?_, hremaining⟩
    · rintro t ⟨⟩
      exact hmatches.revision s rfl
    · rintro t ⟨⟩
      exact hmatches.attemptId s rfl
    · rintro t ⟨⟩
      exact (hcites s rfl).apply (fold_invariant hfold s rfl) happly
  · intro draft hdraft earlier hearlier
    rcases List.mem_append.mp hearlier with hearlier | hearlier
    · exact h.fresh draft hdraft earlier hearlier
    · obtain ⟨type, -, hdrafted⟩ := Fold.exists_of_mem_right h.drafted hdraft
      rw [List.mem_singleton.mp hearlier, hsaid.id]
      exact (hready.ne_draft h.unique hmetric hdrafted).symm
  · have hroom := h.room
    have hfewer : metrics.countP (missing (log ++ [e])) < metrics.countP (missing log) := by
      refine countP_lt_of_mem ?_ hmetric hmissing ?_
      · intro other _ hother
        rw [missing_concat, Bool.and_eq_true] at hother
        exact hother.1
      · simp [missing_concat, hsaid.id]
    rw [List.length_append, List.length_singleton]
    omega
  · refine hready.concat fun other hother hid => ?_
    rw [← hready.eq_of_id h.unique hmetric hother (by rw [← hsaid.id, hid])]
    exact hsaid

/-! What a call writes. -/

/-- The metric that the call writes next, if it is the turn of one. -/
def owed (emit : Bool) (metrics : List MetricDraft) (path : List LifecycleType) (log : EventLog) :
    Option MetricDraft :=
  if emit = true ∧ path ≠ [] ∧ .attemptStarted ∉ path then metrics.find? (missing log) else none

/-- The events that a call writes behind a log for what is left of its path. -/
inductive Writes (emit : Bool) (metrics : List MetricDraft) :
    List LifecycleType → List LifecycleDraft → EventLog → List ResearchEvent → Prop
  | done {log : EventLog} : Writes emit metrics [] [] log []
  | fact {path : List LifecycleType} {drafts : List LifecycleDraft} {log : EventLog}
      {metric : MetricDraft} {e : ResearchEvent} {events : List ResearchEvent}
      (h : owed emit metrics path log = some metric)
      (hadded : log.append metric.document (some log.length) = .ok e)
      (hrest : Writes emit metrics path drafts (log ++ [e]) events) :
      Writes emit metrics path drafts log (e :: events)
  | lifecycle {type : LifecycleType} {path : List LifecycleType} {draft : LifecycleDraft}
      {drafts : List LifecycleDraft} {log : EventLog} {e : ResearchEvent}
      {events : List ResearchEvent} (h : owed emit metrics (type :: path) log = none)
      (hadded : log.append draft.document (some log.length) = .ok e)
      (hrest : Writes emit metrics path drafts (log ++ [e]) events) :
      Writes emit metrics (type :: path) (draft :: drafts) log (e :: events)

theorem Writes.eq {others : List ResearchEvent} (h : Writes emit metrics path drafts log events)
    (hothers : Writes emit metrics path drafts log others) : events = others := by
  induction h generalizing others with
  | done =>
    cases hothers with
    | done => rfl
    | fact howed _ _ => simp [owed] at howed
  | fact howed hadded _ ih =>
    cases hothers with
    | done => simp [owed] at howed
    | fact howed' hadded' hrest =>
      rw [howed] at howed'
      cases howed'
      rw [hadded] at hadded'
      cases hadded'
      rw [ih hrest]
    | lifecycle hnone _ _ =>
      rw [hnone] at howed
      cases howed
  | lifecycle hnone hadded _ ih =>
    cases hothers with
    | fact howed _ _ =>
      rw [hnone] at howed
      cases howed
    | lifecycle _ hadded' hrest =>
      rw [hadded] at hadded'
      cases hadded'
      rw [ih hrest]

theorem owed_eq_some (h : owed emit metrics path log = some metric) :
    emit = true ∧ path ≠ [] ∧ .attemptStarted ∉ path ∧ metric ∈ metrics ∧
      missing log metric = true := by
  unfold owed at h
  split_ifs at h with howed
  exact ⟨howed.1, howed.2.1, howed.2.2, List.mem_of_find?_eq_some h,
    List.find?_some h⟩

/-- After any of its writes, the call can go on with the others. -/
theorem Ready.cut (h : Ready runtime call prepared consumed emit metrics log path drafts)
    (hwrites : Writes emit metrics path drafts log events) (k : Nat) (hk : k ≤ events.length) :
    ∃ left leftDrafts,
      Ready runtime call prepared consumed emit metrics (log ++ events.take k) left leftDrafts ∧
        Writes emit metrics left leftDrafts (log ++ events.take k) (events.drop k) := by
  induction hwrites generalizing k with
  | @done log =>
    refine ⟨[], [], ?_, ?_⟩
    · simpa using h
    · simpa using Writes.done
  | @fact path drafts log metric e events howed hadded hrest ih =>
    cases k with
    | zero => exact ⟨path, drafts, by simpa using h, by simpa using Writes.fact howed hadded hrest⟩
    | succ k =>
      obtain ⟨rfl, -, hstarted, hmetric, hmissing⟩ := owed_eq_some howed
      obtain ⟨stored, hstored, -, hready⟩ := h.fact hstarted hmetric hmissing
      rw [hadded] at hstored
      cases hstored
      have hcut := ih hready k (Nat.le_of_succ_le_succ hk)
      rw [List.append_assoc] at hcut
      exact hcut
  | @lifecycle type path draft drafts log e events hnone hadded hrest ih =>
    cases k with
    | zero => exact ⟨_, _, by simpa using h, by simpa using Writes.lifecycle hnone hadded hrest⟩
    | succ k =>
      obtain ⟨stored, t, hstored, -, -, -, hready⟩ := h.lifecycle
      rw [hadded] at hstored
      cases hstored
      have hcut := ih hready k (Nat.le_of_succ_le_succ hk)
      rw [List.append_assoc] at hcut
      exact hcut

theorem Ready.finished (h : Ready runtime call prepared consumed emit metrics log [] drafts) :
    ∃ t, runtime.projection.fold log = .ok (some t) := by
  obtain ⟨state, progress, hfold, hshows, -, -, hremaining⟩ := h.standing
  cases hshows with
  | absent => cases houtcome : prepared.outcome <;> rw [houtcome] at hremaining <;> cases hremaining
  | _ => exact ⟨_, hfold⟩

end ResearchOs.Execution
