import ResearchOs.Execution.Resumed

/-! A rerun of a simulated run appends the events that are missing. -/
namespace ResearchOs.Execution

open Runs
open Storage (EventLog assigned)

variable {runtime : SimulatedRuntime} {call : SimulationCall} {prepared : PreparedRun}
  {consumed e : ResearchEvent} {emit : Bool} {metrics before after : List MetricDraft}
  {metric : MetricDraft} {log : EventLog} {type : LifecycleType} {path : List LifecycleType}
  {draft : LifecycleDraft} {drafts : List LifecycleDraft} {events : List ResearchEvent}
  {state : Option RunSnapshot} {progress : Progress} {request : SimulationRequest}
  {callerHead : Option Nat}

/-! The writes of a call that can go on. -/

theorem no_head (log : EventLog) : ∀ v ∈ (none : Option Nat), v = log.length :=
  fun v hv => absurd hv (Option.not_mem_none v)

theorem Ready.metricsReady (h : Ready runtime call prepared consumed true metrics log path drafts) :
    MetricsReady runtime call.request metrics log := h.metrics

/-- The missing metrics are written one after another, and then none is missing. -/
theorem Ready.appendSyntheticMetrics {types : List MetricType}
    (h : Ready runtime call prepared consumed true metrics log path drafts) (hne : path ≠ [])
    (hstarted : .attemptStarted ∉ path)
    (hafter : List.Forall₂
      (fun type metric => runtime.metricEventDraft call.request type = .ok metric) types after)
    (hmetrics : metrics = before ++ after) (hbefore : ∀ metric ∈ before, missing log metric = false)
    (hhead : ∀ v ∈ callerHead, v = log.length) :
    ∃ facts, runtime.appendSyntheticMetrics call.request types log callerHead = .ok facts ∧
      Ready runtime call prepared consumed true metrics (log ++ facts) path drafts ∧
      (∀ metric ∈ metrics, missing (log ++ facts) metric = false) ∧
      ∀ events, Writes true metrics path drafts (log ++ facts) events →
        Writes true metrics path drafts log (facts ++ events) := by
  induction hafter generalizing before log callerHead with
  | nil =>
    refine ⟨[], rfl, by simpa using h, ?_, fun events hwrites => by simpa using hwrites⟩
    intro metric hmetric
    rw [hmetrics, List.append_nil] at hmetric
    simpa using hbefore metric hmetric
  | @cons metricType metric types after hdraft _ ih =>
    have hmem : metric ∈ metrics := by
      rw [hmetrics]
      simp
    have hsplit : metrics = (before ++ [metric]) ++ after := by rw [hmetrics]; simp
    cases hfound : log.getEvent metric.eventId with
    | some existing =>
      have hresumable := h.metricsReady.resumable metric hmem existing hfound
      have hdone : ∀ found ∈ before ++ [metric], missing log found = false := by
        intro found hmember
        rcases List.mem_append.mp hmember with hmember | hmember
        · exact hbefore found hmember
        · rw [List.mem_singleton.mp hmember, missing, hfound]
          rfl
      obtain ⟨facts, happend, hready, hnone, hwrites⟩ := ih h hsplit hdone hhead
      refine ⟨facts, ?_, hready, hnone, hwrites⟩
      simp only [SimulatedRuntime.appendSyntheticMetrics, hdraft, hfound, hresumable, bind,
        Except.bind]
      exact happend
    | none =>
      have hmissing : missing log metric = true := by rw [missing, hfound]; rfl
      obtain ⟨e, hadded, hsaid, hready⟩ := h.fact hstarted hmem hmissing
      have hdone : ∀ found ∈ before ++ [metric], missing (log ++ [e]) found = false := by
        intro found hmember
        rw [missing_concat]
        rcases List.mem_append.mp hmember with hmember | hmember
        · rw [hbefore found hmember, Bool.false_and]
        · rw [List.mem_singleton.mp hmember]
          simp [hsaid.id]
      obtain ⟨facts, happend, hready, hnone, hwrites⟩ := ih hready hsplit hdone (no_head _)
      refine ⟨e :: facts, ?_, ?_, ?_, ?_⟩
      · have hrequired : requireHead log.length callerHead = .ok () := by
          cases callerHead with
          | none => rfl
          | some v =>
            rw [hhead v rfl]
            exact if_neg (not_not.mpr rfl)
        simp only [SimulatedRuntime.appendSyntheticMetrics, hdraft, hfound, hrequired, fromControl,
          SimulatedRuntime.commitMetric, hadded, happend, bind, Except.bind]
      · rw [List.append_assoc] at hready
        exact hready
      · rw [List.append_assoc] at hnone
        exact hnone
      · intro events hrest
        rw [List.append_assoc] at hwrites
        refine .fact ?_ hadded (hwrites events hrest)
        rw [owed, if_pos ⟨rfl, hne, hstarted⟩, hmetrics, List.find?_append,
          List.find?_eq_none.mpr fun found hmember => by simp [hbefore found hmember],
          Option.none_or, List.find?_cons_of_pos hmissing]

theorem Ready.rebuild (h : Ready runtime call prepared consumed emit metrics log path drafts)
    (hfold : runtime.projection.fold log = .ok state) :
    rebuild runtime.projection log = .ok ⟨log.length, state⟩ := by
  have hvisit : runControl.visit runtime.projection log.length 1 none log = .ok state := by
    refine FrozenReplay.visit_eq_ok.mpr ⟨?_, replay_eq_ok.mpr hfold⟩
    intro i entry hentry
    rw [h.inPlace i entry hentry]
    omega
  simp only [Runs.rebuild, hvisit, bind, Except.bind]

/-- An attempt that starts leaves a path, in which no attempt starts again. -/
theorem started_tail {outcome : SimulatedOutcome}
    (h : progress.remaining outcome = some (.attemptStarted :: path)) :
    path ≠ [] ∧ .attemptStarted ∉ path := by
  refine ⟨?_, (List.nodup_cons.mp (nodup_of_remaining h)).1⟩
  rintro rfl
  obtain ⟨n, hn⟩ | hcut := shape_of_remaining h
  · have hlast := congrArg List.getLast? hn
    rw [List.getLast?_drop] at hlast
    split_ifs at hlast
    · cases hlast
    · cases outcome <;> exact absurd hlast (by decide)
  · simp at hcut

theorem owed_concat (hother : ¬ (emit = true ∧ type = .attemptStarted))
    (h : owed emit metrics (type :: path) log = none) :
    owed emit metrics path (log ++ [e]) = none := by
  unfold owed at h ⊢
  split_ifs with howed
  · obtain ⟨rfl, -, hstarted⟩ := howed
    have hcons : .attemptStarted ∉ type :: path := by
      rw [List.mem_cons, not_or]
      exact ⟨fun heq => hother ⟨rfl, heq.symm⟩, hstarted⟩
    rw [if_pos ⟨rfl, List.cons_ne_nil _ _, hcons⟩, List.find?_eq_none] at h
    refine List.find?_eq_none.mpr fun metric hmetric => ?_
    have hpresent := h metric hmetric
    rw [missing_concat]
    simp_all
  · rfl

/-- The drafts are appended one after another, with the metrics behind the start of the attempt. -/
theorem Ready.appendDrafts (h : Ready runtime call prepared consumed emit metrics log path drafts)
    (hfold : runtime.projection.fold log = .ok state) (howed : owed emit metrics path log = none)
    (hhead : ∀ v ∈ callerHead, v = log.length) :
    ∃ events final, runtime.appendDrafts call.request emit drafts log state callerHead =
        .ok (events, final) ∧ Writes emit metrics path drafts log events ∧
      runtime.projection.fold (log ++ events) = .ok final := by
  induction path generalizing log drafts state callerHead with
  | nil =>
    cases h.drafted
    exact ⟨[], state, rfl, .done, by simpa using hfold⟩
  | cons type path ih =>
    obtain ⟨draft, drafts, rfl⟩ : ∃ draft rest, drafts = draft :: rest := by
      cases h.drafted
      exact ⟨_, _, rfl⟩
    obtain ⟨e, t, hadded, htype, hfolded, halone, hready⟩ := h.lifecycle
    have happend := halone callerHead hhead
    by_cases hstart : emit = true ∧ type = .attemptStarted
    · obtain ⟨rfl, rfl⟩ := hstart
      obtain ⟨-, progress, -, -, -, -, hremaining⟩ := h.standing
      obtain ⟨hne, hstarted⟩ := started_tail hremaining
      obtain ⟨facts, hfacts, hfactsReady, hnone, hwrites⟩ := hready.appendSyntheticMetrics hne
        hstarted hready.metricsReady.drafted (List.nil_append metrics).symm (by simp) (no_head _)
      obtain ⟨middle, -, hmiddle, -⟩ := hfactsReady.standing
      have howed' : owed true metrics path (log ++ [e] ++ facts) = none := by
        rw [owed, if_pos ⟨rfl, hne, hstarted⟩]
        refine List.find?_eq_none.mpr fun metric hmetric => ?_
        rw [hnone metric hmetric]
        exact Bool.false_ne_true
      obtain ⟨rest, final, hrest, hrestWrites, hfinal⟩ :=
        ih hfactsReady hmiddle howed' (no_head _)
      refine ⟨e :: facts ++ rest, final, ?_, ?_, ?_⟩
      · have hrebuild := hfactsReady.rebuild hmiddle
        simp only [SimulatedRuntime.appendDrafts, happend, fromControl, htype, hfacts, hrebuild,
          hrest, bind, Except.bind, Bool.true_and, decide_true, if_true]
      · exact .lifecycle howed hadded (hwrites rest hrestWrites)
      · rw [← hfinal]
        simp
    · have hskip : (emit && decide (e.type.val = LifecycleType.attemptStarted.text)) = false := by
        rw [htype, Bool.and_eq_false_iff, decide_eq_false_iff_not]
        by_cases hemit : emit = true
        · exact .inr fun hsame => hstart ⟨hemit, lifecycle_of_text hsame⟩
        · exact .inl (by simpa using hemit)
      obtain ⟨rest, final, hrest, hrestWrites, hfinal⟩ :=
        ih hready hfolded (owed_concat hstart howed) (no_head _)
      refine ⟨e :: rest, final, ?_, .lifecycle howed hadded hrestWrites, ?_⟩
      · simp only [SimulatedRuntime.appendDrafts, happend, fromControl, hskip, hrest, bind,
          Except.bind, Bool.false_eq_true, if_false]
      · rw [← hfinal]
        simp

/-- A call that can go on writes what is left of it. -/
theorem Ready.appendRemaining
    (h : Ready runtime call prepared consumed emit metrics log path drafts) (hne : path ≠ [])
    (hfold : runtime.projection.fold log = .ok state) (hhead : ∀ v ∈ callerHead, v = log.length) :
    ∃ events final, runtime.appendRemaining call.request emit path drafts log state callerHead =
        .ok (events, final) ∧ Writes emit metrics path drafts log events ∧
      runtime.projection.fold (log ++ events) = .ok final := by
  unfold SimulatedRuntime.appendRemaining
  by_cases howes : emit = true ∧ .attemptStarted ∉ path
  · obtain ⟨rfl, hstarted⟩ := howes
    obtain ⟨facts, hfacts, hready, hnone, hwrites⟩ := h.appendSyntheticMetrics hne hstarted
      h.metricsReady.drafted (List.nil_append metrics).symm (by simp) hhead
    obtain ⟨middle, -, hmiddle, -⟩ := hready.standing
    have howed : owed true metrics path (log ++ facts) = none := by
      rw [owed, if_pos ⟨rfl, hne, hstarted⟩]
      refine List.find?_eq_none.mpr fun metric hmetric => ?_
      rw [hnone metric hmetric]
      exact Bool.false_ne_true
    have hnext : ∀ v ∈ (if facts = [] then callerHead else none), v = (log ++ facts).length := by
      intro v hv
      split_ifs at hv with hempty
      · rw [hempty, List.append_nil]
        exact hhead v hv
      · cases hv
    obtain ⟨rest, final, hrest, hrestWrites, hfinal⟩ := hready.appendDrafts hmiddle howed hnext
    refine ⟨facts ++ rest, final, ?_, hwrites rest hrestWrites, by rw [← List.append_assoc, hfinal]⟩
    have hrebuild := hready.rebuild hmiddle
    rw [if_pos (by simp [hstarted])]
    simp only [hfacts, hrebuild, hrest, fromControl, bind, Except.bind]
  · have hskip : ¬ (emit && !path.contains .attemptStarted) = true := by
      simpa using howes
    rw [if_neg hskip]
    exact h.appendDrafts hfold (if_neg fun howed => howes ⟨howed.1, howed.2.2⟩) hhead

/-! The checks of a call that can go on. -/

theorem fits_of_drafts {head : Nat} {planned : PlannedRun}
    (hdrafts : List.Forall₂ (Drafts request runtime.run planned) path drafts)
    (hshows : Shows state progress)
    (hs : ∀ s ∈ state, s.Invariant ∧ runtime.projection.Bound s)
    (hm : Matches runtime.projection state request runtime.run)
    (hremaining : progress.remaining prepared.outcome = some path)
    (hcursor : ∀ s ∈ state, s.lastSequence.val ≤ head)
    (hroom : head + drafts.length ≤ cloudEventsIntegerMax)
    (hwritable : ∀ draft ∈ drafts, ∃ event, validateEventDocument (.obj (assigned draft.members
      Storage.firstSequence Storage.firstStreamVersion)) = some event)
    (hfresh : ∀ draft ∈ drafts, log.getEvent draft.eventId = none) :
    ∃ probe, runtime.preflightDrafts log head state drafts = .ok probe ∧
      (drafts ≠ [] ∨ state ≠ none → probe ≠ none) := by
  induction hdrafts generalizing head state progress with
  | nil => exact ⟨state, rfl, fun h => h.resolve_left fun hne => hne rfl⟩
  | @cons type draft path drafts hdraft _ ih =>
    obtain ⟨next, hstep, hnext⟩ := Progress.step_of_remaining hremaining
    obtain ⟨identity, -, rfl⟩ := hdraft
    obtain ⟨event, hvalid⟩ := hwritable _ List.mem_cons_self
    rw [List.length_cons] at hroom
    have hhead : head < cloudEventsIntegerMax := by omega
    have hpreflight := LifecycleDraft.preflightDraft_document hhead hvalid
    set e := event.placed ⟨head + 1, inRange_succ hhead⟩
      Storage.firstStreamVersion
    have hsaid : (simulatedDraft request runtime.run planned type identity).Says e :=
      (LifecycleDraft.says_of_validate hvalid).placed _ _
    have hsequence : e.sequence.val = head + 1 := rfl
    obtain ⟨t, happly, hreached⟩ := hshows.step (fun s hmem => (hs s hmem).1)
      (fun s hmem => (hs s hmem).2) hm hstep hsaid fun s hmem => by
        have hbefore := hcursor s hmem
        omega
    have hcursor' : ∀ s ∈ some t, s.lastSequence.val ≤ head + 1 := by
      rintro s ⟨⟩
      rw [hreached.cursor, hsequence]
    obtain ⟨probe, hprobe, hproduced⟩ := ih hreached.shows (apply_keeps hs happly) hreached.fits hnext
      hcursor' (by omega) (fun other hother => hwritable other (List.mem_cons_of_mem _ hother))
      (fun other hother => hfresh other (List.mem_cons_of_mem _ hother))
    refine ⟨probe, ?_, fun _ => hproduced (.inr (Option.some_ne_none t))⟩
    have hnew := hfresh _ List.mem_cons_self
    simp only [SimulatedRuntime.preflightDrafts, requireSimulation, if_pos hnew, hpreflight, happly,
      fromRun, fromControl, hprobe, bind, Except.bind]

theorem Ready.preflightRemaining
    (h : Ready runtime call prepared consumed emit metrics log path drafts) (hne : path ≠ [])
    (hfold : runtime.projection.fold log = .ok state) :
    runtime.preflightRemaining log state drafts = .ok () := by
  obtain ⟨found, progress, hfound, hshows, hmatches, -, hremaining⟩ := h.standing
  rw [hfold] at hfound
  cases hfound
  have hroom := h.room
  obtain ⟨probe, hprobe, hproduced⟩ := fits_of_drafts h.drafted hshows
    (fun s hmem => ⟨fold_invariant hfold s hmem, fold_bound hfold s hmem⟩) hmatches hremaining
    (fun s hmem => fold_cursor (within_of_inPlace h.inPlace) (by rw [hfold, hmem])) (by omega)
    h.writable fun draft hdraft => getEvent_eq_none.mpr (h.fresh draft hdraft)
  have hdrafts : drafts ≠ [] := by
    rintro rfl
    cases h.drafted
    exact hne rfl
  have hlength : log.length + drafts.length ≤ cloudEventsIntegerMax := by omega
  simp only [SimulatedRuntime.preflightRemaining, requireSimulation, if_pos hlength, hprobe,
    if_pos (hproduced (.inl hdrafts)), bind, Except.bind]

theorem preflightExisting_eq {metricType : MetricType}
    (hdraft : runtime.metricEventDraft request metricType = .ok metric)
    (hresumable : ∀ existing, log.getEvent metric.eventId = some existing →
      requireResumableMetric runtime.floatText existing metric = .ok ()) :
    runtime.preflightExisting log request metricType = .ok (missing log metric) := by
  obtain ⟨-, identity, hidentity, hid, -⟩ := metricEventDraft_ok hdraft
  have hidentity := metricIdentity_eq_ok.mpr hidentity
  simp only [SimulatedRuntime.preflightExisting, hidentity, hdraft, missing, ← hid, bind,
    Except.bind]
  cases hfound : log.getEvent metric.eventId with
  | none => rfl
  | some existing => simp only [hresumable existing hfound, Option.isNone_some]

theorem MetricsReady.preflight (h : MetricsReady runtime request metrics log) {count : Nat}
    (hroom : log.length + count + metrics.countP (missing log) ≤ cloudEventsIntegerMax) :
    runtime.preflightSyntheticMetrics log request count = .ok () := by
  have hmissing : (metricTypesInRequest request.events).mapM
      (runtime.preflightExisting log request) = .ok (metrics.map (missing log)) := by
    refine Fold.mapM_eq_ok.mpr (List.forall₂_map_right_iff.mpr ?_)
    refine (List.forall₂_iff_zip.mpr ⟨h.drafted.length_eq, fun {metricType metric} hpair => ?_⟩)
    have hdraft := (List.forall₂_iff_zip.mp h.drafted).2 hpair
    exact preflightExisting_eq hdraft (h.resumable metric (List.of_mem_zip hpair).2)
  have hcount : (metrics.map (missing log)).countP (fun missing => missing) =
      metrics.countP (missing log) := by
    rw [List.countP_map]
    rfl
  have hchecked : (metricTypesInRequest request.events).forM
      (runtime.preflightMissing log request) = .ok () := by
    refine Fold.forM_eq_ok.mpr fun metricType htype => ?_
    obtain ⟨metric, hmetric, hdraft⟩ := Fold.exists_of_mem_right h.drafted.flip htype
    obtain ⟨-, identity, hidentity, hid, htime⟩ := metricEventDraft_ok hdraft
    have hidentity := metricIdentity_eq_ok.mpr hidentity
    simp only [SimulatedRuntime.preflightMissing, hidentity, hdraft, ← hid, ← htime, bind,
      Except.bind]
    cases hfound : log.getEvent metric.eventId with
    | some existing => rfl
    | none =>
      obtain ⟨event, hvalid⟩ := h.writable metric hmetric (by rw [missing, hfound]; rfl)
      have hsaid := MetricDraft.says_of_validate hvalid
      simp only [hvalid, requireSimulation, if_pos (And.intro hsaid.id hsaid.time)]
  simp only [SimulatedRuntime.preflightSyntheticMetrics, hmissing, hcount, requireSimulation,
    if_pos hroom, bind, Except.bind]
  exact hchecked

/-- A call that can go on returns what it writes, and the snapshot of the whole log. -/
theorem Ready.runs (h : Ready runtime call prepared consumed emit metrics log path drafts)
    (hprepared : call.prepared = .ok prepared) (hhead : ∀ v ∈ callerHead, v = log.length) :
    ∃ result, runtime.runOnce call callerHead log = .ok result ∧
      Writes emit metrics path drafts log result.stored ∧
      runtime.projection.fold (log ++ result.stored) = .ok (some result.snapshot) := by
  obtain ⟨state, progress, hfold, hshows, hmatches, hcites, hremaining⟩ := h.standing
  have hinvariant := fold_invariant hfold
  have hrebuild := h.rebuild hfold
  have hexisting : runtime.requireExisting call (prepared.planned consumed) state = .ok () := by
    cases state with
    | none => rfl
    | some s =>
      refine fromSimulation_eq_ok.mpr (requireMatchingRun_eq_ok.mpr ⟨hcites s rfl, ?_⟩)
      exact fun first hfirst => hmatches.attemptId s rfl first (List.mem_of_head? hfirst)
  obtain ⟨stop, hcontinuation⟩ := continuation_of_remaining hshows hinvariant hremaining
  have hstops := continuation_stops hcontinuation
  by_cases hne : path = []
  · subst hne
    obtain ⟨t, ht⟩ := h.finished
    rw [hfold] at ht
    cases ht
    cases h.drafted
    cases stop with
    | none => exact absurd rfl (hstops.mp rfl)
    | some disposition =>
      refine ⟨⟨t, [], disposition⟩, ?_, .done, by simpa using hfold⟩
      simp only [SimulatedRuntime.runOnce, hprepared, h.cited, hrebuild, hexisting, hcontinuation,
        fromSimulation, fromControl, SimulatedRuntime.requireProduced, bind, Except.bind]
  · have hgoes := hstops.mpr hne
    subst hgoes
    obtain ⟨events, final, happend, hwrites, hfinal⟩ := h.appendRemaining hne hfold hhead
    obtain ⟨left, leftDrafts, hready, hleft⟩ := h.cut hwrites events.length le_rfl
    rw [List.take_length, List.drop_length] at hleft
    rw [List.take_length] at hready
    cases hleft
    obtain ⟨t, ht⟩ := hready.finished
    rw [hfinal] at ht
    cases ht
    refine ⟨⟨t, events, dispositionForSnapshot t⟩, ?_, hwrites, hfinal⟩
    have hdrafts : remainingDrafts path call.request runtime.run (prepared.planned consumed) =
        .ok drafts := remainingDrafts_eq_ok.mpr ⟨h.unique, h.drafted⟩
    have hpreflight := h.preflightRemaining hne hfold
    have hmetrics : runtime.preflightMetrics log call.request emit drafts.length = .ok () := by
      cases emit with
      | false => rfl
      | true => exact h.metricsReady.preflight h.room
    simp only [SimulatedRuntime.runOnce, hprepared, h.cited, hrebuild, hexisting, hcontinuation,
      fromSimulation, fromControl, SimulatedRuntime.goOn, hdrafts, hpreflight, h.emits hne, hmetrics,
      happend, SimulatedRuntime.requireProduced, bind, Except.bind]

/-! A call that has returned could go on. -/

theorem preflightDrafts_ok {head : Nat} {probe : Option RunSnapshot}
    (h : runtime.preflightDrafts log head state drafts = .ok probe) :
    ∀ draft ∈ drafts, log.getEvent draft.eventId = none ∧ ∃ event, validateEventDocument
      (.obj (assigned draft.members Storage.firstSequence Storage.firstStreamVersion)) =
        some event := by
  induction drafts generalizing head state with
  | nil => exact fun draft hdraft => absurd hdraft List.not_mem_nil
  | cons draft drafts ih =>
    simp only [SimulatedRuntime.preflightDrafts] at h
    obtain ⟨_, hnew, h⟩ := Fold.bind_eq_ok.mp h
    split at h
    · cases h
    · rename_i event hevent
      obtain ⟨next, -, h⟩ := Fold.bind_eq_ok.mp h
      intro other hother
      rcases List.mem_cons.mp hother with rfl | hother
      · refine ⟨requireSimulation_eq_ok.mp hnew, ?_⟩
        obtain ⟨ms, hms, hvalid⟩ := (Storage.preflightDraft_ok hevent).document
        rw [LifecycleDraft.draftMembers_document] at hms
        cases hms
        rw [Storage.validate_assigned _ event.sequence Storage.firstSequence event.streamversion
          Storage.firstStreamVersion, Option.map_eq_some_iff] at hvalid
        obtain ⟨first, hfirst, -⟩ := hvalid
        exact ⟨first, hfirst⟩
      · exact ih h other hother

theorem preflightExisting_ok {metricType : MetricType} {flag : Bool}
    (h : runtime.preflightExisting log request metricType = .ok flag) :
    ∃ metric, runtime.metricEventDraft request metricType = .ok metric ∧
      flag = missing log metric ∧ ∀ existing, log.getEvent metric.eventId = some existing →
        requireResumableMetric runtime.floatText existing metric = .ok () := by
  obtain ⟨identity, hidentity, h⟩ := Fold.bind_eq_ok.mp h
  obtain ⟨metric, hdraft⟩ := exists_metricEventDraft runtime hidentity
  obtain ⟨-, known, hknown, hid, -⟩ := metricEventDraft_ok hdraft
  obtain rfl : known = identity := by
    rw [metricIdentity_eq_ok.mp hidentity] at hknown
    exact (Option.some.inj hknown).symm
  refine ⟨metric, hdraft, ?_⟩
  unfold missing
  rw [← hid] at h
  split at h
  · rename_i hnone
    cases h
    rw [hnone]
    exact ⟨rfl, fun existing hexisting => by cases hexisting⟩
  · rename_i found hfound
    obtain ⟨draft, hagain, h⟩ := Fold.bind_eq_ok.mp h
    rw [hdraft] at hagain
    cases hagain
    obtain ⟨_, hresumable, h⟩ := Fold.bind_eq_ok.mp h
    cases h
    rw [hfound]
    refine ⟨rfl, fun existing hexisting => ?_⟩
    cases hexisting
    exact hresumable

theorem metrics_of_flags {types : List MetricType} {flags : List Bool}
    (h : List.Forall₂ (fun type flag => runtime.preflightExisting log request type = .ok flag)
      types flags) :
    ∃ metrics, List.Forall₂ (fun type metric => runtime.metricEventDraft request type = .ok metric)
        types metrics ∧ flags = metrics.map (missing log) ∧
      ∀ metric ∈ metrics, ∀ existing, log.getEvent metric.eventId = some existing →
        requireResumableMetric runtime.floatText existing metric = .ok () := by
  induction h with
  | nil => exact ⟨[], .nil, rfl, fun metric hmetric => absurd hmetric List.not_mem_nil⟩
  | cons hflag _ ih =>
    obtain ⟨metrics, hdrafted, hsame, hresumable⟩ := ih
    obtain ⟨metric, hdraft, rfl, hfirst⟩ := preflightExisting_ok hflag
    refine ⟨metric :: metrics, .cons hdraft hdrafted, by rw [hsame]; rfl, ?_⟩
    exact List.forall_mem_cons.mpr ⟨hfirst, hresumable⟩

theorem metricsReady_of_preflight {count : Nat}
    (h : runtime.preflightSyntheticMetrics log request count = .ok ()) :
    ∃ metrics, MetricsReady runtime request metrics log ∧
      log.length + count + metrics.countP (missing log) ≤ cloudEventsIntegerMax := by
  obtain ⟨flags, hflags, h⟩ := Fold.bind_eq_ok.mp h
  obtain ⟨_, hroom, hchecked⟩ := Fold.bind_eq_ok.mp h
  have hroom := requireSimulation_eq_ok.mp hroom
  have hchecked := Fold.forM_eq_ok.mp hchecked
  obtain ⟨metrics, hdrafted, rfl, hresumable⟩ := metrics_of_flags (Fold.mapM_eq_ok.mp hflags)
  refine ⟨metrics, ⟨hdrafted, ?_, hresumable⟩, ?_⟩
  · intro metric hmetric hmissing
    obtain ⟨metricType, htype, hdraft⟩ := Fold.exists_of_mem_right hdrafted hmetric
    obtain ⟨-, known, hknown, hid, -⟩ := metricEventDraft_ok hdraft
    obtain ⟨identity, hidentity, h⟩ := Fold.bind_eq_ok.mp (hchecked metricType htype)
    rw [metricIdentity_eq_ok.mp hidentity] at hknown
    cases hknown
    rw [← hid, Option.isNone_iff_eq_none.mp hmissing] at h
    obtain ⟨found, hfound, h⟩ := Fold.bind_eq_ok.mp h
    rw [hdraft] at hfound
    cases hfound
    split at h
    · cases h
    · rename_i event hevent
      exact ⟨event, hevent⟩
  · rw [List.countP_map] at hroom
    exact hroom

/-! The head that a caller has seen. -/

theorem head_of_appendDrafts {result : List ResearchEvent × Option RunSnapshot}
    (h : runtime.appendDrafts request emit (draft :: drafts) log state callerHead = .ok result) :
    ∀ v ∈ callerHead, v = log.length := by
  obtain ⟨appended, happend, -⟩ := Fold.bind_eq_ok.mp h
  obtain ⟨snapshot, -, h⟩ := Fold.bind_eq_ok.mp (fromControl_eq_ok.mp happend)
  obtain ⟨document, hdraft, -⟩ := Fold.bind_eq_ok.mp h
  obtain ⟨-, hhead, -⟩ := draftLifecycle_ok hdraft
  exact fun v hv => (hhead v hv).symm

theorem head_of_metrics {types : List MetricType} {facts : List ResearchEvent}
    (h : runtime.appendSyntheticMetrics request types log callerHead = .ok facts)
    (hne : facts ≠ []) : ∀ v ∈ callerHead, v = log.length := by
  induction types with
  | nil =>
    cases h
    exact absurd rfl hne
  | cons type types ih =>
    obtain ⟨metric, -, h⟩ := Fold.bind_eq_ok.mp h
    split at h
    · obtain ⟨_, -, h⟩ := Fold.bind_eq_ok.mp h
      exact ih h
    · obtain ⟨_, hrequired, -⟩ := Fold.bind_eq_ok.mp h
      rintro v rfl
      have hrequired := fromControl_eq_ok.mp hrequired
      simp only [requireHead] at hrequired
      split_ifs at hrequired with hsame
      exact (not_not.mp hsame).symm

theorem head_of_appendRemaining {result : List ResearchEvent × Option RunSnapshot}
    (h : runtime.appendRemaining request emit path (draft :: drafts) log state callerHead =
      .ok result) : ∀ v ∈ callerHead, v = log.length := by
  unfold SimulatedRuntime.appendRemaining at h
  split_ifs at h
  · obtain ⟨facts, hfacts, h⟩ := Fold.bind_eq_ok.mp h
    obtain ⟨head, -, h⟩ := Fold.bind_eq_ok.mp h
    obtain ⟨rest, hrest, -⟩ := Fold.bind_eq_ok.mp h
    by_cases hempty : facts = []
    · rw [if_pos hempty, hempty, List.append_nil] at hrest
      exact head_of_appendDrafts hrest
    · exact head_of_metrics hfacts hempty
  · exact head_of_appendDrafts h

theorem rebuild_ok {p : RunStateProjection} {head : RunControlHead} (h : rebuild p log = .ok head) :
    runControl.InPlace log ∧ p.fold log = .ok head.snapshot := by
  obtain ⟨snapshot, hvisit, h⟩ := Fold.bind_eq_ok.mp h
  cases h
  obtain ⟨hplace, hfold⟩ := FrozenReplay.visit_eq_ok.mp hvisit
  refine ⟨fun i entry hentry => ?_, replay_eq_ok.mp hfold⟩
  rw [hplace i entry hentry, Nat.add_comm]

/-- A call that returns has stopped at once, or could go on. -/
theorem ready_of_runs {result : SimulationResult}
    (h : runtime.runOnce call callerHead log = .ok result) :
    (result.stored = [] ∧ runtime.projection.fold log = .ok (some result.snapshot) ∧
        ∀ other, runtime.runOnce call other log = .ok result) ∨
      ∃ prepared consumed emit metrics path drafts, call.prepared = .ok prepared ∧
        Ready runtime call prepared consumed emit metrics log path drafts ∧
        ∀ v ∈ callerHead, v = log.length := by
  obtain ⟨prepared, hprepared, h⟩ := Fold.bind_eq_ok.mp h
  obtain ⟨consumed, hconsumed, h⟩ := Fold.bind_eq_ok.mp h
  obtain ⟨head, hhead, h⟩ := Fold.bind_eq_ok.mp h
  obtain ⟨_, hexisting, h⟩ := Fold.bind_eq_ok.mp h
  obtain ⟨⟨path, stop⟩, hcontinuation, h⟩ := Fold.bind_eq_ok.mp h
  obtain ⟨hplace, hfold⟩ := rebuild_ok (fromControl_eq_ok.mp hhead)
  cases stop with
  | some disposition =>
    obtain ⟨snapshot, hsnapshot, h⟩ := Fold.bind_eq_ok.mp h
    cases h
    refine .inl ⟨rfl, ?_, fun other => ?_⟩
    · cases hsome : head.snapshot with
      | none =>
        rw [hsome] at hsnapshot
        cases hsnapshot
      | some found =>
        rw [hsome] at hsnapshot hfold
        cases hsnapshot
        exact hfold
    · simp only [SimulatedRuntime.runOnce, hprepared, hconsumed, hhead, hexisting, hcontinuation,
        hsnapshot, bind, Except.bind]
  | none =>
    have hcontinuation := fromSimulation_eq_ok.mp hcontinuation
    have hne : path ≠ [] := (continuation_stops hcontinuation).mp rfl
    obtain ⟨drafts, hdrafts, h⟩ := Fold.bind_eq_ok.mp h
    obtain ⟨_, hpreflight, h⟩ := Fold.bind_eq_ok.mp h
    obtain ⟨_, hmetrics, h⟩ := Fold.bind_eq_ok.mp h
    obtain ⟨appended, happend, -⟩ := Fold.bind_eq_ok.mp h
    obtain ⟨hunique, hdrafted⟩ := remainingDrafts_eq_ok.mp (fromSimulation_eq_ok.mp hdrafts)
    obtain ⟨_, hlength, hpreflight⟩ := Fold.bind_eq_ok.mp hpreflight
    obtain ⟨probe, hprobe, -⟩ := Fold.bind_eq_ok.mp hpreflight
    have hlength := requireSimulation_eq_ok.mp hlength
    have hchecked := preflightDrafts_ok hprobe
    have hstanding : Matches runtime.projection head.snapshot call.request runtime.run ∧
        ∀ s ∈ head.snapshot, Cites s runtime.run (prepared.planned consumed) := by
      cases hsnapshot : head.snapshot with
      | none => exact ⟨⟨rfl, rfl, by simp, by simp⟩, by simp⟩
      | some s =>
        rw [hsnapshot] at hexisting hfold
        have hmatching := fromSimulation_eq_ok.mp hexisting
        refine ⟨(matches_of_requireMatchingRun (fold_invariant hfold s rfl) (fold_bound hfold s rfl)
          rfl hmatching).1, ?_⟩
        rintro s ⟨⟩
        exact (requireMatchingRun_eq_ok.mp hmatching).1
    obtain ⟨hmatches, hcites⟩ := hstanding
    have hinvariant := fold_invariant hfold
    obtain ⟨progress, hshows⟩ := exists_shows hinvariant
      (length_attempts_le hfold fun s hs => (hcites s hs).maxAttempts)
    have hremaining := remaining_eq_some hshows hinvariant hcontinuation
    have hhead : ∀ v ∈ callerHead, v = log.length := by
      cases hdrafted with
      | nil => exact absurd rfl hne
      | cons _ _ => exact head_of_appendRemaining happend
    have hready : ∃ metrics, log.length + drafts.length + metrics.countP (missing log) ≤
        cloudEventsIntegerMax ∧
        if shouldEmitSyntheticMetrics prepared.outcome path call.request.events then
          MetricsReady runtime call.request metrics log else metrics = [] := by
      split_ifs with hemit
      · rw [SimulatedRuntime.preflightMetrics, if_pos hemit] at hmetrics
        obtain ⟨metrics, hready, hroom⟩ := metricsReady_of_preflight hmetrics
        exact ⟨metrics, hroom, hready⟩
      · exact ⟨[], by simpa using hlength, rfl⟩
    obtain ⟨metrics, hroom, hready⟩ := hready
    exact .inr ⟨prepared, consumed, _, metrics, path, drafts, fromSimulation_eq_ok.mp hprepared,
      { cited := fromSimulation_eq_ok.mp hconsumed
        inPlace := hplace
        standing := ⟨_, progress, hfold, hshows, hmatches, hcites, hremaining⟩
        unique := hunique
        drafted := hdrafted
        writable := fun draft hdraft => (hchecked draft hdraft).2
        fresh := fun draft hdraft => getEvent_eq_none.mp (hchecked draft hdraft).1
        room := hroom
        emits := fun _ => rfl
        metrics := hready }, hhead⟩

/-- No write repeats an event id. -/
theorem Writes.fresh (h : Writes emit metrics path drafts log events) :
    (events.map (·.id)).Nodup ∧ ∀ e ∈ events, ∀ earlier ∈ log, earlier.id ≠ e.id := by
  have hstep : ∀ {log : EventLog} {e : ResearchEvent} {document : Storage.Document}
      {events : List ResearchEvent}, log.append document (some log.length) = .ok e →
      ((events.map (·.id)).Nodup ∧
        ∀ later ∈ events, ∀ earlier ∈ log ++ [e], earlier.id ≠ later.id) →
      ((e :: events).map (·.id)).Nodup ∧
        ∀ later ∈ e :: events, ∀ earlier ∈ log, earlier.id ≠ later.id := by
    rintro log e document events hadded ⟨hnodup, hnew⟩
    refine ⟨?_, List.forall_mem_cons.mpr ⟨(Storage.EventLog.append_ok hadded).fresh, ?_⟩⟩
    · rw [List.map_cons, List.nodup_cons]
      refine ⟨fun hmem => ?_, hnodup⟩
      obtain ⟨later, hlater, hid⟩ := List.mem_map.mp hmem
      exact hnew later hlater e (by simp) hid.symm
    · exact fun later hlater earlier hearlier =>
        hnew later hlater earlier (List.mem_append_left _ hearlier)
  induction h with
  | done => simp
  | fact _ hadded _ ih => exact hstep hadded ih
  | lifecycle _ hadded _ ih => exact hstep hadded ih

/-- However far a call has come with its writes, a rerun appends the others and no event twice,
and ends with the same snapshot and the same log. -/
theorem run_resumes (runtime : SimulatedRuntime) (call : SimulationCall) (expected : Option Nat)
    (log : EventLog) (result : SimulationResult)
    (h : runtime.runOnce call expected log = .ok result) (k : Nat) (hk : k ≤ result.stored.length)
    (again : Option Nat) (hagain : ∀ v ∈ again, v = (log ++ result.stored.take k).length) :
    ∃ resumed, runtime.runOnce call again (log ++ result.stored.take k) = .ok resumed ∧
      resumed.stored = result.stored.drop k ∧ resumed.snapshot = result.snapshot ∧
      (log ++ result.stored.take k) ++ resumed.stored = log ++ result.stored ∧
      (result.stored.map (·.id)).Nodup ∧
      ∀ e ∈ result.stored, ∀ earlier ∈ log, earlier.id ≠ e.id := by
  obtain ⟨hnone, -, hsame⟩ |
    ⟨prepared, consumed, emit, metrics, path, drafts, hprepared, hready, hhead⟩ := ready_of_runs h
  · refine ⟨result, ?_, ?_, rfl, ?_, ?_, ?_⟩
    · rw [hnone, List.take_nil, List.append_nil]
      exact hsame again
    · rw [hnone, List.drop_nil]
    · rw [hnone, List.take_nil, List.append_nil]
    · rw [hnone]
      exact List.nodup_nil
    · rw [hnone]
      exact fun e he => absurd he List.not_mem_nil
  · obtain ⟨found, hfound, hwrites, hfold⟩ := hready.runs hprepared hhead
    rw [h] at hfound
    cases hfound
    obtain ⟨left, leftDrafts, hleft, hleftWrites⟩ := hready.cut hwrites k hk
    obtain ⟨resumed, hresumed, hresumedWrites, hresumedFold⟩ := hleft.runs hprepared hagain
    have hstored := hresumedWrites.eq hleftWrites
    have hlog : (log ++ result.stored.take k) ++ resumed.stored = log ++ result.stored := by
      rw [hstored, List.append_assoc, List.take_append_drop]
    refine ⟨resumed, hresumed, hstored, ?_, hlog, hwrites.fresh⟩
    rw [hlog, hfold] at hresumedFold
    exact (Option.some.inj (Except.ok.inj hresumedFold)).symm

/-! A run to success with its two metrics, cut between them. -/

def trialRuntime : SimulatedRuntime := ⟨JsonText.scientific, trialRun⟩

def trialAuthorization : ResearchEvent :=
  { lifecycleEvent trialRun ⟨1, .refl true⟩ .runQueued none [] with
    id := ⟨"authorization", .refl true⟩
    type := ⟨"plan.authorization.evaluated", .refl true⟩
    data := { (lifecycleEvent trialRun ⟨1, .refl true⟩ .runQueued none []).data with runId := none } }

def trialIdentity (id : String) : SimulationEventIdentity := ⟨id, "2026-01-01T00:00:00Z"⟩

def trialCall : SimulationCall where
  request :=
    { trialRequest with
      events := [("run.queued", trialIdentity "event-1"), ("run.started", trialIdentity "event-2"),
        ("attempt.queued", trialIdentity "event-3"), ("attempt.started", trialIdentity "event-4"),
        ("training.step", trialIdentity "event-5"), ("evaluation.metric", trialIdentity "event-6"),
        ("attempt.succeeded", trialIdentity "event-7"), ("run.completed", trialIdentity "event-8")] }
  authorizationEventId := "authorization"
  authorizationSequence := "1"
  prepared := .ok
    { outcome := .success
      workflowId := trialPlanned.workflowId
      specDigest := trialPlanned.specDigest
      registryDigest := trialPlanned.registryDigest
      planDigest := trialPlanned.planDigest
      decisionDigest := trialPlanned.decisionDigest
      requireConsumable := fun _ => .ok () }

theorem run_resumes_metrics : ∃ result resumed,
    trialRuntime.runOnce trialCall none [trialAuthorization] = .ok result ∧
      trialRuntime.runOnce trialCall none ([trialAuthorization] ++ result.stored.take 5) =
        .ok resumed ∧
      result.stored.length = 8 ∧ resumed.stored.length = 3 := by
  have hcount : (trialRuntime.runOnce trialCall none [trialAuthorization]).toOption.map
      (fun result => result.stored.length) = some 8 := by decide +kernel
  obtain ⟨result, hresult, hlength⟩ := Option.map_eq_some_iff.mp hcount
  have hrun : trialRuntime.runOnce trialCall none [trialAuthorization] = .ok result := by
    cases hfound : trialRuntime.runOnce trialCall none [trialAuthorization] with
    | error error =>
      rw [hfound] at hresult
      cases hresult
    | ok found =>
      rw [hfound] at hresult
      cases hresult
      rfl
  obtain ⟨resumed, hresumed, hstored, -⟩ := run_resumes trialRuntime trialCall none
    [trialAuthorization] result hrun 5 (by omega) none (by simp)
  refine ⟨result, resumed, hrun, hresumed, hlength, ?_⟩
  rw [hstored, List.length_drop, hlength]

end ResearchOs.Execution
