import ResearchOs.Core.Workers.Barrier
import ResearchOs.Core.Workers.Failure
import ResearchOs.Core.Workers.Observation

/-! An observed cancellation among other writers: one fact, or an outcome that is left alone. -/
namespace ResearchOs.Workers

open JsonText (FloatText)
open Storage (EventLog)

variable {F : FloatText} {projectId : EventIdentifier} {fold next : WorkerFold}
  {log later : EventLog} {event fact : ResearchEvent} {observer : Observer} {reads : Reads}
  {plane : WorkerPlane} {call : ObserveCall}
  {lease : LeaseRecord} {leaseId : EventIdentifier} {draft : WorkerDraft} {head retries : Nat}
  {e : PlaneError}

/-! A settled lease stays settled. -/

theorem settled_apply (hlease : fold.lease leaseId = some lease) (hsettled : ¬ lease.unsettled)
    (h : applyWorkerFold F projectId fold event = .ok next) : next.lease leaseId = some lease := by
  have hfound : fold.leases.find? (fun item => item.leaseId = leaseId) = some lease := hlease
  have hchange := leaseChange h
  unfold WorkerFold.lease
  generalize next.leases = leases at hchange
  cases hchange with
  | kept htime => exact hlease
  | opened hpayload hattempt hfresh hactive => simp [List.find?_append, hfound]
  | moved htime hcurrent hopen hterms hcompleted hfailed =>
    obtain ⟨hid, -⟩ := leaseId_of_lease hlease
    rw [find?_replaceLease, hfound, Option.map_some, hid]
    split
    · rename_i hsame
      rw [← hsame, hlease] at hcurrent
      cases hcurrent
      exact absurd hopen hsettled
    · rfl

theorem settled_run (hlease : fold.lease leaseId = some lease) (hsettled : ¬ lease.unsettled)
    (h : later.foldlM (applyWorkerFold F projectId) fold = .ok next) :
    next.lease leaseId = some lease :=
  Fold.foldlM_invariant (P := fun fold : WorkerFold => fold.lease leaseId = some lease)
    (fun _ _ _ hkept happly => settled_apply hkept hsettled happly) hlease h

/-- After its failure fact a lease has failed for the reason of the fact. -/
theorem failed_apply {payload : WorkFailedPayload}
    (hpayload : workerPayload F projectId event = some (.workFailed payload))
    (h : applyWorkerFold F projectId fold event = .ok next) :
    ∃ lease, next.lease payload.leaseId = some lease ∧ lease.status = .failed ∧
      lease.reasonCode = some payload.reasonCode := by
  rcases applyWorkerFold_ok h with ⟨hnone, -⟩ | ⟨found, hfound, happly⟩
  · rw [hpayload] at hnone
    cases hnone
  · rw [hpayload] at hfound
    cases hfound
    obtain ⟨current, hcurrent, happly⟩ := presentCall_bind_ok.mp happly
    split_ifs at happly with hfailed
    · obtain ⟨hreason, happly⟩ := requireCall_bind_ok.mp happly
      cases happly
      exact ⟨current, hcurrent, hfailed, hreason⟩
    · obtain ⟨-, happly⟩ := requireCall_bind_ok.mp happly
      cases happly
      obtain ⟨hid, -⟩ := leaseId_of_lease hcurrent
      have hfound : fold.leases.find? (fun item => item.leaseId = payload.leaseId) = some current :=
        hcurrent
      refine ⟨current.failed payload.reasonCode, ?_, rfl, rfl⟩
      change (replaceLease fold.leases (current.failed payload.reasonCode)).find?
        (fun item => item.leaseId = payload.leaseId) = _
      rw [find?_replaceLease, hfound, Option.map_some]
      exact congrArg some (if_pos rfl)

/-! The fact of an observed cancellation. -/

/-- The fact that a call returns. -/
structure ObservedFact (F : FloatText) (projectId : EventIdentifier) (leaseId : String)
    (fact : ResearchEvent) : Prop where
  id : fact.id.val = failedEventId leaseId
  payload : ∃ payload, workerPayload F projectId fact = some (.workFailed payload) ∧
    payload.leaseId.val = leaseId ∧ payload.reasonCode.val = cancelObserved

theorem isObserved_iff : Observer.isObserved lease = true ↔
    lease.status = .failed ∧ lease.reasonCode.map Subtype.val = some cancelObserved := by
  rw [Observer.isObserved, decide_eq_true_iff]

theorem not_unsettled_of_failed (h : lease.status = .failed) : ¬ lease.unsettled := by
  intro hopen
  rw [LeaseRecord.unsettled, h] at hopen
  exact hopen (by decide)

theorem id_of_stored {id : String} (h : log.getEvent id = some fact) :
    fact.id.val = id ∧ fact ∈ log :=
  ⟨by simpa using List.find?_some h, List.mem_of_find?_eq_some h⟩

/-- A lease that failed by an observed cancellation has its fact under its id. -/
theorem observedFact_of_lease (hlog : LogOk F log)
    (hfold : replayWorkers F plane.projectId log = .ok fold)
    (hlease : fold.findLease call.leaseId = some lease)
    (hobserved : Observer.isObserved lease = true) :
    ∃ fact, log.getEvent (failedEventId call.leaseId) = some fact ∧
      ObservedFact F plane.projectId call.leaseId fact := by
  obtain ⟨hid, hrecorded⟩ := WorkerFold.findLease_some hlease
  obtain ⟨hstatus, hreason⟩ := isObserved_iff.mp hobserved
  obtain ⟨fact, hfact, payload, hpayload, hsame, hcode⟩ :=
    getEvent_failed hlog hfold (leaseId_of_lease hrecorded).2 hstatus
  rw [hid] at hfact
  refine ⟨fact, hfact, (id_of_stored hfact).1, payload, hpayload, by rw [hsame, hid], ?_⟩
  rw [hcode] at hreason
  exact Option.some.inj hreason

/-- Once the fact is in the log, the lease has failed by an observed cancellation. -/
theorem lease_of_observedFact (hfact : fact ∈ log)
    (hobserved : ObservedFact F plane.projectId call.leaseId fact)
    (hfold : replayWorkers F plane.projectId log = .ok fold) :
    ∃ lease, fold.findLease call.leaseId = some lease ∧ Observer.isObserved lease = true := by
  obtain ⟨payload, hpayload, hid, hreason⟩ := hobserved.payload
  obtain ⟨before, after, rfl⟩ := List.append_of_mem hfact
  obtain ⟨mid, -, hrest⟩ := Fold.foldlM_append_eq_ok.mp hfold
  obtain ⟨next, happly, hafter⟩ := Fold.foldlM_cons_eq_ok.mp hrest
  obtain ⟨lease, hlease, hstatus, hcode⟩ := failed_apply hpayload happly
  have hkept := settled_run hlease (not_unsettled_of_failed hstatus) hafter
  refine ⟨lease, ?_, isObserved_iff.mpr ⟨hstatus, by rw [hcode, Option.map_some, hreason]⟩⟩
  rw [← hid]
  simpa only [WorkerFold.lease, WorkerFold.findLease, Subtype.ext_iff] using hkept

def cancelObservedCode : EventIdentifier := ⟨cancelObserved, by decide⟩

/-- The draft of an attempt on a lease that the call names. -/
structure ObserveDraft (plane : WorkerPlane) (call : ObserveCall) (lease : LeaseRecord)
    (draft : WorkerDraft) : Prop where
  leaseId : lease.leaseId.val = call.leaseId
  written : ∃ time, draft = workFailedDraft plane call.leaseId call.workerId cancelObserved
    lease.runId.val lease.attemptId.val (failedEventId call.leaseId) time

theorem payload_of_says (hdraft : ObserveDraft plane call lease draft)
    (hsaid : draft.Says event) : workerPayload F plane.projectId event =
      some (.workFailed ⟨lease.leaseId, cancelObservedCode⟩) := by
  obtain ⟨hid, time, rfl⟩ := hdraft
  have hproject : event.data.projectId = plane.projectId := Subtype.ext hsaid.projectId
  have htype : WorkerEventType.ofText event.type.val = some .workFailed := by
    rw [hsaid.type]
    rfl
  have hpayload : event.data.payload = Json.ofPairs [("leaseId", .str lease.leaseId.val),
      ("reasonCode", .str cancelObservedCode.val)] := by
    rw [hid]
    exact hsaid.payload
  rw [workerPayload, if_neg (not_not.mpr hproject), htype, Option.bind_some, hpayload]
  exact payloadModel_failure lease.leaseId cancelObservedCode

/-- An event of such a draft is the fact of an observed cancellation. -/
theorem observedFact_of_says (hdraft : ObserveDraft plane call lease draft)
    (hsaid : draft.Says event) : ObservedFact F plane.projectId call.leaseId event := by
  refine ⟨?_, _, payload_of_says hdraft hsaid, hdraft.leaseId, rfl⟩
  obtain ⟨-, time, rfl⟩ := hdraft
  exact hsaid.id

/-- A draft that is checked at a head of the log. -/
structure PreparedFact (F : FloatText) (plane : WorkerPlane) (call : ObserveCall) (log : EventLog)
    (lease : LeaseRecord) (draft : WorkerDraft) (head : Nat) : Prop where
  isDraft : ObserveDraft plane call lease draft
  within : head ≤ log.length
  checked : AppendChecked F plane.projectId (log.take head) draft.document head

/-- What a stored fact does: it fails a lease that nothing has settled, and nothing else. -/
structure Settles (F : FloatText) (plane : WorkerPlane) (call : ObserveCall) (log : EventLog)
    (event : ResearchEvent) : Prop where
  fact : ObservedFact F plane.projectId call.leaseId event
  ids : ResultIds F event
  fresh : ∀ earlier ∈ log, earlier.id ≠ event.id
  folds : ∃ fold lease, replayWorkers F plane.projectId log = .ok fold ∧
    fold.findLease call.leaseId = some lease ∧ lease.status = .leased ∧
    replayWorkers F plane.projectId (log ++ [event]) = .ok { fold with
      leases := replaceLease fold.leases (lease.failed cancelObservedCode) }

theorem PreparedFact.settles (hlog : LogOk F log)
    (h : PreparedFact F plane call log lease draft head)
    (happend : log.append draft.document (some head) = .ok event) :
    Settles F plane call log event := by
  have hadded := EventLog.append_ok happend
  have hhead := hadded.expected head rfl
  have hchecked := h.checked
  rw [← hhead, List.take_length] at hchecked
  obtain ⟨hproject, fold, next, hfold, happly⟩ := hchecked.folds_added (hhead ▸ hadded)
  have hsaid : draft.Says event := by
    obtain ⟨ms, hms, hvalid⟩ := hadded.document
    rw [WorkerDraft.draftMembers_document] at hms
    cases hms
    exact WorkerDraft.says_of_validate hvalid
  have hpayload : workerPayload F plane.projectId event =
      some (.workFailed ⟨lease.leaseId, cancelObservedCode⟩) := payload_of_says h.isDraft hsaid
  have hfact : ObservedFact F plane.projectId call.leaseId event := observedFact_of_says h.isDraft hsaid
  obtain ⟨current, hcurrent, hopen⟩ : ∃ current, fold.lease lease.leaseId = some current ∧
      current.status ∉ terminalLease := by
    cases foldStep happly with
    | failed hstep hcurrent hopen =>
      rw [hpayload] at hstep
      cases hstep
      exact ⟨_, hcurrent, hopen⟩
    | failedAgain hstep hcurrent hdone =>
      rw [hpayload] at hstep
      cases hstep
      obtain ⟨hid, hmem⟩ := leaseId_of_lease hcurrent
      obtain ⟨fact, hstored, -⟩ := getEvent_failed hlog hfold hmem hdone
      obtain ⟨hfactId, hfactMem⟩ := id_of_stored hstored
      rw [hid, h.isDraft.leaseId, ← hfact.id] at hfactId
      exact absurd (Subtype.ext hfactId) (hadded.fresh fact hfactMem)
    | _ => simp_all
  obtain ⟨hid, -⟩ := leaseId_of_lease hcurrent
  have hleased : current.status = .leased := by
    cases hstatus : current.status with
    | leased => rfl
    | _ => exact absurd (by rw [hstatus]; decide) hopen
  refine ⟨hfact, ⟨?_, ?_⟩, hadded.fresh, fold, current, hfold, ?_, hleased, ?_⟩
  · intro payload hcompleted
    rw [hproject, hpayload] at hcompleted
    cases hcompleted
  · intro payload hfailed
    rw [hproject, hpayload] at hfailed
    cases hfailed
    rw [h.isDraft.leaseId]
    exact hfact.id
  · rw [← h.isDraft.leaseId]
    simpa only [WorkerFold.lease, WorkerFold.findLease, Subtype.ext_iff] using hcurrent
  · obtain ⟨hcallId, time, rfl⟩ := h.isDraft
    rw [← hcallId, ← hid] at hsaid
    rw [← hid] at hcurrent
    refine Fold.foldlM_concat_eq_ok.mpr ⟨fold, hfold, ?_⟩
    exact @applyWorkerFold_failure F fold event plane current _ _ _ _ _ cancelObservedCode hsaid
      hcurrent hleased

/-! What a call keeps, whatever the others append. -/

def PhaseOk (F : FloatText) (plane : WorkerPlane) (call : ObserveCall) (log : EventLog) :
    ObservePhase → Prop
  | .reading | .settled => ∃ fact, log.getEvent (failedEventId call.leaseId) = some fact ∧
      ObservedFact F plane.projectId call.leaseId fact
  | .appending lease _ | .conflicted lease _ => lease.leaseId.val = call.leaseId
  | .prepared lease draft head _ => PreparedFact F plane call log lease draft head
  | .returned (.ok fact) => fact ∈ log ∧ ObservedFact F plane.projectId call.leaseId fact
  | _ => True

def ObserverOk (F : FloatText) (log : EventLog) (observer : Observer) : Prop :=
  PhaseOk F observer.plane observer.call log observer.phase

theorem getEvent_concat {id : String} (h : log.getEvent id = some fact) :
    EventLog.getEvent (log ++ [event]) id = some fact := by
  rw [EventLog.getEvent] at h ⊢
  rw [List.find?_append, h, Option.some_or]

theorem phaseOk_concat {phase : ObservePhase} (h : PhaseOk F plane call log phase) :
    PhaseOk F plane call (log ++ [event]) phase := by
  cases phase with
  | reading =>
    obtain ⟨fact, hfact, hobserved⟩ := h
    exact ⟨fact, getEvent_concat hfact, hobserved⟩
  | settled =>
    obtain ⟨fact, hfact, hobserved⟩ := h
    exact ⟨fact, getEvent_concat hfact, hobserved⟩
  | prepared lease draft head retries =>
    refine ⟨h.isDraft, ?_, ?_⟩
    · have hwithin := h.within
      rw [List.length_append]
      omega
    · rw [List.take_append_of_le_length h.within]
      exact h.checked
  | returned answer =>
    cases answer with
    | ok fact => exact ⟨List.mem_append_left _ h.1, h.2⟩
    | error e => trivial
  | checking => trivial
  | appending lease retries => exact h
  | conflicted lease retries => exact h

theorem phaseOk_afterError (hid : lease.leaseId.val = call.leaseId) :
    PhaseOk F plane call log (Observer.afterError lease retries e) := by
  unfold Observer.afterError
  split_ifs
  · exact hid
  · trivial

/-- What the checks before the first attempt have established. -/
structure Checked (F : FloatText) (observer : Observer) (reads : Reads) (log : EventLog)
    (lease : LeaseRecord) (phase : ObservePhase) : Prop where
  folds : ∃ fold, replayWorkers F observer.plane.projectId log = .ok fold ∧
    fold.findLease observer.call.leaseId = some lease
  phase : if Observer.isObserved lease then phase = .reading
    else lease.status = .leased ∧ phase = .appending lease observeRetries

theorem findLease_of_bind {workerId leaseId : String} {claims : GrantClaims} {grant : GrantRecord}
    (h : bindResultAuthorization plane fold workerId leaseId claims = .ok (lease, grant)) :
    fold.findLease leaseId = some lease := by
  simp only [bindResultAuthorization, requireGrant_bind_ok, presentGrant_bind_ok,
    presentCall_bind_ok, requireCall_bind_ok] at h
  obtain ⟨-, -, _, -, found, hfound, -, -, -, -, h⟩ := h
  cases h
  exact hfound

theorem check_ok {phase : ObservePhase} (h : observer.check F reads log = .ok phase) :
    ∃ lease, Checked F observer reads log lease phase := by
  obtain ⟨claims, -, h⟩ := fromWorker_bind_ok.mp h
  obtain ⟨head, hhead, h⟩ := Fold.bind_eq_ok.mp h
  obtain ⟨⟨lease, grant⟩, hbind, h⟩ := fromWorker_bind_ok.mp h
  obtain ⟨_, -, h⟩ := fromWorker_bind_ok.mp h
  obtain ⟨requested, -, h⟩ := Fold.bind_eq_ok.mp h
  obtain ⟨_, -, h⟩ := fromWorker_bind_ok.mp h
  refine ⟨lease, ⟨head.fold, (rebuild_ok hhead).1, findLease_of_bind hbind⟩, ?_⟩
  split_ifs at h ⊢ with hobserved hterminal
  · cases h
    rfl
  · cases h
    exact ⟨not_not.mp hterminal, rfl⟩

theorem phaseOk_check {phase : ObservePhase} (hlog : LogOk F log)
    (h : observer.check F reads log = .ok phase) :
    PhaseOk F observer.plane observer.call log phase := by
  obtain ⟨lease, ⟨fold, hfold, hlease⟩, hphase⟩ := check_ok h
  split_ifs at hphase with hobserved
  · rw [hphase]
    exact observedFact_of_lease hlog hfold hlease hobserved
  · rw [hphase.2]
    exact (WorkerFold.findLease_some hlease).1

theorem read_ok {missing : PlaneError} (h : ∃ fact,
    log.getEvent (failedEventId observer.call.leaseId) = some fact ∧
      ObservedFact F observer.plane.projectId observer.call.leaseId fact) :
    ∃ fact, observer.read missing log = .returned (.ok fact) ∧ fact ∈ log ∧
      ObservedFact F observer.plane.projectId observer.call.leaseId fact := by
  obtain ⟨fact, hfact, hobserved⟩ := h
  refine ⟨fact, ?_, (id_of_stored hfact).2, hobserved⟩
  rw [Observer.read, Observer.eventId, hfact]

theorem phaseOk_prepare (hid : lease.leaseId.val = observer.call.leaseId) :
    PhaseOk F observer.plane observer.call log (observer.prepare F lease retries reads log) := by
  unfold Observer.prepare
  dsimp only
  split
  · rename_i head hhead
    obtain ⟨hchecked, -⟩ := appendHead_ok hhead
    refine ⟨⟨hid, _, rfl⟩, hchecked.atHead.le, ?_⟩
    rw [hchecked.atHead, List.take_length, ← hchecked.atHead]
    exact hchecked
  · exact phaseOk_afterError hid

theorem phaseOk_resolve (hlog : LogOk F log) (hid : lease.leaseId.val = observer.call.leaseId) :
    PhaseOk F observer.plane observer.call log (observer.resolve F lease retries log) := by
  have hagain : PhaseOk F observer.plane observer.call log (Observer.resolve.again lease retries) := by
    unfold Observer.resolve.again
    cases retries with
    | zero => trivial
    | succ retries => exact hid
  unfold Observer.resolve
  split
  · trivial
  · rename_i head hhead
    split
    · rename_i current hcurrent
      split_ifs with hfailed hobserved
      · exact observedFact_of_lease hlog (rebuild_ok hhead).1 hcurrent hobserved
      · trivial
      · exact hagain
    · exact hagain

/-- A move either appends nothing or stores a prepared draft. -/
theorem step_cases (observer : Observer) (reads : Reads) (log : EventLog) :
    (observer.step F reads log).2 = none ∨
      ∃ lease draft head retries event, observer.phase = .prepared lease draft head retries ∧
        log.append draft.document (some head) = .ok event ∧
        observer.step F reads log = (.returned (.ok event), some event) := by
  unfold Observer.step
  split
  · split <;> exact .inl rfl
  · exact .inl rfl
  · exact .inl rfl
  · rename_i lease draft head retries hphase
    unfold Observer.store
    split
    · exact .inl rfl
    · split
      · rename_i event happend
        exact .inr ⟨lease, draft, head, retries, event, hphase, happend, rfl⟩
      · exact .inl rfl
  · exact .inl rfl
  · exact .inl rfl
  · exact .inl rfl

theorem phaseOk_step (hlog : LogOk F log) (h : ObserverOk F log observer)
    (hquiet : (observer.step F reads log).2 = none) :
    PhaseOk F observer.plane observer.call log (observer.step F reads log).1 := by
  unfold ObserverOk at h
  unfold Observer.step at hquiet ⊢
  split at hquiet
  · split
    · rename_i phase hcheck
      exact phaseOk_check hlog hcheck
    · trivial
  · rename_i hphase
    rw [hphase] at h
    obtain ⟨fact, hread, hfact⟩ := read_ok h
    dsimp only
    rw [hread]
    exact hfact
  · rename_i hphase
    rw [hphase] at h
    exact phaseOk_prepare h
  · rename_i lease draft head retries hphase
    rw [hphase] at h
    have hid := PreparedFact.isDraft h |>.leaseId
    unfold Observer.store at hquiet ⊢
    cases hfault : reads.storeFault with
    | some e => exact phaseOk_afterError hid
    | none =>
      cases happend : log.append draft.document (some head) with
      | ok event =>
        simp only [hfault, happend] at hquiet
        cases hquiet
      | error e => exact phaseOk_afterError hid
  · rename_i hphase
    rw [hphase] at h
    exact phaseOk_resolve hlog h
  · rename_i hphase
    rw [hphase] at h
    obtain ⟨fact, hread, hfact⟩ := read_ok h
    dsimp only
    rw [hread]
    exact hfact
  · rename_i hphase
    rw [hphase] at h
    exact h

theorem observers_invariant (F : FloatText) :
    (observers F).Invariant (LogOk F) (ObserverOk F) where
  mono log event observer h := phaseOk_concat h
  start log observer h := by
    simp only [observers, Observer.starts] at h
    split at h
    · rename_i hphase
      rw [ObserverOk, hphase]
      trivial
    · cases h
  foreign log event hlog h := by
    obtain ⟨hresult, hfresh⟩ := observers_admits.mp h
    exact logOk_concat hlog hfresh hresult
  move log observer reads hlog h := by
    change LogOk F (log ++ (observer.step F reads log).2.toList) ∧
      PhaseOk F observer.plane observer.call (log ++ (observer.step F reads log).2.toList)
        (observer.step F reads log).1
    rcases step_cases observer reads log with
      hquiet | ⟨lease, draft, head, retries, event, hphase, happend, hstep⟩
    · rw [hquiet, Option.toList_none, List.append_nil]
      exact ⟨hlog, phaseOk_step hlog h hquiet⟩
    · rw [ObserverOk, hphase] at h
      have hsettles := PreparedFact.settles hlog h happend
      rw [hstep]
      exact ⟨logOk_concat hlog hsettles.fresh hsettles.ids,
        List.mem_append_right _ List.mem_cons_self, hsettles.fact⟩

/-! A call ends. -/

/-- The moves that are left at most. -/
def ObservePhase.left : ObservePhase → Nat
  | .checking => 3 * observeRetries + 5
  | .appending _ retries => 3 * retries + 4
  | .prepared _ _ _ retries => 3 * retries + 3
  | .conflicted _ retries => 3 * retries + 2
  | .reading | .settled => 1
  | .returned _ => 0

theorem afterError_left : (Observer.afterError lease retries e).left ≤ 3 * retries + 2 := by
  unfold Observer.afterError
  split_ifs
  · exact Nat.le_refl _
  · exact Nat.zero_le _

theorem read_left {missing : PlaneError} : (observer.read missing log).left = 0 := by
  unfold Observer.read
  split <;> rfl

theorem resolve_left : (observer.resolve F lease retries log).left < 3 * retries + 2 := by
  have hagain : (Observer.resolve.again lease retries).left < 3 * retries + 2 := by
    unfold Observer.resolve.again
    cases retries with
    | zero => exact Nat.succ_pos _
    | succ retries =>
      simp only [ObservePhase.left]
      omega
  unfold Observer.resolve
  split
  · exact Nat.succ_pos _
  · split
    · split_ifs
      · simp only [ObservePhase.left]
        omega
      · exact Nat.succ_pos _
      · exact hagain
    · exact hagain

theorem step_left (h : observer.phase.left ≠ 0) :
    (observer.step F reads log).1.left < observer.phase.left := by
  unfold Observer.step
  cases hphase : observer.phase with
  | checking =>
    dsimp only
    split
    · rename_i phase hcheck
      obtain ⟨lease, -, hnext⟩ := check_ok hcheck
      split_ifs at hnext
      · rw [hnext]
        decide
      · rw [hnext.2]
        exact Nat.lt_succ_self _
    · exact Nat.succ_pos _
  | reading =>
    dsimp only
    rw [read_left]
    exact Nat.one_pos
  | appending lease retries =>
    dsimp only
    unfold Observer.prepare
    dsimp only
    split
    · exact Nat.lt_succ_self _
    · exact Nat.lt_of_le_of_lt afterError_left (by simp only [ObservePhase.left]; omega)
  | prepared lease draft head retries =>
    have herror : ∀ e, (Observer.afterError lease retries e).left <
        (ObservePhase.prepared lease draft head retries).left :=
      fun e => Nat.lt_of_le_of_lt afterError_left (Nat.lt_succ_self _)
    dsimp only
    unfold Observer.store
    split
    · exact herror _
    · split
      · exact Nat.succ_pos _
      · exact herror _
  | conflicted lease retries => exact resolve_left
  | settled =>
    dsimp only
    rw [read_left]
    exact Nat.one_pos
  | returned answer =>
    rw [hphase] at h
    exact absurd rfl h

theorem returned_of_left {phase : ObservePhase} (h : phase.left = 0) :
    ∃ answer, phase = .returned answer := by
  cases phase with
  | returned answer => exact ⟨answer, rfl⟩
  | checking => cases h
  | reading => cases h
  | settled => cases h
  | appending lease retries =>
    simp only [ObservePhase.left] at h
    omega
  | prepared lease draft head retries =>
    simp only [ObservePhase.left] at h
    omega
  | conflicted lease retries =>
    simp only [ObservePhase.left] at h
    omega

theorem observers_ends (F : FloatText) :
    (observers F).Ends fun observer => observer.phase.left where
  closer m hopen := step_left hopen
  still m hend := by
    obtain ⟨answer, hphase⟩ := returned_of_left hend
    obtain ⟨log, ⟨plane, call, phase⟩, reads⟩ := m
    cases hphase
    exact ⟨rfl, rfl⟩
  last m entry hentry := by
    change ((m.client.step F m.input m.log).1).left = 0
    change (m.client.step F m.input m.log).2 = some entry at hentry
    rcases step_cases m.client m.input m.log with hquiet | ⟨_, _, _, _, event, -, -, hstep⟩
    · rw [hquiet] at hentry
      cases hentry
    · rw [hstep]
      rfl

/-! Why a call raises once the lease has failed by an observed cancellation. -/

/-- The token or the grant does not authorize the call, no cancellation is requested, the log
cannot be read, the draft is no event, or the store is at fault. -/
inductive Refusal (F : FloatText) (observer : Observer) (reads : Reads) (log : EventLog) :
    PlaneError → Prop
  | claims {error : WorkerError} (h : observer.call.claims = .error error) :
      Refusal F observer reads log (.worker error)
  | unread {e : PlaneError} (h : rebuild F observer.plane.projectId log = .error e) :
      Refusal F observer reads log e
  | unbound {claims : GrantClaims} {head : WorkerHead} {error : WorkerError}
      (hclaims : observer.call.claims = .ok claims)
      (hhead : rebuild F observer.plane.projectId log = .ok head)
      (h : bindResultAuthorization observer.plane head.fold observer.call.workerId
        observer.call.leaseId claims = .error error) :
      Refusal F observer reads log (.worker error)
  | notConsumed {head : WorkerHead} {lease : LeaseRecord} {grant : GrantRecord}
      (hhead : rebuild F observer.plane.projectId log = .ok head)
      (hlease : head.fold.findLease observer.call.leaseId = some lease)
      (h : ¬ (grant.consumedLeaseId.map Subtype.val = some observer.call.leaseId ∧
        lease.claimed = true)) :
      Refusal F observer reads log (Observer.callError "grant was not consumed by this lease"
        "grant-not-consumed")
  | unknownCancellation {e : PlaneError} (h : reads.cancelRequested = .error e) :
      Refusal F observer reads log e
  | notRequested (h : reads.cancelRequested = .ok false) :
      Refusal F observer reads log (Observer.callError "cancellation is not requested"
        "cancel-not-requested")
  | invalidDraft {lease : LeaseRecord} {error : WorkerError}
      (h : preflightEvent observer.plane.projectId log.length (observer.draft lease reads).document =
        .error error) :
      Refusal F observer reads log (.worker error)
  | fault {error : Storage.StoreError} (h : reads.storeFault = some error)
      (hother : Caller.isConflict (.store error) = false) :
      Refusal F observer reads log (.store error)

theorem fromWorker_eq_error {α : Type} {r : Except WorkerError α} :
    fromWorker r = .error e ↔ ∃ error, r = .error error ∧ e = .worker error := by
  cases r with
  | ok a => simp [fromWorker]
  | error error => simp [fromWorker, eq_comm]

theorem check_refusal (hfact : fact ∈ log)
    (hobserved : ObservedFact F observer.plane.projectId observer.call.leaseId fact)
    (h : observer.check F reads log = .error e) : Refusal F observer reads log e := by
  rcases Fold.bind_eq_error.mp h with h | ⟨claims, hclaims, h⟩
  · obtain ⟨error, hclaims, rfl⟩ := fromWorker_eq_error.mp h
    exact .claims hclaims
  rcases Fold.bind_eq_error.mp h with h | ⟨head, hhead, h⟩
  · exact .unread h
  rcases Fold.bind_eq_error.mp h with h | ⟨⟨lease, grant⟩, hbind, h⟩
  · obtain ⟨error, hbind, rfl⟩ := fromWorker_eq_error.mp h
    exact .unbound (fromWorker_eq_ok.mp hclaims) hhead hbind
  have hlease := findLease_of_bind (fromWorker_eq_ok.mp hbind)
  rcases Fold.bind_eq_error.mp h with h | ⟨_, -, h⟩
  · obtain ⟨error, hconsumed, rfl⟩ := fromWorker_eq_error.mp h
    obtain ⟨hnot, rfl⟩ := requireCall_eq_error.mp hconsumed
    exact .notConsumed hhead hlease hnot
  rcases Fold.bind_eq_error.mp h with h | ⟨requested, hrequested, h⟩
  · exact .unknownCancellation h
  rcases Fold.bind_eq_error.mp h with h | ⟨_, -, h⟩
  · obtain ⟨error, hasked, rfl⟩ := fromWorker_eq_error.mp h
    obtain ⟨hnot, rfl⟩ := requireCall_eq_error.mp hasked
    rw [Bool.eq_false_iff.mpr hnot] at hrequested
    exact .notRequested hrequested
  obtain ⟨found, hfound, hfailed⟩ := lease_of_observedFact hfact hobserved (rebuild_ok hhead).1
  rw [hlease] at hfound
  cases hfound
  rw [if_pos hfailed] at h
  cases h

theorem raised_of_afterError {error : PlaneError}
    (h : Observer.afterError lease retries error = .returned (.error e)) :
    error = e ∧ Caller.isConflict error = false := by
  unfold Observer.afterError at h
  split_ifs at h with hconflict
  cases h
  exact ⟨rfl, Bool.eq_false_iff.mpr hconflict⟩

/-- On a lease that has failed by an observed cancellation the fact of another one folds. -/
theorem applyWorkerFold_observed (hdraft : ObserveDraft plane call lease draft)
    (hsaid : draft.Says event) {current : LeaseRecord}
    (hcurrent : fold.findLease call.leaseId = some current)
    (hfailed : Observer.isObserved current = true) :
    applyWorkerFold F plane.projectId fold event = .ok fold := by
  obtain ⟨hid, time, rfl⟩ := hdraft
  have hlease : fold.lease lease.leaseId = some current := by
    rw [← hid] at hcurrent
    simpa only [WorkerFold.lease, WorkerFold.findLease, Subtype.ext_iff] using hcurrent
  obtain ⟨hstatus, hreason⟩ := isObserved_iff.mp hfailed
  have hcode : current.reasonCode = some cancelObservedCode := by
    obtain ⟨code, hfound, hval⟩ := Option.map_eq_some_iff.mp hreason
    have hsame : code = cancelObservedCode := Subtype.ext hval
    rw [hfound, hsame]
  have hcall : requireCall (current.reasonCode = some cancelObservedCode)
      "failed lease reason does not match" "fail-mismatch" = .ok () := if_pos hcode
  have hhandled : applyWorkerFold F plane.projectId fold event =
      applyFailed fold ⟨lease.leaseId, cancelObservedCode⟩ := by
    rw [← hid] at hsaid
    exact applyWorkerFold_of_failure hsaid
  rw [hhandled]
  simp only [applyFailed, hlease, presentCall, if_pos hstatus, hcall, bind, Except.bind]

theorem prepare_refusal (hid : lease.leaseId.val = observer.call.leaseId) (hfact : fact ∈ log)
    (hobserved : ObservedFact F observer.plane.projectId observer.call.leaseId fact)
    (h : observer.prepare F lease retries reads log = .returned (.error e)) :
    Refusal F observer reads log e := by
  have hdraft : ObserveDraft observer.plane observer.call lease (observer.draft lease reads) :=
    ⟨hid, _, rfl⟩
  unfold Observer.prepare at h
  dsimp only at h
  split at h
  · cases h
  rename_i error happend
  obtain ⟨rfl, -⟩ := raised_of_afterError h
  rcases Fold.bind_eq_error.mp happend with happend | ⟨head, hhead, happend⟩
  · exact .unread happend
  obtain ⟨hfold, hlast⟩ := rebuild_ok hhead
  rcases Fold.bind_eq_error.mp happend with happend | ⟨_, -, happend⟩
  · cases happend
  rcases Fold.bind_eq_error.mp happend with happend | ⟨_, -, happend⟩
  · obtain ⟨error, hfolds, rfl⟩ := fromWorker_eq_error.mp happend
    rcases Fold.bind_eq_error.mp hfolds with hinvalid | ⟨event, hevent, happly⟩
    · rw [hlast] at hinvalid
      exact .invalidDraft hinvalid
    · obtain ⟨-, -, ms, hms, hvalid⟩ := preflightEvent_ok hevent
      rw [WorkerDraft.draftMembers_document] at hms
      cases hms
      obtain ⟨current, hcurrent, hfailed⟩ := lease_of_observedFact hfact hobserved hfold
      rw [applyWorkerFold_observed hdraft (WorkerDraft.says_of_validate hvalid) hcurrent hfailed]
        at happly
      cases happly
  · cases happend

/-- The store does not take the id of the fact twice. -/
theorem append_duplicate (hprepared : PreparedFact F plane call log lease draft head)
    (hfact : fact ∈ log) (hobserved : ObservedFact F plane.projectId call.leaseId fact) :
    ∃ message, log.append draft.document (some head) = .error (.duplicateEvent message) := by
  obtain ⟨_, _, event, -, hevent, -⟩ := hprepared.checked.folds
  obtain ⟨-, -, ms, hms, hvalid⟩ := preflightEvent_ok hevent
  have hplaced := Storage.validate_assigned ms Storage.firstSequence event.sequence
    Storage.firstStreamVersion event.streamversion
  rw [hvalid, Option.map_some] at hplaced
  have hid : event.id.val = failedEventId call.leaseId := by
    rw [WorkerDraft.draftMembers_document] at hms
    cases hms
    obtain ⟨-, time, rfl⟩ := hprepared.isDraft
    exact (WorkerDraft.says_of_validate hvalid).id
  have htaken : (log.any fun earlier => decide (earlier.id.val = event.id.val)) = true :=
    List.any_eq_true.mpr ⟨fact, hfact, by rw [hobserved.id, hid, decide_eq_true_iff]⟩
  refine ⟨"event id already exists: " ++ event.id.val, ?_⟩
  have hnew : EventLog.requireNewEventId log event.id.val =
      .error (.duplicateEvent ("event id already exists: " ++ event.id.val)) := if_pos htaken
  simp only [EventLog.append, hms, Storage.preflightEvent, hplaced, bind, Except.bind]
  exact congrArg (fun r : Except Storage.StoreError Unit => r >>= fun _ => _) hnew

theorem store_refusal
    (hprepared : PreparedFact F observer.plane observer.call log lease draft head)
    (hfact : fact ∈ log)
    (hobserved : ObservedFact F observer.plane.projectId observer.call.leaseId fact)
    (h : (Observer.store lease draft head retries reads.storeFault log).1 = .returned (.error e)) :
    Refusal F observer reads log e := by
  unfold Observer.store at h
  cases hfault : reads.storeFault with
  | some error =>
    rw [hfault] at h
    obtain ⟨rfl, hother⟩ := raised_of_afterError h
    exact .fault hfault hother
  | none =>
    obtain ⟨message, happend⟩ := append_duplicate hprepared hfact hobserved
    rw [hfault] at h
    simp only [happend] at h
    cases h

theorem resolve_refusal (hfact : fact ∈ log)
    (hobserved : ObservedFact F observer.plane.projectId observer.call.leaseId fact)
    (h : observer.resolve F lease retries log = .returned (.error e)) :
    Refusal F observer reads log e := by
  unfold Observer.resolve at h
  split at h
  · rename_i error hhead
    cases h
    exact .unread hhead
  · rename_i head hhead
    obtain ⟨current, hcurrent, hfailed⟩ := lease_of_observedFact hfact hobserved (rebuild_ok hhead).1
    rw [hcurrent] at h
    dsimp only at h
    rw [if_pos (isObserved_iff.mp hfailed).1, if_pos hfailed] at h
    cases h

/-! Every move, and every run. -/

/-- What a move stores settles an open lease and is returned, and a move that raises stores
nothing; once the fact is in the log, it raises only what does not come from the fact. -/
structure MoveGuard (F : FloatText) (m : Clients.Move ResearchEvent Observer Reads) : Prop where
  stores : ∀ event, m.entry (observers F) = some event →
    Settles F m.client.plane m.client.call m.log event ∧
      (m.next (observers F)).phase = .returned (.ok event)
  raises : ∀ e, m.client.phase.left ≠ 0 → (m.next (observers F)).phase = .returned (.error e) →
    m.entry (observers F) = none ∧ ∀ fact ∈ m.log,
      ObservedFact F m.client.plane.projectId m.client.call.leaseId fact →
        Refusal F m.client m.input m.log e

theorem moveGuard {m : Clients.Move ResearchEvent Observer Reads} (hlog : LogOk F m.log)
    (hclient : ObserverOk F m.log m.client) : MoveGuard F m := by
  obtain ⟨log, observer, reads⟩ := m
  refine ⟨fun event hentry => ?_, fun e hopen hraise => ⟨?_, fun fact hfact hobserved => ?_⟩⟩
  · change (observer.step F reads log).2 = some event at hentry
    change _ ∧ (observer.step F reads log).1 = _
    rcases step_cases observer reads log with
      hquiet | ⟨lease, draft, head, retries, stored, hphase, happend, hstep⟩
    · rw [hquiet] at hentry
      cases hentry
    · rw [hstep] at hentry ⊢
      cases hentry
      rw [ObserverOk, hphase] at hclient
      exact ⟨PreparedFact.settles hlog hclient happend, rfl⟩
  · change (observer.step F reads log).1 = _ at hraise
    rcases step_cases observer reads log with hquiet | ⟨_, _, _, _, _, -, -, hstep⟩
    · exact hquiet
    · rw [hstep] at hraise
      cases hraise
  · change (observer.step F reads log).1 = _ at hraise
    rw [ObserverOk] at hclient
    unfold Observer.step at hraise
    cases hphase : observer.phase with
    | checking =>
      rw [hphase] at hraise
      dsimp only at hraise
      split at hraise
      · rename_i phase hcheck
        obtain ⟨_, -, hnext⟩ := check_ok hcheck
        dsimp only at hraise
        split_ifs at hnext
        · rw [hnext] at hraise
          cases hraise
        · rw [hnext.2] at hraise
          cases hraise
      · rename_i error hcheck
        cases hraise
        exact check_refusal hfact hobserved hcheck
    | reading =>
      rw [hphase] at hraise hclient
      obtain ⟨_, hread, -⟩ := read_ok hclient
      dsimp only at hraise
      rw [hread] at hraise
      cases hraise
    | appending lease retries =>
      rw [hphase] at hraise hclient
      exact prepare_refusal hclient hfact hobserved hraise
    | prepared lease draft head retries =>
      rw [hphase] at hraise hclient
      exact store_refusal hclient hfact hobserved hraise
    | conflicted lease retries =>
      rw [hphase] at hraise
      exact resolve_refusal hfact hobserved hraise
    | settled =>
      rw [hphase] at hraise hclient
      obtain ⟨_, hread, -⟩ := read_ok hclient
      dsimp only at hraise
      rw [hread] at hraise
      cases hraise
    | returned answer =>
      rw [hphase] at hopen
      exact absurd rfl hopen

theorem observers_empty : Clients.Holds (LogOk F) (ObserverOk F) ⟨[], []⟩ :=
  ⟨⟨List.nodup_nil, fun _ hevent => absurd hevent List.not_mem_nil⟩,
    fun _ hclient => absurd hclient List.not_mem_nil⟩

/-- In every run, a call stores at most one fact and ends after eleven moves. It returns the fact of
the observed cancellation of its lease, which is then in the log, or it raises and has stored
nothing; a fact that it stores fails a lease that nothing has settled, and changes no other. Once
such a fact is in the log, whoever stored it, the call raises only for a reason that is not the
fact. What a call of a worker plane stores is among the facts of the others. -/
theorem observed_cancellation (F : FloatText)
    (actions : List (Clients.Action ResearchEvent Observer Reads)) (i : Nat) :
    ((observers F).entriesOf i ⟨[], []⟩ actions).length ≤ 1 ∧
    (((observers F).movesOf i ⟨[], []⟩ actions).filter
      fun m => m.client.phase.left ≠ 0).length ≤ 11 ∧
    (∀ observer fact, ((observers F).run ⟨[], []⟩ actions).clients[i]? = some observer →
      observer.phase = .returned (.ok fact) →
        fact ∈ ((observers F).run ⟨[], []⟩ actions).log ∧
        ObservedFact F observer.plane.projectId observer.call.leaseId fact ∧
        ∀ event ∈ (observers F).entriesOf i ⟨[], []⟩ actions, event = fact) ∧
    (∀ observer e, ((observers F).run ⟨[], []⟩ actions).clients[i]? = some observer →
      observer.phase = .returned (.error e) → (observers F).entriesOf i ⟨[], []⟩ actions = []) ∧
    (∀ m ∈ (observers F).movesOf i ⟨[], []⟩ actions, MoveGuard F m) ∧
    ∀ contentDigest log (caller : Caller) reads event, CallerOk F log caller →
      (caller.move F contentDigest log reads).2 = some event →
        (observers F).admits log event = true := by
  have hguard : ∀ m ∈ (observers F).movesOf i ⟨[], []⟩ actions, MoveGuard F m := by
    intro m hm
    obtain ⟨hlog, hclient⟩ := (observers_invariant F).moves observers_empty m hm
    exact moveGuard hlog hclient
  have hholds := (observers_invariant F).run observers_empty actions
  have hentries := @Clients.Ends.entries _ _ _ (observers F) i ⟨[], []⟩ actions _ (observers_ends F)
  refine ⟨?_, ?_, fun observer fact hclient hphase => ?_, fun observer e hclient hphase => ?_, hguard,
    fun contentDigest log caller reads event hcaller hstored => admits_plane_fact hcaller hstored⟩
  · rcases hentries with hnone | ⟨_, -, _, -, hone, -⟩
    · rw [hnone]
      exact Nat.zero_le _
    · rw [hone]
      exact Nat.le_refl _
  · refine (observers_ends F).moves_le (fun observer hstart => ?_) rfl
    simp only [observers, Observer.starts] at hstart
    split at hstart
    · rename_i hphase
      rw [hphase]
      exact Nat.le_refl _
    · cases hstart
  · have hok := hholds.2 observer (List.mem_of_getElem? hclient)
    rw [ObserverOk, hphase] at hok
    refine ⟨hok.1, hok.2, ?_⟩
    rcases hentries with hnone | ⟨m, hm, entry, hentry, hone, hlast⟩
    · rw [hnone]
      exact fun event hevent => absurd hevent List.not_mem_nil
    · rw [hclient] at hlast
      cases hlast
      rw [((hguard m hm).stores entry hentry).2] at hphase
      cases hphase
      rw [hone]
      exact fun event hevent => List.mem_singleton.mp hevent
  · rcases hentries with hnone | ⟨m, hm, entry, hentry, -, hlast⟩
    · exact hnone
    · rw [hclient] at hlast
      cases hlast
      rw [((hguard m hm).stores entry hentry).2] at hphase
      cases hphase

/-! Two calls on one lease: both are checked and prepared before either stores. -/

def trialObserver : Observer :=
  ⟨trialPlane, ⟨"worker-a", .ok trialClaims, "lease.grant-a"⟩, .checking⟩

def cancelledReads : Reads := { trialReads with cancelRequested := .ok true }

def observedTwice : List (Clients.Action ResearchEvent Observer Reads) := [
  .foreign { trialRegistered ⟨1, .refl true⟩ "worker-a" with id := ⟨"event-1", .refl true⟩ },
  .foreign { trialWorkQueued ⟨2, .refl true⟩ with id := ⟨"event-2", .refl true⟩ },
  .foreign { trialGrant ⟨3, .refl true⟩ "worker-a" "grant-a" with id := ⟨"event-3", .refl true⟩ },
  .foreign { trialLeased ⟨4, .refl true⟩ "worker-a" "grant-a" "lease.grant-a" with
    id := ⟨"event-4", .refl true⟩ },
  .foreign { trialClaimed ⟨5, .refl true⟩ "worker-a" "lease.grant-a" with
    id := ⟨"event-5", .refl true⟩ },
  .foreign { trialConsumed ⟨6, .refl true⟩ "grant-a" "lease.grant-a" with
    id := ⟨"event-6", .refl true⟩ },
  .join trialObserver, .join trialObserver, .move 0 cancelledReads, .move 1 cancelledReads,
  .move 0 cancelledReads, .move 1 cancelledReads, .move 0 cancelledReads, .move 1 cancelledReads,
  .move 1 cancelledReads, .move 1 cancelledReads]

/-- The fact that a call has returned. -/
def Observer.answer (observer : Observer) : Option ResearchEvent :=
  match observer.phase with
  | .returned (.ok fact) => some fact
  | _ => none

/-- The second one finds the fact of the first, and returns it. -/
example :
    let s := (observers JsonText.scientific).run ⟨[], []⟩ observedTwice
    s.log.length = 7 ∧ s.clients.map (fun observer => observer.answer.map fun fact => fact.id.val) =
      [some "evt.work.failed.lease.grant-a", some "evt.work.failed.lease.grant-a"] := by
  decide +kernel

end ResearchOs.Workers
