import ResearchOs.Data.Retry
import ResearchOs.Core.Native.Stages

/-! The steps of a report are done in turn. -/
namespace ResearchOs.Native

open JsonText (FloatText)
open Resume (InTurn Advanced)
open Runs (LifecycleType RunSnapshot AttemptSnapshot Ending)
open Storage (EventLog)
open Workers

/-- The outcome that a document of the ending names. -/
def outcomeOf : Ending → Outcome
  | .succeeded => .completed
  | .failed => .failed
  | .cancelled => .cancelled

/-- What comes before the facts of the run. -/
def headSteps : Ending → List OutcomeStep
  | .succeeded => [.verify]
  | .failed => [.failLease, .requireTaskFailed]
  | .cancelled => [.requestCancellation, .observeCancellation]

theorem outcomeSteps_eq {document : NativeOutcomeRequest} {ending : Ending}
    (h : document.outcome = outcomeOf ending) :
    outcomeSteps document = headSteps ending ++ endingSteps ending := by
  unfold outcomeSteps
  rw [h]
  cases ending <;> rfl

section

variable (F : FloatText) (contentDigest : Json → Option String) (context : NativeContext)
  (plane : WorkerPlane) (call : OutcomeCall) (grant : GrantRecord) (request : NativeRequest)
  (ending : Ending)

/-- The stages of a report whose lease is settled, by the facts of the run that are recorded. -/
inductive Tail : Nat → EventLog → Prop
  | opened {log : EventLog} {lease : LeaseRecord} {s : RunSnapshot} {attempt : AttemptSnapshot}
      (h : At F contentDigest context plane call grant request
        [ending.attemptType, ending.runType] log lease s attempt)
      (hsettled : Settled context request ending log lease s)
      (hallowed : attempt.status ∈ ending.allowed) : Tail 0 log
  | ended {log : EventLog} {lease : LeaseRecord} {s : RunSnapshot} {attempt : AttemptSnapshot}
      (h : At F contentDigest context plane call grant request [ending.runType] log lease s attempt)
      (hsettled : Settled context request ending log lease s)
      (hattempt : Has request log (attemptFact ending))
      (hstatus : attempt.status = ending.attemptStatus)
      (hopen : s.status = ending.attemptStatus.runStatus) : Tail 1 log
  | closed {log : EventLog} {lease : LeaseRecord} {s : RunSnapshot} {attempt : AttemptSnapshot}
      (h : At F contentDigest context plane call grant request [] log lease s attempt)
      (hsettled : Settled context request ending log lease s)
      (hattempt : Has request log (attemptFact ending)) (hrun : Has request log (runFact ending))
      (hclosed : s.status = ending.runStatus) : Tail 2 log

end

section

variable {F : FloatText} {contentDigest : Json → Option String} {context : NativeContext}
  {plane : WorkerPlane} {call : OutcomeCall} {grant : GrantRecord} {request : NativeRequest}
  {log grown : EventLog} {lease : LeaseRecord} {s t : RunSnapshot} {attempt : AttemptSnapshot}
  {ending : Ending} {visit : Visit} {step : OutcomeStep}

theorem Observed.append (h : Observed log lease) (hlonger : log <+: grown) :
    Observed grown lease := by
  obtain ⟨hstatus, hreason, hstored⟩ := h
  obtain ⟨rest, rfl⟩ := hlonger
  obtain ⟨event, hevent⟩ := Option.isSome_iff_exists.mp hstored
  exact ⟨hstatus, hreason, by rw [getEvent_append hevent]; rfl⟩

theorem Settled.later (h : Settled context request ending log lease s) (hlonger : log <+: grown)
    (hflag : t.cancellationRequested = s.cancellationRequested) :
    Settled context request ending grown lease t := by
  cases ending with
  | succeeded => exact h
  | failed => exact h
  | cancelled => exact ⟨hflag.trans h.1, h.2.append hlonger⟩

theorem Settled.requested (h : Settled context request ending log lease s) :
    ending = .cancelled → s.cancellationRequested = true := by
  rintro rfl
  exact h.1

theorem Has.later {fact : LifecycleFact} (h : Has request log fact) (hlonger : log <+: grown) :
    Has request grown fact := by
  obtain ⟨rest, rfl⟩ := hlonger
  exact h.append rest

/-! The steps on a settled lease. -/

theorem Report.native {bound : Bound}
    (h : Report F contentDigest context plane call log bound s attempt) :
    bound.grant.consumedLeaseId = some bound.lease.leaseId ∧ bound.lease.claimed = true := by
  obtain ⟨fold, -, hbound⟩ := h.workers
  obtain ⟨claims, work, plan, hbindings⟩ := bindReport_eq_ok.mp hbound
  exact ⟨hbindings.native.2.2, hbindings.native.2.1⟩

theorem failObservedCancellation_done
    (hnative : grant.consumedLeaseId = some lease.leaseId ∧ lease.claimed = true)
    (hobserved : Observed log lease) :
    failObservedCancellation F plane call lease grant true visit log = .ok none := by
  unfold failObservedCancellation
  refine requireNative_bind_ok.mpr ⟨hnative, ?_⟩
  refine requireNative_bind_ok.mpr ⟨rfl, ?_⟩
  exact if_pos hobserved

/-- The run of an open attempt is open. -/
theorem Report.open {bound : Bound}
    (h : Report F contentDigest context plane call log bound s attempt)
    (hallowed : attempt.status ∈ ending.allowed) : s.status ∉ Runs.terminalRunStatuses := by
  have hunresolved := Ending.allowed_unresolved hallowed
  have hmem : attempt ∈ s.attempts := by
    rw [h.attempts]
    exact List.mem_singleton_self attempt
  rw [h.invariant.open_of_unresolved hmem hunresolved]
  exact Runs.runStatus_open hunresolved

theorem headSteps_done
    (h : Report F contentDigest context plane call log ⟨lease, grant, request⟩ s attempt)
    (hsettled : Settled context request ending log lease s) (hstep : step ∈ headSteps ending) :
    performStep F context plane call request visit step log = .ok none := by
  have hauthorized := h.workers.authorized
  have hrequested := h.requested
  have hnative := h.native
  cases ending with
  | succeeded =>
    obtain rfl := List.mem_singleton.mp hstep
    obtain ⟨hstatus, houtput⟩ := hsettled
    simp only [performStep, performLease, hauthorized, bind, Except.bind]
    refine requireNative_bind_ok.mpr ⟨hstatus, ?_⟩
    simp only [houtput, fromPlane]
  | failed =>
    obtain ⟨hstatus, hreason⟩ := hsettled
    simp only [headSteps, List.mem_cons, List.not_mem_nil, or_false] at hstep
    rcases hstep with rfl | rfl
    · simp only [performStep, performLease, hauthorized, bind, Except.bind, hstatus, if_true]
    · simp only [performStep, performLease, hauthorized, bind, Except.bind]
      exact requireNative_bind_ok.mpr ⟨hreason, rfl⟩
  | cancelled =>
    obtain ⟨hflag, hobserved⟩ := hsettled
    simp only [headSteps, List.mem_cons, List.not_mem_nil, or_false] at hstep
    rcases hstep with rfl | rfl
    · simp only [performStep, performLease, hauthorized, hrequested, bind, Except.bind, hflag,
        Bool.true_or, Bool.true_eq_false, and_false, if_false]
    · simp only [performStep, performLease, hauthorized, hrequested, bind, Except.bind, hflag,
        Bool.true_or]
      exact failObservedCancellation_done hnative hobserved

/-- The facts of the run are recorded in turn. -/
theorem tail_inTurn
    (hvalid : FactsValid request ending visit) :
    InTurn (performStep F context plane call request visit) (endingSteps ending)
      (Tail F contentDigest context plane call grant request ending) where
  done := by
    intro n log k step hstage hk hstep
    cases hstage with
    | opened => omega
    | ended h hsettled hattempt hstatus hopen =>
      obtain rfl : k = 0 := by omega
      cases hstep
      exact appendBound_done hattempt
    | closed h hsettled hattempt hrun hclosed =>
      rcases (by omega : k = 0 ∨ k = 1) with rfl | rfl
      · cases hstep
        exact appendBound_done hattempt
      · cases hstep
        exact appendBound_done hrun
  next := by
    intro n log step hstage hstep
    cases hstage with
    | opened h hsettled hallowed =>
      cases hstep
      obtain ⟨later, t, ended, happend, hhas, hlonger, hended, hat⟩ :=
        h.settle hallowed hsettled.requested hvalid
      exact .inr ⟨later, happend, .ended hat (hsettled.later hlonger hended.cancellation) hhas
        hended.status hended.runStatus⟩
    | ended h hsettled hattempt hstatus hopen =>
      cases hstep
      have hnonterminal : ending.attemptStatus.runStatus ∉ Runs.terminalRunStatuses := by
        cases ending <;> decide
      rw [← hopen] at hnonterminal
      obtain ⟨later, t, happend, hhas, hlonger, hclosed, hflag, hat⟩ :=
        h.close hstatus hnonterminal hsettled.requested hvalid
      exact .inr ⟨later, happend, .closed hat (hsettled.later hlonger hflag)
        (hattempt.later hlonger) hhas hclosed⟩
    | closed => cases hstep

end

/-! Before the lease is settled. -/

section

variable (F : FloatText) (contentDigest : Json → Option String) (context : NativeContext)
  (plane : WorkerPlane) (call : OutcomeCall) (grant : GrantRecord) (request : NativeRequest)
  (lease : LeaseRecord)

/-- The failure of a lease that nobody has asked to cancel. -/
structure Failing (log : EventLog) (s : RunSnapshot) (attempt : AttemptSnapshot) : Prop where
  report : At F contentDigest context plane call grant request
    [Ending.failed.attemptType, Ending.failed.runType] log lease s attempt
  failable : Failable plane log lease s
  requested : (s.cancellationRequested || attempt.cancellationRequested) = false
  revoked : grant.revoked = false
  allowed : attempt.status ∈ Ending.failed.allowed

/-- The stages of the steps that come before the facts of the run. -/
inductive Head : Ending → Nat → EventLog → Prop
  | settled {ending : Ending} {n : Nat} {log : EventLog}
      (h : Tail F contentDigest context plane call grant request ending 0 log) : Head ending n log
  | asking {log : EventLog} {s : RunSnapshot} {attempt : AttemptSnapshot}
      (h : At F contentDigest context plane call grant request
        [.runCancelRequested, Ending.cancelled.attemptType, Ending.cancelled.runType] log lease s
        attempt)
      (hrevoked : grant.revoked = true)
      (hrequested : (s.cancellationRequested || attempt.cancellationRequested) = false)
      (hallowed : attempt.status ∈ Ending.cancelled.allowed)
      (hlease : Failable plane log lease s ∨ Observed log lease) : Head .cancelled 0 log
  | asked {n : Nat} {log : EventLog} {s : RunSnapshot} {attempt : AttemptSnapshot}
      (h : At F contentDigest context plane call grant request
        [Ending.cancelled.attemptType, Ending.cancelled.runType] log lease s attempt)
      (hflag : s.cancellationRequested = true)
      (hallowed : attempt.status ∈ Ending.cancelled.allowed) (hfailable : Failable plane log lease s)
      (hn : n ≤ 1) : Head .cancelled n log

end

section

variable {F : FloatText} {contentDigest : Json → Option String} {context : NativeContext}
  {plane : WorkerPlane} {call : OutcomeCall} {grant : GrantRecord} {request : NativeRequest}
  {log : EventLog} {lease : LeaseRecord} {s : RunSnapshot} {attempt : AttemptSnapshot}
  {ending : Ending} {visit : Visit} {step : OutcomeStep}

theorem Tail.done {n : Nat}
    (h : Tail F contentDigest context plane call grant request ending n log)
    (hstep : step ∈ headSteps ending) :
    performStep F context plane call request visit step log = .ok none := by
  cases h with
  | opened h hsettled => exact headSteps_done h.report hsettled hstep
  | ended h hsettled => exact headSteps_done h.report hsettled hstep
  | closed h hsettled => exact headSteps_done h.report hsettled hstep

theorem taskFailed_valid : ∃ reasonCode : EventIdentifier, reasonCode.val = taskFailed :=
  ⟨⟨taskFailed, by decide⟩, rfl⟩

theorem cancelObserved_valid :
    ∃ reasonCode : EventIdentifier, reasonCode.val = Recovery.cancelObserved :=
  ⟨⟨Recovery.cancelObserved, by decide⟩, rfl⟩

/-- A grant that is live for the results of the lease. -/
def Live (call : OutcomeCall) (grant : GrantRecord) (lease : LeaseRecord) (visit : Visit) : Prop :=
  ∃ claims, call.claims = .ok claims ∧
    requireLiveResultGrant grant claims lease visit.now = .ok ()

/-- While its grant is live, a lease fails. -/
theorem Failing.write
    (h : Failing F contentDigest context plane call grant request lease log s attempt)
    (hlive : Live call grant lease visit) (hvalid : FailureValid plane call lease visit) :
    ∃ later, performStep F context plane call request visit .failLease log = .ok (some later) ∧
      Tail F contentDigest context plane call grant request .failed 0 later := by
  obtain ⟨claims, hclaims, hlive⟩ := hlive
  obtain ⟨reasonCode, hreason⟩ := taskFailed_valid
  have hfailure := hvalid taskFailed (by simp)
  rw [← hreason] at hfailure
  obtain ⟨stored, happend, -, hat⟩ := h.report.fail h.failable hfailure
  have hauthorized := h.report.report.workers.authorized
  have hrequested := h.report.report.requested
  have hleased := h.failable.leased
  rw [h.requested] at hrequested
  rw [hreason] at happend
  refine ⟨log ++ [stored], ?_, .opened hat ⟨rfl, ?_⟩ h.allowed⟩
  · simp only [performStep, performLease, hauthorized, hrequested, bind, Except.bind]
    rw [if_neg (by simp [hleased])]
    refine requireNative_bind_ok.mpr ⟨by simp [h.revoked], ?_⟩
    simp only [failLease, hclaims, hlive, fromWorker, fromPlane, bind, Except.bind]
    exact happend
  · simp [LeaseRecord.failed, hreason]

/-- While it is not, nothing is written. -/
theorem Failing.refused
    (h : Failing F contentDigest context plane call grant request lease log s attempt)
    (hlive : ¬ Live call grant lease visit) :
    ∃ error, performStep F context plane call request visit .failLease log = .error error := by
  have hauthorized := h.report.report.workers.authorized
  have hrequested := h.report.report.requested
  have hleased := h.failable.leased
  rw [h.requested] at hrequested
  have hnone : ∀ result, failLease F plane call lease grant visit log ≠ .ok result := by
    intro result hresult
    obtain ⟨claims, hclaims, hresult⟩ := Fold.bind_eq_ok.mp hresult
    obtain ⟨_, hrequire, -⟩ := Fold.bind_eq_ok.mp hresult
    simp only [fromPlane_eq_ok, fromWorker_eq_ok] at hclaims hrequire
    exact hlive ⟨claims, hclaims, hrequire⟩
  cases hresult : performStep F context plane call request visit .failLease log with
  | error error => exact ⟨error, rfl⟩
  | ok result =>
    simp only [performStep, performLease, hauthorized, hrequested, hleased, bind, Except.bind,
      reduceCtorEq, if_false] at hresult
    exact absurd (requireNative_bind_ok.mp hresult).2 (hnone result)

/-- An observed cancellation fails the lease. -/
theorem asked_write
    (h : At F contentDigest context plane call grant request
      [Ending.cancelled.attemptType, Ending.cancelled.runType] log lease s attempt)
    (hflag : s.cancellationRequested = true) (hallowed : attempt.status ∈ Ending.cancelled.allowed)
    (hfailable : Failable plane log lease s) (hvalid : FailureValid plane call lease visit) :
    ∃ later, performStep F context plane call request visit .observeCancellation log =
        .ok (some later) ∧
      Tail F contentDigest context plane call grant request .cancelled 0 later := by
  obtain ⟨reasonCode, hreason⟩ := cancelObserved_valid
  have hfailure := hvalid Recovery.cancelObserved (by simp)
  rw [← hreason] at hfailure
  obtain ⟨stored, happend, hstored, hat⟩ := h.fail hfailable hfailure
  have hauthorized := h.report.workers.authorized
  have hrequested := h.report.requested
  have hleased := hfailable.leased
  rw [hflag, Bool.true_or] at hrequested
  rw [hreason] at happend
  refine ⟨log ++ [stored], ?_, .opened hat ⟨hflag, rfl, ?_, hstored⟩ hallowed⟩
  · simp only [performStep, performLease, hauthorized, hrequested, bind, Except.bind]
    unfold failObservedCancellation
    refine requireNative_bind_ok.mpr ⟨h.report.native, ?_⟩
    refine requireNative_bind_ok.mpr ⟨rfl, ?_⟩
    rw [if_neg (by simp [hleased])]
    exact requireNative_bind_ok.mpr ⟨hleased, happend⟩
  · simp [LeaseRecord.failed, hreason]

/-- The cancellation that a revoked grant stands for is requested of the run. -/
theorem asking_write
    (h : At F contentDigest context plane call grant request
      [.runCancelRequested, Ending.cancelled.attemptType, Ending.cancelled.runType] log lease s
      attempt)
    (hrevoked : grant.revoked = true)
    (hrequested : (s.cancellationRequested || attempt.cancellationRequested) = false)
    (hallowed : attempt.status ∈ Ending.cancelled.allowed)
    (hlease : Failable plane log lease s ∨ Observed log lease)
    (hvalid : FactsValid request .cancelled visit) :
    ∃ later, performStep F context plane call request visit .requestCancellation log =
        .ok (some later) ∧
      Head F contentDigest context plane call grant request lease .cancelled 1 later := by
  have hauthorized := h.report.workers.authorized
  have hread := h.report.requested
  rw [hrequested] at hread
  obtain ⟨stored, happend, hid, hat⟩ := h.askRun (by decide) (h.report.open hallowed) hvalid
  refine ⟨log ++ [stored], ?_, ?_⟩
  · simp only [performStep, performLease, hauthorized, hread, hrevoked, bind, Except.bind]
    exact happend
  · rcases hlease with hfailable | hobserved
    · refine .asked hat rfl hallowed ⟨hfailable.leased, ?_, hfailable.revision⟩ (Nat.le_refl 1)
      intro earlier hearlier
      rcases List.mem_append.mp hearlier with hearlier | hearlier
      · exact hfailable.free earlier hearlier
      · rw [List.mem_singleton.mp hearlier, hid]
        exact (failedEventId_ne request lease.leaseId.val _).symm
    · exact .settled (.opened hat ⟨rfl, hobserved.append (List.prefix_append _ _)⟩ hallowed)

/-- The steps before the facts of the run. -/
theorem head_inTurn (hfacts : FactsValid request ending visit)
    (hfailure : FailureValid plane call lease visit) :
    InTurn (performStep F context plane call request visit) (headSteps ending)
      (Head F contentDigest context plane call grant request lease ending) where
  done := by
    intro n log k step hstage hk hstep
    cases hstage with
    | settled h => exact h.done (List.mem_of_getElem? hstep)
    | asking => omega
    | asked h hflag hallowed hfailable hn =>
      obtain rfl : k = 0 := by omega
      cases hstep
      have hauthorized := h.report.workers.authorized
      have hrequested := h.report.requested
      simp only [performStep, performLease, hauthorized, hrequested, bind, Except.bind, hflag,
        Bool.true_or, Bool.true_eq_false, and_false, if_false]
  next := by
    intro n log step hstage hstep
    cases hstage with
    | settled h => exact .inl ⟨h.done (List.mem_of_getElem? hstep), .settled h⟩
    | asking h hrevoked hrequested hallowed hlease =>
      cases hstep
      obtain ⟨later, hwrite, hhead⟩ :=
        asking_write h hrevoked hrequested hallowed hlease hfacts
      exact .inr ⟨later, hwrite, hhead⟩
    | asked h hflag hallowed hfailable hn =>
      rcases (by omega : n = 0 ∨ n = 1) with rfl | rfl
      · cases hstep
        have hauthorized := h.report.workers.authorized
        have hrequested := h.report.requested
        refine .inl ⟨?_, .asked h hflag hallowed hfailable (Nat.le_refl 1)⟩
        simp only [performStep, performLease, hauthorized, hrequested, bind, Except.bind, hflag,
          Bool.true_or, Bool.true_eq_false, and_false, if_false]
      · cases hstep
        obtain ⟨later, hwrite, htail⟩ := asked_write h hflag hallowed hfailable hfailure
        exact .inr ⟨later, hwrite, .settled htail⟩

/-- All steps of a document of the ending. -/
def Stage (F : FloatText) (contentDigest : Json → Option String) (context : NativeContext)
    (plane : WorkerPlane) (call : OutcomeCall) (grant : GrantRecord) (request : NativeRequest)
    (lease : LeaseRecord) (ending : Ending) : Nat → EventLog → Prop :=
  InTurn.Both (headSteps ending)
    (Head F contentDigest context plane call grant request lease ending)
    (Tail F contentDigest context plane call grant request ending)

theorem stage_inTurn (hfacts : FactsValid request ending visit)
    (hfailure : FailureValid plane call lease visit) :
    InTurn (performStep F context plane call request visit) (headSteps ending ++ endingSteps ending)
      (Stage F contentDigest context plane call grant request lease ending) := by
  refine InTurn.append (head_inTurn hfacts hfailure) (tail_inTurn hfacts) ?_ ?_
  · intro k log htail step hstep
    exact htail.done hstep
  · intro log hhead
    cases hhead with
    | settled h => exact h
    | asked h hflag hallowed hfailable hn => exact absurd hn (by decide)

end

end ResearchOs.Native
