import ResearchOs.Data.Retry
import ResearchOs.Core.Recovery.Standing

/-! The stages that the reconciliation of a settled lease goes through. -/
namespace ResearchOs.Recovery

open Runs (LifecycleType RunSnapshot AttemptSnapshot AttemptStatus RunStatus findAttempt)
open Storage (EventLog)
open Workers (WorkerFold LeaseRecord LeaseStatus)

/-- The call that a settled lease asks for. -/
def settledCall (lease : LeaseRecord) (requested : Bool) : Option RuntimeCall :=
  match lease.status with
  | .completed => some .succeed
  | .failed =>
    if leaseReason lease = some cancelObserved ∧ requested = true then some .cancelled
    else some (.failed ((leaseReason lease).getD "worker.brick.failed"))
  | .leased | .expired => none

/-- A call that the reconciler makes again for the run of a settled attempt. -/
def RuntimeCall.repeats : RuntimeCall → Bool
  | .failed _ => false
  | .succeed | .cancelled => true

/-- Statuses under which the reconciler makes its call. -/
def RuntimeCall.Applies (call : RuntimeCall) (attempt : AttemptStatus) (run : RunStatus) : Prop :=
  attempt ∈ call.ending.allowed ∨
    call.repeats = true ∧ attempt = call.ending.attemptStatus ∧ run = .running

instance (call : RuntimeCall) (attempt : AttemptStatus) (run : RunStatus) :
    Decidable (call.Applies attempt run) :=
  inferInstanceAs (Decidable (_ ∨ _))

theorem settledCall_reasoned {lease : LeaseRecord} {requested : Bool} {call : RuntimeCall}
    (h : settledCall lease requested = some call) : call.Reasoned := by
  unfold settledCall at h
  split at h
  · cases h
    intro reason hreason
    cases hreason
  · split_ifs at h
    · cases h
      intro reason hreason
      cases hreason
    · cases h
      intro reason hreason
      cases hreason
      rw [leaseReason]
      cases lease.reasonCode with
      | none => decide
      | some reason => exact reason.property
  · cases h
  · cases h

theorem leaseCall_settled {lease : LeaseRecord} {requested : Bool} {call : RuntimeCall}
    (h : settledCall lease requested = some call) (attempt : AttemptStatus) (run : RunStatus) :
    leaseCall (some lease) attempt run requested =
      .ok (if call.Applies attempt run then some call else none) := by
  unfold settledCall at h
  cases hstatus : lease.status with
  | completed =>
    rw [hstatus] at h
    cases h
    simp only [leaseCall, hstatus]
    cases attempt <;> cases run <;> rfl
  | failed =>
    rw [hstatus] at h
    simp only [leaseCall, hstatus]
    dsimp only at h
    split_ifs at h with hcancelled
    · cases h
      rw [if_pos hcancelled]
      cases attempt <;> cases run <;> rfl
    · cases h
      rw [if_neg hcancelled]
      cases attempt <;> cases run <;> rfl
  | leased =>
    rw [hstatus] at h
    cases h
  | expired =>
    rw [hstatus] at h
    cases h

/-! One call of the reconciler. -/

section

variable {runtime : WorkerRuntime} {fold : WorkerFold} {revision : Nat} {call : RuntimeCall}
  {lease : LeaseRecord} {pending : List LifecycleType} {log : EventLog} {s : RunSnapshot}
  {attempt : AttemptSnapshot} {reasonCode : Option String}

/-- The lease of the attempt asks for the call at this snapshot. -/
structure Asks (runtime : WorkerRuntime) (fold : WorkerFold) (lease : LeaseRecord) (s : RunSnapshot)
    (call : RuntimeCall) : Prop where
  found : leaseForAttempt fold runtime.attemptId = some lease
  settled : settledCall lease (cancelRequested s runtime.attemptId) = some call

theorem Standing.reconcileCall (h : Standing runtime revision reasonCode pending log s attempt)
    (hasks : Asks runtime fold lease s call) :
    reconcileCall runtime.projection runtime.attemptId fold log =
      .ok (s, if call.Applies attempt.status s.status then some call else none) := by
  have hcall := leaseCall_settled hasks.settled attempt.status s.status
  simp only [Recovery.reconcileCall, runCancelRequested, h.rebuilt, bind, Except.bind, recordedRun,
    h.found, recordedAttempt, hasks.found, hcall]

theorem Standing.reconcile (h : Standing runtime revision reasonCode pending log s attempt)
    (hasks : Asks runtime fold lease s call) (budget : Nat) :
    reconcileWorkerRun runtime fold revision budget log =
      if call.Applies attempt.status s.status then
        runtime.appendAll revision call.reasonCode (call.path attempt.status s.status) budget log s
      else (log, .ok s) := by
  simp only [reconcileWorkerRun, h.reconcileCall hasks]
  split_ifs with happlies
  · simp only [call_eq_settle, WorkerRuntime.settle, h.head, h.found, WorkerRuntime.appendPath]
  · rfl

theorem appendAll_cons {type : LifecycleType} {rest : List LifecycleType} {stored : ResearchEvent}
    {s' : RunSnapshot} (h : runtime.append log type revision reasonCode = .ok ⟨stored, s'⟩)
    (budget : Nat) :
    runtime.appendAll revision reasonCode (type :: rest) (budget + 1) log s =
      runtime.appendAll revision reasonCode rest budget (log ++ [stored]) s' := by
  simp only [WorkerRuntime.appendAll, h]

theorem path_open (call : RuntimeCall) {status : AttemptStatus} (h : status ∈ call.ending.allowed)
    (run : RunStatus) :
    call.path status run = call.ending.attemptType ::
      if run ∈ call.closable then [call.ending.runType] else [] := by
  simp [RuntimeCall.path, remainingPath, h]

theorem path_settled {call : RuntimeCall} (h : call.repeats = true) :
    call.path call.ending.attemptStatus .running = [call.ending.runType] := by
  cases call with
  | failed reason => cases h
  | succeed => rfl
  | cancelled => rfl

theorem cancelRequested_eq {s s' : RunSnapshot} {attempt attempt' : AttemptSnapshot}
    {attemptId : EventIdentifier} (hfound : findAttempt s attemptId = some attempt)
    (hfound' : findAttempt s' attemptId = some attempt')
    (hrun : s'.cancellationRequested = s.cancellationRequested)
    (hattempt : attempt'.cancellationRequested = attempt.cancellationRequested) :
    cancelRequested s' attemptId = cancelRequested s attemptId := by
  simp [cancelRequested, hfound, hfound', hrun, hattempt]

/-- A cancellation is allowed for a run that was asked to be cancelled itself. -/
def Permits (call : RuntimeCall) (s : RunSnapshot) : Prop :=
  call = .cancelled → s.cancellationRequested = true

/-- A call with an open attempt appends the event of the attempt first. -/
theorem Standing.reconcile_open
    (h : Standing runtime revision call.reasonCode
      (call.ending.attemptType :: pending) log s attempt)
    (hasks : Asks runtime fold lease s call) (hallowed : attempt.status ∈ call.ending.allowed)
    (hrequested : call = .cancelled → cancelRequested s runtime.attemptId = true) (budget : Nat) :
    ∃ stored s' attempt', stored.type.val = call.ending.attemptType.text ∧
      Standing runtime revision call.reasonCode pending (log ++ [stored]) s' attempt' ∧
      Settled call s s' attempt attempt' ∧ Asks runtime fold lease s' call ∧
      reconcileWorkerRun runtime fold revision (budget + 1) log =
        runtime.appendAll revision call.reasonCode
          (if s.status ∈ call.closable then [call.ending.runType] else []) budget
          (log ++ [stored]) s' := by
  have hflags : call = .cancelled →
      s.cancellationRequested = true ∨ attempt.cancellationRequested = true := by
    intro hcancelled
    have hrequested := hrequested hcancelled
    simpa [cancelRequested, h.found] using hrequested
  obtain ⟨stored, s', attempt', happend, htype, hstanding, hsettled⟩ :=
    h.settles (settledCall_reasoned hasks.settled) hallowed hflags
  have hsame := cancelRequested_eq h.found hstanding.found hsettled.runRequested
    hsettled.attemptRequested
  refine ⟨stored, s', attempt', htype, hstanding, hsettled, ⟨hasks.found, ?_⟩, ?_⟩
  · rw [hsame]
    exact hasks.settled
  · rw [h.reconcile hasks, if_pos (.inl hallowed), path_open _ hallowed, appendAll_cons happend]

/-- A call with a settled attempt appends the event of the run. -/
theorem Standing.appendAll_run
    (h : Standing runtime revision call.reasonCode (call.ending.runType :: pending) log s attempt)
    (hasks : Asks runtime fold lease s call) (hstatus : attempt.status = call.ending.attemptStatus)
    (hrun : s.status = call.ending.attemptStatus.runStatus) (hpermits : Permits call s)
    (budget : Nat) :
    ∃ stored s', stored.type.val = call.ending.runType.text ∧
      Standing runtime revision call.reasonCode pending (log ++ [stored]) s' attempt ∧
      Asks runtime fold lease s' call ∧ s'.status = call.ending.runStatus ∧
      runtime.appendAll revision call.reasonCode [call.ending.runType] (budget + 1) log s =
        (log ++ [stored], .ok s') := by
  have hopen : s.status ∉ Runs.terminalRunStatuses := by
    rw [hrun]
    cases call.ending <;> decide
  obtain ⟨stored, s', happend, htype, hstanding, hclosed, hflag⟩ :=
    h.closes (settledCall_reasoned hasks.settled) hopen (h.latestSettled hstatus hrun) hpermits
  have hsame := cancelRequested_eq h.found hstanding.found hflag rfl
  refine ⟨stored, s', htype, hstanding, ⟨hasks.found, ?_⟩, hclosed, ?_⟩
  · rw [hsame]
    exact hasks.settled
  · rw [appendAll_cons happend]
    rfl

/-- Nothing is left to do for a closed run. -/
theorem Standing.reconcile_closed (h : Standing runtime revision reasonCode pending log s attempt)
    (hasks : Asks runtime fold lease s call) (hclosed : s.status ∈ Runs.terminalRunStatuses)
    (budget : Nat) : reconcileWorkerRun runtime fold revision budget log = (log, .ok s) := by
  rw [h.reconcile hasks, if_neg]
  rintro (hallowed | ⟨-, -, hrunning⟩)
  · have hunresolved := Runs.Ending.allowed_unresolved hallowed
    rw [h.invariant.open_of_unresolved h.mem hunresolved] at hclosed
    exact Runs.runStatus_open hunresolved hclosed
  · rw [hrunning] at hclosed
    exact absurd hclosed (by decide)

end

/-! Stages of a call that the reconciler repeats until its run is closed. -/

section

variable (runtime : WorkerRuntime) (fold : WorkerFold) (revision : Nat) (call : RuntimeCall)
  (lease : LeaseRecord)

/-- The log of a run with two, one or no event of the call to come. -/
inductive Stage : Nat → EventLog → Prop
  | opened {log : EventLog} {s : RunSnapshot} {attempt : AttemptSnapshot}
      (hrepeats : call.repeats = true)
      (h : Standing runtime revision call.reasonCode
        [call.ending.attemptType, call.ending.runType] log s attempt)
      (hasks : Asks runtime fold lease s call) (hallowed : attempt.status ∈ call.ending.allowed)
      (hpermits : Permits call s) : Stage 2 log
  | settled {log : EventLog} {s : RunSnapshot} {attempt : AttemptSnapshot}
      (hrepeats : call.repeats = true)
      (h : Standing runtime revision call.reasonCode [call.ending.runType] log s attempt)
      (hasks : Asks runtime fold lease s call) (hstatus : attempt.status = call.ending.attemptStatus)
      (hrun : s.status = .running) (hpermits : Permits call s) : Stage 1 log
  | closed {pending : List LifecycleType} {log : EventLog} {s : RunSnapshot}
      {attempt : AttemptSnapshot}
      (h : Standing runtime revision call.reasonCode pending log s attempt)
      (hasks : Asks runtime fold lease s call) (hclosed : s.status = call.ending.runStatus) :
      Stage 0 log

/-- The reconciliation, as an operation on the log. -/
def reconciling (budget : Nat) (log : EventLog) : EventLog × Except RecoveryError RunSnapshot :=
  reconcileWorkerRun runtime fold revision budget log

end

section

variable {runtime : WorkerRuntime} {fold : WorkerFold} {revision : Nat} {call : RuntimeCall}
  {lease : LeaseRecord} {log : EventLog}

theorem runStatus_of_repeats (h : call.repeats = true) :
    call.ending.attemptStatus.runStatus = .running := by
  cases call with
  | failed reason => cases h
  | succeed => rfl
  | cancelled => rfl

theorem Permits.settled {s s' : RunSnapshot} {attempt attempt' : AttemptSnapshot}
    (h : Permits call s) (hsettled : Settled call s s' attempt attempt') : Permits call s' := by
  intro hcancelled
  rw [hsettled.runRequested]
  exact h hcancelled

theorem cancelRequested_of_permits {s : RunSnapshot} (h : Permits call s) :
    call = .cancelled → cancelRequested s runtime.attemptId = true := by
  intro hcancelled
  simp [cancelRequested, h hcancelled]

/-- What one call makes of a stage: it stays or comes closer, it raises nothing else than that it
was cut short, and with a budget for both events it comes closer. -/
structure Advances (runtime : WorkerRuntime) (fold : WorkerFold) (revision : Nat)
    (call : RuntimeCall) (lease : LeaseRecord) (n budget : Nat) (log : EventLog) : Prop where
  stage : ∃ m ≤ n, (n ≠ 0 → budget = 2 → m < n) ∧
    Stage runtime fold revision call lease m (reconciling runtime fold revision budget log).1
  quiet : ∀ error, (reconciling runtime fold revision budget log).2 = .error error →
    error = .interrupted

theorem reconcile_cut {s : RunSnapshot} {attempt : AttemptSnapshot} {pending : List LifecycleType}
    (h : Standing runtime revision call.reasonCode pending log s attempt)
    (hasks : Asks runtime fold lease s call) {type : LifecycleType} {rest : List LifecycleType}
    (happlies : call.Applies attempt.status s.status)
    (hpath : call.path attempt.status s.status = type :: rest) :
    reconciling runtime fold revision 0 log = (log, .error .interrupted) := by
  rw [reconciling, h.reconcile hasks, if_pos happlies, hpath]
  rfl

theorem Advances.ok {n m budget : Nat} {log' : EventLog} {s : RunSnapshot}
    (hresult : reconciling runtime fold revision budget log = (log', .ok s)) (hle : m ≤ n)
    (hlt : n ≠ 0 → budget = 2 → m < n) (hstage : Stage runtime fold revision call lease m log') :
    Advances runtime fold revision call lease n budget log := by
  refine ⟨⟨m, hle, hlt, ?_⟩, ?_⟩
  · rw [hresult]
    exact hstage
  · intro error herror
    rw [hresult] at herror
    cases herror

theorem Advances.cut {n m budget : Nat} {log' : EventLog}
    (hresult : reconciling runtime fold revision budget log = (log', .error .interrupted))
    (hle : m ≤ n) (hlt : budget ≠ 2) (hstage : Stage runtime fold revision call lease m log') :
    Advances runtime fold revision call lease n budget log := by
  refine ⟨⟨m, hle, fun _ htwo => absurd htwo hlt, ?_⟩, ?_⟩
  · rw [hresult]
    exact hstage
  · intro error herror
    rw [hresult] at herror
    cases herror
    rfl

theorem Stage.advances {n : Nat} (h : Stage runtime fold revision call lease n log) (budget : Nat) :
    Advances runtime fold revision call lease n budget log := by
  cases h with
  | closed h hasks hclosed =>
    have hterminal : _ ∈ Runs.terminalRunStatuses := hclosed ▸ call.ending.runStatus_terminal
    have hresult := h.reconcile_closed hasks hterminal budget
    exact .ok hresult (Nat.le_refl 0) (fun hne => absurd rfl hne) (.closed h hasks hclosed)
  | settled hrepeats h hasks hstatus hrun hpermits =>
    have happlies : call.Applies _ _ := .inr ⟨hrepeats, hstatus, hrun⟩
    have hpath := path_settled hrepeats
    rw [← hstatus, ← hrun] at hpath
    cases budget with
    | zero =>
      have hresult := reconcile_cut h hasks happlies hpath
      exact .cut hresult (Nat.le_refl 1) (by decide)
        (.settled hrepeats h hasks hstatus hrun hpermits)
    | succ budget =>
      have hstands := hrun.trans (runStatus_of_repeats hrepeats).symm
      obtain ⟨stored, s', -, hstanding, hasks', hclosed, hresult⟩ :=
        h.appendAll_run hasks hstatus hstands hpermits budget
      have hdone : reconciling runtime fold revision (budget + 1) log =
          (log ++ [stored], .ok s') := by
        rw [reconciling, h.reconcile hasks, if_pos happlies, hpath, hresult]
      exact .ok hdone (Nat.zero_le 1) (fun _ _ => Nat.zero_lt_one)
        (.closed hstanding hasks' hclosed)
  | opened hrepeats h hasks hallowed hpermits =>
    cases budget with
    | zero =>
      have hresult := reconcile_cut h hasks (.inl hallowed) (path_open _ hallowed _)
      exact .cut hresult (Nat.le_refl 2) (by decide)
        (.opened hrepeats h hasks hallowed hpermits)
    | succ budget =>
      obtain ⟨stored, s', attempt', -, hstanding, hsettled, hasks', hresult⟩ :=
        h.reconcile_open hasks hallowed (cancelRequested_of_permits hpermits) budget
      have hrunning := hsettled.runStatus.trans (runStatus_of_repeats hrepeats)
      have hpermits' := hpermits.settled hsettled
      have hnext : Stage runtime fold revision call lease 1 (log ++ [stored]) :=
        .settled hrepeats hstanding hasks' hsettled.status hrunning hpermits'
      split_ifs at hresult with hclosable
      · cases budget with
        | zero => exact .cut hresult (by omega) (by decide) hnext
        | succ budget =>
          obtain ⟨last, s'', -, hstanding', hasks'', hclosed, hrest⟩ :=
            hstanding.appendAll_run hasks' hsettled.status hsettled.runStatus hpermits' budget
          exact .ok (hresult.trans hrest) (Nat.zero_le 2) (fun _ _ => by omega)
            (.closed hstanding' hasks'' hclosed)
      · exact .ok hresult (by omega) (fun _ _ => by omega) hnext

theorem stages (runtime : WorkerRuntime) (fold : WorkerFold) (revision : Nat) (call : RuntimeCall)
    (lease : LeaseRecord) :
    Retry.Stages (reconciling runtime fold revision) 2 .interrupted
      (fun s => s.status = call.ending.runStatus) (Stage runtime fold revision call lease) where
  keeps := by
    intro n log budget h
    obtain ⟨m, hm, -, hnext⟩ := (h.advances budget).stage
    exact ⟨m, hm, hnext⟩
  quiet := fun n log budget h => (h.advances budget).quiet
  advances := by
    intro n log h
    obtain ⟨m, -, hm, hnext⟩ := (h.advances 2).stage
    exact ⟨m, Nat.le_of_lt_succ (hm (Nat.succ_ne_zero n) rfl), hnext⟩
  answers := by
    intro log h
    cases h with
    | closed h hasks hclosed =>
      have hterminal : _ ∈ Runs.terminalRunStatuses := hclosed ▸ call.ending.runStatus_terminal
      exact ⟨_, h.reconcile_closed hasks hterminal 2, hclosed⟩

end

end ResearchOs.Recovery
