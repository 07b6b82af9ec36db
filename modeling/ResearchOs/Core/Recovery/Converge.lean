import ResearchOs.Core.Recovery.Stages

/-! Whether repeated reconciliation closes the run of a settled lease. -/
namespace ResearchOs.Recovery

open Runs (LifecycleType RunSnapshot AttemptSnapshot AttemptStatus RunStatus findAttempt)
open Storage (EventLog)
open Workers (WorkerFold LeaseRecord)

variable {runtime : WorkerRuntime} {fold : WorkerFold} {revision : Nat} {call : RuntimeCall}
  {lease : LeaseRecord} {log : EventLog} {s : RunSnapshot} {attempt : AttemptSnapshot}
  {pending : List LifecycleType}

/-! No event of the runtime is appended twice. -/

/-- The log grew by events of the runtime with ids of their own. -/
structure Grown (runtime : WorkerRuntime) (log log' : EventLog) : Prop where
  added : ∃ added, log' = log ++ added ∧
    (∀ event ∈ added, ∃ type identity, runtime.events type = some identity ∧
      event.type.val = type.text ∧ event.id.val = identity.1) ∧
    (added.map fun event => event.id.val).Nodup

theorem Grown.append {log' : EventLog} {type : LifecycleType} {reasonCode : Option String}
    {result : Runs.RunControlResult} (h : Grown runtime log log')
    (happend : runtime.append log' type revision reasonCode = .ok result) :
    Grown runtime log (log' ++ [result.stored]) := by
  obtain ⟨added, hlog, hfrom, hids⟩ := h.added
  obtain ⟨identity, payload, hidentity, hsaid, halone⟩ := append_says happend
  have hfresh := (Runs.appendAlone_ok halone).1.fresh
  refine ⟨added ++ [result.stored], by rw [hlog, List.append_assoc], ?_, ?_⟩
  · intro event hevent
    rcases List.mem_append.mp hevent with hevent | hevent
    · exact hfrom event hevent
    · rw [List.mem_singleton.mp hevent]
      exact ⟨type, identity, hidentity, hsaid.type, hsaid.id⟩
  · rw [List.map_append, List.nodup_append]
    refine ⟨hids, List.nodup_singleton _, ?_⟩
    intro id hid other hother heq
    obtain ⟨event, hevent, rfl⟩ := List.mem_map.mp hid
    obtain rfl := List.mem_singleton.mp hother
    have hmem : event ∈ log' := by
      rw [hlog]
      exact List.mem_append_right log hevent
    exact hfresh event hmem (Subtype.ext heq)

theorem Grown.appendAll {log' : EventLog} {reasonCode : Option String} (h : Grown runtime log log')
    (types : List LifecycleType) (budget : Nat) (snapshot : RunSnapshot) :
    Grown runtime log
      (runtime.appendAll revision reasonCode types budget log' snapshot).1 := by
  induction types generalizing budget log' snapshot with
  | nil => exact h
  | cons type rest ih =>
    cases budget with
    | zero => exact h
    | succ budget =>
      unfold WorkerRuntime.appendAll
      split
      · exact h
      · rename_i result hresult
        exact ih (h.append hresult) budget result.snapshot

theorem Grown.reconcile {log' : EventLog} (h : Grown runtime log log') (budget : Nat) :
    Grown runtime log (reconciling runtime fold revision budget log').1 := by
  unfold reconciling reconcileWorkerRun
  split
  · exact h
  · exact h
  · rename_i call _
    rw [call_eq_settle]
    unfold WorkerRuntime.settle
    split
    · exact h
    · split
      · exact h
      · unfold WorkerRuntime.appendPath
        split
        · exact h
        · exact h.appendAll _ _ _

theorem text_injective {type type' : LifecycleType} (h : type.text = type'.text) : type = type' := by
  have hsome := LifecycleType.ofText_text type
  rw [h, LifecycleType.ofText_text type'] at hsome
  exact (Option.some.inj hsome).symm

/-- The types of the events that a runtime has appended are distinct. -/
theorem Grown.types {log' : EventLog} (h : Grown runtime log log') :
    ∃ added, log' = log ++ added ∧ (added.map fun event => event.type.val).Nodup := by
  obtain ⟨added, hlog, hfrom, hids⟩ := h.added
  refine ⟨added, hlog, ?_⟩
  rw [List.Nodup, List.pairwise_map] at hids ⊢
  refine hids.imp_of_mem ?_
  intro event other hevent hother hne heq
  obtain ⟨type, identity, hidentity, htype, hid⟩ := hfrom event hevent
  obtain ⟨type', identity', hidentity', htype', hid'⟩ := hfrom other hother
  have hsame : type = type' := text_injective (htype.symm.trans (heq.trans htype'))
  subst hsame
  rw [hidentity] at hidentity'
  cases hidentity'
  exact hne (hid.trans hid'.symm)

theorem grown_after (runtime : WorkerRuntime) (fold : WorkerFold) (revision : Nat) (log : EventLog)
    (budgets : List Nat) :
    Grown runtime log (Retry.after (reconciling runtime fold revision) log budgets) := by
  apply Retry.after_invariant (P := Grown runtime log)
  · intro budget log' h
    exact h.reconcile budget
  · exact ⟨[], by simp, by simp, by simp⟩

/-! Logs that no call moves on. -/

/-- A call that does not apply leaves the log to itself. -/
theorem not_converges_idle {reasonCode : Option String}
    (h : Standing runtime revision reasonCode pending log s attempt)
    (hasks : Asks runtime fold lease s call) (hidle : ¬ call.Applies attempt.status s.status)
    (hopen : s.status ≠ call.ending.runStatus) {start : EventLog} {budgets before : List Nat}
    {n : Nat} (hlonger : before <+: budgets ++ List.replicate n 2)
    (hreached : Retry.after (reconciling runtime fold revision) start before = log) :
    ¬ Retry.Converges (reconciling runtime fold revision) 2 .interrupted
      (fun s => s.status = call.ending.runStatus) start budgets := by
  have hresult : ∀ budget, reconciling runtime fold revision budget log = (log, .ok s) := by
    intro budget
    rw [reconciling, h.reconcile hasks, if_neg hidle]
  refine Retry.not_converges (P := fun log' => log' = log) ?_ ?_ hlonger hreached
  · rintro budget log' rfl
    rw [hresult]
  · rintro log' rfl answer hanswer
    rw [hresult] at hanswer
    cases hanswer
    exact hopen

/-- `run.cancelled` is not appended to a run that was not asked to be cancelled. -/
theorem append_runCancelled (h : Standing runtime revision none pending log s attempt)
    (hflag : s.cancellationRequested = false) (result : Runs.RunControlResult) :
    runtime.append log .runCancelled revision none ≠ .ok result := by
  intro happend
  obtain ⟨identity, payload, -, hsaid, halone⟩ := append_says happend
  obtain ⟨-, hbelongs, hfold⟩ := Runs.appendAlone_ok halone
  obtain ⟨state, hstate, happly⟩ := Fold.foldlM_concat_eq_ok.mp hfold
  have hsame : state = some s := Except.ok.inj (hstate.symm.trans h.folds)
  subst hsame
  exact Runs.cancelled_refused hflag hbelongs hsaid.lifecycle happly

theorem appendAll_runCancelled (h : Standing runtime revision none pending log s attempt)
    (hflag : s.cancellationRequested = false) (budget : Nat) :
    ∃ error, runtime.appendAll revision none [.runCancelled] budget log s = (log, .error error) := by
  cases budget with
  | zero => exact ⟨.interrupted, rfl⟩
  | succ budget =>
    cases happend : runtime.append log .runCancelled revision none with
    | error error =>
      refine ⟨error, ?_⟩
      simp only [WorkerRuntime.appendAll, happend]
    | ok result => exact absurd happend (append_runCancelled h hflag result)

/-- A cancelled attempt of a running run that was not asked to be cancelled: every further call
raises. -/
theorem not_converges_refused (h : Standing runtime revision none pending log s attempt)
    (hasks : Asks runtime fold lease s .cancelled) (hstatus : attempt.status = .cancelled)
    (hrun : s.status = .running) (hflag : s.cancellationRequested = false) {start : EventLog}
    {budgets before : List Nat} {n : Nat} (hlonger : before <+: budgets ++ List.replicate n 2)
    (hreached : Retry.after (reconciling runtime fold revision) start before = log)
    (goal : RunSnapshot → Prop) :
    ¬ Retry.Converges (reconciling runtime fold revision) 2 .interrupted goal start budgets := by
  have hresult : ∀ budget, ∃ error,
      reconciling runtime fold revision budget log = (log, .error error) := by
    intro budget
    have happlies : RuntimeCall.cancelled.Applies attempt.status s.status :=
      .inr ⟨rfl, hstatus, hrun⟩
    have hpath : RuntimeCall.cancelled.path attempt.status s.status = [.runCancelled] := by
      rw [hstatus, hrun]
      rfl
    rw [reconciling, h.reconcile hasks, if_pos happlies, hpath]
    exact appendAll_runCancelled h hflag budget
  refine Retry.not_converges (P := fun log' => log' = log) ?_ ?_ hlonger hreached
  · rintro budget log' rfl
    obtain ⟨error, hresult⟩ := hresult budget
    rw [hresult]
  · rintro log' rfl answer hanswer
    obtain ⟨error, hresult⟩ := hresult 2
    rw [hresult] at hanswer
    cases hanswer

/-! Calls that end before their first append. -/

/-- The first of the calls that has a budget. -/
theorem first_budget (budgets : List Nat) :
    ∃ cut budget rest, budgets ++ [2] = cut ++ (budget + 1) :: rest ∧ (∀ b ∈ cut, b = 0) ∧
      (budgets.find? (fun b => 0 < b) = some 1 ↔ budget = 0) := by
  cases hfind : (budgets ++ [2]).find? (fun b => 0 < b) with
  | none =>
    rw [List.find?_eq_none] at hfind
    exact absurd (hfind 2 (by simp)) (by decide)
  | some found =>
    obtain ⟨hpos, cut, rest, heq, hcut⟩ := List.find?_eq_some_iff_append.mp hfind
    obtain ⟨budget, rfl⟩ : ∃ budget, found = budget + 1 := ⟨found - 1, by simp at hpos; omega⟩
    refine ⟨cut, budget, rest, heq, ?_, ?_⟩
    · intro b hb
      have hzero := hcut b hb
      simp at hzero
      exact hzero
    · rw [List.find?_append] at hfind
      cases hfirst : budgets.find? (fun b => 0 < b) with
      | none =>
        rw [hfirst] at hfind
        simp at hfind
        simp
        omega
      | some first =>
        rw [hfirst] at hfind
        simp at hfind
        simp
        omega

theorem after_cut {cut : List Nat} (hcut : ∀ b ∈ cut, b = 0)
    (hresult : reconciling runtime fold revision 0 log = (log, .error .interrupted)) :
    Retry.after (reconciling runtime fold revision) log cut = log ∧
      Retry.Quiet (reconciling runtime fold revision) .interrupted log cut := by
  induction cut with
  | nil => exact ⟨rfl, trivial⟩
  | cons b cut ih =>
    obtain rfl := hcut b List.mem_cons_self
    obtain ⟨hafter, hquiet⟩ := ih fun c hc => hcut c (List.mem_cons_of_mem 0 hc)
    constructor
    · change Retry.after _ (reconciling runtime fold revision 0 log).1 cut = log
      rw [hresult]
      exact hafter
    · refine ⟨?_, ?_⟩
      · intro error herror
        rw [hresult] at herror
        cases herror
        rfl
      · rw [hresult]
        exact hquiet

/-! The condition for convergence. -/

/-- The run is already closed as the lease calls for; or, for a completed lease, its attempt is
running, lost, unknown or succeeded; or, for an observed cancellation, the run itself was asked to
be cancelled and its attempt is open or cancelled; or, for another failure, the run is running with
an open attempt and the first call that appends anything is not cut between its two events. -/
def Reaches (call : RuntimeCall) (attempt : AttemptStatus) (run : RunStatus) (requested : Bool)
    (budgets : List Nat) : Prop :=
  run = call.ending.runStatus ∨
    match call with
    | .succeed => attempt ∈ [.running, .lost, .unknown, .succeeded]
    | .cancelled => requested = true ∧ attempt ∈ [.queued, .running, .lost, .unknown, .cancelled]
    | .failed _ => run = .running ∧ attempt ∈ [.queued, .running] ∧
      budgets.find? (fun b => 0 < b) ≠ some 1

section

variable {budgets : List Nat}

/-- The calls come to the run status that the lease calls for. -/
def Closes (runtime : WorkerRuntime) (fold : WorkerFold) (revision : Nat) (call : RuntimeCall)
    (log : EventLog) (budgets : List Nat) : Prop :=
  Retry.Converges (reconciling runtime fold revision) 2 .interrupted
    (fun s => s.status = call.ending.runStatus) log budgets

theorem closes_of_stage {n : Nat} (h : Stage runtime fold revision call lease n log) :
    Closes runtime fold revision call log budgets :=
  (stages runtime fold revision call lease).converges h budgets

/-- The stage of a settled attempt that the call repeats for. -/
theorem closes_of_settled
    (h : Standing runtime revision call.reasonCode
      [call.ending.attemptType, call.ending.runType] log s attempt)
    (hasks : Asks runtime fold lease s call) (hrepeats : call.repeats = true)
    (hpermits : Permits call s) (hstatus : attempt.status = call.ending.attemptStatus) :
    Closes runtime fold revision call log budgets := by
  have hfailed : attempt.status ≠ .failed := by
    rw [hstatus]
    cases call with
    | failed reason => cases hrepeats
    | succeed => decide
    | cancelled => decide
  have hlatest := h.invariant.latest_of_not_failed h.mem hfailed
  rcases h.invariant.status_of_latest hlatest hstatus with hrun | hclosed
  · have hrunning := hrun.trans (runStatus_of_repeats hrepeats)
    exact closes_of_stage (.settled hrepeats h.tail hasks hstatus hrunning hpermits)
  · exact closes_of_stage (.closed h hasks hclosed)

/-- A failure of a running run is recorded by one call that is not cut in between. -/
theorem closes_failed {reason : String}
    (h : Standing runtime revision (some reason) [.attemptFailed, .runFailed] log s attempt)
    (hasks : Asks runtime fold lease s (.failed reason)) (hrun : s.status = .running)
    (hallowed : attempt.status ∈ openStatuses)
    (hbudget : budgets.find? (fun b => 0 < b) ≠ some 1) :
    Closes runtime fold revision (.failed reason) log budgets := by
  obtain ⟨cut, budget, rest, hsplit, hcut, hfirst⟩ := first_budget budgets
  have hpositive : budget ≠ 0 := fun hzero => hbudget (hfirst.mpr hzero)
  obtain ⟨budget, rfl⟩ := Nat.exists_eq_succ_of_ne_zero hpositive
  have happlies : (RuntimeCall.failed reason).Applies attempt.status s.status := .inl hallowed
  obtain ⟨hafter, hquiet⟩ := after_cut hcut
    (reconcile_cut h hasks happlies (path_open _ hallowed s.status))
  obtain ⟨stored, s', attempt', -, hstanding, hsettled, hasks', hresult⟩ :=
    h.reconcile_open hasks hallowed (fun hcall => by cases hcall)
      (budget + 1)
  have hclosable : RunStatus.running ∈ (RuntimeCall.failed reason).closable := List.mem_cons_self
  rw [hrun, if_pos hclosable] at hresult
  obtain ⟨last, s'', -, hstanding', hasks'', hclosed, hlast⟩ :=
    hstanding.appendAll_run hasks' hsettled.status hsettled.runStatus (fun hcall => by cases hcall)
      budget
  have hdone : reconciling runtime fold revision (budget + 2) log =
      (log ++ [stored] ++ [last], .ok s'') := hresult.trans hlast
  apply Retry.Converges.of_concat
  rw [hsplit, List.append_cons]
  refine Retry.Converges.append ?_ ?_
  · rw [Retry.after_append, hafter]
    change Retry.Converges _ _ _ _ (reconciling runtime fold revision (budget + 2) log).1 rest
    rw [hdone]
    exact closes_of_stage (.closed hstanding' hasks'' hclosed)
  · refine Retry.quiet_append.mpr ⟨hquiet, ?_, trivial⟩
    intro error herror
    rw [hafter] at herror
    change (reconciling runtime fold revision (budget + 2) log).2 = _ at herror
    rw [hdone] at herror
    cases herror

theorem Reaches.closes
    (hstanding : Standing runtime revision call.reasonCode
      [call.ending.attemptType, call.ending.runType] log s attempt)
    (hasks : Asks runtime fold lease s call)
    (h : Reaches call attempt.status s.status s.cancellationRequested budgets) :
    Closes runtime fold revision call log budgets := by
  rcases h with hclosed | h
  · exact closes_of_stage (.closed hstanding hasks hclosed)
  cases call with
  | succeed =>
    have hpermits : Permits .succeed s := fun hcall => by cases hcall
    by_cases hstatus : attempt.status = .succeeded
    · exact closes_of_settled hstanding hasks rfl hpermits hstatus
    · have hallowed : attempt.status ∈ Runs.attemptSucceededStatuses := by
        simpa [hstatus, Runs.attemptSucceededStatuses] using h
      exact closes_of_stage (.opened rfl hstanding hasks hallowed hpermits)
  | cancelled =>
    have hpermits : Permits .cancelled s := fun _ => h.1
    by_cases hstatus : attempt.status = .cancelled
    · exact closes_of_settled hstanding hasks rfl hpermits hstatus
    · have hallowed : attempt.status ∈ Runs.attemptCancelledStatuses := by
        simpa [hstatus, Runs.attemptCancelledStatuses] using h.2
      exact closes_of_stage (.opened rfl hstanding hasks hallowed hpermits)
  | failed reason =>
    have hallowed : attempt.status ∈ openStatuses := by
      have hstatus := h.2.1
      simp only [List.mem_cons, List.not_mem_nil, or_false] at hstatus
      rcases hstatus with hstatus | hstatus <;> rw [hstatus] <;> decide
    exact closes_failed hstanding hasks h.1 hallowed h.2.2

/-- An attempt event that the run event does not follow leaves a failure unrecorded. -/
theorem not_closes_failed {reason : String}
    (h : Standing runtime revision (some reason) [.attemptFailed, .runFailed] log s attempt)
    (hasks : Asks runtime fold lease s (.failed reason))
    (hallowed : attempt.status ∈ openStatuses)
    (hcut : s.status ≠ .running ∨ budgets.find? (fun b => 0 < b) = some 1) :
    ¬ Closes runtime fold revision (.failed reason) log budgets := by
  obtain ⟨cut, budget, rest, hsplit, hzeros, hfirst⟩ := first_budget budgets
  have happlies : (RuntimeCall.failed reason).Applies attempt.status s.status := .inl hallowed
  obtain ⟨hafter, -⟩ := after_cut hzeros
    (reconcile_cut h hasks happlies (path_open _ hallowed s.status))
  obtain ⟨stored, s', attempt', -, hstanding, hsettled, hasks', hresult⟩ :=
    h.reconcile_open hasks hallowed (fun hcall => by cases hcall) budget
  have hpending : s.status ≠ .retryPending := by
    have hopen : ∀ status ∈ openStatuses, status.unresolved ∧ status.runStatus ≠ .retryPending := by
      decide
    obtain ⟨hunresolved, hpending⟩ := hopen _ hallowed
    rw [h.invariant.open_of_unresolved h.mem hunresolved]
    exact hpending
  have hlog : (reconciling runtime fold revision (budget + 1) log).1 = log ++ [stored] := by
    rw [reconciling, hresult]
    rcases hcut with hrun | hone
    · rw [if_neg (by simp [RuntimeCall.closable, hrun, hpending])]
      rfl
    · rw [hfirst.mp hone]
      split_ifs <;> rfl
  have hidle : ¬ (RuntimeCall.failed reason).Applies attempt'.status s'.status := by
    rintro (hopen | ⟨hrepeats, -⟩)
    · rw [hsettled.status] at hopen
      exact absurd hopen (by change ¬ AttemptStatus.failed ∈ openStatuses; decide)
    · cases hrepeats
  have hpending' : s'.status ≠ (RuntimeCall.failed reason).ending.runStatus := by
    rw [hsettled.runStatus]
    change RunStatus.retryPending ≠ .failed
    decide
  have hlonger : cut ++ [budget + 1] <+: budgets ++ List.replicate 1 2 :=
    ⟨rest, by rw [List.replicate_one, hsplit, List.append_assoc, List.singleton_append]⟩
  refine not_converges_idle hstanding hasks' hidle hpending' hlonger ?_
  rw [Retry.after_append, hafter]
  exact hlog

/-- A cancellation that was only requested on the attempt does not close the run. -/
theorem not_closes_cancelled
    (h : Standing runtime revision none [.attemptCancelled, .runCancelled] log s attempt)
    (hasks : Asks runtime fold lease s .cancelled) (hflag : s.cancellationRequested = false)
    (happlies : RuntimeCall.cancelled.Applies attempt.status s.status) :
    ¬ Closes runtime fold revision .cancelled log budgets := by
  rcases happlies with hallowed | ⟨-, hstatus, hrun⟩
  · obtain ⟨cut, budget, rest, hsplit, hzeros, -⟩ := first_budget budgets
    obtain ⟨hafter, -⟩ := after_cut hzeros (reconcile_cut h hasks
      (.inl hallowed) (path_open _ hallowed s.status))
    have hrequested : cancelRequested s runtime.attemptId = true := by
      have hsettled := hasks.settled
      unfold settledCall at hsettled
      split at hsettled
      · cases hsettled
      · split_ifs at hsettled with hcancelled
        · exact hcancelled.2
        · cases hsettled
      · cases hsettled
      · cases hsettled
    obtain ⟨stored, s', attempt', -, hstanding, hsettled, hasks', hresult⟩ :=
      h.reconcile_open hasks hallowed (fun _ => hrequested) budget
    have hflag' : s'.cancellationRequested = false := hsettled.runRequested.trans hflag
    have hlog : (reconciling runtime fold revision (budget + 1) log).1 = log ++ [stored] := by
      rw [reconciling, hresult]
      split_ifs
      · obtain ⟨error, hrefused⟩ := appendAll_runCancelled hstanding hflag' budget
        exact congrArg Prod.fst hrefused
      · rfl
    have hlonger : cut ++ [budget + 1] <+: budgets ++ List.replicate 1 2 :=
      ⟨rest, by rw [List.replicate_one, hsplit, List.append_assoc, List.singleton_append]⟩
    refine not_converges_refused hstanding hasks' hsettled.status hsettled.runStatus hflag' hlonger
      ?_ _
    rw [Retry.after_append, hafter]
    exact hlog
  · have hstart : [] <+: budgets ++ List.replicate 0 2 := List.nil_prefix
    exact not_converges_refused h hasks hstatus hrun hflag hstart rfl _

theorem reaches_of_closes
    (hstanding : Standing runtime revision call.reasonCode
      [call.ending.attemptType, call.ending.runType] log s attempt)
    (hasks : Asks runtime fold lease s call)
    (h : Closes runtime fold revision call log budgets) :
    Reaches call attempt.status s.status s.cancellationRequested budgets := by
  by_contra hnot
  have hopen : s.status ≠ call.ending.runStatus := fun hclosed => hnot (.inl hclosed)
  by_cases happlies : call.Applies attempt.status s.status
  · cases call with
    | succeed =>
      have hlive : ∀ status ∈ Runs.attemptSucceededStatuses,
          status ∈ [AttemptStatus.running, .lost, .unknown, .succeeded] := by decide
      apply hnot
      right
      rcases happlies with hallowed | ⟨-, hstatus, -⟩
      · exact hlive _ hallowed
      · rw [hstatus]
        exact (by decide : AttemptStatus.succeeded ∈
          [AttemptStatus.running, .lost, .unknown, .succeeded])
    | failed reason =>
      rcases happlies with hallowed | ⟨hrepeats, -⟩
      · refine not_closes_failed hstanding hasks hallowed ?_ h
        by_contra hboth
        rw [not_or, not_not] at hboth
        have hrun := hstanding.invariant.open_of_unresolved hstanding.mem
          (Runs.Ending.allowed_unresolved hallowed)
        rw [hboth.1] at hrun
        have hactive : ∀ status ∈ openStatuses, RunStatus.running = status.runStatus →
            status ∈ [AttemptStatus.queued, .running] := by decide
        exact hnot (.inr ⟨hboth.1, hactive _ hallowed hrun, hboth.2⟩)
      · cases hrepeats
    | cancelled =>
      cases hflag : s.cancellationRequested with
      | false => exact not_closes_cancelled hstanding hasks hflag happlies h
      | true =>
        refine hnot (.inr ⟨hflag, ?_⟩)
        have hactive : ∀ status ∈ openStatuses,
            status ∈ [AttemptStatus.queued, .running, .lost, .unknown, .cancelled] := by decide
        rcases happlies with hallowed | ⟨-, hstatus, -⟩
        · exact hactive _ hallowed
        · rw [hstatus]
          decide
  · have hstart : [] <+: budgets ++ List.replicate 0 2 := List.nil_prefix
    exact not_converges_idle hstanding hasks happlies hopen hstart rfl h

/-- The repeated reconciliation of one lease: it comes to a run status that agrees with the lease
and appends no event twice on the way. -/
structure Convergent (runtime : WorkerRuntime) (fold : WorkerFold) (revision : Nat)
    (call : RuntimeCall) (log : EventLog) (budgets : List Nat) : Prop where
  closes : Closes runtime fold revision call log budgets
  once : ∀ n, ∃ added, Retry.after (reconciling runtime fold revision) log
      (budgets ++ List.replicate n 2) = log ++ added ∧
    (added.map fun event => event.type.val).Nodup

/-- Reconciliation converges exactly under `Reaches`. -/
theorem reconcile_converges_iff (runtime : WorkerRuntime) (fold : WorkerFold) (revision : Nat)
    (lease : LeaseRecord) (call : RuntimeCall) (log : EventLog) (s : RunSnapshot)
    (attempt : AttemptSnapshot) (budgets : List Nat)
    (hstanding : Standing runtime revision call.reasonCode
      [call.ending.attemptType, call.ending.runType] log s attempt)
    (hasks : Asks runtime fold lease s call) :
    Convergent runtime fold revision call log budgets ↔
      Reaches call attempt.status s.status s.cancellationRequested budgets := by
  constructor
  · intro h
    exact reaches_of_closes hstanding hasks h.closes
  · intro h
    exact ⟨h.closes hstanding hasks, fun n => (grown_after runtime fold revision log _).types⟩

end

/-! A running attempt with a failed lease. -/

def trialAttempt : EventIdentifier := ⟨"attempt-1", .refl true⟩

def trialReason : EventIdentifier := ⟨"brick.crashed", by decide⟩

def trialCall : RuntimeCall := .failed trialReason.val

def trialRuntime : WorkerRuntime where
  projection := secondRun
  attemptId := trialAttempt
  source := "urn:researchos:worker"
  subject := "run"
  streamId := "run-2"
  actorId := "worker"
  events := fun type => some ("evt." ++ type.text, "2026-01-01T00:00:00Z")

def trialLog : EventLog :=
  (Runs.startEvents secondRun trialAttempt).zipWith (fun event id => { event with id := id })
    [⟨"start-1", by decide⟩, ⟨"start-2", by decide⟩, ⟨"start-3", by decide⟩, ⟨"start-4", by decide⟩]

def trialLease : LeaseRecord where
  leaseId := ⟨"lease.grant-b", by decide⟩
  workerId := ⟨"worker-b", by decide⟩
  taskId := ⟨"task", by decide⟩
  grantId := ⟨"grant-b", by decide⟩
  runId := secondRun.runId
  attemptId := trialAttempt
  expiresAt := ⟨"2026-01-01T00:01:00Z", by decide⟩
  claimed := true
  status := .failed
  resultDigest := none
  artifactDigest := none
  reasonCode := some trialReason

def trialFold : WorkerFold := ⟨[], [], [], [trialLease]⟩

theorem trial_usable : ∀ type ∈ [LifecycleType.attemptFailed, .runFailed],
    Usable trialRuntime 1 trialCall.reasonCode type := by
  have hdrafts : ∀ type ∈ [LifecycleType.attemptFailed, .runFailed],
      (trialRuntime.drafted 1 trialCall.reasonCode type).isSome = true := by decide +kernel
  exact fun type htype => usable_of_drafted (hdrafts type htype)

theorem trial_standing : ∃ s attempt,
    Standing trialRuntime 1 trialCall.reasonCode [.attemptFailed, .runFailed] trialLog s attempt ∧
      Asks trialRuntime trialFold trialLease s trialCall ∧ attempt.status = .running ∧
      s.status = .running := by
  have hwithin : ∀ event ∈ trialLog, event.sequence.val ≤ trialLog.length := by decide
  have hfresh : ∀ type ∈ [LifecycleType.attemptFailed, .runFailed], ∀ earlier ∈ trialLog,
      earlier.id.val ≠ "evt." ++ type.text := by decide
  have hunused : Unused trialRuntime trialLog [.attemptFailed, .runFailed] := by
    refine ⟨?_, by decide⟩
    intro type htype identity hidentity earlier hearlier
    cases hidentity
    exact hfresh type htype earlier hearlier
  exact ⟨_, _, ⟨hwithin, rfl, rfl, rfl, by decide, trial_usable, hunused⟩, ⟨rfl, rfl⟩, rfl, rfl⟩

/-- Without a cut between the two events the failure is recorded. -/
theorem reconcile_converges_trial :
    Convergent trialRuntime trialFold 1 trialCall trialLog [] := by
  obtain ⟨s, attempt, hstanding, hasks, hattempt, hrun⟩ := trial_standing
  apply (reconcile_converges_iff trialRuntime trialFold 1 trialLease trialCall trialLog s attempt []
    hstanding hasks).mpr
  rw [hattempt, hrun]
  exact .inr ⟨rfl, by decide, by decide⟩

/-- A process that ends between the two events leaves the run to be retried for ever. -/
theorem interrupted_failure_stuck :
    ¬ Convergent trialRuntime trialFold 1 trialCall trialLog [1] := by
  intro h
  obtain ⟨s, attempt, hstanding, hasks, hattempt, hrun⟩ := trial_standing
  exact not_closes_failed hstanding hasks (by rw [hattempt]; decide) (.inr rfl) h.closes

end ResearchOs.Recovery
