import ResearchOs.Core.Runs.History
import ResearchOs.Core.Runs.Settle

/-! What an event has done to its run by the time that it stands in the log. -/
namespace ResearchOs.Runs

open Storage (EventLog)

variable {p : RunStateProjection} {s t : RunSnapshot} {e : ResearchEvent} {attempt : AttemptSnapshot}
  {type : LifecycleType} {state : Option RunSnapshot} {ending : Ending}

/-! Events that are no lifecycle events. -/

theorem apply_observed (hs : s.Invariant) (hb : belongs e p.projectId p.runId = true)
    (hl : ResearchEvent.lifecycleType? e = none) (hf : Follows s e) :
    p.apply (some s) e = .ok (some (stamped s e)) := by
  have hstamp := stamp_of_invariant (Update.observed.invariant hf hs)
  simp only [RunStateProjection.apply, if_pos hb, hl, observeUnrelated,
    requireCursorAndBinding_of hf, hstamp]
  rfl

theorem follows_of_require (h : requireCursorAndBinding s e = .ok ()) : Follows s e := by
  by_contra hnot
  have hrefused := requireCursorAndBinding_elim (s := s) (e := e) (k := fun u => .ok u)
    (P := fun r : Except RunError Unit => r ≠ .ok ()) (fun _ h => by cases h)
    (fun hf => absurd hf hnot)
  rw [h] at hrefused
  exact hrefused rfl

theorem apply_observed_ok (hb : belongs e p.projectId p.runId = true)
    (hl : ResearchEvent.lifecycleType? e = none) (h : p.apply (some s) e = .ok state) :
    Follows s e ∧ state = some (stamped s e) := by
  simp only [RunStateProjection.apply, if_pos hb, hl, observeUnrelated] at h
  obtain ⟨_, hrequire, h⟩ := Fold.bind_eq_ok.mp h
  refine ⟨follows_of_require hrequire, ?_⟩
  cases hstamp : stamp s e with
  | error error =>
    rw [hstamp] at h
    cases h
  | ok next =>
    rw [hstamp] at h
    unfold stamp at hstamp
    split at hstamp
    · cases hstamp
      cases h
      rfl
    · cases hstamp

/-! Lifecycle events. -/

theorem guardTransition_bind_ok {α : Type} {condition : Prop} [Decidable condition]
    {message : String} {k : Unit → Except RunError α} {r : α} :
    guardTransition e condition message >>= k = .ok r ↔ condition ∧ k () = .ok r := by
  by_cases h : condition <;> simp [guardTransition, transitionError, h, bind, Except.bind]

theorem stamp_ok {u : RunSnapshot} (h : stamp u e = .ok t) : t = stamped u e := by
  unfold stamp at h
  split at h
  · exact (Except.ok.inj h).symm
  · cases h

/-- What the handlers of a lifecycle event have checked before they are called. -/
theorem apply_lifecycle_ok (hb : belongs e p.projectId p.runId = true)
    (hl : ResearchEvent.lifecycleType? e = some type) (hreview : type ≠ .runReviewed)
    (h : p.apply (some s) e = .ok state) :
    ∃ payload t, state = some t ∧ Follows s e ∧ s.status ∉ terminalRunStatuses ∧
      (if type ∈ LifecycleType.runTypes then applyRunEvent type s e
        else applyAttemptEvent type s e payload) = .ok t := by
  simp only [RunStateProjection.apply, if_pos hb, hl] at h
  cases hlifecycle : RunStateProjection.applyLifecycle type (some s) e with
  | error error =>
    rw [hlifecycle] at h
    cases h
  | ok next =>
    rw [hlifecycle] at h
    simp only [RunStateProjection.applyLifecycle] at hlifecycle
    obtain ⟨_, -, hlifecycle⟩ := Fold.bind_eq_ok.mp hlifecycle
    obtain ⟨payload, -, hlifecycle⟩ := Fold.bind_eq_ok.mp hlifecycle
    obtain ⟨_, hrequire, hlifecycle⟩ := Fold.bind_eq_ok.mp hlifecycle
    rw [if_neg hreview, guardTransition_bind_ok] at hlifecycle
    exact ⟨payload, next, (Except.ok.inj h).symm, follows_of_require hrequire, hlifecycle.1,
      hlifecycle.2⟩

/-- The first lifecycle event of a run queues it. -/
theorem apply_none_refused (hb : belongs e p.projectId p.runId = true)
    (hl : ResearchEvent.lifecycleType? e = some type) (hqueued : type ≠ .runQueued) :
    p.apply none e ≠ .ok state := by
  intro h
  simp only [RunStateProjection.apply, if_pos hb, hl] at h
  cases hlifecycle : RunStateProjection.applyLifecycle type none e with
  | error error =>
    rw [hlifecycle] at h
    cases h
  | ok next =>
    simp only [RunStateProjection.applyLifecycle] at hlifecycle
    obtain ⟨_, -, hlifecycle⟩ := Fold.bind_eq_ok.mp hlifecycle
    obtain ⟨payload, -, hlifecycle⟩ := Fold.bind_eq_ok.mp hlifecycle
    unfold applyFirst at hlifecycle
    exact hqueued (guardTransition_bind_ok.mp hlifecycle).1

/-- What an event of the run itself leaves of the attempts and of the request to cancel. -/
structure RunMoved (type : LifecycleType) (s t : RunSnapshot) : Prop where
  attempts : t.attempts = s.attempts
  cancellation : type ≠ .runCancelRequested → t.cancellationRequested = s.cancellationRequested
  closed : ∀ ending : Ending, type = ending.runType → t.status = ending.runStatus

theorem applyRunEvent_ok (h : applyRunEvent type s e = .ok t) : RunMoved type s t := by
  cases type with
  | runStarted =>
    simp only [applyRunEvent, guardTransition_bind_ok] at h
    rw [stamp_ok h.2]
    exact ⟨rfl, fun _ => rfl, fun ending heq => by cases ending <;> cases heq⟩
  | runCancelRequested =>
    simp only [applyRunEvent, guardTransition_bind_ok] at h
    rw [stamp_ok h.2]
    exact ⟨rfl, fun hne => absurd rfl hne, fun ending heq => by cases ending <;> cases heq⟩
  | runCompleted =>
    simp only [applyRunEvent, guardTransition_bind_ok] at h
    rw [stamp_ok h.2]
    refine ⟨rfl, fun _ => rfl, ?_⟩
    intro ending heq
    cases ending with
    | succeeded => rfl
    | failed => cases heq
    | cancelled => cases heq
  | runFailed =>
    simp only [applyRunEvent, guardTransition_bind_ok] at h
    rw [stamp_ok h.2]
    refine ⟨rfl, fun _ => rfl, ?_⟩
    intro ending heq
    cases ending with
    | succeeded => cases heq
    | failed => rfl
    | cancelled => cases heq
  | runCancelled =>
    simp only [applyRunEvent, applyRunCancelled, guardTransition_bind_ok] at h
    rw [stamp_ok h.2.2.2]
    refine ⟨rfl, fun _ => rfl, ?_⟩
    intro ending heq
    cases ending with
    | succeeded => cases heq
    | failed => cases heq
    | cancelled => rfl
  | _ => cases h

theorem apply_run_ok (hb : belongs e p.projectId p.runId = true)
    (hl : ResearchEvent.lifecycleType? e = some type) (hrun : type ∈ LifecycleType.runTypes)
    (hreview : type ≠ .runReviewed) (h : p.apply (some s) e = .ok state) :
    ∃ t, state = some t ∧ RunMoved type s t := by
  obtain ⟨payload, t, rfl, -, -, hhandler⟩ := apply_lifecycle_ok hb hl hreview h
  rw [if_pos hrun] at hhandler
  exact ⟨t, rfl, applyRunEvent_ok hhandler⟩

/-- What the event that settles an attempt has found, and what it leaves. -/
structure AttemptSettled (ending : Ending) (attemptId : EventIdentifier) (s t : RunSnapshot) :
    Prop where
  allowed : ∃ attempt, findAttempt s attemptId = some attempt ∧ attempt.status ∈ ending.allowed
  cancellation : t.cancellationRequested = s.cancellationRequested

theorem transitionAttempt_ok {allowed : List AttemptStatus} {status : AttemptStatus}
    {runStatus : RunStatus} {settles : Bool} {hint : Option RetryHint}
    (h : transitionAttempt s e attempt allowed status runStatus settles hint = .ok t) :
    attempt.status ∈ allowed ∧ t.cancellationRequested = s.cancellationRequested := by
  simp only [transitionAttempt, guardTransition_bind_ok] at h
  refine ⟨h.1, ?_⟩
  rw [stamp_ok h.2]
  rfl

theorem applyActiveAttemptEvent_ok {payload : LifecyclePayload}
    (h : applyActiveAttemptEvent ending.attemptType s e payload attempt = .ok t) :
    attempt.status ∈ ending.allowed ∧ t.cancellationRequested = s.cancellationRequested := by
  cases ending with
  | succeeded => exact transitionAttempt_ok h
  | failed =>
    cases payload with
    | attemptFailed reason hint => exact transitionAttempt_ok h
    | _ => cases h
  | cancelled =>
    simp only [Ending.attemptType, applyActiveAttemptEvent, guardTransition_bind_ok] at h
    exact transitionAttempt_ok h.2

theorem apply_attempt_ok {attemptId : EventIdentifier} (hb : belongs e p.projectId p.runId = true)
    (hl : ResearchEvent.lifecycleType? e = some ending.attemptType)
    (hid : e.data.attemptId = some attemptId) (h : p.apply (some s) e = .ok state) :
    ∃ t, state = some t ∧ AttemptSettled ending attemptId s t := by
  have hreview : ending.attemptType ≠ .runReviewed := by cases ending <;> decide
  have hrun : ending.attemptType ∉ LifecycleType.runTypes := by cases ending <;> decide
  have hqueued : ending.attemptType ≠ .attemptQueued := by cases ending <;> decide
  obtain ⟨payload, t, rfl, -, -, hhandler⟩ := apply_lifecycle_ok hb hl hreview h
  refine ⟨t, rfl, ?_⟩
  rw [if_neg hrun, applyAttemptEvent, hid] at hhandler
  dsimp only at hhandler
  rw [if_neg hqueued, guardTransition_bind_ok, guardTransition_bind_ok] at hhandler
  obtain ⟨-, -, hhandler⟩ := hhandler
  cases hfound : findAttempt s attemptId with
  | none =>
    rw [hfound] at hhandler
    cases hhandler
  | some found =>
    rw [hfound] at hhandler
    obtain ⟨hallowed, hflag⟩ := applyActiveAttemptEvent_ok hhandler
    exact ⟨⟨found, hfound, hallowed⟩, hflag⟩

/-! Events in a log that folds. -/

/-- A lifecycle event in the log, between the snapshot that it found and the one that it left. -/
structure Stands (p : RunStateProjection) (log : EventLog) (e : ResearchEvent) (s u t : RunSnapshot) :
    Prop where
  applied : p.apply (some s) e = .ok (some u)
  follows : Follows s e
  moved : RunExtends s u
  later : RunExtends u t

theorem stands_of_mem {log : EventLog} (hfold : p.fold log = .ok (some t)) (hmem : e ∈ log)
    (hb : belongs e p.projectId p.runId = true) (hl : ResearchEvent.lifecycleType? e = some type)
    (hqueued : type ≠ .runQueued) (hreview : type ≠ .runReviewed) :
    ∃ s u, Stands p log e s u t := by
  obtain ⟨before, later, rfl⟩ := List.append_of_mem hmem
  obtain ⟨middle, hbefore, hrest⟩ := Fold.foldlM_append_eq_ok.mp hfold
  obtain ⟨next, happly, hlater⟩ := Fold.foldlM_cons_eq_ok.mp hrest
  cases middle with
  | none => exact absurd happly (apply_none_refused hb hl hqueued)
  | some s =>
    have hs := fold_invariant (p := p) hbefore s rfl
    obtain ⟨payload, u, rfl, hfollows, -⟩ := apply_lifecycle_ok hb hl hreview happly
    obtain ⟨u', hsame, hu, hextends, -⟩ := apply_extends hs happly
    obtain rfl := Option.some.inj hsame
    obtain ⟨t', hsame, hlater, -⟩ := foldlM_apply_extends hu hlater
    obtain rfl := Option.some.inj hsame
    exact ⟨s, u, happly, hfollows, hextends, hlater⟩

/-- A run whose log has the event of an ending has ended so. -/
theorem status_of_runType {log : EventLog} (hfold : p.fold log = .ok (some t)) (hmem : e ∈ log)
    (hb : belongs e p.projectId p.runId = true)
    (hl : ResearchEvent.lifecycleType? e = some ending.runType) : t.status = ending.runStatus := by
  have hreview : ending.runType ≠ .runReviewed := by cases ending <;> decide
  have hqueued : ending.runType ≠ .runQueued := by cases ending <;> decide
  have hrun : ending.runType ∈ LifecycleType.runTypes := by cases ending <;> decide
  obtain ⟨s, u, hstands⟩ := stands_of_mem hfold hmem hb hl hqueued hreview
  obtain ⟨u', hsame, hmoved⟩ := apply_run_ok hb hl hrun hreview hstands.applied
  obtain rfl := Option.some.inj hsame
  have hclosed := hmoved.closed ending rfl
  have hkept := hstands.later.terminal (by rw [hclosed]; exact ending.runStatus_terminal)
  rw [hkept, hclosed]

/-- A run follows the revision of its lifecycle events. -/
theorem revision_of_mem {log : EventLog} (hfold : p.fold log = .ok (some t)) (hmem : e ∈ log)
    (hb : belongs e p.projectId p.runId = true) (hl : ResearchEvent.lifecycleType? e = some type)
    (hqueued : type ≠ .runQueued) (hreview : type ≠ .runReviewed) :
    t.experimentRevision = e.data.experimentRevision := by
  obtain ⟨s, u, hstands⟩ := stands_of_mem hfold hmem hb hl hqueued hreview
  rw [hstands.later.experimentRevision, hstands.moved.experimentRevision,
    hstands.follows.revision]

/-! A request to cancel a run. -/

theorem Carries.requests {parsed : LifecyclePayload}
    (h : Carries p e .runCancelRequested none parsed) (hs : s.Invariant) (hf : Follows s e)
    (ht : s.status ∉ terminalRunStatuses) :
    p.apply (some s) e = .ok (some (stamped { s with cancellationRequested := true } e)) := by
  have hopen : s.status ∈ runCancelRequestStatuses := by
    cases hstatus : s.status <;> simp [hstatus, terminalRunStatuses] at ht ⊢ <;> decide
  exact h.apply hs hf ht (by decide) (.cancelRequested ht) (guardTransition_of hopen)

end ResearchOs.Runs
