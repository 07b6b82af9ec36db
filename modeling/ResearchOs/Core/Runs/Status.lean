import ResearchOs.Core.Runs.Recorded

/-! Which events close a run. -/
namespace ResearchOs.Runs

variable {p : RunStateProjection} {s t : RunSnapshot} {e : ResearchEvent} {type : LifecycleType}
  {payload : LifecyclePayload} {state : Option RunSnapshot}

/-- The types of the events that close a run. -/
def closingTypes : List LifecycleType := [.runCompleted, .runFailed, .runCancelled]

theorem applyRunEvent_terminal (hs : s.status ∉ terminalRunStatuses)
    (h : applyRunEvent type s e = .ok t) :
    t.status ∈ terminalRunStatuses ↔ type ∈ closingTypes := by
  cases type with
  | runStarted =>
    simp only [applyRunEvent, guardTransition_bind_ok] at h
    rw [stamp_ok h.2]
    exact (by decide : RunStatus.running ∈ terminalRunStatuses ↔
      LifecycleType.runStarted ∈ closingTypes)
  | runCancelRequested =>
    simp only [applyRunEvent, guardTransition_bind_ok] at h
    rw [stamp_ok h.2]
    exact iff_of_false hs (by decide)
  | runCompleted =>
    have hclosed := (applyRunEvent_ok h).closed .succeeded rfl
    rw [hclosed]
    exact iff_of_true (by decide) (by decide)
  | runFailed =>
    have hclosed := (applyRunEvent_ok h).closed .failed rfl
    rw [hclosed]
    exact iff_of_true (by decide) (by decide)
  | runCancelled =>
    have hclosed := (applyRunEvent_ok h).closed .cancelled rfl
    rw [hclosed]
    exact iff_of_true (by decide) (by decide)
  | _ => cases h

theorem transitionAttempt_open {attempt : AttemptSnapshot} {allowed : List AttemptStatus}
    {status : AttemptStatus} {runStatus : RunStatus} {settles : Bool} {hint : Option RetryHint}
    (hrun : runStatus ∉ terminalRunStatuses)
    (h : transitionAttempt s e attempt allowed status runStatus settles hint = .ok t) :
    t.status ∉ terminalRunStatuses := by
  simp only [transitionAttempt, guardTransition_bind_ok] at h
  rw [stamp_ok h.2]
  exact hrun

theorem applyActiveAttemptEvent_open {attempt : AttemptSnapshot}
    (hs : s.status ∉ terminalRunStatuses)
    (h : applyActiveAttemptEvent type s e payload attempt = .ok t) :
    t.status ∉ terminalRunStatuses := by
  cases type with
  | attemptStarted => exact transitionAttempt_open (by decide) h
  | attemptHeartbeat =>
    simp only [applyActiveAttemptEvent, guardTransition_bind_ok] at h
    rw [stamp_ok h.2]
    exact hs
  | attemptCancelRequested =>
    simp only [applyActiveAttemptEvent, guardTransition_bind_ok] at h
    rw [stamp_ok h.2]
    exact hs
  | attemptUnknown => exact transitionAttempt_open (by decide) h
  | attemptLost => exact transitionAttempt_open (by decide) h
  | attemptRecovered => exact transitionAttempt_open (by decide) h
  | attemptSucceeded => exact transitionAttempt_open (by decide) h
  | attemptFailed =>
    cases payload with
    | attemptFailed reason hint => exact transitionAttempt_open (by decide) h
    | _ => cases h
  | attemptCancelled =>
    simp only [applyActiveAttemptEvent, guardTransition_bind_ok] at h
    exact transitionAttempt_open (by decide) h.2
  | _ => cases h

theorem applyAttemptQueued_open {attemptId : EventIdentifier}
    (h : applyAttemptQueued s e payload attemptId = .ok t) : t.status ∉ terminalRunStatuses := by
  have hstamped : ∀ {u : RunSnapshot} {check : Except String Unit}, u.status = .running →
      validated check >>= (fun _ => stamp u e) = .ok t → t.status ∉ terminalRunStatuses := by
    intro u check hrunning hstamp
    obtain ⟨_, -, hstamp⟩ := Fold.bind_eq_ok.mp hstamp
    rw [stamp_ok hstamp]
    change u.status ∉ terminalRunStatuses
    rw [hrunning]
    decide
  cases payload with
  | attemptQueued payload =>
    simp only [applyAttemptQueued, guardTransition_bind_ok] at h
    obtain ⟨-, -, -, -, -, -, h⟩ := h
    cases hlatest : latestAttempt s with
    | none =>
      simp only [hlatest, guardTransition_bind_ok] at h
      exact hstamped rfl h.2.2
    | some latest =>
      simp only [hlatest, guardTransition_bind_ok] at h
      exact hstamped rfl h.2.2.2.2
  | _ => cases h

theorem applyAttemptEvent_open (hs : s.status ∉ terminalRunStatuses)
    (h : applyAttemptEvent type s e payload = .ok t) : t.status ∉ terminalRunStatuses := by
  unfold applyAttemptEvent at h
  split at h
  · cases h
  · rename_i attemptId hid
    by_cases hqueued : type = .attemptQueued
    · rw [if_pos hqueued] at h
      exact applyAttemptQueued_open h
    · rw [if_neg hqueued, guardTransition_bind_ok, guardTransition_bind_ok] at h
      obtain ⟨-, -, h⟩ := h
      split at h
      · cases h
      · exact applyActiveAttemptEvent_open hs h

/-- A lifecycle event finds its run open, and closes it exactly when its type does. -/
theorem apply_terminal (hb : belongs e p.projectId p.runId = true)
    (hl : ResearchEvent.lifecycleType? e = some type) (hreview : type ≠ .runReviewed)
    (h : p.apply (some s) e = .ok state) :
    s.status ∉ terminalRunStatuses ∧
      ∃ t, state = some t ∧ (t.status ∈ terminalRunStatuses ↔ type ∈ closingTypes) := by
  obtain ⟨payload, t, rfl, -, hs, hhandler⟩ := apply_lifecycle_ok hb hl hreview h
  refine ⟨hs, t, rfl, ?_⟩
  by_cases hrun : type ∈ LifecycleType.runTypes
  · rw [if_pos hrun] at hhandler
    exact applyRunEvent_terminal hs hhandler
  · rw [if_neg hrun] at hhandler
    refine iff_of_false (applyAttemptEvent_open hs hhandler) ?_
    intro hclosing
    apply hrun
    simp only [closingTypes, List.mem_cons, List.not_mem_nil, or_false] at hclosing
    rcases hclosing with rfl | rfl | rfl <;> decide

/-- A review leaves the status of its run. -/
theorem apply_reviewed (hb : belongs e p.projectId p.runId = true)
    (hl : ResearchEvent.lifecycleType? e = some .runReviewed)
    (h : p.apply (some s) e = .ok state) : ∃ t, state = some t ∧ t.status = s.status := by
  simp only [RunStateProjection.apply, if_pos hb, hl] at h
  cases hlifecycle : RunStateProjection.applyLifecycle .runReviewed (some s) e with
  | error error =>
    rw [hlifecycle] at h
    cases h
  | ok next =>
    rw [hlifecycle] at h
    refine ⟨next, (Except.ok.inj h).symm, ?_⟩
    simp only [RunStateProjection.applyLifecycle] at hlifecycle
    obtain ⟨_, -, hlifecycle⟩ := Fold.bind_eq_ok.mp hlifecycle
    obtain ⟨payload, -, hlifecycle⟩ := Fold.bind_eq_ok.mp hlifecycle
    obtain ⟨_, -, hlifecycle⟩ := Fold.bind_eq_ok.mp hlifecycle
    rw [if_pos trivial] at hlifecycle
    unfold applyRunReviewed at hlifecycle
    rw [guardTransition_bind_ok, guardTransition_bind_ok] at hlifecycle
    obtain ⟨-, -, hlifecycle⟩ := hlifecycle
    split at hlifecycle
    · obtain ⟨_, -, hlifecycle⟩ := Fold.bind_eq_ok.mp hlifecycle
      rw [stamp_ok hlifecycle]
      rfl
    · cases hlifecycle

/-- The first lifecycle event leaves its run queued. -/
theorem apply_first (hb : belongs e p.projectId p.runId = true)
    (hl : ResearchEvent.lifecycleType? e = some type) (h : p.apply none e = .ok state) :
    type = .runQueued ∧ ∃ t, state = some t ∧ t.status = .queued := by
  simp only [RunStateProjection.apply, if_pos hb, hl] at h
  cases hlifecycle : RunStateProjection.applyLifecycle type none e with
  | error error =>
    rw [hlifecycle] at h
    cases h
  | ok next =>
    rw [hlifecycle] at h
    simp only [RunStateProjection.applyLifecycle] at hlifecycle
    obtain ⟨_, -, hlifecycle⟩ := Fold.bind_eq_ok.mp hlifecycle
    obtain ⟨payload, -, hlifecycle⟩ := Fold.bind_eq_ok.mp hlifecycle
    unfold applyFirst at hlifecycle
    obtain ⟨hqueued, hlifecycle⟩ := guardTransition_bind_ok.mp hlifecycle
    refine ⟨hqueued, next, (Except.ok.inj h).symm, ?_⟩
    split at hlifecycle
    · split at hlifecycle
      · cases hlifecycle
      · obtain ⟨_, -, hlifecycle⟩ := Fold.bind_eq_ok.mp hlifecycle
        obtain ⟨_, -, hlifecycle⟩ := Fold.bind_eq_ok.mp hlifecycle
        rw [← Except.ok.inj hlifecycle]
        rfl
    · cases hlifecycle

end ResearchOs.Runs
