import ResearchOs.Core.Runs.Exit

/-! A run whose first attempt has started. -/
namespace ResearchOs.Runs

def startDigest : String := "sha256:0000000000000000000000000000000000000000000000000000000000000000"

def queuedPayload : Json.Members :=
  [("maxAttempts", .int 1), ("planDigest", .str startDigest), ("registryDigest", .str startDigest),
    ("specDigest", .str startDigest), ("workflowId", .str "flow")]

def firstAttemptPayload : Json.Members :=
  [("ordinal", .int 1), ("retryDecisionId", .null), ("retryOf", .null)]

def RunStateProjection.first (p : RunStateProjection) : RunBinding :=
  ⟨p.projectId, ⟨1, .refl true⟩, p.runId⟩

/-- `START_PATH` of a run, at the start of a log. -/
def startEvents (p : RunStateProjection) (attemptId : EventIdentifier) : List ResearchEvent :=
  [lifecycleEvent p.first ⟨1, .refl true⟩ .runQueued none queuedPayload,
    lifecycleEvent p.first ⟨2, .refl true⟩ .runStarted none [],
    lifecycleEvent p.first ⟨3, .refl true⟩ .attemptQueued (some attemptId) firstAttemptPayload,
    lifecycleEvent p.first ⟨4, .refl true⟩ .attemptStarted (some attemptId) []]

variable {p : RunStateProjection} {attemptId : EventIdentifier}

def queuedRun : RunQueuedPayload where
  workflowId := ⟨"flow", by decide⟩
  specDigest := ⟨startDigest, by decide +kernel⟩
  registryDigest := ⟨startDigest, by decide +kernel⟩
  planDigest := ⟨startDigest, by decide +kernel⟩
  decisionDigest := none
  authorizationEventId := none
  authorizationSequence := none
  maxAttempts := ⟨1, by decide⟩
  authorizationCitationIsComplete := rfl

def firstAttempt : AttemptQueuedPayload := ⟨⟨1, by decide⟩, none, none⟩

theorem validate_firstAttemptPayload :
    validateAttemptQueued (.obj firstAttemptPayload) = some (.attemptQueued firstAttempt) := rfl

/-- The first attempt of a running run may be queued. -/
theorem queues_first {s : RunSnapshot} (e : ResearchEvent) (hstatus : s.status = .running)
    (hcancel : s.cancellationRequested = false) (hattempts : s.attempts = []) :
    Queues s e (queuedAttempt e firstAttempt attemptId) := by
  have hconsistent : (queuedAttempt e firstAttempt attemptId).Consistent :=
    ⟨fun _ => ⟨rfl, rfl⟩, fun h => absurd rfl h, by simp [queuedAttempt],
      by simp [queuedAttempt, cursorWithin]⟩
  have hmax := (inRange_iff.mp s.maxAttempts.property).1
  refine ⟨by simp [hstatus], hcancel, ?_, ?_, ?_, hconsistent, fun _ => rfl, ?_, rfl, rfl, rfl⟩
  · simp [unresolvedAttempt, hattempts, unresolvedAttempts]
  · simp [findAttempt, hattempts]
  · rw [hattempts, List.length_nil]
    omega
  · simp [latestAttempt, hattempts]

theorem applyAttemptEvent_first {s : RunSnapshot} {e : ResearchEvent} (hstatus : s.status = .running)
    (hcancel : s.cancellationRequested = false) (hattempts : s.attempts = [])
    (hid : e.data.attemptId = some attemptId) :
    applyAttemptEvent .attemptQueued s e (.attemptQueued firstAttempt) =
      stamp { s with
        status := .running
        activeAttemptId := some attemptId
        attempts := s.attempts ++ [queuedAttempt e firstAttempt attemptId] } e := by
  have hqueues := @queues_first attemptId _ e hstatus hcancel hattempts
  have hlatest : latestAttempt s = none := by simp [latestAttempt, hattempts]
  have hfresh : findAttempt s attemptId = none := hqueues.fresh
  have hconsistent := attemptFieldsAreConsistent_iff.mpr hqueues.consistent
  have hsettled : ∀ unresolved ∈ unresolvedAttempt s,
      unresolved.status ∉ [AttemptStatus.lost, .unknown] := by simp [hqueues.settled]
  unfold applyAttemptEvent
  rw [hid]
  dsimp only
  rw [if_pos rfl, applyAttemptQueued, guardTransition_of hqueues.started, guardTransition_of hcancel,
    guardTransition_of hsettled, guardTransition_of hqueues.settled, guardTransition_of hfresh,
    guardTransition_of hqueues.budget]
  rw [hlatest]
  dsimp only
  rw [guardTransition_of ⟨rfl, rfl, rfl⟩, guardTransition_of hstatus, hconsistent]
  rfl

theorem startEvents_carries (p : RunStateProjection) {sequence : SequenceNumber}
    {type : LifecycleType} {payload : Json.Members}
    {parsed : LifecyclePayload} {attempt : Option EventIdentifier}
    (henvelope : attempt = none ↔ type ∈ LifecycleType.runTypes)
    (hparse : payloadModel type (.obj payload) = some parsed) :
    Carries p (lifecycleEvent p.first sequence type attempt payload) type attempt parsed :=
  ⟨belongs_lifecycleEvent, lifecycleType?_lifecycleEvent, rfl, rfl, henvelope, hparse⟩

/-- After its start the run and its attempt are running. -/
theorem startEvents_fold (p : RunStateProjection) (attemptId : EventIdentifier) :
    ∃ s attempt, p.fold (startEvents p attemptId) = .ok (some s) ∧
      findAttempt s attemptId = some attempt ∧ attempt.status = .running ∧
      s.status = .running ∧ s.cancellationRequested = false ∧
      attempt.cancellationRequested = false := by
  set e₁ := lifecycleEvent p.first ⟨1, by decide⟩ .runQueued none queuedPayload with he₁
  set e₂ := lifecycleEvent p.first ⟨2, by decide⟩ .runStarted none [] with he₂
  set e₃ := lifecycleEvent p.first ⟨3, by decide⟩ .attemptQueued (some attemptId)
    firstAttemptPayload with he₃
  set e₄ := lifecycleEvent p.first ⟨4, by decide⟩ .attemptStarted (some attemptId) [] with he₄
  set s₁ := queuedSnapshot e₁ queuedRun p.runId with hs₁
  set s₂ := stamped { s₁ with status := .running } e₂ with hs₂
  set attempt := queuedAttempt e₃ firstAttempt attemptId with hattempt
  set s₃ := stamped { s₂ with
    status := .running
    activeAttemptId := some attemptId
    attempts := s₂.attempts ++ [attempt] } e₃ with hs₃
  have hqueuedOpen : RunStatus.queued ∉ terminalRunStatuses := by decide
  have hrunningOpen : RunStatus.running ∉ terminalRunStatuses := by decide
  have hone : p.apply none e₁ = .ok (some s₁) :=
    (startEvents_carries p (by decide) rfl).opens
  have hinvariant₁ : s₁.Invariant := queuedSnapshot_invariant
  have hfollows₂ : Follows s₁ e₂ := ⟨(by decide : 1 < 2), rfl, rfl, rfl⟩
  have hupdate₂ : Update s₁ e₂ { s₁ with status := .running } := .started rfl
  have htwo : p.apply (some s₁) e₂ = .ok (some s₂) :=
    (startEvents_carries p (by decide) rfl).apply hinvariant₁ hfollows₂
      hqueuedOpen (by decide) hupdate₂ (guardTransition_of rfl)
  have hinvariant₂ : s₂.Invariant := hupdate₂.invariant hfollows₂ hinvariant₁
  have hfollows₃ : Follows s₂ e₃ := ⟨(by decide : 2 < 3), rfl, rfl, rfl⟩
  have hqueues : Queues s₂ e₃ attempt := queues_first e₃ rfl rfl rfl
  have hupdate₃ := Update.attemptQueued attempt hrunningOpen hqueues
  have hhandler₃ := applyAttemptEvent_first (s := s₂) (e := e₃) rfl rfl rfl rfl
  have hthree : p.apply (some s₂) e₃ = .ok (some s₃) :=
    (startEvents_carries p (by simp [LifecycleType.runTypes])
      (show payloadModel .attemptQueued (.obj firstAttemptPayload) =
        some (.attemptQueued firstAttempt) from validate_firstAttemptPayload)).apply hinvariant₂
      hfollows₃ hrunningOpen (by decide) hupdate₃ ((if_neg (by decide)).trans hhandler₃)
  have hinvariant₃ : s₃.Invariant := hupdate₃.invariant hfollows₃ hinvariant₂
  have hfollows₄ : Follows s₃ e₄ := ⟨(by decide : 3 < 4), rfl, rfl, rfl⟩
  have hfound : findAttempt s₃ attemptId = some attempt := by
    simp [findAttempt, hs₃, hs₂, hs₁, stamped, queuedSnapshot, hattempt, queuedAttempt]
  have hactive : ActiveAttempt s₃ attempt := ⟨hfound, rfl, (by decide : AttemptStatus.queued.unresolved)⟩
  have hfour : p.apply (some s₃) e₄ = .ok (some (stamped (movedRun s₃ attempt e₄ .running none) e₄)) :=
    (startEvents_carries p (by simp [LifecycleType.runTypes]) rfl).moves hinvariant₃
      hfollows₄ hrunningOpen hactive (by decide) (by decide)
      (transitionAttempt_eq (by decide : AttemptStatus.queued ∈ attemptStartStatuses) (by decide))
  refine ⟨stamped (movedRun s₃ attempt e₄ .running none) e₄,
    movedAttempt attempt e₄ .running none, ?_, ?_, rfl, rfl, rfl, rfl⟩
  · refine Fold.foldlM_cons_eq_ok.mpr ⟨some s₁, hone, ?_⟩
    refine Fold.foldlM_cons_eq_ok.mpr ⟨some s₂, htwo, ?_⟩
    refine Fold.foldlM_cons_eq_ok.mpr ⟨some s₃, hthree, ?_⟩
    exact Fold.foldlM_cons_eq_ok.mpr ⟨_, hfour, rfl⟩
  · simp [findAttempt, movedRun, replaced, stamped, hs₃, hs₂, hs₁, queuedSnapshot, hattempt,
      queuedAttempt, movedAttempt]

end ResearchOs.Runs
