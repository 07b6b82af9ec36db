import ResearchOs.Core.Runs.Safety

/-! What is enough for a lifecycle event to be accepted. -/
namespace ResearchOs.Runs

variable {p : RunStateProjection} {s u : RunSnapshot} {e : ResearchEvent} {type : LifecycleType}
  {attemptId : Option EventIdentifier} {payload : LifecyclePayload} {attempt : AttemptSnapshot}

theorem guardTransition_of {α : Type} {condition : Prop} [Decidable condition] {message : String}
    {k : Unit → Except RunError α} (h : condition) :
    guardTransition e condition message >>= k = k () := by
  simp [guardTransition, h, bind, Except.bind]

theorem requireCursorAndBinding_of (hf : Follows s e) : requireCursorAndBinding s e = .ok () := by
  rw [requireCursorAndBinding, guardTransition_of hf.cursor, guardTransition_of hf.revision,
    guardTransition, if_pos ⟨hf.projectId, hf.runId⟩]

theorem mem_attemptTypes : type ∈ LifecycleType.attemptTypes ↔ type ∉ LifecycleType.runTypes := by
  cases type <;> decide

/-- A well-formed lifecycle event of one run. -/
structure Carries (p : RunStateProjection) (e : ResearchEvent) (type : LifecycleType)
    (attemptId : Option EventIdentifier) (payload : LifecyclePayload) : Prop where
  belongs : belongs e p.projectId p.runId = true
  lifecycle : ResearchEvent.lifecycleType? e = some type
  block : e.data.blockId = none
  attempt : e.data.attemptId = attemptId
  envelope : attemptId = none ↔ type ∈ LifecycleType.runTypes
  parsed : payloadModel type (.obj e.data.payload) = some payload

theorem Carries.requireEnvelope (h : Carries p e type attemptId payload) :
    requireLifecycleEnvelope type e = .ok () := by
  rw [requireLifecycleEnvelope, guardTransition_of h.block, guardTransition_of, guardTransition,
    if_pos]
  · rw [mem_attemptTypes, ← h.envelope, h.attempt]
    simp
  · rw [← h.envelope, h.attempt]
    simp

/-- An event that follows an open run reaches the handler of its type, and an update that the
handler hands over is accepted. -/
theorem Carries.apply (h : Carries p e type attemptId payload) (hs : s.Invariant)
    (hf : Follows s e) (ht : s.status ∉ terminalRunStatuses) (hreview : type ≠ .runReviewed)
    (hu : Update s e u)
    (hhandler : (if type ∈ LifecycleType.runTypes then applyRunEvent type s e
      else applyAttemptEvent type s e payload) = stamp u e) :
    p.apply (some s) e = .ok (some (stamped u e)) := by
  have hpayload : parseLifecyclePayload type e = .ok payload := by
    unfold parseLifecyclePayload
    rw [h.parsed]
  simp only [RunStateProjection.apply, if_pos h.belongs, h.lifecycle,
    RunStateProjection.applyLifecycle, h.requireEnvelope, hpayload,
    requireCursorAndBinding_of hf, if_neg hreview]
  have hstamp := stamp_of_invariant (hu.invariant hf hs)
  change some <$> (guardTransition _ _ _ >>= fun _ => _) = _
  rw [guardTransition_of ht, hhandler, hstamp]
  rfl

/-- A `run.queued` event opens its run. -/
theorem Carries.opens {payload : RunQueuedPayload}
    (h : Carries p e .runQueued none (.runQueued payload)) :
    p.apply none e = .ok (some (queuedSnapshot e payload p.runId)) := by
  have hpayload : parseLifecyclePayload .runQueued e = .ok (.runQueued payload) := by
    unfold parseLifecyclePayload
    rw [h.parsed]
  have hrun : e.data.runId = some p.runId := (belongs_iff.mp h.belongs).2
  have haccepted : assertRunSnapshotInvariants (queuedSnapshot e payload p.runId) = .ok () :=
    queuedSnapshot_invariant.accepted
  have hreview : reviewFieldsAreConsistent (queuedSnapshot e payload p.runId).review = .ok () := rfl
  have hfirst : applyFirst .runQueued e (.runQueued payload) =
      .ok (queuedSnapshot e payload p.runId) := by
    rw [applyFirst, guardTransition_of (by rfl)]
    simp only [hrun, haccepted, hreview, validated, bind, Except.bind]
  simp only [RunStateProjection.apply, if_pos h.belongs, h.lifecycle,
    RunStateProjection.applyLifecycle, h.requireEnvelope, hpayload, bind, Except.bind, hfirst]
  rfl

/-! A move of the active attempt. -/

def movedAttempt (attempt : AttemptSnapshot) (e : ResearchEvent) (status : AttemptStatus)
    (hint : Option RetryHint) : AttemptSnapshot :=
  { attempt with
    status := status
    lastEventId := e.id
    lastSequence := e.sequence
    retryHint := hint <|> attempt.retryHint }

def movedRun (s : RunSnapshot) (attempt : AttemptSnapshot) (e : ResearchEvent)
    (status : AttemptStatus) (hint : Option RetryHint) : RunSnapshot :=
  { s with
    status := status.runStatus
    activeAttemptId := if status.unresolved then some attempt.attemptId else none
    attempts := replaced s.attempts (movedAttempt attempt e status hint) }

theorem movedAttempt_moves {status : AttemptStatus} {hint : Option RetryHint}
    (hfailed : hint.isSome ↔ status = .failed) :
    Moves e attempt (movedAttempt attempt e status hint) := by
  refine ⟨rfl, rfl, rfl, rfl, id, ?_, ?_, rfl, rfl, .inl rfl⟩
  · intro h
    obtain ⟨hint, rfl⟩ := Option.isSome_iff_exists.mp (hfailed.mpr h)
    rfl
  · intro h
    have hnone : hint = none := by
      by_contra hne
      exact h (hfailed.mp (Option.isSome_iff_ne_none.mpr hne))
    simp [movedAttempt, hnone]

theorem movedRun_update {status : AttemptStatus} {hint : Option RetryHint}
    (ht : s.status ∉ terminalRunStatuses) (ha : ActiveAttempt s attempt)
    (hfailed : hint.isSome ↔ status = .failed) : Update s e (movedRun s attempt e status hint) :=
  .attemptMoved ht ha (movedAttempt_moves hfailed) (.inl rfl)

theorem transitionAttempt_eq {allowed : List AttemptStatus} {status : AttemptStatus}
    {settles : Bool} {hint : Option RetryHint} (h : attempt.status ∈ allowed)
    (hsettles : settles = false ↔ status.unresolved) :
    transitionAttempt s e attempt allowed status status.runStatus settles hint =
      stamp (movedRun s attempt e status hint) e := by
  have hnext : (if settles then none else some attempt.attemptId) =
      if status.unresolved then some attempt.attemptId else none := by
    cases settles <;> simp_all
  rw [transitionAttempt, guardTransition_of h, hnext]
  rfl

theorem not_terminal_of_unresolved {status : AttemptStatus} (h : status.unresolved) :
    status ∉ terminalAttemptStatuses := by
  cases status <;> first | decide | exact absurd h (by decide)

/-- An event of the active attempt reaches the handler of the attempt. -/
theorem applyAttemptEvent_active (ha : ActiveAttempt s attempt)
    (hid : e.data.attemptId = some attempt.attemptId) (hqueued : type ≠ .attemptQueued) :
    applyAttemptEvent type s e payload = applyActiveAttemptEvent type s e payload attempt := by
  have hfound : ∀ existing ∈ findAttempt s attempt.attemptId,
      existing.status ∉ terminalAttemptStatuses := by
    intro existing hexisting
    rw [ha.found] at hexisting
    rw [← Option.some.inj hexisting]
    exact not_terminal_of_unresolved ha.unresolved
  unfold applyAttemptEvent
  rw [hid]
  dsimp only
  rw [if_neg hqueued, guardTransition_of hfound, guardTransition_of ha.active, ha.found]

/-- A move of the active attempt is accepted when its handler makes it. -/
theorem Carries.moves {status : AttemptStatus} {hint : Option RetryHint}
    (h : Carries p e type (some attempt.attemptId) payload) (hs : s.Invariant) (hf : Follows s e)
    (ht : s.status ∉ terminalRunStatuses) (ha : ActiveAttempt s attempt)
    (hqueued : type ≠ .attemptQueued) (hfailed : hint.isSome ↔ status = .failed)
    (hhandler : applyActiveAttemptEvent type s e payload attempt =
      stamp (movedRun s attempt e status hint) e) :
    p.apply (some s) e = .ok (some (stamped (movedRun s attempt e status hint) e)) := by
  have htype : type ∉ LifecycleType.runTypes := by
    rw [← h.envelope]
    simp
  have hreview : type ≠ .runReviewed := by
    rintro rfl
    exact htype (by decide)
  refine h.apply hs hf ht hreview (movedRun_update ht ha hfailed) ?_
  rw [if_neg htype, applyAttemptEvent_active ha h.attempt hqueued, hhandler]

end ResearchOs.Runs
