import ResearchOs.Core.Native.Written

/-! Reports whose repetition ends nowhere. -/
namespace ResearchOs.Native

open JsonText (FloatText)
open Recovery (cancelRequested)
open Resume (Stalls)
open Runs (LifecycleType RunSnapshot AttemptSnapshot Ending)
open Storage (EventLog)
open Workers

/-- No event of the log has the identifier of the fact. -/
def Free (request : NativeRequest) (type : LifecycleType) (log : EventLog) : Prop :=
  ∀ earlier ∈ log, earlier.id.val ≠ request.remoteEventId type

section

variable {F : FloatText} {contentDigest : Json → Option String} {context : NativeContext}
  {plane : WorkerPlane} {call : OutcomeCall} {grant : GrantRecord} {request : NativeRequest}
  {log grown : EventLog} {lease : LeaseRecord} {s : RunSnapshot} {attempt : AttemptSnapshot}
  {stored : ResearchEvent} {fact : LifecycleFact} {type : LifecycleType} {visit : Visit}
  {step : OutcomeStep} {ending : Ending}

theorem Free.not_has (h : Free request fact.type log) : ¬ Has request log fact := by
  rintro ⟨stored, hstored, -⟩
  have hid : stored.id.val = request.remoteEventId fact.type := by
    simpa using List.find?_some hstored
  exact h stored (List.mem_of_find?_eq_some hstored) hid

theorem Free.concat (h : Free request type log) (hid : stored.id.val ≠ request.remoteEventId type) :
    Free request type (log ++ [stored]) := by
  intro earlier hearlier
  rcases List.mem_append.mp hearlier with hearlier | hearlier
  · exact h earlier hearlier
  · rw [List.mem_singleton.mp hearlier]
    exact hid

theorem Recording.free (h : Recording request log fact stored grown) (hfree : Free request type log)
    (hne : fact.type ≠ type) : Free request type grown := by
  rw [h.appended]
  refine hfree.concat ?_
  rw [h.id]
  exact fun hsame => hne (remoteEventId_injective hsame)

theorem FailureRecording.free
    (h : FailureRecording F contentDigest context plane call grant request log lease stored grown)
    (hfree : Free request type log) : Free request type grown := by
  rw [h.appended]
  refine hfree.concat ?_
  rw [h.id]
  exact failedEventId_ne request lease.leaseId.val type


/-! A cancellation that was asked of the attempt only. -/

/-- The run is not asked to be cancelled, though its attempt is. -/
def AskedOfAttempt (request : NativeRequest) (s : RunSnapshot) : Prop :=
  s.cancellationRequested = false ∧ cancelRequested s request.attemptId = true

theorem AskedOfAttempt.later {t : RunSnapshot} (h : AskedOfAttempt request s) (hs : s.Invariant)
    {state : Option RunSnapshot} (happly : request.projection.apply (some s) stored = .ok state)
    (hstate : state = some t) (hflag : t.cancellationRequested = s.cancellationRequested) :
    AskedOfAttempt request t := by
  obtain ⟨u, hu, hinvariant, hextends, -⟩ := Runs.apply_extends hs happly
  obtain rfl : t = u := Option.some.inj (hstate.symm.trans hu)
  exact ⟨hflag.trans h.1, Recovery.cancelRequested_extends hinvariant hextends h.2⟩

theorem AskedOfAttempt.read {requested : Bool} (h : Folds request (AskedOfAttempt request) log)
    (hread : cancellationRequested request log = .ok requested) : requested = true := by
  obtain ⟨state, hfold, hany⟩ :=
    Recovery.runCancelRequested_eq_ok.mp (fromRecovery_eq_ok.mp hread)
  obtain ⟨s, rfl, hasked⟩ := h state hfold
  rw [← hany]
  exact hasked.2

/-- The stages of a report of a cancellation that no step turns to the run. -/
structure Unasked (F : FloatText) (contentDigest : Json → Option String) (context : NativeContext)
    (plane : WorkerPlane) (call : OutcomeCall) (grant : GrantRecord) (request : NativeRequest)
    (log : EventLog) : Prop where
  names : ∃ lease, Names F contentDigest context plane call log ⟨lease, grant, request⟩
  free : Free request .runCancelled log
  asked : Folds request (AskedOfAttempt request) log

theorem Unasked.failed
    (h : Unasked F contentDigest context plane call grant request log)
    (hrecording :
      FailureRecording F contentDigest context plane call grant request log lease stored grown) :
    Unasked F contentDigest context plane call grant request grown := by
  obtain ⟨reasonCode, hnames⟩ := hrecording.names
  refine ⟨⟨_, hnames⟩, hrecording.free h.free, ?_⟩
  rw [hrecording.appended]
  refine h.asked.concat ?_
  intro s state hasked hinvariant happly
  obtain ⟨-, hstate⟩ := Runs.apply_observed_ok hrecording.belongs hrecording.observed happly
  exact ⟨_, hstate, hasked.later hinvariant happly hstate rfl⟩

theorem Unasked.settled (h : Unasked F contentDigest context plane call grant request log)
    (hrecording : Recording request log (attemptFact .cancelled) stored grown) :
    Unasked F contentDigest context plane call grant request grown := by
  obtain ⟨lease, hnames⟩ := h.names
  refine ⟨⟨lease, hrecording.names hnames⟩, hrecording.free h.free (by decide), ?_⟩
  obtain ⟨time, hsaid⟩ := hrecording.stated
  refine hrecording.concat h.asked ?_
  intro s state hasked hinvariant hbelongs hlifecycle happly
  have hid : stored.data.attemptId = some request.attemptId := hsaid.attemptId
  have hcancelled : Runs.ResearchEvent.lifecycleType? stored = some Ending.cancelled.attemptType :=
    hlifecycle
  obtain ⟨t, hstate, hsettled⟩ := Runs.apply_attempt_ok hbelongs hcancelled hid happly
  exact ⟨t, hstate, hasked.later hinvariant happly hstate hsettled.cancellation⟩

/-- The run refuses to be cancelled. -/
theorem Unasked.refused (h : Unasked F contentDigest context plane call grant request log)
    (hrecording : Recording request log (runFact .cancelled) stored grown) : False := by
  obtain ⟨t, hfold⟩ := hrecording.folds
  obtain ⟨time, hsaid⟩ := hrecording.stated
  rw [hrecording.appended] at hfold
  obtain ⟨before, hbefore, happly⟩ := Fold.foldlM_concat_eq_ok.mp hfold
  obtain ⟨s, rfl, hasked⟩ := h.asked before hbefore
  exact Runs.cancelled_refused hasked.1 hsaid.belongs hsaid.lifecycle happly

def Unheard (F : FloatText) (contentDigest : Json → Option String) (context : NativeContext)
    (plane : WorkerPlane) (call : OutcomeCall) (grant : GrantRecord) (request : NativeRequest)
    (n : Nat) (log : EventLog) : Prop :=
  n ≤ 3 ∧ Unasked F contentDigest context plane call grant request log

theorem unheard_stalls :
    Stalls (performStep F context plane call request visit)
      (headSteps .cancelled ++ endingSteps .cancelled)
      (Unheard F contentDigest context plane call grant request) where
  restarts := fun n log h => ⟨Nat.zero_le _, h.2⟩
  passes := by
    rintro n log step ⟨hn, hunasked⟩ hstep hpassed
    rcases Nat.lt_or_eq_of_le hn with hlt | rfl
    · exact ⟨hlt, hunasked⟩
    · cases hstep
      have hfree : Free request (runFact .cancelled).type log := hunasked.free
      exact absurd (appendBound_passed hpassed) hfree.not_has
  writes := by
    rintro n log grown step ⟨hn, hunasked⟩ hstep hwritten
    obtain ⟨lease, hnames⟩ := hunasked.names
    have hwrote := performStep_written hnames hwritten
    rcases (by omega : n = 0 ∨ n = 1 ∨ n = 2 ∨ n = 3) with rfl | rfl | rfl | rfl
    · cases hstep
      cases hwrote with
      | requested hrevoked hread hrecording => cases AskedOfAttempt.read hunasked.asked hread
      | failed hwhich => rcases hwhich with hwhich | hwhich <;> cases hwhich
    · cases hstep
      cases hwrote with
      | failed hwhich hrecording => exact ⟨by decide, hunasked.failed hrecording⟩
    · cases hstep
      cases hwrote with
      | recorded hrecording => exact ⟨by decide, hunasked.settled hrecording⟩
      | failed hwhich => rcases hwhich with hwhich | hwhich <;> cases hwhich
    · cases hstep
      cases hwrote with
      | recorded hrecording => exact (hunasked.refused hrecording).elim
      | failed hwhich => rcases hwhich with hwhich | hwhich <;> cases hwhich
  stops := by
    rintro log ⟨hn, -⟩
    revert hn
    decide

/-! A control plane at another revision than the run. -/

/-- The lease has still to fail, and its failure will carry another revision than the run. -/
structure Diverging (F : FloatText) (contentDigest : Json → Option String) (context : NativeContext)
    (plane : WorkerPlane) (call : OutcomeCall) (grant : GrantRecord) (request : NativeRequest)
    (ending : Ending) (log : EventLog) : Prop where
  names : ∃ lease, Names F contentDigest context plane call log ⟨lease, grant, request⟩ ∧
    lease.status = .leased
  free : Free request ending.attemptType log
  revision : Folds request (fun s => plane.experimentRevision ≠ s.experimentRevision.val) log

/-- The failure of the lease has been appended, and the run folds no more. -/
structure Diverged (F : FloatText) (contentDigest : Json → Option String) (context : NativeContext)
    (plane : WorkerPlane) (call : OutcomeCall) (grant : GrantRecord) (request : NativeRequest)
    (ending : Ending) (log : EventLog) : Prop where
  names : ∃ lease, Names F contentDigest context plane call log ⟨lease, grant, request⟩ ∧
    lease.status = .failed
  free : Free request ending.attemptType log
  unreadable : ∀ state, request.projection.fold log ≠ .ok state

theorem Diverging.failed
    (h : Diverging F contentDigest context plane call grant request ending log)
    (hrecording :
      FailureRecording F contentDigest context plane call grant request log lease stored grown) :
    Diverged F contentDigest context plane call grant request ending grown := by
  obtain ⟨reasonCode, hnames⟩ := hrecording.names
  refine ⟨⟨_, hnames, rfl⟩, hrecording.free h.free, ?_⟩
  intro state hfold
  rw [hrecording.appended] at hfold
  obtain ⟨before, hbefore, happly⟩ := Fold.foldlM_concat_eq_ok.mp hfold
  obtain ⟨s, rfl, hrevision⟩ := h.revision before hbefore
  obtain ⟨hfollows, -⟩ := Runs.apply_observed_ok hrecording.belongs hrecording.observed happly
  apply hrevision
  rw [← hrecording.revision, hfollows.revision]

theorem Diverging.requested
    (h : Diverging F contentDigest context plane call grant request ending log)
    (hrecording : Recording request log cancelFact stored grown) :
    Diverging F contentDigest context plane call grant request ending grown := by
  obtain ⟨lease, hnames, hleased⟩ := h.names
  refine ⟨⟨lease, hrecording.names hnames, hleased⟩,
    hrecording.free h.free (types_apart ending).2.1, ?_⟩
  refine hrecording.concat h.revision ?_
  intro s state hrevision hinvariant _ _ happly
  obtain ⟨t, hstate, -, hextends, -⟩ := Runs.apply_extends hinvariant happly
  refine ⟨t, hstate, ?_⟩
  rw [hextends.experimentRevision]
  exact hrevision

theorem appendWorker_ok {draft : WorkerDraft} {result : Option EventLog}
    (h : appendWorker F plane draft log = .ok result) : result ≠ none := by
  unfold appendWorker at h
  split at h
  · cases h
  · split at h
    · cases h
    · cases h
      simp

/-- The step at which the lease fails is not passed over while the lease is open. -/
theorem failing_not_passed
    (hnames : Names F contentDigest context plane call log ⟨lease, grant, request⟩)
    (hleased : lease.status = .leased) (hstep : step = .failLease ∨ step = .observeCancellation) :
    performStep F context plane call request visit step log ≠ .ok none := by
  have hauthorized := hnames.authorized
  intro h
  rcases hstep with rfl | rfl
  · simp only [performStep, performLease, hauthorized, hleased, reduceCtorEq, if_false, bind,
      Except.bind] at h
    obtain ⟨requested, -, h⟩ := Fold.bind_eq_ok.mp h
    obtain ⟨-, h⟩ := requireNative_bind_ok.mp h
    obtain ⟨claims, -, h⟩ := Fold.bind_eq_ok.mp h
    obtain ⟨_, -, h⟩ := Fold.bind_eq_ok.mp h
    exact appendWorker_ok h rfl
  · simp only [performStep, performLease, hauthorized, bind, Except.bind] at h
    obtain ⟨requested, -, h⟩ := Fold.bind_eq_ok.mp h
    obtain ⟨-, ⟨-, hobserved⟩ | ⟨-, h⟩⟩ := failObservedCancellation_ok h
    · have hfailed := hobserved.1
      rw [hleased] at hfailed
      cases hfailed
    · exact appendWorker_ok h rfl

/-- Where the lease fails, among the steps of the document. -/
def failPlace : Ending → Nat
  | .cancelled => 1
  | _ => 0

def Astray (F : FloatText) (contentDigest : Json → Option String) (context : NativeContext)
    (plane : WorkerPlane) (call : OutcomeCall) (grant : GrantRecord) (request : NativeRequest)
    (ending : Ending) (n : Nat) (log : EventLog) : Prop :=
  n ≤ failPlace ending ∧
      Diverging F contentDigest context plane call grant request ending log ∨
    n ≤ 2 ∧ Diverged F contentDigest context plane call grant request ending log

/-- No fact of the run is written after the failure. -/
theorem Diverged.unwritten
    (h : Diverged F contentDigest context plane call grant request ending log) :
    performStep F context plane call request visit step log ≠ .ok (some grown) := by
  intro hwrites
  obtain ⟨lease, hnames, hfailed⟩ := h.names
  have hrecorded : ∀ {fact : LifecycleFact} {stored : ResearchEvent},
      ¬ Recording request log fact stored grown := by
    intro fact stored hrecording
    obtain ⟨t, hfold⟩ := hrecording.folds
    rw [hrecording.appended] at hfold
    obtain ⟨before, hbefore, -⟩ := Fold.foldlM_concat_eq_ok.mp hfold
    exact h.unreadable before hbefore
  cases performStep_written hnames hwrites with
  | requested hrevoked hread hrecording => exact hrecorded hrecording
  | recorded hrecording => exact hrecorded hrecording
  | failed hstep hrecording =>
    have hleased := hrecording.leased
    rw [hfailed] at hleased
    cases hleased

theorem astray_stalls (hending : ending ≠ .succeeded) :
    Stalls (performStep F context plane call request visit)
      (headSteps ending ++ endingSteps ending)
      (Astray F contentDigest context plane call grant request ending) where
  restarts := by
    rintro n log (⟨-, h⟩ | ⟨-, h⟩)
    · exact .inl ⟨Nat.zero_le _, h⟩
    · exact .inr ⟨Nat.zero_le _, h⟩
  passes := by
    rintro n log step (⟨hn, h⟩ | ⟨hn, h⟩) hstep hpassed
    · obtain ⟨lease, hnames, hleased⟩ := h.names
      cases ending with
      | succeeded => exact absurd rfl hending
      | failed =>
        obtain rfl : n = 0 := Nat.le_zero.mp hn
        cases hstep
        exact absurd hpassed (failing_not_passed hnames hleased (.inl rfl))
      | cancelled =>
        rcases Nat.le_one_iff_eq_zero_or_eq_one.mp hn with rfl | rfl
        · exact .inl ⟨Nat.le_refl 1, h⟩
        · cases hstep
          exact absurd hpassed (failing_not_passed hnames hleased (.inr rfl))
    · rcases Nat.lt_or_eq_of_le hn with hlt | rfl
      · exact .inr ⟨hlt, h⟩
      · have hfact : step = .record (attemptFact ending) := by
          cases ending with
          | succeeded => exact absurd rfl hending
          | failed => exact (Option.some.inj hstep).symm
          | cancelled => exact (Option.some.inj hstep).symm
        have hfree := h.free
        rw [hfact] at hpassed
        rw [← attemptFact_type] at hfree
        exact absurd (appendBound_passed hpassed) hfree.not_has
  writes := by
    rintro n log grown step (⟨hn, h⟩ | ⟨hn, h⟩) hstep hwrites
    · obtain ⟨lease, hnames, hleased⟩ := h.names
      have hwrote := performStep_written hnames hwrites
      cases hwrote with
      | requested hrevoked hread hrecording =>
        cases ending with
        | succeeded => exact absurd rfl hending
        | failed =>
          obtain rfl : n = 0 := Nat.le_zero.mp hn
          cases hstep
        | cancelled =>
          rcases Nat.le_one_iff_eq_zero_or_eq_one.mp hn with rfl | rfl
          · exact .inl ⟨Nat.le_refl 1, h.requested hrecording⟩
          · cases hstep
      | recorded hrecording =>
        cases ending with
        | succeeded => exact absurd rfl hending
        | failed =>
          obtain rfl : n = 0 := Nat.le_zero.mp hn
          cases hstep
        | cancelled => rcases Nat.le_one_iff_eq_zero_or_eq_one.mp hn with rfl | rfl <;> cases hstep
      | failed hwhich hrecording =>
        refine .inr ⟨?_, h.failed hrecording⟩
        have hplace : failPlace ending ≤ 1 := by cases ending <;> decide
        omega
    · exact absurd hwrites h.unwritten
  stops := by
    rintro log (⟨hn, -⟩ | ⟨hn, -⟩)
    · revert hn
      cases ending <;> decide
    · revert hn hending
      cases ending <;> decide

end

end ResearchOs.Native
