import ResearchOs.Core.Runs.Invariant

/-! What an event that passes its handler's guards can do to a run snapshot. -/
namespace ResearchOs.Runs

/-- The event follows the snapshot: a later cursor under the same binding. -/
structure Follows (s : RunSnapshot) (e : ResearchEvent) : Prop where
  cursor : s.lastSequence.val < e.sequence.val
  revision : e.data.experimentRevision = s.experimentRevision
  projectId : e.data.projectId = s.projectId
  runId : e.data.runId = some s.runId

/-- The attempt an attempt event may act on. -/
structure ActiveAttempt (s : RunSnapshot) (attempt : AttemptSnapshot) : Prop where
  found : findAttempt s attempt.attemptId = some attempt
  active : s.activeAttemptId = some attempt.attemptId
  unresolved : attempt.status.unresolved

/-- What one event may change in the record of an attempt. -/
structure Moves (e : ResearchEvent) (attempt moved : AttemptSnapshot) : Prop where
  attemptId : moved.attemptId = attempt.attemptId
  ordinal : moved.ordinal = attempt.ordinal
  retryOf : moved.retryOf = attempt.retryOf
  retryDecisionId : moved.retryDecisionId = attempt.retryDecisionId
  cancellation : attempt.cancellationRequested = true → moved.cancellationRequested = true
  failed : moved.status = .failed → moved.retryHint.isSome
  hint : moved.status ≠ .failed → moved.retryHint = attempt.retryHint
  event : moved.lastEventId = e.id
  cursor : moved.lastSequence = e.sequence
  heartbeat : moved.lastHeartbeatSequence = attempt.lastHeartbeatSequence ∨
    moved.lastHeartbeatSequence = some e.sequence

/-- When a run may be closed with a terminal status. -/
inductive Closes (s : RunSnapshot) : RunStatus → Prop
  | completed (h : latestSettledAs s .succeeded) : Closes s .completed
  | failed (h : latestSettledAs s .failed) : Closes s .failed
  | cancelled (hr : s.cancellationRequested = true) (hu : unresolvedAttempt s = none)
      (hl : ∀ latest ∈ latestAttempt s, latest.status = .cancelled) : Closes s .cancelled

/-- When an attempt may be queued, and what its first record holds. -/
structure Queues (s : RunSnapshot) (e : ResearchEvent) (attempt : AttemptSnapshot) : Prop where
  started : s.status ≠ .queued
  uncancelled : s.cancellationRequested = false
  settled : unresolvedAttempt s = none
  fresh : findAttempt s attempt.attemptId = none
  budget : s.attempts.length < s.maxAttempts.val
  consistent : attempt.Consistent
  first : latestAttempt s = none → attempt.ordinal.val = 1
  link : ∀ latest ∈ latestAttempt s, latest.status = .failed ∧
    attempt.retryOf = some latest.attemptId ∧ attempt.retryDecisionId.isSome ∧
    attempt.ordinal.val = latest.ordinal.val + 1
  status : attempt.status = .queued
  event : attempt.lastEventId = e.id
  cursor : attempt.lastSequence = e.sequence

def replaced (attempts : List AttemptSnapshot) (attempt : AttemptSnapshot) : List AttemptSnapshot :=
  attempts.map fun item => if item.attemptId = attempt.attemptId then attempt else item

/-- The updates the handlers hand over to `_stamp`, with the guards they stand behind. -/
inductive Update (s : RunSnapshot) (e : ResearchEvent) : RunSnapshot → Prop
  | observed : Update s e s
  | started (h : s.status = .queued) : Update s e { s with status := .running }
  | cancelRequested (h : s.status ∉ terminalRunStatuses) :
      Update s e { s with cancellationRequested := true }
  | closed {status : RunStatus} (ht : s.status ∉ terminalRunStatuses) (h : Closes s status) :
      Update s e { s with status := status, activeAttemptId := none }
  | reviewed (decisionId : EventIdentifier) (ht : s.status ∈ terminalRunStatuses)
      (h : s.review.reviewed = false) :
      Update s e { s with review := ⟨true, some e.id, some e.sequence, some decisionId⟩ }
  | attemptQueued (attempt : AttemptSnapshot) (ht : s.status ∉ terminalRunStatuses)
      (h : Queues s e attempt) :
      Update s e
        { s with
          status := .running
          activeAttemptId := some attempt.attemptId
          attempts := s.attempts ++ [attempt] }
  | attemptMoved {attempt moved : AttemptSnapshot} {status : RunStatus}
      (ht : s.status ∉ terminalRunStatuses) (ha : ActiveAttempt s attempt)
      (h : Moves e attempt moved) (hs : status = moved.status.runStatus ∨
        moved.status = attempt.status ∧ status = s.status) :
      Update s e
        { s with
          status := status
          activeAttemptId := if moved.status.unresolved then some attempt.attemptId else none
          attempts := replaced s.attempts moved }

/-- A handler either rejects the event at one of its guards or hands an update to `_stamp`. -/
inductive Outcome (s : RunSnapshot) (e : ResearchEvent) : Except RunError RunSnapshot → Prop
  | transition (message : String) : Outcome s e (.error (.transition message))
  | payload (message : String) : Outcome s e (.error (.payload message))
  | stamped {u : RunSnapshot} (h : Update s e u) : Outcome s e (stamp u e)

variable {s : RunSnapshot} {e : ResearchEvent}

/-- A guard either rejects with a transition error or lets the handler go on. -/
theorem guardTransition_elim {α : Type} {P : Except RunError α → Prop} {condition : Prop}
    [Decidable condition] {message : String} {k : Unit → Except RunError α}
    (herror : ∀ label, P (.error (.transition label))) (h : condition → P (k ())) :
    P (guardTransition e condition message >>= k) := by
  by_cases hc : condition
  · simpa [guardTransition, hc, bind, Except.bind] using h hc
  · simpa [guardTransition, transitionError, hc, bind, Except.bind] using herror _

theorem requireCursorAndBinding_elim {α : Type} {P : Except RunError α → Prop}
    {k : Unit → Except RunError α} (herror : ∀ label, P (.error (.transition label)))
    (h : Follows s e → P (k ())) : P (requireCursorAndBinding s e >>= k) := by
  simp only [requireCursorAndBinding, bind_assoc]
  apply guardTransition_elim herror
  intro hc
  apply guardTransition_elim herror
  intro hr
  apply guardTransition_elim herror
  intro hb
  exact h ⟨hc, hr, hb.1, hb.2⟩

theorem Outcome.guardTransition {condition : Prop} [Decidable condition] {message : String}
    {k : Unit → Except RunError RunSnapshot} (h : condition → Outcome s e (k ())) :
    Outcome s e (guardTransition e condition message >>= k) :=
  guardTransition_elim Outcome.transition h

theorem Outcome.validated {check : Except String Unit}
    {k : Unit → Except RunError RunSnapshot} (hc : check = .ok ()) (h : Outcome s e (k ())) :
    Outcome s e (validated check >>= k) := by
  simpa [Runs.validated, hc, bind, Except.bind] using h

theorem applyRunEvent_outcome {type : LifecycleType} (ht : s.status ∉ terminalRunStatuses) :
    Outcome s e (applyRunEvent type s e) := by
  cases type with
  | runStarted =>
    apply Outcome.guardTransition
    intro h
    exact .stamped (.started h)
  | runCancelRequested =>
    apply Outcome.guardTransition
    intro _
    exact .stamped (.cancelRequested ht)
  | runCompleted =>
    apply Outcome.guardTransition
    intro h
    exact .stamped (.closed ht (.completed h))
  | runFailed =>
    apply Outcome.guardTransition
    intro h
    exact .stamped (.closed ht (.failed h))
  | runCancelled =>
    apply Outcome.guardTransition
    intro hr
    apply Outcome.guardTransition
    intro hu
    apply Outcome.guardTransition
    intro hl
    exact .stamped (.closed ht (.cancelled hr hu hl))
  | _ => exact .transition _

theorem applyRunReviewed_outcome {payload : LifecyclePayload} :
    Outcome s e (applyRunReviewed s e payload) := by
  apply Outcome.guardTransition
  intro ht
  apply Outcome.guardTransition
  intro hr
  cases payload with
  | runReviewed decisionId =>
    apply Outcome.validated (by simp [reviewFieldsAreConsistent])
    exact .stamped (.reviewed decisionId ht hr)
  | _ => exact .payload _

theorem AttemptStatus.unresolved.ne_failed {status : AttemptStatus} (h : status.unresolved) :
    status ≠ .failed := by
  intro hf
  subst hf
  exact absurd h (by decide)

theorem unresolved_of_not_terminal {status : AttemptStatus}
    (h : status ∉ terminalAttemptStatuses) : status.unresolved := by
  cases status <;> first | decide | exact absurd (by decide) h

theorem AttemptOrdinal.pos (ordinal : AttemptOrdinal) : 1 ≤ ordinal.val :=
  (inRange_iff.mp ordinal.property).1

theorem queuedAttempt_outcome {payload : AttemptQueuedPayload} {attemptId : EventIdentifier}
    (ht : s.status ∉ terminalRunStatuses) (h : Queues s e (queuedAttempt e payload attemptId)) :
    Outcome s e (do
      validated (attemptFieldsAreConsistent (queuedAttempt e payload attemptId))
      stamp { s with
        status := .running
        activeAttemptId := some attemptId
        attempts := s.attempts ++ [queuedAttempt e payload attemptId] } e) := by
  apply Outcome.validated (attemptFieldsAreConsistent_iff.mpr h.consistent)
  exact .stamped (.attemptQueued _ ht h)

theorem applyAttemptQueued_outcome {payload : LifecyclePayload} {attemptId : EventIdentifier}
    (ht : s.status ∉ terminalRunStatuses) :
    Outcome s e (applyAttemptQueued s e payload attemptId) := by
  cases payload with
  | attemptQueued payload =>
    apply Outcome.guardTransition
    intro hstarted
    apply Outcome.guardTransition
    intro huncancelled
    apply Outcome.guardTransition
    intro _
    apply Outcome.guardTransition
    intro hsettled
    apply Outcome.guardTransition
    intro hfresh
    apply Outcome.guardTransition
    intro hbudget
    cases hl : latestAttempt s with
    | none =>
      apply Outcome.guardTransition
      intro hfirst
      apply Outcome.guardTransition
      intro _
      apply queuedAttempt_outcome ht
      have hconsistent : (queuedAttempt e payload attemptId).Consistent :=
        ⟨fun _ => hfirst.2, fun hne => absurd hfirst.1 hne, by simp [queuedAttempt],
          by simp [queuedAttempt, cursorWithin]⟩
      exact ⟨hstarted, huncancelled, hsettled, hfresh, hbudget, hconsistent, fun _ => hfirst.1,
        by simp [hl], rfl, rfl, rfl⟩
    | some latest =>
      apply Outcome.guardTransition
      intro hfailed
      apply Outcome.guardTransition
      intro hordinal
      apply Outcome.guardTransition
      intro hretryOf
      apply Outcome.guardTransition
      intro hdecision
      apply queuedAttempt_outcome ht
      have hlater : (queuedAttempt e payload attemptId).ordinal.val ≠ 1 := by
        have := latest.ordinal.pos
        simp only [queuedAttempt]
        omega
      have hdecision := Option.isSome_iff_ne_none.mpr hdecision
      have hconsistent : (queuedAttempt e payload attemptId).Consistent :=
        ⟨fun hone => absurd hone hlater, fun _ => ⟨by simp [queuedAttempt, hretryOf], hdecision⟩,
          by simp [queuedAttempt], by simp [queuedAttempt, cursorWithin]⟩
      refine ⟨hstarted, huncancelled, hsettled, hfresh, hbudget, hconsistent, by simp [hl], ?_,
        rfl, rfl, rfl⟩
      intro latest' hl'
      obtain rfl : latest = latest' := by simpa [hl] using hl'
      exact ⟨hfailed, hretryOf, hdecision, hordinal⟩
  | _ => exact .payload _

theorem transitionAttempt_outcome {attempt : AttemptSnapshot} {allowed : List AttemptStatus}
    {status : AttemptStatus} {settles : Bool} {hint : Option RetryHint}
    (ht : s.status ∉ terminalRunStatuses) (ha : ActiveAttempt s attempt)
    (hsettles : settles = false ↔ status.unresolved)
    (hfailed : hint.isSome ↔ status = .failed) :
    Outcome s e
      (transitionAttempt s e attempt allowed status status.runStatus settles hint) := by
  apply Outcome.guardTransition
  intro _
  have hmoves : Moves e attempt
      { attempt with
        status := status
        lastEventId := e.id
        lastSequence := e.sequence
        retryHint := hint <|> attempt.retryHint } := by
    constructor <;> try rfl
    · exact id
    · intro h
      obtain ⟨hint, rfl⟩ := Option.isSome_iff_exists.mp (hfailed.mpr h)
      rfl
    · intro h
      have hnone : hint = none := by
        by_contra hne
        exact h (hfailed.mp (Option.isSome_iff_ne_none.mpr hne))
      simp [hnone]
    · exact .inl rfl
  have hupdate := Update.attemptMoved ht ha hmoves (.inl rfl)
  have hnext : (if settles then none else some attempt.attemptId) =
      if status.unresolved then some attempt.attemptId else none := by
    cases settles <;> simp_all
  simp only [replaceAttempt, hnext]
  exact .stamped hupdate

/-- A change that leaves the attempt open, and the run status alone. -/
theorem replaceAttempt_outcome {attempt moved : AttemptSnapshot}
    (ht : s.status ∉ terminalRunStatuses) (ha : ActiveAttempt s attempt)
    (h : Moves e attempt moved) (hs : moved.status = attempt.status) :
    Outcome s e (replaceAttempt s e moved) := by
  have hupdate := Update.attemptMoved ht ha h (.inr ⟨hs, rfl⟩)
  rw [hs, if_pos ha.unresolved, ← ha.active] at hupdate
  exact .stamped hupdate

theorem applyActiveAttemptEvent_outcome {type : LifecycleType} {payload : LifecyclePayload}
    {attempt : AttemptSnapshot} (ht : s.status ∉ terminalRunStatuses)
    (ha : ActiveAttempt s attempt) :
    Outcome s e (applyActiveAttemptEvent type s e payload attempt) := by
  cases type with
  | attemptStarted => exact transitionAttempt_outcome ht ha (by decide) (by decide)
  | attemptHeartbeat =>
    apply Outcome.guardTransition
    intro _
    exact replaceAttempt_outcome ht ha
      ⟨rfl, rfl, rfl, rfl, id, fun h => absurd h ha.unresolved.ne_failed, fun _ => rfl, rfl, rfl,
        .inr rfl⟩ rfl
  | attemptCancelRequested =>
    apply Outcome.guardTransition
    intro _
    exact replaceAttempt_outcome ht ha
      ⟨rfl, rfl, rfl, rfl, fun _ => rfl, fun h => absurd h ha.unresolved.ne_failed, fun _ => rfl,
        rfl, rfl, .inl rfl⟩ rfl
  | attemptUnknown => exact transitionAttempt_outcome ht ha (by decide) (by decide)
  | attemptLost => exact transitionAttempt_outcome ht ha (by decide) (by decide)
  | attemptRecovered => exact transitionAttempt_outcome ht ha (by decide) (by decide)
  | attemptSucceeded => exact transitionAttempt_outcome ht ha (by decide) (by decide)
  | attemptFailed =>
    cases payload with
    | attemptFailed _ hint => exact transitionAttempt_outcome ht ha (by decide) (by simp)
    | _ => exact .payload _
  | attemptCancelled =>
    apply Outcome.guardTransition
    intro _
    exact transitionAttempt_outcome ht ha (by decide) (by decide)
  | _ => exact .transition _

theorem applyAttemptEvent_outcome {type : LifecycleType} {payload : LifecyclePayload}
    (ht : s.status ∉ terminalRunStatuses) :
    Outcome s e (applyAttemptEvent type s e payload) := by
  unfold applyAttemptEvent
  cases e.data.attemptId with
  | none => exact .transition _
  | some attemptId =>
    dsimp only
    by_cases hq : type = .attemptQueued
    · rw [if_pos hq]
      exact applyAttemptQueued_outcome ht
    · rw [if_neg hq]
      apply Outcome.guardTransition
      intro hopen
      apply Outcome.guardTransition
      intro hactive
      cases hf : findAttempt s attemptId with
      | none => exact .transition _
      | some attempt =>
        have hid : attempt.attemptId = attemptId := by
          simpa using List.find?_some hf
        subst hid
        have hunresolved : attempt.status.unresolved := by
          exact unresolved_of_not_terminal (hopen attempt (by simp [hf]))
        exact applyActiveAttemptEvent_outcome ht ⟨hf, hactive, hunresolved⟩

/-! Every update keeps the invariant. -/

namespace Linked

variable {attempts earlier : List AttemptSnapshot} {attempt moved : AttemptSnapshot}

theorem eq_concat_of_unresolved (h : Linked attempts) (ha : attempt ∈ attempts)
    (hu : attempt.status.unresolved) : ∃ earlier, attempts = earlier ++ [attempt] := by
  rcases List.eq_nil_or_concat attempts with rfl | ⟨earlier, latest, rfl⟩
  · simp at ha
  · rw [List.concat_eq_append] at ha h ⊢
    rcases List.mem_append.mp ha with ha | ha
    · have := RetryLink.dropLast_failed h.chain attempt (by simpa using ha)
      exact absurd this hu.ne_failed
    · obtain rfl := List.mem_singleton.mp ha
      exact ⟨earlier, rfl⟩

theorem not_mem_of_concat (h : Linked (earlier ++ [attempt])) :
    ∀ a ∈ earlier, a.attemptId ≠ attempt.attemptId := by
  have hids := h.ids
  simp only [List.map_append, List.nodup_append, List.map_cons, List.map_nil] at hids
  intro a ha
  exact hids.2.2 _ (List.mem_map_of_mem ha) _ List.mem_cons_self

theorem replaced_concat (h : Linked (earlier ++ [attempt]))
    (hid : moved.attemptId = attempt.attemptId) :
    replaced (earlier ++ [attempt]) moved = earlier ++ [moved] := by
  have hearlier : replaced earlier moved = earlier := by
    refine Eq.trans (List.map_congr_left ?_) (List.map_id earlier)
    intro a ha
    rw [id_eq, if_neg]
    rw [hid]
    exact h.not_mem_of_concat a ha
  have hlatest : replaced [attempt] moved = [moved] := by simp [replaced, hid]
  rw [replaced, List.map_append, ← replaced, ← replaced, hearlier, hlatest]

/-- A retry chain grows by an attempt that links to the latest one. -/
theorem concat (h : Linked earlier) (hc : moved.Consistent)
    (hfresh : ∀ a ∈ earlier, a.attemptId ≠ moved.attemptId)
    (hfirst : earlier = [] → moved.ordinal.val = 1)
    (hlink : ∀ a ∈ earlier.getLast?, RetryLink a moved) : Linked (earlier ++ [moved]) := by
  refine ⟨?_, ?_, ?_, ?_⟩
  · intro a ha
    rcases List.mem_append.mp ha with ha | ha
    · exact h.consistent a ha
    · rw [List.mem_singleton.mp ha]
      exact hc
  · intro a ha
    cases earlier with
    | nil =>
      obtain rfl : moved = a := by simpa using ha
      exact hfirst rfl
    | cons first rest => exact h.first a (by simpa using ha)
  · rw [List.isChain_append]
    refine ⟨h.chain, .singleton _, ?_⟩
    intro a ha b hb
    obtain rfl : moved = b := by simpa using hb
    exact hlink a ha
  · rw [List.map_append, List.nodup_append]
    refine ⟨h.ids, List.nodup_singleton _, ?_⟩
    intro x hx y hy
    obtain ⟨a, ha, rfl⟩ := List.mem_map.mp hx
    obtain rfl : y = moved.attemptId := by simpa using hy
    exact hfresh a ha

theorem earlier_of_concat (h : Linked (earlier ++ [attempt])) : Linked earlier := by
  refine ⟨fun a ha => h.consistent a (List.mem_append_left _ ha), ?_, h.chain.left_of_append, ?_⟩
  · intro a ha
    cases earlier with
    | nil => simp at ha
    | cons first rest => exact h.first a (by simpa using ha)
  · have hids := h.ids
    rw [List.map_append, List.nodup_append] at hids
    exact hids.1

end Linked

theorem Moves.consistent {attempt moved : AttemptSnapshot} (h : Moves e attempt moved)
    (hu : attempt.status.unresolved) (hc : attempt.Consistent)
    (hcursor : attempt.lastSequence.val ≤ e.sequence.val) : moved.Consistent := by
  refine ⟨?_, ?_, ?_, ?_⟩
  · rw [h.ordinal, h.retryOf, h.retryDecisionId]
    exact hc.first
  · rw [h.ordinal, h.retryOf, h.retryDecisionId]
    exact hc.retry
  · constructor
    · intro hsome
      by_contra hne
      rw [h.hint hne] at hsome
      exact hu.ne_failed (hc.hint.mp hsome)
    · exact h.failed
  · intro c hb
    rw [h.cursor]
    rcases h.heartbeat with hold | hnew
    · rw [hold] at hb
      exact le_trans (hc.heartbeat c hb) hcursor
    · rw [hnew] at hb
      obtain rfl : e.sequence = c := by simpa using hb
      exact le_refl _

namespace RunSnapshot.Invariant

theorem unreviewed (h : s.Invariant) (ht : s.status ∉ terminalRunStatuses) :
    s.review.reviewed = false := by
  cases hr : s.review.reviewed with
  | false => rfl
  | true => exact absurd (h.reviewStatus hr) ht

theorem unreviewed_sequence (h : s.Invariant) (hr : s.review.reviewed = false) :
    s.review.sequence = none := by
  have hfields := h.reviewFields
  simp only [reviewFieldsAreConsistent, hr, Bool.false_eq_true, if_false, require_eq_ok] at hfields
  exact hfields.2.1

theorem active_eq (h : s.Invariant) :
    s.activeAttemptId = (unresolvedAttempt s).map (·.attemptId) := by
  rw [unresolvedAttempt, h.unresolved, h.active]
  cases s.attempts.getLast?.filter (·.status.unresolved) <;> rfl

/-- The parts of the invariant an update of the attempts or of the status must re-establish. -/
theorem update (h : s.Invariant) (hf : Follows s e) {status : RunStatus} {flag : Bool}
    {active : Option EventIdentifier} {attempts : List AttemptSnapshot}
    (ht : s.status ∉ terminalRunStatuses) (hlinked : Linked attempts)
    (hbudget : attempts.length ≤ s.maxAttempts.val)
    (hactive : active = (attempts.getLast?.filter (·.status.unresolved)).map (·.attemptId))
    (hstatus : status.admits flag (attempts.getLast?.map (·.status)))
    (hcursor : ∀ a ∈ attempts, a ∈ s.attempts ∨ a.lastSequence = e.sequence) :
    (stamped { s with
      status := status
      cancellationRequested := flag
      activeAttemptId := active
      attempts := attempts } e).Invariant := by
  have hr := h.unreviewed ht
  refine ⟨hlinked, hbudget, hactive, hstatus, ?_, h.reviewFields, ?_, ?_⟩
  · intro a ha
    rcases hcursor a ha with hold | hnew
    · exact le_trans (h.cursor a hold) (Nat.le_of_lt hf.cursor)
    · rw [hnew]
      exact le_refl _
  · intro hreviewed
    exact absurd hreviewed (by simp [stamped, hr])
  · simp [stamped, cursorWithin, h.unreviewed_sequence hr]

theorem observed (h : s.Invariant) (hf : Follows s e) : (stamped s e).Invariant := by
  have hle := Nat.le_of_lt hf.cursor
  refine ⟨h.linked, h.budget, h.active, h.status, ?_, h.reviewFields, h.reviewStatus, ?_⟩
  · intro a ha
    exact le_trans (h.cursor a ha) hle
  · intro c hc
    exact le_trans (h.reviewCursor c hc) hle

theorem closed (h : s.Invariant) (hf : Follows s e) (ht : s.status ∉ terminalRunStatuses)
    {status : RunStatus} (hc : Closes s status) :
    (stamped { s with status := status, activeAttemptId := none } e).Invariant := by
  have hunresolved : unresolvedAttempt s = none := by
    cases hc with
    | completed h => exact h.2
    | failed h => exact h.2
    | cancelled _ hu _ => exact hu
  have hactive : none = (s.attempts.getLast?.filter (·.status.unresolved)).map (·.attemptId) := by
    rw [← h.active, h.active_eq, hunresolved]
    rfl
  have hstatus : status.admits s.cancellationRequested (s.attempts.getLast?.map (·.status)) := by
    cases hc with
    | completed h => exact h.1
    | failed h => exact h.1
    | cancelled hr _ hl =>
      refine ⟨hr, ?_⟩
      intro l hlatest
      obtain ⟨latest, hmem, rfl⟩ := Option.map_eq_some_iff.mp hlatest
      exact hl latest hmem
  exact h.update hf ht h.linked h.budget hactive hstatus fun a ha => .inl ha

theorem attemptQueued (h : s.Invariant) (hf : Follows s e) (ht : s.status ∉ terminalRunStatuses)
    {attempt : AttemptSnapshot} (hq : Queues s e attempt) :
    (stamped { s with
      status := .running
      activeAttemptId := some attempt.attemptId
      attempts := s.attempts ++ [attempt] } e).Invariant := by
  have hlinked : Linked (s.attempts ++ [attempt]) := by
    apply h.linked.concat hq.consistent
    · intro a ha hid
      have := List.find?_eq_none.mp hq.fresh a ha
      simp [hid] at this
    · intro hnil
      exact hq.first (by simp [latestAttempt, hnil])
    · intro latest hl
      obtain ⟨hfailed, hretryOf, hdecision, hordinal⟩ := hq.link latest hl
      refine ⟨hfailed, hretryOf, hdecision, hordinal, ?_⟩
      rw [hq.cursor]
      exact lt_of_le_of_lt (h.cursor latest (List.mem_of_getLast? hl)) hf.cursor
  apply h.update hf ht hlinked
  · simpa using Nat.succ_le_of_lt hq.budget
  · simp [Option.filter, hq.status, AttemptStatus.unresolved, unresolvedAttemptStatuses]
  · simp [hq.status, RunStatus.admits, AttemptStatus.runStatus]
  · intro a ha
    rcases List.mem_append.mp ha with ha | ha
    · exact .inl ha
    · rw [List.mem_singleton.mp ha]
      exact .inr hq.cursor

theorem runStatus_admits {status : AttemptStatus} {flag : Bool} :
    status.runStatus.admits flag (some status) := by
  cases status <;> simp [AttemptStatus.runStatus, RunStatus.admits]

theorem attemptMoved (h : s.Invariant) (hf : Follows s e) (ht : s.status ∉ terminalRunStatuses)
    {attempt moved : AttemptSnapshot} {status : RunStatus} (ha : ActiveAttempt s attempt)
    (hm : Moves e attempt moved) (hs : status = moved.status.runStatus ∨
      moved.status = attempt.status ∧ status = s.status) :
    (stamped { s with
      status := status
      activeAttemptId := if moved.status.unresolved then some attempt.attemptId else none
      attempts := replaced s.attempts moved } e).Invariant := by
  have hmem : attempt ∈ s.attempts := List.mem_of_find?_eq_some ha.found
  obtain ⟨earlier, heq⟩ := h.linked.eq_concat_of_unresolved hmem ha.unresolved
  have hold : Linked (earlier ++ [attempt]) := heq ▸ h.linked
  have hcursor := Nat.le_of_lt (lt_of_le_of_lt (h.cursor attempt hmem) hf.cursor)
  have hnew : replaced s.attempts moved = earlier ++ [moved] := by
    rw [heq]
    exact hold.replaced_concat hm.attemptId
  have hlinked : Linked (earlier ++ [moved]) := by
    apply hold.earlier_of_concat.concat
    · exact hm.consistent ha.unresolved (h.linked.consistent attempt hmem) hcursor
    · rw [hm.attemptId]
      exact hold.not_mem_of_concat
    · intro hnil
      subst hnil
      rw [hm.ordinal]
      exact hold.first attempt rfl
    · intro latest hl
      have hlink := (List.isChain_append.mp hold.chain).2.2 latest hl attempt rfl
      refine ⟨hlink.failed, hm.retryOf.trans hlink.retryOf, ?_, ?_, ?_⟩
      · rw [hm.retryDecisionId]
        exact hlink.decision
      · rw [hm.ordinal]
        exact hlink.ordinal
      · rw [hm.cursor]
        exact lt_of_lt_of_le hlink.cursor hcursor
  rw [hnew]
  apply h.update hf ht hlinked
  · simpa [heq] using h.budget
  · by_cases hu : moved.status.unresolved <;> simp [Option.filter, hu, hm.attemptId]
  · simp only [List.getLast?_append, List.getLast?_singleton, Option.some_or, Option.map_some]
    rcases hs with rfl | ⟨hsame, rfl⟩
    · exact runStatus_admits
    · rw [hsame]
      simpa [heq] using h.status
  · intro a hin
    rcases List.mem_append.mp hin with hin | hin
    · exact .inl (by rw [heq]; exact List.mem_append_left _ hin)
    · rw [List.mem_singleton.mp hin]
      exact .inr hm.cursor

end RunSnapshot.Invariant

/-- One accepted update keeps the invariant. -/
theorem Update.invariant {u : RunSnapshot} (hu : Update s e u) (hf : Follows s e)
    (h : s.Invariant) : (stamped u e).Invariant := by
  cases hu with
  | observed => exact h.observed hf
  | started hs =>
    have ht : s.status ∉ terminalRunStatuses := by rw [hs]; decide
    have hnone : s.attempts.getLast?.map (·.status) = none := by
      simpa [hs, RunStatus.admits] using h.status
    apply h.update hf ht h.linked h.budget h.active ?_ fun a ha => .inl ha
    simp [hnone, RunStatus.admits]
  | cancelRequested ht =>
    apply h.update hf ht h.linked h.budget h.active ?_ fun a ha => .inl ha
    have hstatus := h.status
    cases hs : s.status <;> simp_all [RunStatus.admits, terminalRunStatuses]
  | closed ht hc => exact h.closed hf ht hc
  | reviewed decisionId ht hr =>
    have hle := Nat.le_of_lt hf.cursor
    refine ⟨h.linked, h.budget, h.active, h.status, ?_, ?_, fun _ => ht, ?_⟩
    · intro a ha
      exact le_trans (h.cursor a ha) hle
    · simp [stamped, reviewFieldsAreConsistent]
    · simp [stamped, cursorWithin]
  | attemptQueued attempt ht hq => exact h.attemptQueued hf ht hq
  | attemptMoved ht ha hm hs => exact h.attemptMoved hf ht ha hm hs

end ResearchOs.Runs
