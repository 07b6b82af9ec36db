import Mathlib.Data.List.Chain
import ResearchOs.Data.Fold
import ResearchOs.Core.Runs.Reducer

/-! The representation invariant of run snapshots and its preservation by the reducer. -/
namespace ResearchOs.Runs

def AttemptStatus.unresolved (status : AttemptStatus) : Prop := status ∈ unresolvedAttemptStatuses

instance (status : AttemptStatus) : Decidable status.unresolved :=
  inferInstanceAs (Decidable (_ ∈ _))

/-- The run status an attempt transition leaves behind. -/
def AttemptStatus.runStatus : AttemptStatus → RunStatus
  | .queued => .running
  | .running => .running
  | .lost => .lost
  | .unknown => .unknown
  | .succeeded => .running
  | .failed => .retryPending
  | .cancelled => .running

/-- The run statuses compatible with the status of the latest attempt. -/
def RunStatus.admits (status : RunStatus) (cancellationRequested : Bool)
    (latest : Option AttemptStatus) : Prop :=
  match status with
  | .queued => latest = none
  | .running => ∀ l ∈ latest, l.runStatus = .running
  | .retryPending => latest = some .failed
  | .lost => latest = some .lost
  | .unknown => latest = some .unknown
  | .completed => latest = some .succeeded
  | .failed => latest = some .failed
  | .cancelled => cancellationRequested = true ∧ ∀ l ∈ latest, l = .cancelled

structure AttemptSnapshot.Consistent (attempt : AttemptSnapshot) : Prop where
  first : attempt.ordinal.val = 1 → attempt.retryOf = none ∧ attempt.retryDecisionId = none
  retry : attempt.ordinal.val ≠ 1 → attempt.retryOf.isSome ∧ attempt.retryDecisionId.isSome
  hint : attempt.retryHint.isSome ↔ attempt.status = .failed
  heartbeat : cursorWithin attempt.lastHeartbeatSequence attempt.lastSequence

/-- What a retry records about the attempt before it. -/
structure RetryLink (previous attempt : AttemptSnapshot) : Prop where
  failed : previous.status = .failed
  retryOf : attempt.retryOf = some previous.attemptId
  decision : attempt.retryDecisionId.isSome
  ordinal : attempt.ordinal.val = previous.ordinal.val + 1
  cursor : previous.lastSequence.val < attempt.lastSequence.val

/-- A linear retry chain of consistent records. -/
structure Linked (attempts : List AttemptSnapshot) : Prop where
  consistent : ∀ a ∈ attempts, a.Consistent
  first : ∀ a ∈ attempts.head?, a.ordinal.val = 1
  chain : attempts.IsChain RetryLink
  ids : (attempts.map (·.attemptId)).Nodup

/-- The representation invariant. -/
structure RunSnapshot.Invariant (s : RunSnapshot) : Prop where
  linked : Linked s.attempts
  budget : s.attempts.length ≤ s.maxAttempts.val
  active : s.activeAttemptId =
    (s.attempts.getLast?.filter (·.status.unresolved)).map (·.attemptId)
  status : s.status.admits s.cancellationRequested (s.attempts.getLast?.map (·.status))
  cursor : ∀ a ∈ s.attempts, a.lastSequence.val ≤ s.lastSequence.val
  reviewFields : reviewFieldsAreConsistent s.review = .ok ()
  reviewStatus : s.review.reviewed = true → s.status ∈ terminalRunStatuses
  reviewCursor : cursorWithin s.review.sequence s.lastSequence

theorem attemptFieldsAreConsistent_iff {attempt : AttemptSnapshot} :
    attemptFieldsAreConsistent attempt = .ok () ↔ attempt.Consistent := by
  have hpair : attemptFieldsAreConsistent attempt = .ok () ↔
      ((attempt.ordinal.val = 1 → attempt.retryOf = none ∧ attempt.retryDecisionId = none) ∧
        (attempt.ordinal.val ≠ 1 → attempt.retryOf.isSome ∧ attempt.retryDecisionId.isSome)) ∧
      (attempt.retryHint.isSome ↔ attempt.status = .failed) ∧
      cursorWithin attempt.lastHeartbeatSequence attempt.lastSequence := by
    unfold attemptFieldsAreConsistent
    by_cases ho : attempt.ordinal.val = 1 <;> by_cases hs : attempt.status = .failed <;>
      simp [ho, hs]
  rw [hpair]
  constructor
  · intro h
    exact ⟨h.1.1, h.1.2, h.2.1, h.2.2⟩
  · intro h
    exact ⟨⟨h.first, h.retry⟩, h.hint, h.heartbeat⟩

/-! Chains of attempts. -/

theorem RetryLink.dropLast_failed {attempts : List AttemptSnapshot}
    (h : attempts.IsChain RetryLink) : ∀ a ∈ attempts.dropLast, a.status = .failed := by
  induction attempts with
  | nil => simp
  | cons first rest ih =>
    cases rest with
    | nil => simp
    | cons second rest =>
      obtain ⟨hlink, hrest⟩ := List.isChain_cons_cons.mp h
      intro a ha
      rcases List.mem_cons.mp (by simpa using ha) with rfl | ha
      · exact hlink.failed
      · exact ih hrest a ha

/-- The latest attempt is the only one whose outcome can be open. -/
theorem RetryLink.unresolvedAttempts_eq {attempts : List AttemptSnapshot}
    (h : attempts.IsChain RetryLink) :
    unresolvedAttempts attempts = (attempts.getLast?.filter (·.status.unresolved)).toList := by
  rcases List.eq_nil_or_concat attempts with rfl | ⟨earlier, latest, rfl⟩
  · rfl
  · have hearlier : earlier.filter (fun a => a.status ∈ unresolvedAttemptStatuses) = [] := by
      rw [List.filter_eq_nil_iff]
      intro a ha
      have := RetryLink.dropLast_failed h a (by simpa using ha)
      simp [this, unresolvedAttemptStatuses]
    simp only [unresolvedAttempts, List.concat_eq_append, List.filter_append, hearlier,
      List.nil_append, List.getLast?_append, List.getLast?_singleton, Option.some_or]
    by_cases hl : latest.status.unresolved
    · simp [Option.filter, hl, show latest.status ∈ unresolvedAttemptStatuses from hl]
    · simp [Option.filter, hl, show latest.status ∉ unresolvedAttemptStatuses from hl]

theorem RetryLink.ordinals {attempts : List AttemptSnapshot} (h : attempts.IsChain RetryLink) :
    ∀ {n : Nat}, (∀ a ∈ attempts.head?, a.ordinal.val = n) →
      attempts.map (·.ordinal.val) = List.range' n attempts.length := by
  induction attempts with
  | nil => intro n _; rfl
  | cons first rest ih =>
    intro n hn
    have hfirst : first.ordinal.val = n := hn first rfl
    have hrest : ∀ a ∈ rest.head?, a.ordinal.val = n + 1 := by
      intro a ha
      have hlink := h.rel_head? ha
      rw [hlink.ordinal, hfirst]
    simp only [List.map_cons, List.length_cons, List.range'_succ, hfirst]
    rw [ih h.tail hrest]

theorem assertRetryChain_some {attempts : List AttemptSnapshot} :
    ∀ {previous : AttemptSnapshot}, (previous :: attempts).IsChain RetryLink →
      assertRetryChain (some previous) attempts = .ok () := by
  induction attempts with
  | nil => intro previous _; rfl
  | cons attempt rest ih =>
    intro previous h
    obtain ⟨hlink, hrest⟩ := List.isChain_cons_cons.mp h
    simp only [assertRetryChain, require_bind_eq_ok]
    exact ⟨hlink.failed, hlink.retryOf, hlink.decision, ih hrest⟩

theorem assertAttemptCursors_ok {bound : SequenceNumber} {attempts : List AttemptSnapshot}
    (hb : ∀ a ∈ attempts, a.lastSequence.val ≤ bound.val)
    (hc : ∀ a ∈ attempts, cursorWithin a.lastHeartbeatSequence a.lastSequence)
    (h : attempts.IsChain RetryLink) :
    ∀ {n : Nat}, (∀ a ∈ attempts.head?, n < a.lastSequence.val) →
      assertAttemptCursors bound n attempts = .ok () := by
  induction attempts with
  | nil => intro n _; rfl
  | cons attempt rest ih =>
    intro n hn
    have hnext := ih (fun a ha => hb a (List.mem_cons_of_mem _ ha))
      (fun a ha => hc a (List.mem_cons_of_mem _ ha)) h.tail
      (fun a ha => (h.rel_head? ha).cursor)
    simp only [assertAttemptCursors, require_bind_eq_ok]
    exact ⟨hb attempt List.mem_cons_self, hc attempt List.mem_cons_self, hn attempt rfl, hnext⟩

/-! The checker accepts every snapshot that satisfies the invariant. -/

namespace RunSnapshot.Invariant

variable {s : RunSnapshot}

theorem unresolved (h : s.Invariant) : unresolvedAttempts s.attempts =
    (s.attempts.getLast?.filter (·.status.unresolved)).toList :=
  RetryLink.unresolvedAttempts_eq h.linked.chain

theorem statusMatches (h : s.Invariant) :
    assertRunStatusMatchesAttempts s (unresolvedAttempts s.attempts) = .ok () := by
  have hstatus := h.status
  have hactive := h.active
  rw [h.unresolved]
  cases hlatest : s.attempts.getLast? with
  | none =>
    have hnil : s.attempts = [] := List.getLast?_eq_none_iff.mp hlatest
    rw [hlatest] at hstatus hactive
    cases hs : s.status <;>
      simp_all [assertRunStatusMatchesAttempts, RunStatus.admits]
  | some latest =>
    have hne : s.attempts ≠ [] := by
      intro hnil
      simp [hnil] at hlatest
    rw [hlatest] at hstatus hactive
    simp only [Option.map_some] at hstatus
    cases hl : latest.status <;> simp only [hl, RunStatus.admits] at hstatus <;>
      cases hs : s.status <;>
      simp_all [assertRunStatusMatchesAttempts, AttemptStatus.runStatus,
        AttemptStatus.unresolved, unresolvedAttemptStatuses, Option.filter]

theorem retryChain (h : s.Invariant) : assertRetryChain none s.attempts = .ok () := by
  cases hs : s.attempts with
  | nil => rfl
  | cons first rest =>
    have hone : first.ordinal.val = 1 := h.linked.first first (by simp [hs])
    have hconsistent := h.linked.consistent first (by simp [hs])
    simp only [assertRetryChain, require_bind_eq_ok]
    exact ⟨hconsistent.first hone, assertRetryChain_some (hs ▸ h.linked.chain)⟩

theorem sequenceCursors (h : s.Invariant) : assertSequenceCursors s = .ok () := by
  have hattempts : assertAttemptCursors s.lastSequence 0 s.attempts = .ok () := by
    apply assertAttemptCursors_ok h.cursor (fun a ha => (h.linked.consistent a ha).heartbeat)
      h.linked.chain
    intro a _
    exact a.lastSequence.pos
  simp only [assertSequenceCursors, hattempts, bind, Except.bind]
  split
  · exact require_eq_ok.mpr h.reviewCursor
  · rfl

theorem accepted (h : s.Invariant) : assertRunSnapshotInvariants s = .ok () := by
  have hone : (unresolvedAttempts s.attempts).length ≤ 1 := by
    rw [h.unresolved]
    cases s.attempts.getLast?.filter (·.status.unresolved) <;> simp
  have hactive : s.activeAttemptId = (unresolvedAttempts s.attempts).head?.map (·.attemptId) := by
    rw [h.unresolved, h.active]
    cases s.attempts.getLast?.filter (·.status.unresolved) <;> simp
  simp only [assertRunSnapshotInvariants, require_bind_eq_ok]
  refine ⟨RetryLink.ordinals h.linked.chain h.linked.first, h.linked.ids, hone, hactive,
    h.reviewStatus, h.budget, ?_⟩
  apply Fold.bind_eq_ok.mpr
  refine ⟨(), h.statusMatches, ?_⟩
  exact Fold.bind_eq_ok.mpr ⟨(), h.retryChain, h.sequenceCursors⟩

end RunSnapshot.Invariant

end ResearchOs.Runs
