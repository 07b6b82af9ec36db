import ResearchOs.Core.Workers.Lease

/-! When the leases of a queued work item exclude each other. -/
namespace ResearchOs.Workers

open JsonText (FloatText)

/-- At most one lease of an item is completed. -/
def CompletedOnce (fold : WorkerFold) : Prop :=
  ∀ a ∈ fold.leases, ∀ b ∈ fold.leases, a.item = b.item → a.status = .completed →
    b.status = .completed → a.leaseId = b.leaseId

instance (fold : WorkerFold) : Decidable (CompletedOnce fold) :=
  inferInstanceAs (Decidable (∀ a ∈ fold.leases, ∀ b ∈ fold.leases, _))

/-- The validity intervals of the unsettled leases of an item are disjoint. -/
def DisjointValidity (fold : WorkerFold) (times : List Instant) : Prop :=
  (fold.leases.zip times).Pairwise fun a b => a.1.item = b.1.item → a.1.unsettled →
    b.1.unsettled → Disjoint (TimedLease.validity a) (TimedLease.validity b)

/-- A step from `fold` to `next` opens no lease of an item that has a completed one. -/
def NotReopened (fold next : WorkerFold) : Prop :=
  ∀ opened ∈ next.leases, fold.lease opened.leaseId = none →
    ∀ lease ∈ fold.leases, lease.item = opened.item → lease.status ≠ .completed

/-- Lease exclusivity after the accepted facts of a log. -/
structure LeaseExclusive (F : FloatText) (projectId : EventIdentifier)
    (events : List ResearchEvent) (fold : WorkerFold) : Prop where
  completedOnce : CompletedOnce fold
  disjointValidity : DisjointValidity fold (leaseTimes F projectId events)
  notReopened : ∀ before event, events = before ++ [event] →
    ∀ previous, replayWorkers F projectId before = .ok previous → NotReopened previous fold

/-- The item that a fact leases or completes has no completed lease, unless the fact repeats a
completion. -/
def CompletionGuard (F : FloatText) (projectId : EventIdentifier) (fold : WorkerFold)
    (event : ResearchEvent) : Prop :=
  match workerPayload F projectId event with
  | some (.workLeased payload) => ∀ lease ∈ fold.leases, lease.taskId = payload.taskId →
      event.data.attemptId = some lease.attemptId → lease.status ≠ .completed
  | some (.workCompleted payload) => ∀ current ∈ fold.lease payload.leaseId,
      current.unsettled → ∀ lease ∈ fold.leases, lease.item = current.item →
        lease.status ≠ .completed
  | _ => True

variable {F : FloatText} {projectId : EventIdentifier} {fold next : WorkerFold}
  {event : ResearchEvent} {events : List ResearchEvent}

theorem disjointValidity_replay (h : replayWorkers F projectId events = .ok fold) :
    DisjointValidity fold (leaseTimes F projectId events) :=
  (wellTimed_replay h).runsOut.imp fun hab hitem ha _ => hab.disjoint hitem ha

/-- A guarded step keeps completions unique. -/
theorem completedOnce_apply (honce : CompletedOnce fold)
    (hguard : CompletionGuard F projectId fold event)
    (h : applyWorkerFold F projectId fold event = .ok next) : CompletedOnce next := by
  have hchange := leaseChange h
  obtain ⟨workers, grants, queued, leases⟩ := next
  dsimp only at hchange
  unfold CompletedOnce
  cases hchange with
  | kept htime => exact honce
  | opened hpayload hattempt hfresh hactive =>
    intro a ha b hb hitem hca hcb
    simp only [List.mem_append, List.mem_singleton] at ha hb
    rcases ha with ha | rfl
    · rcases hb with hb | rfl
      · exact honce a ha b hb hitem hca hcb
      · cases hcb
    · cases hca
  | moved htime hcurrent hopen hterms hcompleted hfailed =>
    rename_i current updated
    have hitem := LeaseRecord.item_of_terms hterms
    -- A completion that the step makes is alone by the guard.
    have halone : updated.status = .completed → ∀ lease ∈ fold.leases,
        lease.item = updated.item → lease.status ≠ .completed := by
      intro hstatus lease hlease hsame
      obtain ⟨payload, hpayload, hid, -⟩ := hcompleted hstatus
      simp only [CompletionGuard, hpayload] at hguard
      have hcid := (leaseId_of_lease hcurrent).1
      refine hguard current ?_ hopen lease hlease (hsame.trans hitem)
      rw [hid, hcid]
      exact hcurrent
    intro a ha b hb hsame hca hcb
    rcases mem_replaceLease hcurrent ha with ⟨hold, -⟩ | rfl
    · rcases mem_replaceLease hcurrent hb with ⟨hold', -⟩ | rfl
      · exact honce a hold b hold' hsame hca hcb
      · exact absurd hca (halone hcb a hold hsame)
    · rcases mem_replaceLease hcurrent hb with ⟨hold', -⟩ | rfl
      · exact absurd hcb (halone hca b hold' hsame.symm)
      · rfl

theorem notReopened_apply (hguard : CompletionGuard F projectId fold event)
    (h : applyWorkerFold F projectId fold event = .ok next) : NotReopened fold next := by
  intro opened hopened hnew lease hlease hitem
  have hfresh := forall_ne_of_lease_eq_none hnew
  have hchange := leaseChange h
  generalize next.leases = leases at hchange hopened
  cases hchange with
  | kept htime => exact absurd rfl (hfresh opened hopened)
  | opened hpayload hattempt hfresh' hactive =>
    simp only [List.mem_append, List.mem_singleton] at hopened
    rcases hopened with hopened | rfl
    · exact absurd rfl (hfresh opened hopened)
    · simp only [CompletionGuard, hpayload] at hguard
      simp only [LeaseRecord.item, openedLease, Prod.mk.injEq] at hitem
      exact hguard lease hlease hitem.1 (hattempt.trans (congrArg some hitem.2.symm))
  | moved htime hcurrent hopen hterms hcompleted hfailed =>
    rcases mem_replaceLease hcurrent hopened with ⟨hopened, -⟩ | rfl
    · exact absurd rfl (hfresh opened hopened)
    · rw [hcurrent] at hnew
      cases hnew

/-- What a completion of an open lease does. -/
theorem applyCompleted_open {payload : WorkCompletedPayload} {current : LeaseRecord}
    (hcurrent : fold.lease payload.leaseId = some current) (hopen : current.unsettled)
    (h : applyCompleted fold payload = .ok next) :
    ∃ updated : LeaseRecord, updated.leaseId = current.leaseId ∧ updated.item = current.item ∧
      updated.status = .completed ∧ next.leases = replaceLease fold.leases updated := by
  simp only [applyCompleted, presentCall_bind_ok] at h
  obtain ⟨found, hfound, h⟩ := h
  rw [hcurrent] at hfound
  cases hfound
  split_ifs at h with hdone
  · exact absurd hdone fun hstatus => hopen (hstatus ▸ List.mem_cons_self)
  · simp only [requireCall_bind_ok] at h
    obtain ⟨-, -, h⟩ := h
    cases h
    exact ⟨{ current with
      claimed := true
      status := .completed
      resultDigest := some payload.resultDigest
      artifactDigest := some payload.artifactDigest }, rfl, rfl, rfl, rfl⟩

/-- Exclusivity after a step shows that the step was guarded. -/
theorem completionGuard_of_exclusive (hunique : UniqueLeases fold.leases)
    (honce : CompletedOnce next) (hreopened : NotReopened fold next)
    (h : applyWorkerFold F projectId fold event = .ok next) :
    CompletionGuard F projectId fold event := by
  unfold CompletionGuard
  split
  · rename_i payload hpayload
    intro lease hlease htask hattempt
    have htime : leaseTime F projectId event = some event.time.instant := by
      simp [leaseTime, hpayload]
    have hchange := leaseChange h
    generalize hleases : next.leases = leases at hchange
    cases hchange with
    | kept hnone =>
      rw [hnone] at htime
      cases htime
    | moved hnone hcurrent hopen hterms hcompleted hfailed =>
      rw [hnone] at htime
      cases htime
    | opened hpayload' hattempt' hfresh hactive =>
      rw [hpayload] at hpayload'
      cases hpayload'
      rw [hattempt] at hattempt'
      cases hattempt'
      rename_i runId
      refine hreopened (openedLease payload runId lease.attemptId) ?_ hfresh lease hlease ?_
      · rw [hleases]
        exact List.mem_append_right _ List.mem_cons_self
      · simp [LeaseRecord.item, openedLease, htask]
  · rename_i payload hpayload
    intro current hcurrent hopen lease hlease hitem hdone
    rcases applyWorkerFold_ok h with ⟨hnone, -⟩ | ⟨payload', hpayload', happly⟩
    · rw [hnone] at hpayload
      cases hpayload
    · rw [hpayload] at hpayload'
      cases hpayload'
      obtain ⟨updated, hid, hsame, hcompleted, hleases⟩ :=
        applyCompleted_open hcurrent hopen happly
      have hcid := leaseId_of_lease hcurrent
      have hne : lease.leaseId ≠ updated.leaseId := by
        intro heq
        have hcur := eq_of_leaseId hunique hcurrent hlease (heq.trans (hid.trans hcid.1))
        subst hcur
        exact hopen (hdone ▸ List.mem_cons_self)
      have hupdated : updated ∈ next.leases := by
        rw [hleases]
        apply mem_replaceLease_self
        rw [hid, hcid.1]
        exact hcurrent
      have hkept : lease ∈ next.leases := by
        rw [hleases]
        exact mem_replaceLease_of_ne hlease hne
      exact hne (honce lease hkept updated hupdated (hitem.trans hsame.symm) hdone hcompleted)
  · trivial

theorem completedOnce_replay
    (hguard : ∀ before event previous next, before ++ [event] <+: events →
      replayWorkers F projectId before = .ok previous →
      applyWorkerFold F projectId previous event = .ok next →
      CompletionGuard F projectId previous event)
    (h : replayWorkers F projectId events = .ok fold) : CompletedOnce fold := by
  induction events using List.reverseRecOn generalizing fold with
  | nil =>
    cases h
    intro a ha
    cases ha
  | append_singleton events event ih =>
    obtain ⟨before, hbefore, happly⟩ := Fold.foldlM_concat_eq_ok.mp h
    have honce := ih (fun earlier e previous next hlonger =>
      hguard earlier e previous next (hlonger.trans (List.prefix_append _ _))) hbefore
    exact completedOnce_apply honce
      (hguard events event before fold (List.prefix_refl _) hbefore happly) happly

/-- Leases exclude each other after every accepted prefix of a log exactly when no accepted fact
leases or completes an item that has a completed lease. -/
theorem lease_exclusive_iff (F : FloatText) (projectId : EventIdentifier)
    (events : List ResearchEvent) :
    (∀ before fold, before <+: events → replayWorkers F projectId before = .ok fold →
      LeaseExclusive F projectId before fold) ↔
    ∀ before event previous next, before ++ [event] <+: events →
      replayWorkers F projectId before = .ok previous →
      applyWorkerFold F projectId previous event = .ok next →
      CompletionGuard F projectId previous event := by
  constructor
  · intro hexclusive before event previous next hlonger hprevious happly
    have hnext : replayWorkers F projectId (before ++ [event]) = .ok next :=
      Fold.foldlM_concat_eq_ok.mpr ⟨previous, hprevious, happly⟩
    have hafter := hexclusive _ next hlonger hnext
    exact completionGuard_of_exclusive (uniqueLeases_replay hprevious) hafter.completedOnce
      (hafter.notReopened before event rfl previous hprevious) happly
  · intro hguard before fold hlonger hfold
    refine ⟨?_, disjointValidity_replay hfold, ?_⟩
    · apply completedOnce_replay _ hfold
      intro earlier event previous next hearlier
      exact hguard earlier event previous next (hearlier.trans hlonger)
    · rintro earlier event rfl previous hprevious
      obtain ⟨previous', hprevious', happly⟩ := Fold.foldlM_concat_eq_ok.mp hfold
      rw [replayWorkers] at hprevious
      rw [hprevious] at hprevious'
      cases hprevious'
      exact notReopened_apply (hguard earlier event previous fold hlonger hprevious happly) happly

/-! Two grants for one attempt: the second worker leases and completes the finished item. -/

def trialProject : EventIdentifier := ⟨"project", .refl true⟩

def trialSource : CloudEventsUriReference := ⟨"urn:trial", .refl true⟩

/-- A fact of one project; `bound` facts carry the run and its attempt. -/
def trialFact (sequence : SequenceNumber) (type : WorkerEventType) (bound : Bool)
    (payload : Json.Members) : ResearchEvent where
  id := ⟨"event", .refl true⟩
  source := trialSource
  type := ⟨type.text, by cases type <;> decide⟩
  time := ⟨"2026-01-01T00:00:00Z", .refl true⟩
  subject := ⟨"subject", .refl true⟩
  data :=
    { actor := ⟨⟨"actor", .refl true⟩,
        some (if type ∈ WorkerEventType.humanTypes then .human else .system), none, by simp⟩
      projectId := trialProject
      experimentRevision := ⟨1, .refl true⟩
      runId := if bound then some ⟨"run-1", .refl true⟩ else none
      attemptId := if bound then some ⟨"attempt-1", .refl true⟩ else none
      blockId := none
      payload := payload
      evidenceRefs := []
      evidenceRefsAreUnique := List.nodup_nil }
  sequence := sequence
  streamid := trialProject
  streamversion := ⟨0, .refl true⟩
  correlationid := none
  causationid := none

def trialDigest : String := "sha256:0000000000000000000000000000000000000000000000000000000000000000"

def trialRegistered (n : SequenceNumber) (worker : String) : ResearchEvent :=
  trialFact n .workerRegistered false [("workerId", .str worker)]

def trialWorkQueued (n : SequenceNumber) : ResearchEvent :=
  trialFact n .workQueued true
    [("configDigest", .str trialDigest), ("imageDigest", .str trialDigest),
      ("taskId", .str "task")]

def trialGrant (n : SequenceNumber) (worker grant : String) : ResearchEvent :=
  trialFact n .grantRecorded true
    [("authorizationEventId", .str "event-0"), ("authorizationSequence", .str "1"),
      ("configDigest", .str trialDigest), ("expiresAt", .str "2026-01-02T00:00:00Z"),
      ("grantId", .str grant), ("imageDigest", .str trialDigest), ("keyId", .str "local.hmac.1"),
      ("nonce", .str "nonce"), ("taskId", .str "task"), ("workerId", .str worker)]

def trialLeased (n : SequenceNumber) (worker grant lease : String) : ResearchEvent :=
  trialFact n .workLeased true
    [("expiresAt", .str "2026-01-01T00:01:00Z"), ("grantId", .str grant), ("leaseId", .str lease),
      ("taskId", .str "task"), ("workerId", .str worker)]

def trialClaimed (n : SequenceNumber) (worker lease : String) : ResearchEvent :=
  trialFact n .workClaimed true
    [("leaseId", .str lease), ("nonce", .str "nonce"), ("workerId", .str worker)]

def trialConsumed (n : SequenceNumber) (grant lease : String) : ResearchEvent :=
  trialFact n .grantConsumed true
    [("grantId", .str grant), ("leaseId", .str lease), ("nonce", .str "nonce")]

def trialCompleted (n : SequenceNumber) (lease : String) : ResearchEvent :=
  trialFact n .workCompleted true
    [("artifactDigest", .str trialDigest), ("leaseId", .str lease),
      ("resultDigest", .str trialDigest)]

def twoGrantsEvents : List ResearchEvent :=
  [trialRegistered ⟨1, .refl true⟩ "worker-a", trialRegistered ⟨2, .refl true⟩ "worker-b",
    trialWorkQueued ⟨3, .refl true⟩, trialGrant ⟨4, .refl true⟩ "worker-a" "grant-a",
    trialGrant ⟨5, .refl true⟩ "worker-b" "grant-b",
    trialLeased ⟨6, .refl true⟩ "worker-a" "grant-a" "lease.grant-a",
    trialClaimed ⟨7, .refl true⟩ "worker-a" "lease.grant-a",
    trialConsumed ⟨8, .refl true⟩ "grant-a" "lease.grant-a",
    trialCompleted ⟨9, .refl true⟩ "lease.grant-a",
    trialLeased ⟨10, .refl true⟩ "worker-b" "grant-b" "lease.grant-b",
    trialClaimed ⟨11, .refl true⟩ "worker-b" "lease.grant-b",
    trialConsumed ⟨12, .refl true⟩ "grant-b" "lease.grant-b",
    trialCompleted ⟨13, .refl true⟩ "lease.grant-b"]

theorem two_leases_completed :
    ∃ fold, replayWorkers JsonText.scientific trialProject twoGrantsEvents = .ok fold ∧
      ¬ LeaseExclusive JsonText.scientific trialProject twoGrantsEvents fold := by
  refine ⟨_, rfl, ?_⟩
  intro hexclusive
  exact absurd hexclusive.completedOnce (by decide)

end ResearchOs.Workers
