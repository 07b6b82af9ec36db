import ResearchOs.Core.Workers.Lease

/-! What the queue and the leases of other runs do to the work of one run. -/
namespace ResearchOs.Workers

variable {fold next : WorkerFold} {event : ResearchEvent} {runId taskId attemptId : EventIdentifier}

/-- The fold without the queue and the leases of the other runs. -/
def WorkerFold.ofRun (fold : WorkerFold) (runId : EventIdentifier) : WorkerFold :=
  { fold with
    queued := fold.queued.filter fun item => item.runId = runId
    leases := fold.leases.filter fun lease => lease.runId = runId }

theorem mem_leases_ofRun {lease : LeaseRecord} :
    lease ∈ (fold.ofRun runId).leases ↔ lease ∈ fold.leases ∧ lease.runId = runId := by
  simp [WorkerFold.ofRun]

def duplicateWork : WorkerError := .call "task attempt is already queued" "duplicate-work"

def leaseConflict : WorkerError :=
  .call "task attempt already has an active lease" "lease-conflict"

/-- A fact that is recorded for an attempt of a run. -/
structure Names (event : ResearchEvent) (runId attemptId : EventIdentifier) : Prop where
  run : event.data.runId = some runId
  attempt : event.data.attemptId = some attemptId

/-- A lease of the work that is neither settled nor past its time. -/
structure Live (lease : LeaseRecord) (taskId attemptId : EventIdentifier) (now : Instant) :
    Prop where
  item : lease.item = (taskId, attemptId)
  unsettled : lease.unsettled
  unexpired : now < lease.expiresAt.instant

/-- Queueing is refused as a duplicate for work that is queued under the same identifiers. -/
theorem applyQueued_duplicate {payload : WorkQueuedPayload} (hnames : Names event runId attemptId) :
    applyQueued fold event payload = .error duplicateWork ↔
      (fold.queuedWork payload.taskId attemptId).isSome = true := by
  unfold applyQueued
  simp only [Fold.bind_eq_error, requireCall_eq_error, requireCall_eq_ok, presentCall_eq_error,
    presentCall_eq_ok, hnames.run, hnames.attempt, duplicateWork]
  simp [Option.isSome_iff_ne_none]

theorem activeLease_some {now : Instant} {leases : List LeaseRecord} {lease : LeaseRecord}
    (h : activeLease taskId attemptId now leases = .ok (some lease)) :
    lease ∈ leases ∧ Live lease taskId attemptId now := by
  induction leases with
  | nil => cases h
  | cons item rest ih =>
    unfold activeLease at h
    split_ifs at h with hother hterminal
    · obtain ⟨hmem, hlive⟩ := ih h
      exact ⟨List.mem_cons_of_mem item hmem, hlive⟩
    · obtain ⟨hmem, hlive⟩ := ih h
      exact ⟨List.mem_cons_of_mem item hmem, hlive⟩
    · obtain ⟨expiresAt, hexpires, h⟩ := Fold.bind_eq_ok.mp h
      cases parseRfc3339_ok hexpires
      split_ifs at h with hpast
      · obtain ⟨hmem, hlive⟩ := ih h
        exact ⟨List.mem_cons_of_mem item hmem, hlive⟩
      · cases h
        simp only [ne_eq, not_or, not_not] at hother
        exact ⟨List.mem_cons_self, Prod.ext hother.1 hother.2, hterminal, not_le.mp hpast⟩

/-- A request for a lease that nothing but a lease of the work can refuse. -/
structure Grantable (fold : WorkerFold) (event : ResearchEvent) (payload : WorkLeasedPayload)
    (attemptId : EventIdentifier) (now : Instant) : Prop where
  fresh : fold.lease payload.leaseId = none
  permitted : ∃ worker grant queued, fold.worker payload.workerId = some worker ∧
    fold.grant payload.grantId = some grant ∧ grant.revoked = false ∧
    (grant.workerId = payload.workerId ∧ grant.taskId = payload.taskId) ∧
    fold.queuedWork payload.taskId attemptId = some queued ∧ worker.runtime = queued.runtime ∧
    ∀ required ∈ queued.requiredAccelerators.val, required ∈ worker.accelerators.val
  time : parseRfc3339 event.time = .ok now
  readable : ∃ active, fold.activeLeaseFor payload.taskId attemptId now = .ok active

theorem activeLease_error {now : Instant} {leases : List LeaseRecord} {e : WorkerError}
    (h : activeLease taskId attemptId now leases = .error e) : e = .overflow := by
  induction leases with
  | nil => cases h
  | cons item rest ih =>
    unfold activeLease at h
    split_ifs at h with hother hterminal
    · exact ih h
    · exact ih h
    · rcases Fold.bind_eq_error.mp h with hparse | ⟨expiresAt, -, h⟩
      · exact parseRfc3339_error hparse
      · split_ifs at h with hpast
        exact ih h

/-- A lease is refused as a conflict on nothing but a live lease of the work. -/
theorem applyLeased_conflict {payload : WorkLeasedPayload} (hnames : Names event runId attemptId) :
    applyLeased fold event payload = .error leaseConflict ↔
      ∃ now, Grantable fold event payload attemptId now ∧
        ∃ lease, fold.activeLeaseFor payload.taskId attemptId now = .ok (some lease) := by
  unfold applyLeased
  simp only [Fold.bind_eq_error, requireCall_eq_error, requireCall_eq_ok, presentCall_eq_error,
    presentCall_eq_ok, hnames.run, hnames.attempt, leaseConflict]
  constructor
  · intro h
    simp [-Subtype.forall] at h
    obtain ⟨hfresh, worker, hworker, grant, hgrant, hrevoked, hmatch, queued, hqueued, hruntime,
      haccelerators, hparse | ⟨now, htime, hactive⟩⟩ := h
    · cases parseRfc3339_error hparse
    rcases hactive with hactive | ⟨active, hactive, hsome⟩
    · cases activeLease_error hactive
    obtain ⟨lease, rfl⟩ := Option.ne_none_iff_exists'.mp hsome
    refine ⟨now, ⟨hfresh, ?_, htime, _, hactive⟩, lease, hactive⟩
    exact ⟨worker, grant, queued, hworker, hgrant, hrevoked, hmatch, hqueued, hruntime,
      haccelerators⟩
  · rintro ⟨now, hgrantable, lease, hactive⟩
    obtain ⟨worker, grant, queued, hworker, hgrant, hrevoked, hmatch, hqueued, hruntime,
      haccelerators⟩ := hgrantable.permitted
    simpa [-Subtype.forall, hgrantable.fresh, hworker, hgrant, hrevoked, hmatch, hqueued, hruntime,
      hgrantable.time, hactive] using haccelerators

theorem active_iff_live {now : Instant} {leases : List LeaseRecord} {active : Option LeaseRecord}
    (h : activeLease taskId attemptId now leases = .ok active) :
    (∃ lease, active = some lease) ↔ ∃ lease ∈ leases, Live lease taskId attemptId now := by
  cases active with
  | none =>
    have hpast := activeLease_none h
    constructor
    · rintro ⟨lease, hlease⟩
      cases hlease
    · rintro ⟨lease, hmem, hlive⟩
      exact absurd hlive.unexpired (not_lt.mpr (hpast lease hmem hlive.item hlive.unsettled))
  | some lease =>
    obtain ⟨hmem, hlive⟩ := activeLease_some h
    exact ⟨fun _ => ⟨lease, hmem, hlive⟩, fun _ => ⟨lease, rfl⟩⟩

end ResearchOs.Workers
