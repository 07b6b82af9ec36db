import Mathlib.Data.Int.ConditionallyCompleteOrder
import Mathlib.Order.CompletePartialOrder
import Mathlib.Order.Interval.Set.Disjoint
import Mathlib.Order.SuccPred.Basic
import ResearchOs.Data.Fold
import ResearchOs.Core.Workers.Fold

/-! What an accepted worker fact does to the fold. -/
namespace ResearchOs.Workers

open JsonText (FloatText)

/-! Peeling the guards of the handlers. -/

@[simp] theorem requireCall_eq_ok {condition : Prop} [Decidable condition] {message code : String}
    {u : Unit} : requireCall condition message code = .ok u ↔ condition := by
  by_cases h : condition <;> simp [requireCall, h]

theorem requireCall_eq_error {condition : Prop} [Decidable condition] {message code : String}
    {e : WorkerError} :
    requireCall condition message code = .error e ↔
      ¬ condition ∧ WorkerError.call message code = e := by
  by_cases h : condition <;> simp [requireCall, h]

@[simp] theorem presentCall_eq_ok {α : Type} {value : Option α} {message code : String} {a : α} :
    presentCall value message code = .ok a ↔ value = some a := by
  cases value <;> simp [presentCall]

theorem presentCall_eq_error {α : Type} {value : Option α} {message code : String}
    {e : WorkerError} :
    presentCall value message code = .error e ↔
      value = none ∧ WorkerError.call message code = e := by
  cases value <;> simp [presentCall]

@[simp] theorem requireCall_bind_ok {condition : Prop} [Decidable condition] {message code : String}
    {α : Type} {k : Unit → Except WorkerError α} {r : α} :
    requireCall condition message code >>= k = .ok r ↔ condition ∧ k () = .ok r := by
  by_cases h : condition <;> simp [requireCall, h, bind, Except.bind]

@[simp] theorem presentCall_bind_ok {α β : Type} {value : Option α} {message code : String}
    {k : α → Except WorkerError β} {r : β} :
    presentCall value message code >>= k = .ok r ↔ ∃ a, value = some a ∧ k a = .ok r := by
  cases value <;> simp [presentCall, bind, Except.bind]

/-- The payload of a worker fact of the project. -/
def workerPayload (F : FloatText) (projectId : EventIdentifier) (event : ResearchEvent) :
    Option WorkerPayload :=
  if event.data.projectId ≠ projectId then none
  else (WorkerEventType.ofText event.type.val).bind fun type =>
    payloadModel F type (.obj event.data.payload)

variable {F : FloatText} {projectId : EventIdentifier} {fold next : WorkerFold}
  {event : ResearchEvent}

/-- An accepted fact is foreign or goes through the handler of its payload. -/
theorem applyWorkerFold_ok (h : applyWorkerFold F projectId fold event = .ok next) :
    (workerPayload F projectId event = none ∧ next = fold) ∨
      ∃ payload, workerPayload F projectId event = some payload ∧
        applyPayload fold event payload = .ok next := by
  unfold applyWorkerFold at h
  split at h
  · rename_i hproject
    cases h
    exact .inl ⟨if_pos hproject, rfl⟩
  · rename_i hproject
    cases htype : WorkerEventType.ofText event.type.val with
    | none =>
      rw [htype] at h
      cases h
      refine .inl ⟨?_, rfl⟩
      simp [workerPayload, htype]
    | some type =>
      rw [htype] at h
      obtain ⟨_, -, h⟩ := Fold.bind_eq_ok.mp h
      obtain ⟨payload, hparse, h⟩ := Fold.bind_eq_ok.mp h
      refine .inr ⟨payload, ?_, h⟩
      unfold parseWorkerPayload at hparse
      split at hparse
      · rename_i parsed hmodel
        cases hparse
        simp [workerPayload, hproject, htype, hmodel]
      · cases hparse

/-- One accepted fact, with what its handler has checked. A repeated claim, consumption, result
or expiry changes nothing. -/
inductive FoldStep (F : FloatText) (projectId : EventIdentifier) (fold : WorkerFold)
    (event : ResearchEvent) : WorkerFold → Prop
  | foreign (hpayload : workerPayload F projectId event = none) :
      FoldStep F projectId fold event fold
  | registered {payload : WorkerRegisteredPayload}
      (hpayload : workerPayload F projectId event = some (.workerRegistered payload))
      (hfresh : fold.worker payload.workerId = none) :
      FoldStep F projectId fold event { fold with
        workers := fold.workers ++ [⟨payload.workerId, payload.runtime, payload.accelerators⟩] }
  | grantRecorded {payload : GrantRecordedPayload} {runId attemptId : EventIdentifier}
      (hpayload : workerPayload F projectId event = some (.grantRecorded payload))
      (hrun : event.data.runId = some runId) (hattempt : event.data.attemptId = some attemptId)
      (hfresh : fold.grant payload.grantId = none)
      (hworker : (fold.worker payload.workerId).isSome = true) :
      FoldStep F projectId fold event { fold with
        grants := fold.grants ++ [recordedGrant event payload runId attemptId] }
  | grantRevoked {payload : GrantRevokedPayload} {current : GrantRecord}
      (hpayload : workerPayload F projectId event = some (.grantRevoked payload))
      (hcurrent : fold.grant payload.grantId = some current) (hlive : current.revoked = false) :
      FoldStep F projectId fold event { fold with
        grants := replaceGrant fold.grants { current with revoked := true } }
  | grantConsumed {payload : GrantConsumedPayload} {current : GrantRecord}
      (hpayload : workerPayload F projectId event = some (.grantConsumed payload))
      (hcurrent : fold.grant payload.grantId = some current) (hlive : current.revoked = false)
      (hunused : current.consumedLeaseId = none) :
      FoldStep F projectId fold event { fold with
        grants := replaceGrant fold.grants
          { current with consumedLeaseId := some payload.leaseId } }
  | queued {payload : WorkQueuedPayload} {runId attemptId : EventIdentifier}
      (hpayload : workerPayload F projectId event = some (.workQueued payload))
      (hrun : event.data.runId = some runId) (hattempt : event.data.attemptId = some attemptId)
      (hfresh : fold.queuedWork payload.taskId attemptId = none) :
      FoldStep F projectId fold event { fold with
        queued := fold.queued ++ [queuedItem payload runId attemptId] }
  | leased {payload : WorkLeasedPayload} {runId attemptId : EventIdentifier} {grant : GrantRecord}
      (hpayload : workerPayload F projectId event = some (.workLeased payload))
      (hrun : event.data.runId = some runId) (hattempt : event.data.attemptId = some attemptId)
      (hfresh : fold.lease payload.leaseId = none)
      (hgrant : fold.grant payload.grantId = some grant) (hlive : grant.revoked = false)
      (hactive : fold.activeLeaseFor payload.taskId attemptId event.time.instant = .ok none) :
      FoldStep F projectId fold event { fold with
        leases := fold.leases ++ [openedLease payload runId attemptId] }
  | claimed {payload : WorkClaimedPayload} {current : LeaseRecord}
      (hpayload : workerPayload F projectId event = some (.workClaimed payload))
      (hcurrent : fold.lease payload.leaseId = some current)
      (hopen : current.status ∉ terminalLease) :
      FoldStep F projectId fold event { fold with
        leases := replaceLease fold.leases { current with claimed := true } }
  | completed {payload : WorkCompletedPayload} {current : LeaseRecord}
      (hpayload : workerPayload F projectId event = some (.workCompleted payload))
      (hcurrent : fold.lease payload.leaseId = some current)
      (hopen : current.status ∉ terminalLease) (hclaimed : current.claimed = true) :
      FoldStep F projectId fold event { fold with
        leases := replaceLease fold.leases { current with
          claimed := true
          status := .completed
          resultDigest := some payload.resultDigest
          artifactDigest := some payload.artifactDigest } }
  | completedAgain {payload : WorkCompletedPayload} {current : LeaseRecord}
      (hpayload : workerPayload F projectId event = some (.workCompleted payload))
      (hcurrent : fold.lease payload.leaseId = some current)
      (hdone : current.status = .completed) : FoldStep F projectId fold event fold
  | failed {payload : WorkFailedPayload} {current : LeaseRecord}
      (hpayload : workerPayload F projectId event = some (.workFailed payload))
      (hcurrent : fold.lease payload.leaseId = some current)
      (hopen : current.status ∉ terminalLease) :
      FoldStep F projectId fold event { fold with
        leases := replaceLease fold.leases { current with
          status := .failed
          reasonCode := some payload.reasonCode } }
  | failedAgain {payload : WorkFailedPayload} {current : LeaseRecord}
      (hpayload : workerPayload F projectId event = some (.workFailed payload))
      (hcurrent : fold.lease payload.leaseId = some current)
      (hdone : current.status = .failed) : FoldStep F projectId fold event fold
  | expired {payload : WorkLeaseExpiredPayload} {current : LeaseRecord}
      (hpayload : workerPayload F projectId event = some (.workLeaseExpired payload))
      (hcurrent : fold.lease payload.leaseId = some current)
      (hopen : current.status ∉ terminalLease) :
      FoldStep F projectId fold event { fold with
        leases := replaceLease fold.leases { current with status := .expired } }
  | claimedAgain {payload : WorkClaimedPayload}
      (hpayload : workerPayload F projectId event = some (.workClaimed payload)) :
      FoldStep F projectId fold event fold
  | consumedAgain {payload : GrantConsumedPayload}
      (hpayload : workerPayload F projectId event = some (.grantConsumed payload)) :
      FoldStep F projectId fold event fold
  | expiredAgain {payload : WorkLeaseExpiredPayload}
      (hpayload : workerPayload F projectId event = some (.workLeaseExpired payload)) :
      FoldStep F projectId fold event fold

theorem foldStep (h : applyWorkerFold F projectId fold event = .ok next) :
    FoldStep F projectId fold event next := by
  rcases applyWorkerFold_ok h with ⟨hpayload, rfl⟩ | ⟨payload, hpayload, happly⟩
  · exact .foreign hpayload
  cases payload with
  | workerRegistered payload =>
    simp only [applyPayload, applyRegistered, requireCall_bind_ok] at happly
    obtain ⟨hfresh, happly⟩ := happly
    cases happly
    exact .registered hpayload (by simpa using hfresh)
  | grantRecorded payload =>
    simp only [applyPayload, applyGrantRecorded, requireCall_bind_ok, presentCall_bind_ok] at happly
    obtain ⟨hfresh, hworker, runId, hrun, attemptId, hattempt, happly⟩ := happly
    cases happly
    exact .grantRecorded hpayload hrun hattempt (by simpa using hfresh) hworker
  | grantRevoked payload =>
    simp only [applyPayload, applyGrantRevoked, requireCall_bind_ok, presentCall_bind_ok] at happly
    obtain ⟨current, hcurrent, hlive, happly⟩ := happly
    cases happly
    exact .grantRevoked hpayload hcurrent hlive
  | grantConsumed payload =>
    simp only [applyPayload, applyGrantConsumed, requireCall_bind_ok, presentCall_bind_ok] at happly
    obtain ⟨current, hcurrent, hlive, hnonce, happly⟩ := happly
    split at happly
    · simp only [requireCall_bind_ok] at happly
      obtain ⟨-, happly⟩ := happly
      cases happly
      exact .consumedAgain hpayload
    · rename_i hunused
      simp only [requireCall_bind_ok] at happly
      obtain ⟨-, happly⟩ := happly
      cases happly
      exact .grantConsumed hpayload hcurrent hlive hunused
  | workQueued payload =>
    simp only [applyPayload, applyQueued, requireCall_bind_ok, presentCall_bind_ok] at happly
    obtain ⟨runId, hrun, attemptId, hattempt, hfresh, happly⟩ := happly
    cases happly
    exact .queued hpayload hrun hattempt (by simpa using hfresh)
  | workLeased payload =>
    simp only [applyPayload, applyLeased, requireCall_bind_ok, presentCall_bind_ok] at happly
    obtain ⟨hfresh, worker, -, grant, hgrant, hlive, -, runId, hrun, attemptId, hattempt, queued,
      -, -, -, happly⟩ := happly
    obtain ⟨now, hnow, happly⟩ := Fold.bind_eq_ok.mp happly
    obtain ⟨active, hactive, happly⟩ := Fold.bind_eq_ok.mp happly
    simp only [requireCall_bind_ok] at happly
    obtain ⟨hnone, happly⟩ := happly
    cases happly
    cases parseRfc3339_ok hnow
    cases hnone
    exact .leased hpayload hrun hattempt (by simpa using hfresh) hgrant hlive hactive
  | workClaimed payload =>
    simp only [applyPayload, applyClaimed, requireCall_bind_ok, presentCall_bind_ok] at happly
    obtain ⟨current, hcurrent, -, hopen, happly⟩ := happly
    split_ifs at happly
    · cases happly
      exact .claimedAgain hpayload
    · cases happly
      exact .claimed hpayload hcurrent hopen
  | workCompleted payload =>
    simp only [applyPayload, applyCompleted, presentCall_bind_ok] at happly
    obtain ⟨current, hcurrent, happly⟩ := happly
    split_ifs at happly with hdone
    · simp only [requireCall_bind_ok] at happly
      obtain ⟨-, happly⟩ := happly
      cases happly
      exact .completedAgain hpayload hcurrent hdone
    · simp only [requireCall_bind_ok] at happly
      obtain ⟨hopen, hclaimed, happly⟩ := happly
      cases happly
      exact .completed hpayload hcurrent hopen hclaimed
  | workFailed payload =>
    simp only [applyPayload, applyFailed, presentCall_bind_ok] at happly
    obtain ⟨current, hcurrent, happly⟩ := happly
    split_ifs at happly with hdone
    · simp only [requireCall_bind_ok] at happly
      obtain ⟨-, happly⟩ := happly
      cases happly
      exact .failedAgain hpayload hcurrent hdone
    · simp only [requireCall_bind_ok] at happly
      obtain ⟨hopen, happly⟩ := happly
      cases happly
      exact .failed hpayload hcurrent hopen
  | workLeaseExpired payload =>
    simp only [applyPayload, applyExpired, presentCall_bind_ok] at happly
    obtain ⟨current, hcurrent, happly⟩ := happly
    split_ifs at happly
    · cases happly
      exact .expiredAgain hpayload
    · simp only [requireCall_bind_ok] at happly
      obtain ⟨hopen, happly⟩ := happly
      cases happly
      exact .expired hpayload hcurrent hopen

end ResearchOs.Workers

/-! Lease exclusivity of a queued work item. -/
namespace ResearchOs.Workers

open JsonText (FloatText)

variable {F : FloatText} {projectId : EventIdentifier} {fold next : WorkerFold}
  {event : ResearchEvent} {events : List ResearchEvent}

/-- The queued work that a lease is for. -/
def LeaseRecord.item (lease : LeaseRecord) : EventIdentifier × EventIdentifier :=
  (lease.taskId, lease.attemptId)

/-- What a lease keeps from its opening on. -/
def LeaseRecord.terms (lease : LeaseRecord) : EventIdentifier × EventIdentifier ×
    EventIdentifier × EventIdentifier × EventIdentifier × Rfc3339Timestamp :=
  (lease.workerId, lease.taskId, lease.grantId, lease.runId, lease.attemptId, lease.expiresAt)

theorem LeaseRecord.item_of_terms {a b : LeaseRecord} (h : a.terms = b.terms) :
    a.item = b.item := by
  simp only [terms, Prod.mk.injEq] at h
  simp only [item, Prod.mk.injEq]
  exact ⟨h.2.1, h.2.2.2.2.1⟩

theorem LeaseRecord.expiresAt_of_terms {a b : LeaseRecord} (h : a.terms = b.terms) :
    a.expiresAt = b.expiresAt := by
  simp only [terms, Prod.mk.injEq] at h
  exact h.2.2.2.2.2

def LeaseRecord.unsettled (lease : LeaseRecord) : Prop := lease.status ∉ terminalLease

/-- The instant at which a fact opens a lease. -/
def leaseTime (F : FloatText) (projectId : EventIdentifier) (event : ResearchEvent) :
    Option Instant :=
  match workerPayload F projectId event with
  | some (.workLeased _) => some event.time.instant
  | _ => none

/-- What an accepted fact does to the leases. -/
inductive LeaseChange (F : FloatText) (projectId : EventIdentifier) (fold : WorkerFold)
    (event : ResearchEvent) : List LeaseRecord → Prop
  | kept (htime : leaseTime F projectId event = none) :
      LeaseChange F projectId fold event fold.leases
  | opened {payload : WorkLeasedPayload} {runId attemptId : EventIdentifier}
      (hpayload : workerPayload F projectId event = some (.workLeased payload))
      (hattempt : event.data.attemptId = some attemptId)
      (hfresh : fold.lease payload.leaseId = none)
      (hactive : fold.activeLeaseFor payload.taskId attemptId event.time.instant = .ok none) :
      LeaseChange F projectId fold event (fold.leases ++ [openedLease payload runId attemptId])
  | moved {current updated : LeaseRecord} (htime : leaseTime F projectId event = none)
      (hcurrent : fold.lease updated.leaseId = some current)
      (hopen : current.unsettled) (hterms : updated.terms = current.terms)
      (hcompleted : updated.status = .completed → ∃ payload,
        workerPayload F projectId event = some (.workCompleted payload) ∧
          payload.leaseId = current.leaseId ∧
          updated.resultDigest = some payload.resultDigest ∧
          updated.artifactDigest = some payload.artifactDigest)
      (hfailed : updated.status = .failed → ∃ payload,
        workerPayload F projectId event = some (.workFailed payload) ∧
          payload.leaseId = current.leaseId ∧ updated.reasonCode = some payload.reasonCode) :
      LeaseChange F projectId fold event (replaceLease fold.leases updated)

theorem leaseId_of_lease {leaseId : EventIdentifier} {lease : LeaseRecord}
    (h : fold.lease leaseId = some lease) : lease.leaseId = leaseId ∧ lease ∈ fold.leases :=
  ⟨by simpa using List.find?_some h, List.mem_of_find?_eq_some h⟩

theorem leaseChange (h : applyWorkerFold F projectId fold event = .ok next) :
    LeaseChange F projectId fold event next.leases := by
  cases foldStep h with
  | leased hpayload hrun hattempt hfresh hgrant hlive hactive =>
    exact .opened hpayload hattempt hfresh hactive
  | claimed hpayload hcurrent hopen =>
    obtain ⟨hid, -⟩ := leaseId_of_lease hcurrent
    refine .moved (by simp [leaseTime, hpayload]) (hid ▸ hcurrent) hopen rfl ?_ ?_
    · intro hstatus
      exact absurd hstatus fun h => hopen (by simp_all [terminalLease])
    · intro hstatus
      exact absurd hstatus fun h => hopen (by simp_all [terminalLease])
  | completed hpayload hcurrent hopen hclaimed =>
    obtain ⟨hid, -⟩ := leaseId_of_lease hcurrent
    exact .moved (by simp [leaseTime, hpayload]) (hid ▸ hcurrent) hopen rfl
      (fun _ => ⟨_, hpayload, hid.symm, rfl, rfl⟩) (fun hstatus => by cases hstatus)
  | failed hpayload hcurrent hopen =>
    obtain ⟨hid, -⟩ := leaseId_of_lease hcurrent
    exact .moved (by simp [leaseTime, hpayload]) (hid ▸ hcurrent) hopen rfl
      (fun hstatus => by cases hstatus) (fun _ => ⟨_, hpayload, hid.symm, rfl⟩)
  | expired hpayload hcurrent hopen =>
    obtain ⟨hid, -⟩ := leaseId_of_lease hcurrent
    exact .moved (by simp [leaseTime, hpayload]) (hid ▸ hcurrent) hopen rfl
      (fun hstatus => by cases hstatus) (fun hstatus => by cases hstatus)
  | foreign hpayload => exact .kept (by simp [leaseTime, hpayload])
  | registered hpayload => exact .kept (by simp [leaseTime, hpayload])
  | grantRecorded hpayload => exact .kept (by simp [leaseTime, hpayload])
  | grantRevoked hpayload => exact .kept (by simp [leaseTime, hpayload])
  | grantConsumed hpayload => exact .kept (by simp [leaseTime, hpayload])
  | queued hpayload => exact .kept (by simp [leaseTime, hpayload])
  | completedAgain hpayload => exact .kept (by simp [leaseTime, hpayload])
  | failedAgain hpayload => exact .kept (by simp [leaseTime, hpayload])
  | claimedAgain hpayload => exact .kept (by simp [leaseTime, hpayload])
  | consumedAgain hpayload => exact .kept (by simp [leaseTime, hpayload])
  | expiredAgain hpayload => exact .kept (by simp [leaseTime, hpayload])

/-! The list of leases. -/

def UniqueLeases (leases : List LeaseRecord) : Prop := (leases.map LeaseRecord.leaseId).Nodup

theorem forall_ne_of_lease_eq_none {leaseId : EventIdentifier} (h : fold.lease leaseId = none) :
    ∀ lease ∈ fold.leases, lease.leaseId ≠ leaseId := by
  intro lease hlease
  simpa using List.find?_eq_none.mp h lease hlease

theorem eq_of_leaseId {current lease : LeaseRecord} {leaseId : EventIdentifier}
    (hunique : UniqueLeases fold.leases) (hcurrent : fold.lease leaseId = some current)
    (hlease : lease ∈ fold.leases) (hid : lease.leaseId = leaseId) : lease = current := by
  obtain ⟨hcid, hmem⟩ := leaseId_of_lease hcurrent
  exact List.inj_on_of_nodup_map hunique hlease hmem (hid.trans hcid.symm)

theorem replaceLease_leaseIds (leases : List LeaseRecord) (updated : LeaseRecord) :
    (replaceLease leases updated).map LeaseRecord.leaseId = leases.map LeaseRecord.leaseId := by
  rw [replaceLease, List.map_map]
  apply List.map_congr_left
  intro lease _
  simp only [Function.comp_apply]
  split
  · rename_i hid
    exact hid.symm
  · rfl

/-- A record after a replacement is an old one, or the new one in place of the current one. -/
theorem mem_replaceLease {current updated lease : LeaseRecord}
    (hcurrent : fold.lease updated.leaseId = some current)
    (hlease : lease ∈ replaceLease fold.leases updated) :
    (lease ∈ fold.leases ∧ lease.leaseId ≠ current.leaseId) ∨ lease = updated := by
  obtain ⟨hcid, -⟩ := leaseId_of_lease hcurrent
  obtain ⟨old, hold, rfl⟩ := List.mem_map.mp hlease
  split
  · exact .inr rfl
  · rename_i hne
    rw [hcid]
    exact .inl ⟨hold, hne⟩

theorem mem_replaceLease_self {current updated : LeaseRecord}
    (hcurrent : fold.lease updated.leaseId = some current) :
    updated ∈ replaceLease fold.leases updated := by
  obtain ⟨hcid, hmem⟩ := leaseId_of_lease hcurrent
  exact List.mem_map.mpr ⟨current, hmem, if_pos hcid⟩

theorem mem_replaceLease_of_ne {updated lease : LeaseRecord} (hlease : lease ∈ fold.leases)
    (hne : lease.leaseId ≠ updated.leaseId) : lease ∈ replaceLease fold.leases updated :=
  List.mem_map.mpr ⟨lease, hlease, if_neg hne⟩

theorem uniqueLeases_apply (hunique : UniqueLeases fold.leases)
    (h : applyWorkerFold F projectId fold event = .ok next) : UniqueLeases next.leases := by
  have hchange := leaseChange h
  generalize next.leases = leases at hchange ⊢
  cases hchange with
  | kept htime => exact hunique
  | opened hpayload hattempt hfresh hactive =>
    rw [UniqueLeases, List.map_append, List.nodup_append]
    refine ⟨hunique, by simp, ?_⟩
    intro id hid id' hid'
    obtain ⟨lease, hlease, rfl⟩ := List.mem_map.mp hid
    simp only [List.map_cons, List.map_nil, List.mem_singleton] at hid'
    subst hid'
    exact forall_ne_of_lease_eq_none hfresh lease hlease
  | moved htime hcurrent hopen hterms hcompleted hfailed =>
    rw [UniqueLeases, replaceLease_leaseIds]
    exact hunique

theorem uniqueLeases_replay (h : replayWorkers F projectId events = .ok fold) :
    UniqueLeases fold.leases :=
  Fold.foldlM_invariant (P := fun fold : WorkerFold => UniqueLeases fold.leases)
    (fun _ _ _ hunique happly => uniqueLeases_apply hunique happly)
    (show UniqueLeases WorkerFold.empty.leases from List.nodup_nil) h

/-! When a lease is valid. -/

/-- When the leases of a log were opened, in the order of the leases. -/
def leaseTimes (F : FloatText) (projectId : EventIdentifier) (events : List ResearchEvent) :
    List Instant :=
  events.filterMap (leaseTime F projectId)

/-- A lease and when it was opened. -/
abbrev TimedLease := LeaseRecord × Instant

def TimedLease.validity (lease : TimedLease) : Set Instant :=
  Set.Ico lease.2 lease.1.expiresAt.instant

/-- An earlier unsettled lease of an item ran out before the later one was opened. -/
def RunsOutBefore (a b : TimedLease) : Prop :=
  a.1.item = b.1.item → a.1.unsettled → a.1.expiresAt.instant ≤ b.2

theorem RunsOutBefore.disjoint {a b : TimedLease} (h : RunsOutBefore a b)
    (hitem : a.1.item = b.1.item) (ha : a.1.unsettled) : Disjoint a.validity b.validity :=
  Set.Ico_disjoint_Ico.mpr (le_trans (min_le_left _ _) (le_trans (h hitem ha) (le_max_right _ _)))

theorem activeLease_none {taskId attemptId : EventIdentifier} {now : Instant}
    {leases : List LeaseRecord} (h : activeLease taskId attemptId now leases = .ok none) :
    ∀ lease ∈ leases, lease.item = (taskId, attemptId) → lease.unsettled →
      lease.expiresAt.instant ≤ now := by
  induction leases with
  | nil => simp
  | cons item rest ih =>
    intro lease hlease hitem hunsettled
    unfold activeLease at h
    split_ifs at h with hother hterminal
    · rcases List.mem_cons.mp hlease with rfl | hlease
      · simp only [LeaseRecord.item, Prod.mk.injEq] at hitem
        rcases hother with hother | hother
        · exact absurd hitem.1 hother
        · exact absurd hitem.2 hother
      · exact ih h lease hlease hitem hunsettled
    · rcases List.mem_cons.mp hlease with rfl | hlease
      · exact absurd hterminal hunsettled
      · exact ih h lease hlease hitem hunsettled
    · obtain ⟨expiresAt, hexpires, h⟩ := Fold.bind_eq_ok.mp h
      cases parseRfc3339_ok hexpires
      split_ifs at h with hpast
      · rcases List.mem_cons.mp hlease with rfl | hlease
        · exact hpast
        · exact ih h lease hlease hitem hunsettled
      · cases h

theorem zip_replaceLease (leases : List LeaseRecord) (updated : LeaseRecord)
    (times : List Instant) : (replaceLease leases updated).zip times =
      (leases.zip times).map fun a =>
        (if a.1.leaseId = updated.leaseId then updated else a.1, a.2) := by
  rw [replaceLease, List.zip_map_left]
  rfl

/-- Every later lease of an item was opened after the earlier unsettled ones had run out. -/
structure WellTimed (fold : WorkerFold) (times : List Instant) : Prop where
  length : fold.leases.length = times.length
  unique : UniqueLeases fold.leases
  runsOut : (fold.leases.zip times).Pairwise RunsOutBefore

theorem pairwise_replaceLease {current updated : LeaseRecord} {times : List Instant}
    (hunique : UniqueLeases fold.leases) (hcurrent : fold.lease updated.leaseId = some current)
    (hopen : current.unsettled) (hterms : updated.terms = current.terms)
    (h : (fold.leases.zip times).Pairwise RunsOutBefore) :
    ((replaceLease fold.leases updated).zip times).Pairwise RunsOutBefore := by
  have hold : ∀ a ∈ fold.leases.zip times, a.1.leaseId = updated.leaseId → a.1 = current :=
    fun a ha hid => eq_of_leaseId hunique hcurrent (List.of_mem_zip ha).1 hid
  have hitem := LeaseRecord.item_of_terms hterms
  have hexpires := LeaseRecord.expiresAt_of_terms hterms
  rw [zip_replaceLease, List.pairwise_map]
  refine (List.Pairwise.and_mem.mp h).imp ?_
  rintro a b ⟨ha, hb, hab⟩
  have hbitem : (if b.1.leaseId = updated.leaseId then updated else b.1).item = b.1.item := by
    split
    · rename_i hid
      rw [hold b hb hid, hitem]
    · rfl
  intro heq hunsettled
  rw [hbitem] at heq
  dsimp only at heq hunsettled ⊢
  split_ifs at heq hunsettled ⊢ with hid
  · have hcur := hold a ha hid
    rw [hexpires, ← hcur]
    apply hab
    · rw [hcur, ← hitem, heq]
    · rw [hcur]
      exact hopen
  · exact hab heq hunsettled

theorem wellTimed_apply {times : List Instant} (htimed : WellTimed fold times)
    (h : applyWorkerFold F projectId fold event = .ok next) :
    WellTimed next (times ++ (leaseTime F projectId event).toList) := by
  have hunique := uniqueLeases_apply htimed.unique h
  have hchange := leaseChange h
  obtain ⟨workers, grants, queued, leases⟩ := next
  dsimp only at hchange hunique
  cases hchange with
  | kept htime =>
    rw [htime, Option.toList_none, List.append_nil]
    exact ⟨htimed.length, hunique, htimed.runsOut⟩
  | moved htime hcurrent hopen hterms hcompleted hfailed =>
    rw [htime, Option.toList_none, List.append_nil]
    refine ⟨?_, hunique, ?_⟩
    · simpa [replaceLease] using htimed.length
    · exact pairwise_replaceLease htimed.unique hcurrent hopen hterms htimed.runsOut
  | opened hpayload hattempt hfresh hactive =>
    have htime : leaseTime F projectId event = some event.time.instant := by
      simp [leaseTime, hpayload]
    rw [htime, Option.toList_some]
    refine ⟨by simp [htimed.length], hunique, ?_⟩
    rw [List.zip_append htimed.length, List.pairwise_append]
    refine ⟨htimed.runsOut, by simp, ?_⟩
    intro a ha b hb
    simp only [List.zip_cons_cons, List.zip_nil_left, List.mem_singleton] at hb
    subst hb
    intro hitem hunsettled
    exact activeLease_none hactive a.1 (List.of_mem_zip ha).1 hitem hunsettled

theorem wellTimed_replay (h : replayWorkers F projectId events = .ok fold) :
    WellTimed fold (leaseTimes F projectId events) := by
  induction events using List.reverseRecOn generalizing fold with
  | nil =>
    cases h
    exact ⟨rfl, List.nodup_nil, .nil⟩
  | append_singleton events event ih =>
    obtain ⟨before, hbefore, happly⟩ := Fold.foldlM_concat_eq_ok.mp h
    have htimed := wellTimed_apply (ih hbefore) happly
    rw [leaseTimes, List.filterMap_append]
    cases htime : leaseTime F projectId event with
    | none => simpa [leaseTimes, htime] using htimed
    | some time => simpa [leaseTimes, htime] using htimed

end ResearchOs.Workers
