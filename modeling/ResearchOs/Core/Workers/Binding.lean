import ResearchOs.Core.Workers.Exclusive
import ResearchOs.Core.Workers.Grants

/-! What binds a completed lease to its grant. -/
namespace ResearchOs.Workers

open JsonText (FloatText)

variable {F : FloatText} {projectId : EventIdentifier} {fold next : WorkerFold}
  {event : ResearchEvent} {events : List ResearchEvent}

/-! What a fact leaves of a grant. -/

/-- What a grant keeps from its record on. -/
def GrantRecord.binding (grant : GrantRecord) : EventIdentifier × EventIdentifier ×
    EventIdentifier × EventIdentifier × EventIdentifier :=
  (grant.workerId, grant.runId, grant.taskId, grant.attemptId, grant.nonce)

/-- A later record of a grant: its binding stays, and so does the lease that consumed it. -/
structure GrantLater (grant later : GrantRecord) : Prop where
  binding : later.binding = grant.binding
  consumed : ∀ leaseId, grant.consumedLeaseId = some leaseId →
    later.consumedLeaseId = some leaseId

theorem GrantLater.refl (grant : GrantRecord) : GrantLater grant grant := ⟨rfl, fun _ h => h⟩

theorem grant_replaced {grantId : EventIdentifier} {grant current updated : GrantRecord}
    (hgrant : fold.grant grantId = some grant) (hcurrent : fold.grant updated.grantId = some current)
    (hlater : GrantLater current updated) :
    ∃ later, (replaceGrant fold.grants updated).find? (fun item => item.grantId = grantId) =
      some later ∧ GrantLater grant later := by
  have hfound : fold.grants.find? (fun item => item.grantId = grantId) = some grant := hgrant
  rw [find?_replaceGrant, hfound, Option.map_some, grantId_of_grant hgrant]
  refine ⟨_, rfl, ?_⟩
  split
  · rename_i hsame
    rw [← hsame, hgrant] at hcurrent
    cases hcurrent
    exact hlater
  · exact .refl grant

theorem grantLater_apply {grantId : EventIdentifier} {grant : GrantRecord}
    (hgrant : fold.grant grantId = some grant)
    (h : applyWorkerFold F projectId fold event = .ok next) :
    ∃ later, next.grant grantId = some later ∧ GrantLater grant later := by
  have hfound : fold.grants.find? (fun item => item.grantId = grantId) = some grant := hgrant
  cases foldStep h with
  | grantRecorded hpayload =>
    exact ⟨grant, by simp [WorkerFold.grant, List.find?_append, hfound], .refl grant⟩
  | grantRevoked hpayload hcurrent hlive =>
    rename_i payload current
    have hcid := grantId_of_grant hcurrent
    rw [← hcid] at hcurrent
    have hlater : GrantLater current { current with revoked := true } := ⟨rfl, fun _ h => h⟩
    exact grant_replaced hgrant hcurrent hlater
  | grantConsumed hpayload hcurrent hlive hunused =>
    rename_i payload current
    have hcid := grantId_of_grant hcurrent
    rw [← hcid] at hcurrent
    have hlater : GrantLater current { current with consumedLeaseId := some payload.leaseId } := by
      refine ⟨rfl, fun leaseId hconsumed => ?_⟩
      rw [hunused] at hconsumed
      cases hconsumed
    exact grant_replaced hgrant hcurrent hlater
  | foreign hpayload => exact ⟨grant, hgrant, .refl grant⟩
  | registered hpayload => exact ⟨grant, hgrant, .refl grant⟩
  | queued hpayload => exact ⟨grant, hgrant, .refl grant⟩
  | leased hpayload => exact ⟨grant, hgrant, .refl grant⟩
  | claimed hpayload => exact ⟨grant, hgrant, .refl grant⟩
  | completed hpayload => exact ⟨grant, hgrant, .refl grant⟩
  | completedAgain hpayload => exact ⟨grant, hgrant, .refl grant⟩
  | failed hpayload => exact ⟨grant, hgrant, .refl grant⟩
  | failedAgain hpayload => exact ⟨grant, hgrant, .refl grant⟩
  | expired hpayload => exact ⟨grant, hgrant, .refl grant⟩
  | claimedAgain hpayload => exact ⟨grant, hgrant, .refl grant⟩
  | consumedAgain hpayload => exact ⟨grant, hgrant, .refl grant⟩
  | expiredAgain hpayload => exact ⟨grant, hgrant, .refl grant⟩

/-- An accepted fact goes through the handler of its payload. -/
theorem applyPayload_of_apply {payload : WorkerPayload}
    (h : applyWorkerFold F projectId fold event = .ok next)
    (hpayload : workerPayload F projectId event = some payload) :
    applyPayload fold event payload = .ok next := by
  rcases applyWorkerFold_ok h with ⟨hnone, -⟩ | ⟨found, hfound, happly⟩
  · rw [hpayload] at hnone
    cases hnone
  · rw [hpayload] at hfound
    cases hfound
    exact happly

/-- An accepted consumption leaves its grant consumed by its lease. -/
theorem consumed_apply {payload : GrantConsumedPayload}
    (h : applyWorkerFold F projectId fold event = .ok next)
    (hpayload : workerPayload F projectId event = some (.grantConsumed payload)) :
    ∃ grant, next.grant payload.grantId = some grant ∧
      grant.consumedLeaseId = some payload.leaseId := by
  have happly := applyPayload_of_apply h hpayload
  simp only [applyPayload, applyGrantConsumed, requireCall_bind_ok, presentCall_bind_ok] at happly
  obtain ⟨current, hcurrent, hlive, hnonce, happly⟩ := happly
  have hcid := grantId_of_grant hcurrent
  have hfound : fold.grants.find? (fun item => item.grantId = payload.grantId) = some current :=
    hcurrent
  split at happly
  · rename_i consumed hconsumed
    simp only [requireCall_bind_ok] at happly
    obtain ⟨hsame, happly⟩ := happly
    cases happly
    exact ⟨current, hcurrent, hsame ▸ hconsumed⟩
  · simp only [requireCall_bind_ok] at happly
    obtain ⟨-, happly⟩ := happly
    cases happly
    refine ⟨{ current with consumedLeaseId := some payload.leaseId }, ?_, rfl⟩
    simp only [WorkerFold.grant]
    rw [find?_replaceGrant, hfound, Option.map_some, if_pos rfl]

/-- The grant of an accepted lease is live and names its worker and its task. -/
theorem leased_apply {payload : WorkLeasedPayload}
    (h : applyWorkerFold F projectId fold event = .ok next)
    (hpayload : workerPayload F projectId event = some (.workLeased payload)) :
    ∃ grant, fold.grant payload.grantId = some grant ∧ grant.revoked = false ∧
      grant.workerId = payload.workerId ∧ grant.taskId = payload.taskId := by
  have happly := applyPayload_of_apply h hpayload
  simp only [applyPayload, applyLeased, requireCall_bind_ok, presentCall_bind_ok] at happly
  obtain ⟨-, worker, -, grant, hgrant, hlive, ⟨hworker, htask⟩, -⟩ := happly
  exact ⟨grant, hgrant, hlive, hworker, htask⟩

/-! Where a lease comes from. -/

theorem mem_replaced {leaseId : EventIdentifier} {current updated lease : LeaseRecord}
    (hcurrent : fold.lease leaseId = some current)
    (hlease : lease ∈ replaceLease fold.leases updated) (hid : updated.leaseId = current.leaseId) :
    lease ∈ fold.leases ∨
      (lease = updated ∧ lease.leaseId = leaseId ∧ fold.lease lease.leaseId = some current) := by
  have hcid := (leaseId_of_lease hcurrent).1
  have hfound : fold.lease updated.leaseId = some current := by rw [hid, hcid, hcurrent]
  rcases mem_replaceLease hfound hlease with ⟨hold, -⟩ | rfl
  · exact .inl hold
  · exact .inr ⟨rfl, hid.trans hcid, hfound⟩

/-- A lease after an accepted fact: it was there, the fact opens it, or the fact moves it. -/
inductive LeaseOrigin (F : FloatText) (projectId : EventIdentifier) (fold : WorkerFold)
    (event : ResearchEvent) (lease : LeaseRecord) : Prop
  | kept (hlease : lease ∈ fold.leases)
  | opened {payload : WorkLeasedPayload}
      (hpayload : workerPayload F projectId event = some (.workLeased payload))
      (hrun : event.data.runId = some lease.runId)
      (hattempt : event.data.attemptId = some lease.attemptId)
      (hlease : lease = openedLease payload lease.runId lease.attemptId)
      (hfresh : fold.lease lease.leaseId = none)
  | claimed {payload : WorkClaimedPayload} {current : LeaseRecord}
      (hpayload : workerPayload F projectId event = some (.workClaimed payload))
      (hid : payload.leaseId = lease.leaseId) (hcurrent : fold.lease lease.leaseId = some current)
      (hlease : lease = { current with claimed := true }) (hopen : current.unsettled)
  | completed {payload : WorkCompletedPayload} {current : LeaseRecord}
      (hpayload : workerPayload F projectId event = some (.workCompleted payload))
      (hid : payload.leaseId = lease.leaseId) (hcurrent : fold.lease lease.leaseId = some current)
      (hterms : lease.terms = current.terms) (hclaimed : current.claimed = true)
      (hkept : lease.claimed = true)
  | ended {current : LeaseRecord} (hcurrent : fold.lease lease.leaseId = some current)
      (hterms : lease.terms = current.terms) (hclaimed : lease.claimed = current.claimed)
      (hstatus : lease.status ≠ .completed)

theorem leaseOrigin (h : applyWorkerFold F projectId fold event = .ok next) :
    ∀ lease ∈ next.leases, LeaseOrigin F projectId fold event lease := by
  intro lease hlease
  cases foldStep h with
  | leased hpayload hrun hattempt hfresh hgrant hlive hactive =>
    rcases List.mem_append.mp hlease with hlease | hlease
    · exact .kept hlease
    · cases List.mem_singleton.mp hlease
      exact .opened hpayload hrun hattempt rfl hfresh
  | claimed hpayload hcurrent hopen =>
    rcases mem_replaced hcurrent hlease rfl with hold | ⟨rfl, hid, hfound⟩
    · exact .kept hold
    · exact .claimed hpayload hid.symm hfound rfl hopen
  | completed hpayload hcurrent hopen hclaimed =>
    rcases mem_replaced hcurrent hlease rfl with hold | ⟨rfl, hid, hfound⟩
    · exact .kept hold
    · exact .completed hpayload hid.symm hfound rfl hclaimed rfl
  | failed hpayload hcurrent hopen =>
    rcases mem_replaced hcurrent hlease rfl with hold | ⟨rfl, hid, hfound⟩
    · exact .kept hold
    · exact .ended hfound rfl rfl (by simp)
  | expired hpayload hcurrent hopen =>
    rcases mem_replaced hcurrent hlease rfl with hold | ⟨rfl, hid, hfound⟩
    · exact .kept hold
    · exact .ended hfound rfl rfl (by simp)
  | foreign hpayload => exact .kept hlease
  | registered hpayload => exact .kept hlease
  | grantRecorded hpayload => exact .kept hlease
  | grantRevoked hpayload => exact .kept hlease
  | grantConsumed hpayload => exact .kept hlease
  | queued hpayload => exact .kept hlease
  | completedAgain hpayload => exact .kept hlease
  | failedAgain hpayload => exact .kept hlease
  | claimedAgain hpayload => exact .kept hlease
  | consumedAgain hpayload => exact .kept hlease
  | expiredAgain hpayload => exact .kept hlease

/-! The binding along a log. -/

/-- A lease carries the run and the attempt of its grant, a first claim the nonce, and a result
comes when its lease has consumed the grant. -/
def keepsBinding (F : FloatText) (projectId : EventIdentifier) (fold : WorkerFold)
    (event : ResearchEvent) : Bool :=
  match workerPayload F projectId event with
  | some (.workLeased payload) =>
    (fold.grant payload.grantId).all fun grant =>
      decide (event.data.runId = some grant.runId ∧ event.data.attemptId = some grant.attemptId)
  | some (.workClaimed payload) =>
    (fold.lease payload.leaseId).all fun lease =>
      lease.claimed || (fold.grant lease.grantId).all fun grant =>
        decide (payload.nonce = grant.nonce)
  | some (.workCompleted payload) =>
    (fold.lease payload.leaseId).all fun lease =>
      (fold.grant lease.grantId).all fun grant =>
        decide (grant.consumedLeaseId = some lease.leaseId)
  | _ => true

/-- The accepted facts of a log keep the binding. -/
def bindingKept (F : FloatText) (projectId : EventIdentifier) :
    WorkerFold → List ResearchEvent → Bool
  | _, [] => true
  | fold, event :: rest =>
    match applyWorkerFold F projectId fold event with
    | .ok next => keepsBinding F projectId fold event && bindingKept F projectId next rest
    | .error _ => true

theorem keepsBinding_of_kept {before : List ResearchEvent} {previous : WorkerFold}
    (hkept : bindingKept F projectId fold events = true) (hlonger : before ++ [event] <+: events)
    (hbefore : before.foldlM (applyWorkerFold F projectId) fold = .ok previous)
    (happly : applyWorkerFold F projectId previous event = .ok next) :
    keepsBinding F projectId previous event = true := by
  obtain ⟨rest, rfl⟩ := hlonger
  induction before generalizing fold with
  | nil =>
    cases hbefore
    simp only [List.nil_append, List.cons_append, bindingKept, happly, Bool.and_eq_true] at hkept
    exact hkept.1
  | cons first before ih =>
    obtain ⟨second, hfirst, hbefore⟩ := Fold.foldlM_cons_eq_ok.mp hbefore
    simp only [List.cons_append, bindingKept, hfirst, Bool.and_eq_true] at hkept
    exact ih hbefore hkept.2

/-- A fact of the log that the fold before it meets. -/
def Met (F : FloatText) (projectId : EventIdentifier) (events : List ResearchEvent)
    (P : WorkerFold → ResearchEvent → Prop) : Prop :=
  ∃ before event fold, before ++ [event] <+: events ∧
    replayWorkers F projectId before = .ok fold ∧ P fold event

theorem Met.concat {P : WorkerFold → ResearchEvent → Prop} (h : Met F projectId events P) :
    Met F projectId (events ++ [event]) P := by
  obtain ⟨before, fact, fold, hlonger, hfold, hfact⟩ := h
  exact ⟨before, fact, fold, hlonger.trans (List.prefix_append _ _), hfold, hfact⟩

/-- The fact that opens a lease, under a live grant. -/
def Opens (F : FloatText) (projectId : EventIdentifier) (lease : LeaseRecord) (grant : GrantRecord)
    (fold : WorkerFold) (event : ResearchEvent) : Prop :=
  ∃ payload current, workerPayload F projectId event = some (.workLeased payload) ∧
    payload.leaseId = lease.leaseId ∧ fold.lease lease.leaseId = none ∧
    fold.grant lease.grantId = some current ∧ current.binding = grant.binding ∧
    current.revoked = false

/-- The fact that claims a lease, with the nonce of its grant. -/
def Claims (F : FloatText) (projectId : EventIdentifier) (lease : LeaseRecord) (grant : GrantRecord)
    (fold : WorkerFold) (event : ResearchEvent) : Prop :=
  ∃ payload current, workerPayload F projectId event = some (.workClaimed payload) ∧
    payload.leaseId = lease.leaseId ∧ fold.lease lease.leaseId = some current ∧
    current.claimed = false ∧ payload.nonce = grant.nonce

/-- What binds a lease to the record of its grant. -/
structure Bound (F : FloatText) (projectId : EventIdentifier) (events : List ResearchEvent)
    (fold : WorkerFold) (lease : LeaseRecord) (grant : GrantRecord) : Prop where
  recorded : fold.grant lease.grantId = some grant
  worker : grant.workerId = lease.workerId
  run : grant.runId = lease.runId
  task : grant.taskId = lease.taskId
  attempt : grant.attemptId = lease.attemptId
  opened : Met F projectId events (Opens F projectId lease grant)
  claimed : lease.claimed = true → Met F projectId events (Claims F projectId lease grant)
  completed : lease.status = .completed →
    lease.claimed = true ∧ grant.consumedLeaseId = some lease.leaseId

/-- The grant of every consumption in the log is consumed by its lease. -/
def Consumed (F : FloatText) (projectId : EventIdentifier) (events : List ResearchEvent)
    (fold : WorkerFold) : Prop :=
  ∀ event ∈ events, ∀ payload, workerPayload F projectId event = some (.grantConsumed payload) →
    ∃ grant, fold.grant payload.grantId = some grant ∧
      grant.consumedLeaseId = some payload.leaseId

theorem consumed_replay (h : replayWorkers F projectId events = .ok fold) :
    Consumed F projectId events fold := by
  induction events using List.reverseRecOn generalizing fold with
  | nil => simp [Consumed]
  | append_singleton events event ih =>
    obtain ⟨before, hbefore, happly⟩ := Fold.foldlM_concat_eq_ok.mp h
    intro fact hfact payload hpayload
    rcases List.mem_append.mp hfact with hfact | hfact
    · obtain ⟨grant, hgrant, hconsumed⟩ := ih hbefore fact hfact payload hpayload
      obtain ⟨later, hlater, hkept⟩ := grantLater_apply hgrant happly
      exact ⟨later, hlater, hkept.consumed _ hconsumed⟩
    · cases List.mem_singleton.mp hfact
      exact consumed_apply happly hpayload

variable {lease current : LeaseRecord} {grant later : GrantRecord}

theorem Met.imp {P Q : WorkerFold → ResearchEvent → Prop} (h : Met F projectId events P)
    (hPQ : ∀ fold event, P fold event → Q fold event) : Met F projectId events Q := by
  obtain ⟨before, fact, fold, hlonger, hfold, hfact⟩ := h
  exact ⟨before, fact, fold, hlonger, hfold, hPQ fold fact hfact⟩

theorem Met.last {P : WorkerFold → ResearchEvent → Prop}
    (hfold : replayWorkers F projectId events = .ok fold) (h : P fold event) :
    Met F projectId (events ++ [event]) P :=
  ⟨events, event, fold, List.prefix_refl _, hfold, h⟩

theorem nonce_of_binding (h : later.binding = grant.binding) : later.nonce = grant.nonce := by
  simp only [GrantRecord.binding, Prod.mk.injEq] at h
  exact h.2.2.2.2

/-- A step keeps what binds a lease that it leaves alone. -/
theorem Bound.concat (h : Bound F projectId events fold lease grant)
    (happly : applyWorkerFold F projectId fold event = .ok next) :
    ∃ later, GrantLater grant later ∧ Bound F projectId (events ++ [event]) next lease later := by
  obtain ⟨later, hlater, hkept⟩ := grantLater_apply h.recorded happly
  have hbinding := hkept.binding
  simp only [GrantRecord.binding, Prod.mk.injEq] at hbinding
  obtain ⟨hworker, hrun, htask, hattempt, hnonce⟩ := hbinding
  refine ⟨later, hkept, hlater, hworker.trans h.worker, hrun.trans h.run, htask.trans h.task,
    hattempt.trans h.attempt, ?_, ?_, ?_⟩
  · refine h.opened.concat.imp ?_
    rintro opening fact ⟨payload, found, hpayload, hid, hfresh, hfound, hsame, hlive⟩
    exact ⟨payload, found, hpayload, hid, hfresh, hfound, hsame.trans hkept.binding.symm, hlive⟩
  · intro hclaimed
    refine (h.claimed hclaimed).concat.imp ?_
    rintro claiming fact ⟨payload, found, hpayload, hid, hfound, hunclaimed, hsame⟩
    exact ⟨payload, found, hpayload, hid, hfound, hunclaimed, hsame.trans hnonce.symm⟩
  · intro hstatus
    obtain ⟨hclaimed, hconsumed⟩ := h.completed hstatus
    exact ⟨hclaimed, hkept.consumed _ hconsumed⟩

/-- What binds the record of a lease binds a later record. -/
theorem Bound.moved (h : Bound F projectId events fold current grant)
    (hid : lease.leaseId = current.leaseId) (hterms : lease.terms = current.terms)
    (hclaimed : lease.claimed = true → Met F projectId events (Claims F projectId lease grant))
    (hcompleted : lease.status = .completed →
      lease.claimed = true ∧ grant.consumedLeaseId = some lease.leaseId) :
    Bound F projectId events fold lease grant := by
  simp only [LeaseRecord.terms, Prod.mk.injEq] at hterms
  obtain ⟨hworker, htask, hgrant, hrun, hattempt, -⟩ := hterms
  refine ⟨by rw [hgrant, h.recorded], h.worker.trans hworker.symm, h.run.trans hrun.symm,
    h.task.trans htask.symm, h.attempt.trans hattempt.symm, ?_, hclaimed, hcompleted⟩
  refine h.opened.imp ?_
  intro opening fact hopens
  unfold Opens at hopens ⊢
  rw [hid, hgrant]
  exact hopens

theorem Bound.claims (h : Bound F projectId events fold current grant)
    (hid : lease.leaseId = current.leaseId) (hclaimed : current.claimed = true) :
    Met F projectId events (Claims F projectId lease grant) := by
  refine (h.claimed hclaimed).imp ?_
  intro claiming fact hclaims
  unfold Claims at hclaims ⊢
  rw [hid]
  exact hclaims

/-- A guarded step binds every lease. -/
theorem bound_apply
    (hbound : ∀ lease ∈ fold.leases, ∃ grant, Bound F projectId events fold lease grant)
    (hfold : replayWorkers F projectId events = .ok fold)
    (hkeeps : keepsBinding F projectId fold event = true)
    (happly : applyWorkerFold F projectId fold event = .ok next) :
    ∀ lease ∈ next.leases, ∃ grant, Bound F projectId (events ++ [event]) next lease grant := by
  intro lease hlease
  cases leaseOrigin happly lease hlease with
  | kept hold =>
    obtain ⟨grant, hgrant⟩ := hbound lease hold
    obtain ⟨later, -, hlater⟩ := hgrant.concat happly
    exact ⟨later, hlater⟩
  | @opened payload hpayload hrun hattempt hopened hfresh =>
    obtain ⟨grant, hgrant, hlive, hworker, htask⟩ := leased_apply happly hpayload
    obtain ⟨later, hlater, hkept⟩ := grantLater_apply hgrant happly
    have hbinding := hkept.binding
    simp only [GrantRecord.binding, Prod.mk.injEq] at hbinding
    simp only [keepsBinding, hpayload, hgrant, Option.all_some, decide_eq_true_eq, hrun, hattempt,
      Option.some.injEq] at hkeeps
    rw [hopened]
    refine ⟨later, hlater, hbinding.1.trans hworker, hbinding.2.1.trans hkeeps.1.symm,
      hbinding.2.2.1.trans htask, hbinding.2.2.2.1.trans hkeeps.2.symm, ?_, ?_, ?_⟩
    · rw [hopened] at hfresh
      exact .last hfold
        ⟨payload, grant, hpayload, rfl, hfresh, hgrant, hkept.binding.symm, hlive⟩
    · intro hclaimed
      cases hclaimed
    · intro hstatus
      cases hstatus
  | @claimed payload current hpayload hid hcurrent hmoved hopen =>
    obtain ⟨hcid, hold⟩ := leaseId_of_lease hcurrent
    obtain ⟨grant, hgrant⟩ := hbound current hold
    obtain ⟨later, hkept, hlater⟩ := hgrant.concat happly
    have hterms : lease.terms = current.terms := by rw [hmoved]; rfl
    refine ⟨later, hlater.moved hcid.symm hterms ?_ ?_⟩
    · intro _
      by_cases hclaimed : current.claimed = true
      · exact hlater.claims hcid.symm hclaimed
      · rw [← hid] at hcurrent
        simp only [keepsBinding, hpayload, hcurrent, Option.all_some, hclaimed, Bool.false_or,
          hgrant.recorded, decide_eq_true_eq] at hkeeps
        rw [hid] at hcurrent
        refine .last hfold ⟨payload, current, hpayload, hid, hcurrent, by simpa using hclaimed, ?_⟩
        rw [hkeeps, nonce_of_binding hkept.binding]
    · intro hstatus
      have hdone : current.status = .completed := by rw [← hstatus, hmoved]
      exact absurd hdone fun hdone => hopen (hdone ▸ List.mem_cons_self)
  | @completed payload current hpayload hid hcurrent hterms hclaimed hstill =>
    obtain ⟨hcid, hold⟩ := leaseId_of_lease hcurrent
    obtain ⟨grant, hgrant⟩ := hbound current hold
    obtain ⟨later, hkept, hlater⟩ := hgrant.concat happly
    refine ⟨later, hlater.moved hcid.symm hterms (fun _ => hlater.claims hcid.symm hclaimed) ?_⟩
    intro _
    rw [← hid] at hcurrent
    simp only [keepsBinding, hpayload, hcurrent, Option.all_some, hgrant.recorded,
      decide_eq_true_eq] at hkeeps
    rw [← hcid]
    exact ⟨hstill, hkept.consumed _ hkeeps⟩
  | @ended current hcurrent hterms hclaimed hstatus =>
    obtain ⟨hcid, hold⟩ := leaseId_of_lease hcurrent
    obtain ⟨grant, hgrant⟩ := hbound current hold
    obtain ⟨later, hkept, hlater⟩ := hgrant.concat happly
    refine ⟨later, hlater.moved hcid.symm hterms ?_ fun hdone => absurd hdone hstatus⟩
    intro hlease
    exact hlater.claims hcid.symm (hclaimed ▸ hlease)

theorem bound_replay (hkept : bindingKept F projectId WorkerFold.empty events = true)
    {before : List ResearchEvent} (hlonger : before <+: events)
    (h : replayWorkers F projectId before = .ok fold) :
    ∀ lease ∈ fold.leases, ∃ grant, Bound F projectId before fold lease grant := by
  induction before using List.reverseRecOn generalizing fold with
  | nil =>
    cases h
    intro lease hlease
    cases hlease
  | append_singleton before event ih =>
    obtain ⟨previous, hprevious, happly⟩ := Fold.foldlM_concat_eq_ok.mp h
    have hbound := ih ((List.prefix_append _ _).trans hlonger) hprevious
    exact bound_apply hbound hprevious (keepsBinding_of_kept hkept hlonger hprevious happly) happly

/-- What binds a completed lease to its grant, and the grant to the lease. -/
structure CompletedUnder (F : FloatText) (projectId : EventIdentifier)
    (events : List ResearchEvent) (fold : WorkerFold) (lease : LeaseRecord) (grant : GrantRecord) :
    Prop where
  recorded : fold.grant lease.grantId = some grant
  worker : grant.workerId = lease.workerId
  run : grant.runId = lease.runId
  task : grant.taskId = lease.taskId
  attempt : grant.attemptId = lease.attemptId
  opened : Met F projectId events (Opens F projectId lease grant)
  claimed : Met F projectId events (Claims F projectId lease grant)
  consumed : grant.consumedLeaseId = some lease.leaseId
  alone : ∀ event ∈ events, ∀ payload,
    workerPayload F projectId event = some (.grantConsumed payload) →
      payload.grantId = lease.grantId → payload.leaseId = lease.leaseId

/-- When the accepted facts of a log keep the binding, every lease that has completed after one
of its prefixes is bound to the one grant that it has consumed. -/
theorem completed_lease_bound (F : FloatText) (projectId : EventIdentifier)
    (events : List ResearchEvent) (hkept : bindingKept F projectId WorkerFold.empty events = true) :
    ∀ before fold, before <+: events → replayWorkers F projectId before = .ok fold →
      ∀ lease ∈ fold.leases, lease.status = .completed →
        ∃ grant, CompletedUnder F projectId before fold lease grant := by
  intro before fold hlonger hfold lease hlease hstatus
  obtain ⟨grant, hbound⟩ := bound_replay hkept hlonger hfold lease hlease
  obtain ⟨hclaimed, hconsumed⟩ := hbound.completed hstatus
  refine ⟨grant, hbound.recorded, hbound.worker, hbound.run, hbound.task, hbound.attempt,
    hbound.opened, hbound.claimed hclaimed, hconsumed, ?_⟩
  intro event hevent payload hpayload hgrant
  obtain ⟨other, hother, hsame⟩ := consumed_replay hfold event hevent payload hpayload
  rw [hgrant, hbound.recorded] at hother
  cases hother
  rw [hconsumed] at hsame
  exact (Option.some.inj hsame).symm

/-- A grant for one run leases the task of another one, which completes with another nonce and
without a consumption. -/
def unboundEvents : List ResearchEvent :=
  let leased := trialLeased ⟨4, .refl true⟩ "worker-a" "grant-a" "lease.grant-a"
  [trialRegistered ⟨1, .refl true⟩ "worker-a", trialWorkQueued ⟨2, .refl true⟩,
    trialGrant ⟨3, .refl true⟩ "worker-a" "grant-a",
    { leased with data := { leased.data with runId := some ⟨"run-2", .refl true⟩ } },
    trialFact ⟨5, .refl true⟩ .workClaimed true
      [("leaseId", .str "lease.grant-a"), ("nonce", .str "other"), ("workerId", .str "worker-a")],
    trialCompleted ⟨6, .refl true⟩ "lease.grant-a"]

theorem unbound_lease_completed :
    ∃ fold lease, replayWorkers JsonText.scientific trialProject unboundEvents = .ok fold ∧
      lease ∈ fold.leases ∧ lease.status = .completed ∧
      ¬ ∃ grant, CompletedUnder JsonText.scientific trialProject unboundEvents fold lease grant := by
  refine ⟨_, _, rfl, List.mem_cons_self, rfl, ?_⟩
  rintro ⟨grant, hbound⟩
  have hconsumed := hbound.consumed
  have hrecorded := hbound.recorded
  cases hrecorded
  cases hconsumed

theorem completed_lease_bound_trial :
    bindingKept JsonText.scientific trialProject WorkerFold.empty (twoGrantsEvents.take 9) = true ∧
      ∃ fold lease, replayWorkers JsonText.scientific trialProject (twoGrantsEvents.take 9) =
        .ok fold ∧ lease ∈ fold.leases ∧ lease.status = .completed ∧
        ∃ grant, CompletedUnder JsonText.scientific trialProject (twoGrantsEvents.take 9) fold lease
          grant := by
  have hkept : bindingKept JsonText.scientific trialProject WorkerFold.empty
      (twoGrantsEvents.take 9) = true := by decide +kernel
  refine ⟨hkept, _, _, rfl, List.mem_cons_self, rfl, ?_⟩
  exact completed_lease_bound JsonText.scientific trialProject (twoGrantsEvents.take 9) hkept _ _
    (List.prefix_refl _) rfl _ List.mem_cons_self rfl

end ResearchOs.Workers
