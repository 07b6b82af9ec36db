import ResearchOs.Core.Workers.Lease

/-! Grants and leases along the log: their terms stay, and only a revocation revokes. -/
namespace ResearchOs.Workers

open JsonText (FloatText)

/-- The terms of a grant that bind it to a lease. -/
def GrantRecord.terms (grant : GrantRecord) : EventIdentifier × EventIdentifier ×
    EventIdentifier × EventIdentifier × EventIdentifier :=
  (grant.grantId, grant.workerId, grant.taskId, grant.runId, grant.attemptId)

/-- The grant that a fact revokes. -/
def revokedGrant (F : FloatText) (projectId : EventIdentifier) (event : ResearchEvent) :
    Option EventIdentifier :=
  match workerPayload F projectId event with
  | some (.grantRevoked payload) => some payload.grantId
  | _ => none

variable {F : FloatText} {projectId : EventIdentifier} {fold next : WorkerFold}
  {event : ResearchEvent} {events : List ResearchEvent}

theorem find?_replaceGrant (grants : List GrantRecord) (updated : GrantRecord)
    (grantId : EventIdentifier) :
    (replaceGrant grants updated).find? (fun item => item.grantId = grantId) =
      (grants.find? fun item => item.grantId = grantId).map fun item =>
        if item.grantId = updated.grantId then updated else item := by
  have hsame : ((fun item : GrantRecord => decide (item.grantId = grantId)) ∘
      fun item => if item.grantId = updated.grantId then updated else item) =
        fun item => decide (item.grantId = grantId) := by
    funext item
    simp only [Function.comp_apply]
    split
    · rename_i hid
      rw [hid]
    · rfl
  rw [replaceGrant, List.find?_map, hsame]

theorem grantId_of_grant {grantId : EventIdentifier} {grant : GrantRecord}
    (h : fold.grant grantId = some grant) : grant.grantId = grantId := by
  simpa using List.find?_some h

/-- The later record of a grant: its terms stay, and it is revoked from its revocation on. -/
structure GrantKept (grant later : GrantRecord) (isRevoked : Prop) : Prop where
  terms : later.terms = grant.terms
  revoked : later.revoked = true ↔ grant.revoked = true ∨ isRevoked

theorem GrantKept.refl {grant : GrantRecord} {isRevoked : Prop} (h : ¬ isRevoked) :
    GrantKept grant grant isRevoked :=
  ⟨rfl, by simp [h]⟩

theorem GrantKept.trans {a b c : GrantRecord} {p q : Prop} (hab : GrantKept a b p)
    (hbc : GrantKept b c q) : GrantKept a c (p ∨ q) :=
  ⟨hbc.terms.trans hab.terms, by rw [hbc.revoked, hab.revoked, or_assoc]⟩

theorem grant_apply {grantId : EventIdentifier} {grant : GrantRecord}
    (hgrant : fold.grant grantId = some grant)
    (h : applyWorkerFold F projectId fold event = .ok next) :
    ∃ later, next.grant grantId = some later ∧
      GrantKept grant later (revokedGrant F projectId event = some grantId) := by
  have hid := grantId_of_grant hgrant
  have hfound : fold.grants.find? (fun item => item.grantId = grantId) = some grant := hgrant
  -- A replaced record is the one of the grant, or another one.
  have hreplaced : ∀ updated : GrantRecord,
      (replaceGrant fold.grants updated).find? (fun item => item.grantId = grantId) =
        some (if grantId = updated.grantId then updated else grant) := by
    intro updated
    rw [find?_replaceGrant, hfound, Option.map_some, hid]
  cases foldStep h with
  | grantRecorded hpayload =>
    refine ⟨grant, ?_, .refl (by simp [revokedGrant, hpayload])⟩
    simp [WorkerFold.grant, List.find?_append, hfound]
  | grantRevoked hpayload hcurrent hlive =>
    rename_i payload current
    refine ⟨_, hreplaced _, ?_⟩
    have hcid := grantId_of_grant hcurrent
    by_cases hsame : grantId = payload.grantId
    · subst hsame
      rw [hgrant] at hcurrent
      cases hcurrent
      rw [if_pos hcid.symm]
      exact ⟨rfl, by simp [revokedGrant, hpayload]⟩
    · rw [if_neg (by rw [hcid]; exact hsame)]
      refine .refl ?_
      simp only [revokedGrant, hpayload, Option.some.injEq]
      exact fun heq => hsame heq.symm
  | grantConsumed hpayload hcurrent hlive hunused =>
    rename_i payload current
    refine ⟨_, hreplaced _, ?_⟩
    have hcid := grantId_of_grant hcurrent
    have hno : ¬ revokedGrant F projectId event = some grantId := by simp [revokedGrant, hpayload]
    by_cases hsame : grantId = payload.grantId
    · subst hsame
      rw [hgrant] at hcurrent
      cases hcurrent
      rw [if_pos hcid.symm]
      exact ⟨rfl, by simp [hno]⟩
    · rw [if_neg (by rw [hcid]; exact hsame)]
      exact .refl hno
  | foreign hpayload => exact ⟨grant, hgrant, .refl (by simp [revokedGrant, hpayload])⟩
  | registered hpayload => exact ⟨grant, hgrant, .refl (by simp [revokedGrant, hpayload])⟩
  | queued hpayload => exact ⟨grant, hgrant, .refl (by simp [revokedGrant, hpayload])⟩
  | leased hpayload => exact ⟨grant, hgrant, .refl (by simp [revokedGrant, hpayload])⟩
  | claimed hpayload => exact ⟨grant, hgrant, .refl (by simp [revokedGrant, hpayload])⟩
  | completed hpayload => exact ⟨grant, hgrant, .refl (by simp [revokedGrant, hpayload])⟩
  | completedAgain hpayload => exact ⟨grant, hgrant, .refl (by simp [revokedGrant, hpayload])⟩
  | failed hpayload => exact ⟨grant, hgrant, .refl (by simp [revokedGrant, hpayload])⟩
  | failedAgain hpayload => exact ⟨grant, hgrant, .refl (by simp [revokedGrant, hpayload])⟩
  | expired hpayload => exact ⟨grant, hgrant, .refl (by simp [revokedGrant, hpayload])⟩
  | claimedAgain hpayload => exact ⟨grant, hgrant, .refl (by simp [revokedGrant, hpayload])⟩
  | consumedAgain hpayload => exact ⟨grant, hgrant, .refl (by simp [revokedGrant, hpayload])⟩
  | expiredAgain hpayload => exact ⟨grant, hgrant, .refl (by simp [revokedGrant, hpayload])⟩

/-- A grant over the accepted facts of a log: it is revoked exactly by its revocations. -/
theorem grant_run {grantId : EventIdentifier} {grant : GrantRecord}
    (hgrant : fold.grant grantId = some grant)
    (h : events.foldlM (applyWorkerFold F projectId) fold = .ok next) :
    ∃ later, next.grant grantId = some later ∧
      GrantKept grant later (∃ event ∈ events, revokedGrant F projectId event = some grantId) := by
  induction events generalizing fold grant with
  | nil =>
    cases h
    exact ⟨grant, hgrant, .refl (by simp)⟩
  | cons event events ih =>
    obtain ⟨after, happly, h⟩ := Fold.foldlM_cons_eq_ok.mp h
    obtain ⟨mid, hmid, hkept⟩ := grant_apply hgrant happly
    obtain ⟨later, hlater, hkept'⟩ := ih hmid h
    refine ⟨later, hlater, ?_⟩
    simpa using hkept.trans hkept'

theorem find?_replaceLease (leases : List LeaseRecord) (updated : LeaseRecord)
    (leaseId : EventIdentifier) :
    (replaceLease leases updated).find? (fun item => item.leaseId = leaseId) =
      (leases.find? fun item => item.leaseId = leaseId).map fun item =>
        if item.leaseId = updated.leaseId then updated else item := by
  have hsame : ((fun item : LeaseRecord => decide (item.leaseId = leaseId)) ∘
      fun item => if item.leaseId = updated.leaseId then updated else item) =
        fun item => decide (item.leaseId = leaseId) := by
    funext item
    simp only [Function.comp_apply]
    split
    · rename_i hid
      rw [hid]
    · rfl
  rw [replaceLease, List.find?_map, hsame]

theorem lease_apply {leaseId : EventIdentifier} {lease : LeaseRecord}
    (hlease : fold.lease leaseId = some lease)
    (h : applyWorkerFold F projectId fold event = .ok next) :
    ∃ later, next.lease leaseId = some later ∧ later.terms = lease.terms := by
  have hfound : fold.leases.find? (fun item => item.leaseId = leaseId) = some lease := hlease
  have hchange := leaseChange h
  unfold WorkerFold.lease
  generalize next.leases = leases at hchange
  cases hchange with
  | kept htime => exact ⟨lease, hlease, rfl⟩
  | opened hpayload hattempt hfresh hactive =>
    exact ⟨lease, by simp [List.find?_append, hfound], rfl⟩
  | moved htime hcurrent hopen hterms hcompleted hfailed =>
    rename_i current updated
    obtain ⟨hid, -⟩ := leaseId_of_lease hlease
    rw [find?_replaceLease, hfound, Option.map_some, hid]
    refine ⟨_, rfl, ?_⟩
    split
    · rename_i hsame
      rw [← hsame, hlease] at hcurrent
      cases hcurrent
      exact hterms
    · rfl

/-- A lease over the accepted facts of a log. -/
theorem lease_run {leaseId : EventIdentifier} {lease : LeaseRecord}
    (hlease : fold.lease leaseId = some lease)
    (h : events.foldlM (applyWorkerFold F projectId) fold = .ok next) :
    ∃ later, next.lease leaseId = some later ∧ later.terms = lease.terms := by
  induction events generalizing fold lease with
  | nil =>
    cases h
    exact ⟨lease, hlease, rfl⟩
  | cons event events ih =>
    obtain ⟨after, happly, h⟩ := Fold.foldlM_cons_eq_ok.mp h
    obtain ⟨mid, hmid, hterms⟩ := lease_apply hlease happly
    obtain ⟨later, hlater, hterms'⟩ := ih hmid h
    exact ⟨later, hlater, hterms'.trans hterms⟩

/-! The facts behind a settled lease. -/

/-- A fact that completes a lease as the record says. -/
def Completes (F : FloatText) (projectId : EventIdentifier) (lease : LeaseRecord)
    (event : ResearchEvent) : Prop :=
  ∃ payload, workerPayload F projectId event = some (.workCompleted payload) ∧
    payload.leaseId = lease.leaseId ∧ lease.resultDigest = some payload.resultDigest ∧
    lease.artifactDigest = some payload.artifactDigest

/-- A fact that fails a lease as the record says. -/
def Fails (F : FloatText) (projectId : EventIdentifier) (lease : LeaseRecord)
    (event : ResearchEvent) : Prop :=
  ∃ payload, workerPayload F projectId event = some (.workFailed payload) ∧
    payload.leaseId = lease.leaseId ∧ lease.reasonCode = some payload.reasonCode

/-- Every settled lease has its fact in the log. -/
structure Documented (F : FloatText) (projectId : EventIdentifier) (events : List ResearchEvent)
    (lease : LeaseRecord) : Prop where
  completed : lease.status = .completed → ∃ event ∈ events, Completes F projectId lease event
  failed : lease.status = .failed → ∃ event ∈ events, Fails F projectId lease event

theorem Documented.concat {lease : LeaseRecord} (h : Documented F projectId events lease)
    (event : ResearchEvent) : Documented F projectId (events ++ [event]) lease where
  completed hstatus := by
    obtain ⟨fact, hfact, hcompletes⟩ := h.completed hstatus
    exact ⟨fact, List.mem_append_left _ hfact, hcompletes⟩
  failed hstatus := by
    obtain ⟨fact, hfact, hfails⟩ := h.failed hstatus
    exact ⟨fact, List.mem_append_left _ hfact, hfails⟩

theorem documented_replay (h : replayWorkers F projectId events = .ok fold) :
    ∀ lease ∈ fold.leases, Documented F projectId events lease := by
  induction events using List.reverseRecOn generalizing fold with
  | nil =>
    cases h
    intro lease hlease
    cases hlease
  | append_singleton events event ih =>
    obtain ⟨before, hbefore, happly⟩ := Fold.foldlM_concat_eq_ok.mp h
    have hold := ih hbefore
    intro lease hlease
    have hchange := leaseChange happly
    generalize fold.leases = leases at hchange hlease
    cases hchange with
    | kept htime => exact (hold lease hlease).concat event
    | opened hpayload hattempt hfresh hactive =>
      rcases List.mem_append.mp hlease with hlease | hlease
      · exact (hold lease hlease).concat event
      · cases List.mem_singleton.mp hlease
        constructor
        · intro hstatus
          cases hstatus
        · intro hstatus
          cases hstatus
    | moved htime hcurrent hopen hterms hcompleted hfailed =>
      have hcid := (leaseId_of_lease hcurrent).1
      rcases mem_replaceLease hcurrent hlease with ⟨hlease, -⟩ | rfl
      · exact (hold lease hlease).concat event
      · constructor
        · intro hstatus
          obtain ⟨payload, hpayload, hid, hresult⟩ := hcompleted hstatus
          exact ⟨event, by simp, payload, hpayload, hid.trans hcid, hresult⟩
        · intro hstatus
          obtain ⟨payload, hpayload, hid, hreason⟩ := hfailed hstatus
          exact ⟨event, by simp, payload, hpayload, hid.trans hcid, hreason⟩

end ResearchOs.Workers
