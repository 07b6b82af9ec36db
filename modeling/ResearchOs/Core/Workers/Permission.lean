import ResearchOs.Core.Recovery.Reconcile
import ResearchOs.Core.Workers.Invariant
import ResearchOs.Core.Workers.Isolation
import ResearchOs.Core.Workers.Pollers

/-! The permission to execute a lease for the first time comes with its claimed fact, and a lease
is opened only for work whose cancellation was not requested. -/
namespace ResearchOs.Workers

open JsonText (FloatText)
open Recovery (runCancelRequested)
open Storage (EventLog)

variable {F : FloatText} {contentDigest : Json → Option String} {log : EventLog} {poller : Poller}
  {reads : PollReads} {leaseId : EventIdentifier}

/-- The work of a poll is work that nobody has handed out before. -/
def ClaimedWork.isFirst (work : ClaimedWork) (leaseId : EventIdentifier) : Bool :=
  decide (work.leaseId = leaseId) && !work.resumed

namespace PollFact

/-- The run and the attempt for which a lease is still to be opened. -/
def opens : PollFact → Option (EventIdentifier × EventIdentifier)
  | .expire _ _ reopen => reopen.map fun candidate => (candidate.work.runId, candidate.work.attemptId)
  | .lease opening => some (opening.work.runId, opening.work.attemptId)
  | .claim _ _ => none
  | .consume _ => none

/-- The work that is handed out once the fact is in the log. -/
def permits (leaseId : EventIdentifier) : PollFact → Bool
  | .consume opening => opening.work.isFirst leaseId
  | _ => false

def claims (leaseId : EventIdentifier) : PollFact → Bool
  | .claim opening _ => decide (opening.work.leaseId = leaseId)
  | _ => false

end PollFact

namespace PollPhase

def opens : PollPhase → Option (EventIdentifier × EventIdentifier)
  | .expiring _ reopen => reopen.map fun candidate => (candidate.work.runId, candidate.work.attemptId)
  | .reopening candidate => some (candidate.work.runId, candidate.work.attemptId)
  | .appending fact => fact.opens
  | .prepared fact _ => fact.opens
  | _ => none

/-- The poll hands out the lease as not resumed, or is about to. -/
def permits (leaseId : EventIdentifier) : PollPhase → Bool
  | .appending fact => fact.permits leaseId
  | .prepared fact _ => fact.permits leaseId
  | .answering opening => opening.work.isFirst leaseId
  | .returned (.ok (some work)) => work.isFirst leaseId
  | _ => false

end PollPhase

theorem PollFact.opens_next (fact : PollFact) :
    fact.next.opens = none ∨ fact.next.opens = fact.opens := by
  cases fact with
  | expire current stamp reopen => cases reopen <;> simp [PollFact.next, PollPhase.opens, opens]
  | lease opening => exact .inl rfl
  | claim opening consume => cases consume <;> exact .inl rfl
  | consume opening => exact .inl rfl

theorem PollFact.permits_next (fact : PollFact) (h : fact.next.permits leaseId = true) :
    fact.permits leaseId = true ∨ fact.claims leaseId = true := by
  cases fact with
  | expire current stamp reopen => cases reopen <;> cases h
  | lease opening => cases h
  | claim opening consume =>
    have hfirst : opening.work.isFirst leaseId = true := by cases consume <;> exact h
    simp only [ClaimedWork.isFirst, Bool.and_eq_true] at hfirst
    exact .inr hfirst.1
  | consume opening => exact .inl h

/-- A resumption permits nothing before it has claimed the lease. -/
theorem permits_resumption {opening : Opening} {claimed consumed : Bool}
    (hresumed : opening.work.resumed = claimed) :
    (Poller.settle (.ok (resumption opening claimed consumed))).permits leaseId = false := by
  unfold resumption
  split_ifs with hclaimed hconsumed
  · rfl
  · simp [Poller.settle, PollPhase.permits, PollFact.permits, ClaimedWork.isFirst, hresumed,
      hclaimed]
  · simp [Poller.settle, PollPhase.permits, ClaimedWork.isFirst, hresumed, hclaimed]

theorem opens_resumption {opening : Opening} {claimed consumed : Bool} :
    (Poller.settle (.ok (resumption opening claimed consumed))).opens = none := by
  unfold resumption
  split_ifs <;> rfl

/-- A check that opens no lease and hands no work out. -/
structure Quiet (phase : PollPhase) : Prop where
  opens : phase.opens = none
  permits : ∀ leaseId, phase.permits leaseId = false

theorem Quiet.raised (e : PollError) : Quiet (Poller.settle (.error e)) := ⟨rfl, fun _ => rfl⟩

theorem quiet_bind {α : Type} {x : Except PlaneError α} {k : α → Except PlaneError Polled}
    (h : ∀ a, Quiet (Poller.settle (fromPlane (k a)))) :
    Quiet (Poller.settle (fromPlane (x >>= k))) := by
  cases x with
  | error e => exact .raised (.plane e)
  | ok a => exact h a

theorem quiet_resumeOrReject (existing : LeaseRecord) (work : QueuedWork) (grant : GrantRecord)
    (clock : PollClock) :
    Quiet (Poller.settle (fromPlane (resumeOrReject existing work grant clock))) := by
  unfold resumeOrReject
  split_ifs with hcompleted hterminal
  · exact ⟨rfl, fun _ => rfl⟩
  · exact .raised _
  · refine quiet_bind fun expiresAt => ?_
    split_ifs with hexpired
    · exact ⟨rfl, fun _ => rfl⟩
    · exact ⟨opens_resumption, fun _ => permits_resumption rfl⟩

theorem quiet_pollWork (plane : WorkerPlane) (call : PollCall) (claims : GrantClaims)
    (fold : WorkerFold) (grant : GrantRecord) (clock : PollClock) (work : Option QueuedWork) :
    Quiet (Poller.settle (fromPlane
      (pollWork plane contentDigest call claims fold grant clock work))) := by
  cases work with
  | none => exact ⟨rfl, fun _ => rfl⟩
  | some work =>
    refine quiet_bind fun _ => ?_
    split
    · exact quiet_resumeOrReject _ work grant clock
    · exact ⟨rfl, fun _ => rfl⟩

/-- The first check leaves the lookup of a cancellation before every lease. -/
theorem quiet_poll (poller : Poller) (reads : PollReads) (log : EventLog) :
    Quiet (Poller.settle (fromPlane (poller.poll F contentDigest reads log))) := by
  unfold Poller.poll
  refine quiet_bind fun claims => quiet_bind fun _ => quiet_bind fun head => quiet_bind fun grant =>
    quiet_bind fun _ => ?_
  exact quiet_pollWork _ _ _ _ _ _ _

/-- What a check from the lookup of a cancellation on leads to. -/
structure Pending (work : EventIdentifier × EventIdentifier) (phase : PollPhase) : Prop where
  opens : phase.opens = none ∨ phase.opens = some work
  permits : ∀ leaseId, phase.permits leaseId = false

theorem Quiet.pending {phase : PollPhase} (h : Quiet phase)
    (work : EventIdentifier × EventIdentifier) : Pending work phase := ⟨.inl h.opens, h.permits⟩

theorem pending_bind {α : Type} {work : EventIdentifier × EventIdentifier} {x : Except PlaneError α}
    {k : α → Except PlaneError Polled}
    (h : ∀ a, x = .ok a → Pending work (Poller.settle (fromPlane (k a)))) :
    Pending work (Poller.settle (fromPlane (x >>= k))) := by
  cases x with
  | error e => exact (Quiet.raised (.plane e)).pending work
  | ok a => exact h a rfl

theorem openLease_work {fold : WorkerFold} {candidate : Candidate} {opening : Opening}
    (h : openLease contentDigest fold candidate reads = .ok opening) :
    opening.work.runId = candidate.work.runId ∧
      opening.work.attemptId = candidate.work.attemptId := by
  obtain ⟨_, -, h⟩ := Fold.bind_eq_ok.mp h
  obtain ⟨_, -, h⟩ := Fold.bind_eq_ok.mp h
  obtain ⟨_, -, h⟩ := Fold.bind_eq_ok.mp h
  obtain ⟨_, -, h⟩ := Fold.bind_eq_ok.mp h
  obtain ⟨_, -, h⟩ := Fold.bind_eq_ok.mp h
  obtain ⟨_, -, h⟩ := Fold.bind_eq_ok.mp h
  obtain ⟨_, -, h⟩ := Fold.bind_eq_ok.mp h
  cases h
  exact ⟨rfl, rfl⟩

theorem pending_openFor (candidate : Candidate) (fold : WorkerFold) (reads : PollReads) :
    Pending (candidate.work.runId, candidate.work.attemptId)
      (Poller.settle (fromPlane (Poller.openFor contentDigest candidate fold reads))) := by
  refine pending_bind fun opening hopening => ?_
  obtain ⟨hrun, hattempt⟩ := openLease_work hopening
  refine ⟨.inr ?_, fun _ => rfl⟩
  change some (opening.work.runId, opening.work.attemptId) = _
  rw [hrun, hattempt]

theorem pending_replace (candidate : Candidate) (fold : WorkerFold) (reads : PollReads) :
    Pending (candidate.work.runId, candidate.work.attemptId)
      (Poller.settle (fromPlane (Poller.replace contentDigest candidate fold reads))) := by
  refine pending_bind fun active _ => pending_bind fun _ _ => pending_bind fun stale _ => ?_
  cases stale with
  | some current => exact ⟨.inr rfl, fun _ => rfl⟩
  | none => exact pending_openFor candidate fold reads

/-- The cancellation of the work had not been requested in the log. -/
def Uncancelled (projectId : EventIdentifier) (log : EventLog)
    (work : EventIdentifier × EventIdentifier) : Prop :=
  runCancelRequested ⟨projectId, work.1⟩ log work.2 ≠ .ok true

/-- One step of a poll: it appends nothing, or the fact that it has prepared. -/
inductive PollStep (poller : Poller) (log : EventLog) : PollPhase → Option ResearchEvent → Prop
  | silent {next : PollPhase}
      (hopens : next.opens = none ∨ next.opens = poller.phase.opens ∨
        ∃ work, next.opens = some work ∧
          runCancelRequested ⟨poller.plane.projectId, work.1⟩ log work.2 = .ok false)
      (hpermits : ∀ leaseId, next.permits leaseId = true → poller.phase.permits leaseId = true) :
      PollStep poller log next none
  | stored {fact : PollFact} {head : Nat} {event : ResearchEvent}
      (hphase : poller.phase = .prepared fact head)
      (hadded : log.Added (fact.draft poller.plane).document (some head) event) :
      PollStep poller log fact.next (some event)

theorem Quiet.step {next : PollPhase} (h : Quiet next) : PollStep poller log next none := by
  refine .silent (.inl h.opens) fun leaseId hpermits => ?_
  rw [h.permits] at hpermits
  cases hpermits

theorem Pending.step {next : PollPhase} {work : EventIdentifier × EventIdentifier}
    (h : Pending work next)
    (hclear : poller.phase.opens = some work ∨
      runCancelRequested ⟨poller.plane.projectId, work.1⟩ log work.2 = .ok false) :
    PollStep poller log next none := by
  refine .silent ?_ fun leaseId hpermits => ?_
  · rcases h.opens with hnone | hsome
    · exact .inl hnone
    · rcases hclear with hkept | hclear
      · exact .inr (.inl (hsome.trans hkept.symm))
      · exact .inr (.inr ⟨work, hsome, hclear⟩)
  · rw [h.permits] at hpermits
    cases hpermits

theorem step_bind {α : Type} {x : Except PlaneError α} {k : α → Except PlaneError Polled}
    (h : ∀ a, PollStep poller log (Poller.settle (fromPlane (k a))) none) :
    PollStep poller log (Poller.settle (fromPlane (x >>= k))) none := by
  cases x with
  | error e => exact (Quiet.raised (.plane e)).step
  | ok a => exact h a

theorem inquire_step {fold : WorkerFold} {candidate : Candidate} :
    PollStep poller log
      (Poller.settle (poller.inquire contentDigest candidate fold reads log)) none := by
  unfold Poller.inquire
  cases hrequested : runCancelRequested ⟨poller.plane.projectId, candidate.work.runId⟩ log
      candidate.work.attemptId with
  | error e => exact (Quiet.raised (.recovery e)).step
  | ok requested =>
    cases requested with
    | true => exact Quiet.step ⟨rfl, fun _ => rfl⟩
    | false =>
      have hpending := @pending_replace contentDigest candidate fold reads
      exact hpending.step (.inr hrequested)

theorem store_step {fact : PollFact} {head : Nat} (hphase : poller.phase = .prepared fact head) :
    PollStep poller log (poller.store fact head reads.storeFault log).1
      (poller.store fact head reads.storeFault log).2 := by
  unfold Poller.store
  split
  · exact Quiet.step ⟨rfl, fun _ => rfl⟩
  · split
    · rename_i event happend
      exact .stored hphase (EventLog.append_ok happend)
    · exact Quiet.step ⟨rfl, fun _ => rfl⟩

theorem answer_step {opening : Opening} (hphase : poller.phase = .answering opening) :
    PollStep poller log (.returned (poller.answer opening log)) none := by
  unfold Poller.answer
  cases runCancelRequested ⟨poller.plane.projectId, opening.work.runId⟩ log
      opening.work.attemptId with
  | error e => exact Quiet.step ⟨rfl, fun _ => rfl⟩
  | ok requested =>
    refine .silent (.inl rfl) fun leaseId hpermits => ?_
    rw [hphase]
    simp only [fromRecovery, bind, Except.bind, PollPhase.permits, ClaimedWork.isFirst,
      Bool.and_eq_true, Bool.not_eq_true', Bool.or_eq_false_iff] at hpermits ⊢
    exact ⟨hpermits.1, hpermits.2.1⟩

theorem poller_step (poller : Poller) (log : EventLog) (reads : PollReads) :
    PollStep poller log (poller.advance F contentDigest log reads).1
      (poller.advance F contentDigest log reads).2 := by
  unfold Poller.advance
  cases hphase : poller.phase with
  | checking => exact (quiet_poll poller reads log).step
  | inquiring fold candidate => exact inquire_step
  | expiring current reopen =>
    dsimp only
    unfold Poller.expire
    refine step_bind fun head => step_bind fun lease => ?_
    refine .silent (.inr (.inl ?_)) fun leaseId hpermits => by cases hpermits
    rw [hphase]
    rfl
  | reopening candidate =>
    dsimp only
    unfold Poller.reopen
    have hpending : Pending (candidate.work.runId, candidate.work.attemptId)
        (Poller.settle (fromPlane (poller.reopen F contentDigest candidate reads log))) :=
      pending_bind fun head _ => pending_openFor candidate head.fold reads
    exact hpending.step (.inl (by rw [hphase]; rfl))
  | appending fact =>
    dsimp only
    unfold Poller.prepare
    split
    · refine .silent (.inr (.inl ?_)) fun leaseId hpermits => ?_
      · rw [hphase]
        rfl
      · rw [hphase]
        exact hpermits
    · exact Quiet.step ⟨rfl, fun _ => rfl⟩
  | prepared fact head => exact store_step hphase
  | answering opening => exact answer_step hphase
  | returned answer =>
    refine .silent (.inl rfl) fun leaseId hpermits => ?_
    rw [hphase]
    exact hpermits

/-! The events of the facts. -/

theorem id_of_claims {fact : PollFact} {plane : WorkerPlane} {event : ResearchEvent}
    {expectedHead : Option Nat} (hclaims : fact.claims leaseId = true)
    (hadded : log.Added (fact.draft plane).document expectedHead event) :
    event.id.val = claimedEventId leaseId.val := by
  obtain ⟨hid, -, -⟩ := draft_fields hadded
  cases fact with
  | claim opening consume =>
    have hlease : opening.work.leaseId = leaseId := by simpa [PollFact.claims] using hclaims
    rw [← hlease]
    exact hid
  | expire current stamp reopen => cases hclaims
  | lease opening => cases hclaims
  | consume opening => cases hclaims

/-- A leased fact is recorded for the work whose lease the poll opens. -/
theorem work_of_leased {fact : PollFact} {plane : WorkerPlane} {event : ResearchEvent}
    {expectedHead : Option Nat} (htype : event.type.val = WorkerEventType.workLeased.text)
    (hadded : log.Added (fact.draft plane).document expectedHead event) :
    ∃ runId attemptId, Names event runId attemptId ∧ fact.opens = some (runId, attemptId) := by
  obtain ⟨-, hdraft, -⟩ := draft_fields hadded
  have hsame := congrArg WorkerEventType.ofText (hdraft.symm.trans htype)
  rw [WorkerEventType.ofText_text, WorkerEventType.ofText_text] at hsame
  cases fact with
  | lease opening =>
    obtain ⟨ms, hms, hvalid⟩ := hadded.document
    rw [WorkerDraft.draftMembers_document] at hms
    cases hms
    obtain ⟨hrun, hattempt⟩ := @WorkerDraft.names_of_validate _ _ _ _ (some opening.work.runId)
      (some opening.work.attemptId) rfl rfl hvalid
    exact ⟨_, _, ⟨hrun, hattempt⟩, rfl⟩
  | expire current stamp reopen => cases hsame
  | claim opening consume => cases hsame
  | consume opening => cases hsame

/-! The invariant of the polls. -/

def DistinctIds (log : EventLog) : Prop := (log.map ResearchEvent.id).Nodup

theorem DistinctIds.concat {event : ResearchEvent} (h : DistinctIds log)
    (hfresh : ∀ earlier ∈ log, earlier.id ≠ event.id) : DistinctIds (log ++ [event]) := by
  rw [DistinctIds, List.map_append, List.map_singleton]
  refine List.Nodup.append h (List.nodup_singleton _) ?_
  intro id hid hevent
  obtain ⟨earlier, hearlier, rfl⟩ := List.mem_map.mp hid
  exact hfresh earlier hearlier (List.mem_singleton.mp hevent)

/-- A poll opens leases for work only that was not cancelled in the log of its fold. -/
structure Poller.Lawful (log : EventLog) (poller : Poller) : Prop where
  within : poller.readAt ≤ log.length
  uncancelled : ∀ work, poller.phase.opens = some work →
    Uncancelled poller.plane.projectId (log.take poller.readAt) work

theorem uncancelled_of_clear {projectId : EventIdentifier}
    {work : EventIdentifier × EventIdentifier} (n : Nat)
    (h : runCancelRequested ⟨projectId, work.1⟩ log work.2 = .ok false) :
    Uncancelled projectId (log.take n) work := by
  intro hrequested
  have hlater := @Recovery.runCancelRequested_append _ _ (log.drop n) _ hrequested
  rw [List.take_append_drop] at hlater
  exact hlater h

theorem Poller.Lawful.append {later : EventLog} (h : poller.Lawful log) :
    poller.Lawful (log ++ later) where
  within := by
    have := h.within
    rw [List.length_append]
    omega
  uncancelled work hopens := by
    rw [List.take_append_of_le_length h.within]
    exact h.uncancelled work hopens

/-- The length at which a poll has read its fold, after a step of the poll. -/
theorem readAt_move (poller : Poller) (log : EventLog) (reads : PollReads) :
    (poller.phase = .checking ∧ (Poller.move F contentDigest log poller reads).1.readAt = log.length) ∨
      (Poller.move F contentDigest log poller reads).1.readAt = poller.readAt := by
  cases hphase : poller.phase with
  | checking => exact .inl ⟨rfl, by simp [Poller.move, hphase]⟩
  | _ => exact .inr (by simp [Poller.move, hphase])

/-- What a poll may open a lease for, after a step that appends nothing. -/
theorem lawful_silent {n : Nat} {next : PollPhase} (hlawful : poller.Lawful log)
    (hn : (poller.phase = .checking ∧ n = log.length) ∨ n = poller.readAt)
    (hopens : next.opens = none ∨ next.opens = poller.phase.opens ∨
      ∃ work, next.opens = some work ∧
        runCancelRequested ⟨poller.plane.projectId, work.1⟩ log work.2 = .ok false) :
    Poller.Lawful log { poller with phase := next, readAt := n } where
  within := by
    have hwithin := hlawful.within
    rcases hn with ⟨-, rfl⟩ | rfl
    · exact Nat.le_refl _
    · exact hwithin
  uncancelled work hwork := by
    rcases hopens with hnone | hkept | ⟨clear, hclear, hfalse⟩
    · rw [hnone] at hwork
      cases hwork
    · rcases hn with ⟨hchecking, -⟩ | rfl
      · rw [hkept, hchecking] at hwork
        cases hwork
      · exact hlawful.uncancelled work (hkept.symm.trans hwork)
    · rw [hclear] at hwork
      cases hwork
      exact uncancelled_of_clear n hfalse

theorem lawful_stored {fact : PollFact} {head n : Nat} {event : ResearchEvent}
    (hlawful : poller.Lawful log) (hphase : poller.phase = .prepared fact head)
    (hn : (poller.phase = .checking ∧ n = log.length) ∨ n = poller.readAt) :
    Poller.Lawful (log ++ [event]) { poller with phase := fact.next, readAt := n } := by
  have hopens : fact.next.opens = none ∨ fact.next.opens = poller.phase.opens := by
    rw [hphase]
    exact fact.opens_next
  exact (lawful_silent hlawful hn (hopens.imp_right .inl)).append

theorem pollers_invariant : (pollers F contentDigest).Invariant DistinctIds Poller.Lawful where
  mono log entry poller hpoller := hpoller.append
  start log poller hstart := by
    simp only [pollers, Poller.starts] at hstart
    split at hstart
    · rename_i hphase
      have hzero : poller.readAt = 0 := of_decide_eq_true hstart
      refine ⟨by omega, fun work hwork => ?_⟩
      rw [hphase] at hwork
      cases hwork
    · cases hstart
  foreign log entry hlog hadmits := by
    refine hlog.concat fun earlier hearlier => ?_
    exact of_decide_eq_true (List.all_eq_true.mp hadmits earlier hearlier)
  move log poller reads hlog hpoller := by
    have hstep := @poller_step F contentDigest poller log reads
    have hn := @readAt_move F contentDigest poller log reads
    change DistinctIds (log ++ (poller.advance F contentDigest log reads).2.toList) ∧
      Poller.Lawful (log ++ (poller.advance F contentDigest log reads).2.toList)
        { poller with
          phase := (poller.advance F contentDigest log reads).1
          readAt := (Poller.move F contentDigest log poller reads).1.readAt }
    generalize (Poller.move F contentDigest log poller reads).1.readAt = n at hn
    generalize (poller.advance F contentDigest log reads).1 = next at hstep
    generalize (poller.advance F contentDigest log reads).2 = entry at hstep
    cases hstep with
    | silent hopens hpermits =>
      rw [Option.toList_none, List.append_nil]
      exact ⟨hlog, lawful_silent hpoller hn hopens⟩
    | stored hphase hadded =>
      exact ⟨hlog.concat hadded.fresh, lawful_stored hpoller hphase hn⟩

/-! The claimed fact of a lease is the right to execute it for the first time. -/

def isClaimedFact (leaseId : EventIdentifier) (event : ResearchEvent) : Bool :=
  decide (event.id.val = claimedEventId leaseId.val)

theorem claimed_once (h : DistinctIds log) (leaseId : EventIdentifier) :
    log.countP (isClaimedFact leaseId) ≤ 1 := by
  have hcount : log.countP (isClaimedFact leaseId) =
      ((log.map ResearchEvent.id).map Subtype.val).count (claimedEventId leaseId.val) := by
    rw [List.count, List.countP_map, List.countP_map]
    refine List.countP_congr fun event _ => ?_
    simp [isClaimedFact]
  rw [hcount]
  exact List.nodup_iff_count_le_one.mp (List.Nodup.map Subtype.val_injective h) _

theorem pollers_tickets (leaseId : EventIdentifier) :
    (pollers F contentDigest).Tickets DistinctIds Poller.Lawful
      (fun log => log.countP (isClaimedFact leaseId)) (fun _ => 0)
      (fun poller => poller.phase.permits leaseId) where
  start poller hstart := by
    simp only [pollers, Poller.starts] at hstart
    split at hstart
    · rename_i hphase
      rw [hphase]
      rfl
    · cases hstart
  foreign log entry _ := by
    rw [List.countP_append]
    omega
  move log poller reads _ _ := by
    have hstep := @poller_step F contentDigest poller log reads
    change 0 + ((poller.advance F contentDigest log reads).1.permits leaseId).toNat +
        log.countP (isClaimedFact leaseId) ≤
      0 + (poller.phase.permits leaseId).toNat +
        (log ++ (poller.advance F contentDigest log reads).2.toList).countP (isClaimedFact leaseId)
    generalize (poller.advance F contentDigest log reads).1 = next at hstep
    generalize (poller.advance F contentDigest log reads).2 = entry at hstep
    cases hstep with
    | silent hopens hpermits =>
      have hle := Bool.toNat_le_toNat (hpermits leaseId)
      simp only [Option.toList_none, List.append_nil]
      omega
    | @stored fact head event hphase hadded =>
      rw [Option.toList_some, List.countP_append]
      cases hnext : fact.next.permits leaseId with
      | false =>
        rw [Bool.toNat_false]
        omega
      | true =>
        rcases fact.permits_next hnext with hkept | hclaims
        · have hbefore : poller.phase.permits leaseId = true := by rw [hphase]; exact hkept
          rw [hbefore]
          omega
        · have hid := id_of_claims hclaims hadded
          have hone : [event].countP (isClaimedFact leaseId) = 1 := by simp [isClaimedFact, hid]
          rw [hone, Bool.toNat_true]
          omega

/-- The work that a poll has returned. -/
def Poller.work (poller : Poller) : Option ClaimedWork :=
  match poller.phase with
  | .returned (.ok work) => work
  | _ => none

theorem permits_of_work {work : ClaimedWork} (h : poller.work = some work)
    (hlease : work.leaseId = leaseId) (hresumed : work.resumed = false) :
    poller.phase.permits leaseId = true := by
  unfold Poller.work at h
  split at h
  · rename_i returned hphase
    rw [hphase, h]
    simp [PollPhase.permits, ClaimedWork.isFirst, hlease, hresumed]
  · cases h

/-- Among all polls on one store, however they and other writers interleave and wherever they
stop, one at most hands a lease out as not resumed, and none opens a lease for work whose
cancellation was requested in the log of its fold. -/
theorem execution_permitted_once (F : FloatText) (contentDigest : Json → Option String)
    (actions : List (Clients.Action ResearchEvent Poller PollReads)) :
    (∀ (i j : Nat) (poller other : Poller) (work again : ClaimedWork),
      ((pollers F contentDigest).run ⟨[], []⟩ actions).clients[i]? = some poller →
      ((pollers F contentDigest).run ⟨[], []⟩ actions).clients[j]? = some other → i ≠ j →
      poller.work = some work → other.work = some again → again.leaseId = work.leaseId →
      work.resumed = false → again.resumed = true) ∧
    ∀ p ∈ (pollers F contentDigest).trace ⟨[], []⟩ actions, ∀ poller event,
      (pollers F contentDigest).appends p.1 p.2 = some (poller, event) →
      event.type.val = WorkerEventType.workLeased.text →
      ∃ runId attemptId, Names event runId attemptId ∧
        runCancelRequested ⟨poller.plane.projectId, runId⟩ (p.1.log.take poller.readAt) attemptId ≠
          .ok true := by
  have hempty : Clients.Holds DistinctIds Poller.Lawful
      (⟨[], []⟩ : Clients.State ResearchEvent Poller) := ⟨List.nodup_nil, by simp⟩
  have hinvariant := @pollers_invariant F contentDigest
  constructor
  · intro i j poller other work again hi hj hne hwork hagain hlease hresumed
    have hholds := hinvariant.run hempty actions
    have htickets :=
      (@pollers_tickets F contentDigest work.leaseId).run hinvariant hempty (by simp) actions
    have honce := claimed_once hholds.1 work.leaseId
    have hcount : ((pollers F contentDigest).run ⟨[], []⟩ actions).clients.countP
        (fun poller => poller.phase.permits work.leaseId) ≤ 1 := by omega
    by_contra hfirst
    have hpermits := permits_of_work hwork rfl hresumed
    have hpermits' := permits_of_work hagain hlease (Bool.not_eq_true _ ▸ hfirst)
    exact hne (Clients.eq_of_countP_le_one hcount hi hj hpermits hpermits')
  · intro p hp poller event happends htype
    obtain ⟨hlog, hclients⟩ := hinvariant.trace hempty actions p hp
    obtain ⟨hmem, reads, hentry⟩ := Clients.appends_eq_some happends
    have hlawful := hclients poller hmem
    have hstep := @poller_step F contentDigest poller p.1.log reads
    change (poller.advance F contentDigest p.1.log reads).2 = some event at hentry
    rw [hentry] at hstep
    generalize (poller.advance F contentDigest p.1.log reads).1 = next at hstep
    cases hstep with
    | stored hphase hadded =>
      obtain ⟨runId, attemptId, hnames, hopens⟩ := work_of_leased htype hadded
      refine ⟨runId, attemptId, hnames, ?_⟩
      exact hlawful.uncancelled (runId, attemptId) (by rw [hphase]; exact hopens)

end ResearchOs.Workers
