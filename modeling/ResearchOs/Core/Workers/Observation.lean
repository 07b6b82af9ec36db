import ResearchOs.Data.Clients
import ResearchOs.Core.Workers.Invariant

/-! `fail_observed_cancellation`: a stopped process is recorded as a failure of its lease, whoever
else writes to the log. -/
namespace ResearchOs.Workers

open JsonText (FloatText)
open Storage (EventLog StoreError)

structure ObserveCall where
  workerId : String
  claims : Except WorkerError GrantClaims
  leaseId : String

/-- Where a call stands. -/
inductive ObservePhase where
  | checking
  | reading
  | appending (lease : LeaseRecord) (retries : Nat)
  | prepared (lease : LeaseRecord) (draft : WorkerDraft) (head retries : Nat)
  | conflicted (lease : LeaseRecord) (retries : Nat)
  | settled
  | returned (answer : Except PlaneError ResearchEvent)

structure Observer where
  plane : WorkerPlane
  call : ObserveCall
  phase : ObservePhase

/-- The append is tried three times. -/
def observeRetries : Nat := 2

namespace Observer

def eventId (observer : Observer) : String := failedEventId observer.call.leaseId

def callError (message code : String) : PlaneError := .worker (.call message code)

def leaseTerminal : PlaneError := callError "lease is already terminal" "lease-terminal"

def failMismatch : PlaneError := callError "lease settled with a different outcome" "fail-mismatch"

def cancelConflict : PlaneError :=
  callError "concurrent cancellation did not settle" "cancel-conflict"

/-- The lease failed because its cancellation was observed. -/
def isObserved (lease : LeaseRecord) : Bool :=
  decide (lease.status = .failed ∧ lease.reasonCode.map Subtype.val = some cancelObserved)

/-- The draft of an attempt. -/
def draft (observer : Observer) (lease : LeaseRecord) (reads : Reads) : WorkerDraft :=
  workFailedDraft observer.plane observer.call.leaseId observer.call.workerId cancelObserved
    lease.runId.val lease.attemptId.val observer.eventId (stamp none reads)

def raise (e : PlaneError) : ObservePhase := .returned (.error e)

/-- The phase after an append that raised: a conflict is looked into. -/
def afterError (lease : LeaseRecord) (retries : Nat) (e : PlaneError) : ObservePhase :=
  if Caller.isConflict e then .conflicted lease retries else raise e

section

variable (F : FloatText)

/-- The checks before the first attempt. -/
def check (observer : Observer) (reads : Reads) (log : EventLog) :
    Except PlaneError ObservePhase := do
  let claims ← fromWorker observer.call.claims
  let head ← rebuild F observer.plane.projectId log
  let (lease, grant) ← fromWorker (bindResultAuthorization observer.plane head.fold
    observer.call.workerId observer.call.leaseId claims)
  fromWorker (requireCall (grant.consumedLeaseId.map Subtype.val = some observer.call.leaseId ∧
    lease.claimed = true) "grant was not consumed by this lease" "grant-not-consumed")
  let requested ← reads.cancelRequested
  fromWorker (requireCall (requested = true) "cancellation is not requested"
    "cancel-not-requested")
  if isObserved lease then .ok .reading
  else if lease.status ≠ .leased then .error leaseTerminal
  else .ok (.appending lease observeRetries)

/-- The read of the stored fact; a failed lease without one is terminal. -/
def read (observer : Observer) (missing : PlaneError) (log : EventLog) : ObservePhase :=
  match log.getEvent observer.eventId with
  | some fact => .returned (.ok fact)
  | none => raise missing

/-- `WorkerControl.append` up to the call of the store. -/
def prepare (observer : Observer) (lease : LeaseRecord) (retries : Nat) (reads : Reads)
    (log : EventLog) : ObservePhase :=
  let draft := observer.draft lease reads
  match appendHead F observer.plane.projectId log draft.document none with
  | .ok head => .prepared lease draft head retries
  | .error e => afterError lease retries e

/-- The call of the store. -/
def store (lease : LeaseRecord) (draft : WorkerDraft) (head retries : Nat)
    (fault : Option StoreError) (log : EventLog) : ObservePhase × Option ResearchEvent :=
  match fault with
  | some e => (afterError lease retries (.store e), none)
  | none =>
    match log.append draft.document (some head) with
    | .ok event => (.returned (.ok event), some event)
    | .error e => (afterError lease retries (.store e), none)

/-- What a conflict turns out to be. -/
def resolve (observer : Observer) (lease : LeaseRecord) (retries : Nat) (log : EventLog) :
    ObservePhase :=
  match rebuild F observer.plane.projectId log with
  | .error e => raise e
  | .ok head =>
    match head.fold.findLease observer.call.leaseId with
    | some current =>
      if current.status = .failed then
        if isObserved current then .settled else raise failMismatch
      else again
    | none => again
where
  again : ObservePhase :=
    match retries with
    | 0 => raise cancelConflict
    | retries + 1 => .appending lease retries

def step (observer : Observer) (reads : Reads) (log : EventLog) :
    ObservePhase × Option ResearchEvent :=
  match observer.phase with
  | .checking =>
    match observer.check F reads log with
    | .ok phase => (phase, none)
    | .error e => (raise e, none)
  | .reading => (observer.read leaseTerminal log, none)
  | .appending lease retries => (observer.prepare F lease retries reads log, none)
  | .prepared lease draft head retries => store lease draft head retries reads.storeFault log
  | .conflicted lease retries => (observer.resolve F lease retries log, none)
  | .settled => (observer.read failMismatch log, none)
  | .returned answer => (.returned answer, none)

def move (log : EventLog) (observer : Observer) (reads : Reads) :
    Observer × Option ResearchEvent :=
  let (phase, entry) := observer.step F reads log
  ({ observer with phase := phase }, entry)

end

def starts (observer : Observer) : Bool :=
  match observer.phase with
  | .checking => true
  | _ => false

end Observer

/-- The id of a result fact is the one of its lease. -/
def hasResultId (F : FloatText) (event : ResearchEvent) : Bool :=
  match workerPayload F event.data.projectId event with
  | some (.workCompleted payload) =>
    decide (event.id.val = completedEventId payload.leaseId.val)
  | some (.workFailed payload) => decide (event.id.val = failedEventId payload.leaseId.val)
  | _ => true

/-- The observers of one store. Others append any fact with a new id, a result under the id of its
lease. -/
def observers (F : FloatText) : Clients ResearchEvent Observer Reads where
  starts := Observer.starts
  admits log event := hasResultId F event && log.all fun earlier => decide (earlier.id ≠ event.id)
  move := Observer.move F

variable {F : FloatText} {contentDigest : Json → Option String} {log : EventLog}
  {event : ResearchEvent} {observer : Observer} {reads : Reads}

theorem hasResultId_iff : hasResultId F event = true ↔ ResultIds F event := by
  unfold hasResultId
  split
  · rename_i payload hpayload
    rw [decide_eq_true_iff]
    refine ⟨fun h => ⟨?_, ?_⟩, fun h => h.completed payload hpayload⟩ <;> simp_all
  · rename_i payload hpayload
    rw [decide_eq_true_iff]
    refine ⟨fun h => ⟨?_, ?_⟩, fun h => h.failed payload hpayload⟩ <;> simp_all
  · rename_i hcompleted hfailed
    exact ⟨fun _ => ⟨fun payload h => absurd h (hcompleted payload),
      fun payload h => absurd h (hfailed payload)⟩, fun _ => rfl⟩

theorem observers_admits : (observers F).admits log event = true ↔
    ResultIds F event ∧ ∀ earlier ∈ log, earlier.id ≠ event.id := by
  simp only [observers, Bool.and_eq_true, List.all_eq_true, decide_eq_true_eq, hasResultId_iff]

/-- What a call of a worker plane stores is a fact that others may append. -/
theorem admits_plane_fact {caller : Caller} (h : CallerOk F log caller)
    (hstored : (caller.move F contentDigest log reads).2 = some event) :
    (observers F).admits log event = true := by
  rcases move_cases log caller reads with hquiet | ⟨draft, head, check, stored, hphase, happend, hmove⟩
  · rw [hquiet] at hstored
    cases hstored
  · rw [hmove] at hstored
    cases hstored
    simp only [CallerOk, hphase] at h
    obtain ⟨hadded, -, -⟩ := h.added happend
    exact observers_admits.mpr ⟨resultIds_of_request h.request hadded, hadded.fresh⟩

end ResearchOs.Workers
