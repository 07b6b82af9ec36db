import ResearchOs.Data.Clients
import ResearchOs.Core.Workers.Lease
import ResearchOs.Core.Workers.NativeOutput

/-! Any number of callers of worker planes on one store. A call checks a rebuilt fold, rebuilds
once more to append, and the store appends at the head of that second fold. -/
namespace ResearchOs.Workers

open JsonText (FloatText)
open Storage (EventLog StoreError)

inductive PlaneCall where
  | revokeGrant (call : RevokeGrantCall)
  | expireLease (call : ExpireLeaseCall)
  | complete (call : CompleteCall)
  | fail (call : FailCall)
  | completeNativeOutput (call : NativeOutputCall)

/-- Where a call stands. -/
inductive Phase where
  | checking
  | publishing (resultDigest : String)
  | replaying (eventId : String) (missing : WorkerError)
  | appending (draft : WorkerDraft) (expectedLastSequence : Option Nat) (check : Option GrantCheck)
  | prepared (draft : WorkerDraft) (head : Nat) (check : Option GrantCheck)
  | returned (answer : Except PlaneError ResearchEvent)

structure Caller where
  plane : WorkerPlane
  call : PlaneCall
  phase : Phase
  /-- The attempts that are left after a conflict. -/
  retries : Nat

/-- A native completion is tried three times. -/
def nativeRetries : Nat := 2

namespace Caller

def isNative (caller : Caller) : Bool :=
  match caller.call with
  | .completeNativeOutput _ => true
  | _ => false

def check (caller : Caller) : Option GrantCheck :=
  match caller.phase with
  | .appending _ _ check => check
  | .prepared _ _ check => check
  | _ => none

/-- The phase after a check. -/
def settle (caller : Caller) : Except PlaneError Next → Caller
  | .error e => { caller with phase := .returned (.error e) }
  | .ok (.replay eventId missing) => { caller with phase := .replaying eventId missing }
  | .ok (.publish resultDigest) => { caller with phase := .publishing resultDigest }
  | .ok (.append draft expectedLastSequence check) =>
    { caller with phase := .appending draft expectedLastSequence check }

/-- The errors after which a native completion is authorized again. -/
def isConflict : PlaneError → Bool
  | .store (.duplicateEvent _) => true
  | .store (.sequenceConflict _ _) => true
  | _ => false

/-- The phase after an append that raised. -/
def raise (caller : Caller) (e : PlaneError) : Caller :=
  if caller.isNative && isConflict e then
    match caller.retries with
    | 0 => { caller with
        phase := .returned (.error (.worker (.call "native completion did not settle"
          "complete-conflict"))) }
    | retries + 1 => { caller with phase := .checking, retries := retries }
  else { caller with phase := .returned (.error e) }

section

variable (F : FloatText) (contentDigest : Json → Option String)

/-- The first check of a call. -/
def firstCheck (caller : Caller) (reads : Reads) (log : EventLog) : Except PlaneError Next :=
  match caller.call with
  | .revokeGrant call => revokeGrant F caller.plane call reads log
  | .expireLease call => expireLease F caller.plane call reads log
  | .complete call => complete F caller.plane call reads log
  | .fail call => fail F caller.plane call reads log
  | .completeNativeOutput call => publishOutput F contentDigest caller.plane call reads log

/-- The check after the publication of a native output. -/
def secondCheck (caller : Caller) (resultDigest : String) (reads : Reads) (log : EventLog) :
    Caller :=
  match caller.call with
  | .completeNativeOutput call =>
    caller.settle (appendOutput F contentDigest caller.plane call resultDigest reads log)
  | _ => caller

/-- The read of a stored fact. -/
def replay (caller : Caller) (eventId : String) (missing : WorkerError) (log : EventLog) : Caller :=
  match log.getEvent eventId with
  | some fact => { caller with phase := .returned (.ok fact) }
  | none => { caller with phase := .returned (.error (.worker missing)) }

/-- `WorkerControl.append` up to the call of the store. -/
def prepare (caller : Caller) (draft : WorkerDraft) (expectedLastSequence : Option Nat)
    (check : Option GrantCheck) (log : EventLog) : Caller :=
  match appendHead F caller.plane.projectId log draft.document expectedLastSequence with
  | .ok head => { caller with phase := .prepared draft head check }
  | .error e => caller.raise e

/-- The call of the store. -/
def store (caller : Caller) (draft : WorkerDraft) (head : Nat) (fault : Option StoreError)
    (log : EventLog) : Caller × Option ResearchEvent :=
  match fault with
  | some e => (caller.raise (.store e), none)
  | none =>
    match log.append draft.document (some head) with
    | .ok event => ({ caller with phase := .returned (.ok event) }, some event)
    | .error e => (caller.raise (.store e), none)

def move (log : EventLog) (caller : Caller) (reads : Reads) : Caller × Option ResearchEvent :=
  match caller.phase with
  | .checking => (caller.settle (caller.firstCheck F contentDigest reads log), none)
  | .publishing resultDigest => (caller.secondCheck F contentDigest resultDigest reads log, none)
  | .replaying eventId missing => (caller.replay eventId missing log, none)
  | .appending draft expectedLastSequence check =>
    (caller.prepare F draft expectedLastSequence check log, none)
  | .prepared draft head _ => caller.store draft head reads.storeFault log
  | .returned _ => (caller, none)

end

end Caller

/-- A call that was just made. -/
def Caller.starts (caller : Caller) : Bool :=
  match caller.phase with
  | .checking => decide (caller.retries = nativeRetries)
  | _ => false

def cancelObserved : String := "cancel-observed"

/-- Facts that other writers append: any but a result, save an observed cancellation. -/
def isForeign (F : FloatText) (event : ResearchEvent) : Bool :=
  match workerPayload F event.data.projectId event with
  | some (.workCompleted _) => false
  | some (.workFailed payload) => decide (payload.reasonCode.val = cancelObserved ∧
      event.id.val = failedEventId payload.leaseId.val)
  | _ => true

/-- The callers of worker planes on one store. -/
def planeCallers (F : FloatText) (contentDigest : Json → Option String) :
    Clients ResearchEvent Caller Reads where
  starts := Caller.starts
  admits log event := isForeign F event && log.all fun earlier => decide (earlier.id ≠ event.id)
  move := Caller.move F contentDigest

end ResearchOs.Workers
