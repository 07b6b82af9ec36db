import ResearchOs.Core.Recovery.Attribution
import ResearchOs.Core.Runs.Settle

/-! The appends of a runtime whose event identities are still free. -/
namespace ResearchOs.Recovery

open Runs (LifecycleType LifecyclePayload RunStateProjection RunSnapshot AttemptSnapshot
  AttemptStatus RunStatus RunControlResult RetryHint Ending Follows Carries Within Placeable
  payloadModel findAttempt)
open Storage (EventLog assigned)

namespace RuntimeCall

def ending : RuntimeCall → Ending
  | succeed => .succeeded
  | failed _ => .failed
  | cancelled => .cancelled

def reasonCode : RuntimeCall → Option String
  | failed reason => some reason
  | succeed | cancelled => none

/-- The run statuses that the second event of the call closes. -/
def closable : RuntimeCall → List RunStatus
  | failed _ => [.running, .retryPending]
  | succeed | cancelled => [.running]

def path (call : RuntimeCall) : AttemptStatus → RunStatus → List LifecycleType :=
  remainingPath call.ending.attemptType call.ending.runType call.ending.allowed
    call.ending.attemptStatus call.closable

/-- A reason code that the payload models accept. -/
def Reasoned (call : RuntimeCall) : Prop := ∀ reason ∈ call.reasonCode, isEventIdentifier reason = true

end RuntimeCall

theorem call_eq_settle (runtime : WorkerRuntime) (revision budget : Nat) (log : EventLog)
    (call : RuntimeCall) :
    runtime.call revision budget log call =
      runtime.settle call.path revision call.reasonCode budget log := by
  cases call <;> rfl

theorem ofPairs_failedPayload (reason : String) :
    Json.ofPairs (failedPayload reason) = failedPayload reason := by
  have horder : ¬ "retryHint" < "reasonCode" := by decide
  simp [Json.ofPairs, failedPayload, Json.insert, horder]

theorem payloadModel_failedPayload (reason : EventIdentifier) :
    payloadModel .attemptFailed (.obj (Json.ofPairs (failedPayload reason.val))) =
      some (.attemptFailed reason .notRetryable) := by
  have hmembers : Strict.closed ["reasonCode", "retryHint"] (.obj (failedPayload reason.val)) =
      some (failedPayload reason.val) := rfl
  have hreason : Strict.required (failedPayload reason.val) "reasonCode" Strict.identifier =
      some reason := Strict.text_str reason
  have hhint : Strict.required (failedPayload reason.val) "retryHint"
      (Strict.enumeration RetryHint.ofText) = some .notRetryable := rfl
  rw [ofPairs_failedPayload]
  simp only [payloadModel, Runs.validateAttemptFailed, hmembers, hreason, hhint,
    Option.bind_eq_bind, Option.bind_some]

theorem payloadModel_reasonPayload (reason : EventIdentifier) :
    payloadModel .runFailed (.obj (Json.ofPairs (reasonPayload reason.val))) =
      some (.reasonCode reason) := by
  have hmembers : Strict.closed ["reasonCode"] (.obj (Json.ofPairs (reasonPayload reason.val))) =
      some (reasonPayload reason.val) := rfl
  have hreason : Strict.required (reasonPayload reason.val) "reasonCode" Strict.identifier =
      some reason := Strict.text_str reason
  simp only [payloadModel, Runs.validateReasonCode, hmembers, hreason, Option.bind_eq_bind,
    Option.bind_some]

/-- The payloads of the two events of a call pass their payload models. -/
theorem attemptPayload {call : RuntimeCall} (h : call.Reasoned) :
    ∃ payload parsed hint, outcomePayload call.ending.attemptType call.reasonCode = .ok payload ∧
      payloadModel call.ending.attemptType (.obj (Json.ofPairs payload.val)) = some parsed ∧
      call.ending.Hints parsed hint := by
  cases call with
  | succeed => exact ⟨_, _, none, rfl, rfl, rfl⟩
  | failed reason =>
    have hparsed := payloadModel_failedPayload ⟨reason, h reason rfl⟩
    exact ⟨_, _, _, rfl, hparsed, _, _, rfl, rfl⟩
  | cancelled => exact ⟨_, _, none, rfl, rfl, rfl⟩

theorem runPayload {call : RuntimeCall} (h : call.Reasoned) :
    ∃ payload parsed, outcomePayload call.ending.runType call.reasonCode = .ok payload ∧
      payloadModel call.ending.runType (.obj (Json.ofPairs payload.val)) = some parsed := by
  cases call with
  | succeed => exact ⟨_, _, rfl, rfl⟩
  | failed reason => exact ⟨_, _, rfl, payloadModel_reasonPayload ⟨reason, h reason rfl⟩⟩
  | cancelled => exact ⟨_, _, rfl, rfl⟩

/-- The runtime has an identity for the events of a type, and its draft is a valid event. -/
def Usable (runtime : WorkerRuntime) (revision : Nat) (reasonCode : Option String)
    (type : LifecycleType) : Prop :=
  ∃ identity payload event, runtime.events type = some identity ∧
    outcomePayload type reasonCode = .ok payload ∧
    validateEventDocument (.obj (assigned (runtime.draft type identity payload revision).members
      Storage.firstSequence Storage.firstStreamVersion)) = some event

def WorkerRuntime.drafted (runtime : WorkerRuntime) (revision : Nat) (reasonCode : Option String)
    (type : LifecycleType) : Option ResearchEvent :=
  (runtime.events type).bind fun identity =>
    (outcomePayload type reasonCode).toOption.bind fun payload =>
      validateEventDocument (.obj (assigned (runtime.draft type identity payload revision).members
        Storage.firstSequence Storage.firstStreamVersion))

theorem usable_of_drafted {runtime : WorkerRuntime} {revision : Nat} {reasonCode : Option String}
    {type : LifecycleType} (h : (runtime.drafted revision reasonCode type).isSome = true) :
    Usable runtime revision reasonCode type := by
  obtain ⟨event, hevent⟩ := Option.isSome_iff_exists.mp h
  obtain ⟨identity, hidentity, hevent⟩ := Option.bind_eq_some_iff.mp hevent
  obtain ⟨payload, hpayload, hevent⟩ := Option.bind_eq_some_iff.mp hevent
  refine ⟨identity, payload, event, hidentity, ?_, hevent⟩
  cases houtcome : outcomePayload type reasonCode with
  | error error =>
    rw [houtcome] at hpayload
    cases hpayload
  | ok found =>
    rw [houtcome] at hpayload
    cases hpayload
    rfl

/-- The ids of the events that the runtime would append are new to the log. -/
structure Unused (runtime : WorkerRuntime) (log : EventLog) (pending : List LifecycleType) :
    Prop where
  fresh : ∀ type ∈ pending, ∀ identity, runtime.events type = some identity →
    ∀ earlier ∈ log, earlier.id.val ≠ identity.1
  distinct : (pending.map fun type => (runtime.events type).map Prod.fst).Nodup

/-- A log of the run that the events of the listed types can still be appended to. -/
structure Standing (runtime : WorkerRuntime) (revision : Nat) (reasonCode : Option String)
    (pending : List LifecycleType) (log : EventLog) (s : RunSnapshot) (attempt : AttemptSnapshot) :
    Prop where
  within : Within log
  folds : runtime.projection.fold log = .ok (some s)
  found : findAttempt s runtime.attemptId = some attempt
  bound : s.experimentRevision.val = revision
  room : log.length + pending.length ≤ cloudEventsIntegerMax
  usable : ∀ type ∈ pending, Usable runtime revision reasonCode type
  unused : Unused runtime log pending

section

variable {runtime : WorkerRuntime} {revision : Nat} {reasonCode : Option String}
  {type : LifecycleType} {pending : List LifecycleType} {log : EventLog} {s : RunSnapshot}
  {attempt : AttemptSnapshot} {parsed : LifecyclePayload}

theorem Standing.invariant (h : Standing runtime revision reasonCode pending log s attempt) :
    s.Invariant :=
  Runs.fold_invariant h.folds s rfl

theorem Standing.mem (h : Standing runtime revision reasonCode pending log s attempt) :
    attempt ∈ s.attempts :=
  List.mem_of_find?_eq_some h.found

theorem Standing.rebuilt (h : Standing runtime revision reasonCode pending log s attempt) :
    rebuildRun runtime.projection log = .ok (some s) := by
  simp only [rebuildRun, h.folds]
  rfl

theorem Standing.head (h : Standing runtime revision reasonCode pending log s attempt) :
    runtime.head log = .ok s := by
  simp only [WorkerRuntime.head, h.rebuilt, bind, Except.bind]

theorem Standing.tail (h : Standing runtime revision reasonCode (type :: pending) log s attempt) :
    Standing runtime revision reasonCode pending log s attempt where
  within := h.within
  folds := h.folds
  found := h.found
  bound := h.bound
  room := by
    have hroom := h.room
    rw [List.length_cons] at hroom
    omega
  usable := fun other hother => h.usable other (List.mem_cons_of_mem type hother)
  unused :=
    { fresh := fun other hother => h.unused.fresh other (List.mem_cons_of_mem type hother)
      distinct := (List.nodup_cons.mp h.unused.distinct).2 }

/-- The envelope of a draft of the runtime fits its type. -/
theorem draft_envelope (hactual : type ∈ LifecycleType.runTypes ∨ type ∈ WorkerRuntime.attemptTypes) :
    (if type ∈ WorkerRuntime.attemptTypes then some runtime.attemptId else none) = none ↔
      type ∈ LifecycleType.runTypes := by
  cases type <;> simp [WorkerRuntime.attemptTypes, LifecycleType.runTypes] at hactual ⊢

/-- The first of the pending events is appended when the projection accepts it. -/
theorem Standing.append
    (h : Standing runtime revision reasonCode (type :: pending) log s attempt)
    (next : ResearchEvent → RunSnapshot) (moved : ResearchEvent → AttemptSnapshot)
    (hactual : type ∈ LifecycleType.runTypes ∨ type ∈ WorkerRuntime.attemptTypes)
    (hparse : ∀ payload, outcomePayload type reasonCode = .ok payload →
      payloadModel type (.obj (Json.ofPairs payload.val)) = some parsed)
    (hnext : ∀ stored, Carries runtime.projection stored type
        (if type ∈ WorkerRuntime.attemptTypes then some runtime.attemptId else none) parsed →
      Follows s stored → runtime.projection.apply (some s) stored = .ok (some (next stored)))
    (hmoved : ∀ stored, findAttempt (next stored) runtime.attemptId = some (moved stored)) :
    ∃ stored, runtime.append log type revision reasonCode = .ok ⟨stored, next stored⟩ ∧
      stored.type.val = type.text ∧
      Standing runtime revision reasonCode pending (log ++ [stored]) (next stored) (moved stored) := by
  obtain ⟨identity, payload, event, hidentity, hpayload, hvalid⟩ := h.usable type List.mem_cons_self
  have hlength := h.room
  rw [List.length_cons] at hlength
  have hplace : Placeable runtime.projection log s
      (runtime.draft type identity payload revision) :=
    { project := rfl
      run := rfl
      revision := h.bound.symm
      valid := ⟨event, hvalid⟩
      fresh := h.unused.fresh type List.mem_cons_self identity hidentity
      room := by omega }
  obtain ⟨stored, hsaid, hcarries, hfollows, hwithin, happend⟩ :=
    hplace.appends h.within h.folds (draft_envelope hactual) (hparse payload hpayload)
  have happly := hnext stored hcarries hfollows
  have hextends := Runs.apply_extends h.invariant happly
  obtain ⟨t, hsame, -, hextends, -⟩ := hextends
  obtain rfl := Option.some.inj hsame
  have hid : stored.id.val = identity.1 := hsaid.id
  refine ⟨stored, ?_, hsaid.type, ?_⟩
  · simp only [WorkerRuntime.append, hidentity, hpayload, bind, Except.bind, hvalid,
      happend _ happly, Option.isNone_some, Bool.false_eq_true, if_false, fromControl]
  · obtain ⟨hhead, hrest⟩ := List.nodup_cons.mp h.unused.distinct
    have hfold : runtime.projection.fold (log ++ [stored]) = .ok (some (next stored)) :=
      Fold.foldlM_concat_eq_ok.mpr ⟨some s, h.folds, happly⟩
    refine ⟨hwithin, hfold, hmoved stored, ?_, ?_, ?_, ?_, hrest⟩
    · rw [hextends.experimentRevision, h.bound]
    · rw [List.length_append, List.length_singleton]
      omega
    · exact fun other hother => h.usable other (List.mem_cons_of_mem type hother)
    · intro other hother used hused earlier hearlier
      rcases List.mem_append.mp hearlier with hearlier | hearlier
      · exact h.unused.fresh other (List.mem_cons_of_mem type hother) used hused earlier hearlier
      · rw [List.mem_singleton.mp hearlier, hid]
        intro hsame
        apply hhead
        refine List.mem_map.mpr ⟨other, hother, ?_⟩
        simp only [hidentity, hused, Option.map_some, hsame]

end

/-! The two events of a call. -/

section

variable {runtime : WorkerRuntime} {revision : Nat} {call : RuntimeCall}
  {pending : List LifecycleType} {log : EventLog} {s : RunSnapshot} {attempt : AttemptSnapshot}

theorem attemptType_actual (ending : Ending) : ending.attemptType ∈ WorkerRuntime.attemptTypes := by
  cases ending <;> decide

theorem runType_actual (ending : Ending) :
    ending.runType ∈ LifecycleType.runTypes ∧ ending.runType ∉ WorkerRuntime.attemptTypes := by
  cases ending <;> decide

/-- What the appended attempt event leaves. -/
structure Settled (call : RuntimeCall) (s s' : RunSnapshot) (attempt attempt' : AttemptSnapshot) :
    Prop where
  status : attempt'.status = call.ending.attemptStatus
  runStatus : s'.status = call.ending.attemptStatus.runStatus
  runRequested : s'.cancellationRequested = s.cancellationRequested
  attemptRequested : attempt'.cancellationRequested = attempt.cancellationRequested

theorem Standing.settles
    (h : Standing runtime revision call.reasonCode (call.ending.attemptType :: pending) log s attempt)
    (hreason : call.Reasoned) (hallowed : attempt.status ∈ call.ending.allowed)
    (hrequested : call = .cancelled →
      s.cancellationRequested = true ∨ attempt.cancellationRequested = true) :
    ∃ stored s' attempt', runtime.append log call.ending.attemptType revision call.reasonCode =
        .ok ⟨stored, s'⟩ ∧ stored.type.val = call.ending.attemptType.text ∧
      Standing runtime revision call.reasonCode pending (log ++ [stored]) s' attempt' ∧
      Settled call s s' attempt attempt' := by
  obtain ⟨payload, parsed, hint, hpayload, hparse, hhints⟩ := attemptPayload hreason
  have hactive := Runs.activeAttempt_of_found h.invariant h.found (Ending.allowed_unresolved hallowed)
  have hid := Runs.findAttempt_id h.found
  have hcancelled : call.ending = .cancelled →
      s.cancellationRequested = true ∨ attempt.cancellationRequested = true := by
    intro hending
    apply hrequested
    cases call <;> first | rfl | cases hending
  obtain ⟨stored, happend, htype, hstanding⟩ := h.append
    (fun stored =>
      Runs.stamped (Runs.movedRun s attempt stored call.ending.attemptStatus hint) stored)
    (fun stored => Runs.movedAttempt attempt stored call.ending.attemptStatus hint)
    (.inr (attemptType_actual call.ending))
    (by
      intro other hother
      rw [hpayload] at hother
      cases hother
      exact hparse)
    (by
      intro stored hcarries hfollows
      rw [if_pos (attemptType_actual call.ending), ← hid] at hcarries
      exact hcarries.settles h.invariant hfollows hactive hallowed hhints hcancelled)
    (by
      intro stored
      rw [← hid]
      exact Runs.findAttempt_moved hactive _ _)
  exact ⟨stored, _, _, happend, htype, hstanding, rfl, rfl, rfl, rfl⟩

theorem Standing.closes
    (h : Standing runtime revision call.reasonCode (call.ending.runType :: pending) log s attempt)
    (hreason : call.Reasoned) (hopen : s.status ∉ Runs.terminalRunStatuses)
    (hsettled : Runs.latestSettledAs s call.ending.attemptStatus)
    (hrequested : call = .cancelled → s.cancellationRequested = true) :
    ∃ stored s', runtime.append log call.ending.runType revision call.reasonCode =
        .ok ⟨stored, s'⟩ ∧ stored.type.val = call.ending.runType.text ∧
      Standing runtime revision call.reasonCode pending (log ++ [stored]) s' attempt ∧
      s'.status = call.ending.runStatus ∧ s'.cancellationRequested = s.cancellationRequested := by
  obtain ⟨payload, parsed, hpayload, hparse⟩ := runPayload hreason
  have hcancelled : call.ending = .cancelled → s.cancellationRequested = true := by
    intro hending
    apply hrequested
    cases call <;> first | rfl | cases hending
  obtain ⟨stored, happend, htype, hstanding⟩ := h.append
    (fun stored => Runs.stamped
      { s with status := call.ending.runStatus, activeAttemptId := none } stored)
    (fun _ => attempt) (.inl (runType_actual call.ending).1)
    (by
      intro other hother
      rw [hpayload] at hother
      cases hother
      exact hparse)
    (by
      intro stored hcarries hfollows
      rw [if_neg (runType_actual call.ending).2] at hcarries
      exact hcarries.closes h.invariant hfollows hopen hsettled hcancelled)
    (fun _ => h.found)
  exact ⟨stored, _, happend, htype, hstanding, rfl, rfl⟩

/-- A settled attempt of an open run is the latest one. -/
theorem Standing.latestSettled (h : Standing runtime revision call.reasonCode pending log s attempt)
    (hstatus : attempt.status = call.ending.attemptStatus)
    (hrun : s.status = call.ending.attemptStatus.runStatus) :
    Runs.latestSettledAs s call.ending.attemptStatus := by
  by_cases hfailed : call.ending.attemptStatus = .failed
  · rw [hfailed]
    apply h.invariant.settledAs_failed
    rw [hrun, hfailed]
    rfl
  · rw [← hstatus] at hfailed ⊢
    have hlatest := h.invariant.latest_of_not_failed h.mem hfailed
    refine Runs.latestSettledAs_of_latest h.invariant hlatest ?_
    rw [hstatus]
    exact call.ending.attemptStatus_terminal

end

end ResearchOs.Recovery
