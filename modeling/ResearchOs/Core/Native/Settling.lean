import ResearchOs.Core.Native.Stalls
import ResearchOs.Core.Workers.Barrier

/-! Exactly when a repeated report closes its run. -/
namespace ResearchOs.Native

open JsonText (FloatText)
open Recovery (cancelRequested)
open Runs (LifecycleType RunSnapshot AttemptSnapshot Ending Within)
open Storage (EventLog)
open Workers

section

variable (F : FloatText) (contentDigest : Json → Option String) (context : NativeContext)
  (plane : WorkerPlane) (call : OutcomeCall) (grant : GrantRecord) (request : NativeRequest)
  (lease : LeaseRecord) (s : RunSnapshot) (attempt : AttemptSnapshot)

/-- The lease is settled as a document of the ending says, or the report may settle it so. -/
def Settleable (visits : List Visit) (log : EventLog) : Ending → Prop
  | .succeeded => lease.status = .completed ∧ context.output request lease = .ok ()
  | .failed => lease.status = .failed ∧ lease.reasonCode.map Subtype.val = some taskFailed ∨
    lease.status = .leased ∧ (s.cancellationRequested || attempt.cancellationRequested) = false ∧
      grant.revoked = false ∧ ∃ visit ∈ visits, Admits call grant lease visit
  | .cancelled =>
    ((s.cancellationRequested || attempt.cancellationRequested) = true ∨ grant.revoked = true) ∧
      (lease.status = .leased ∨ Observed log lease)

/-- A report of an ending that passes its checks, whose facts are still to be recorded and may be,
and that is repeated at last without an interruption. -/
structure Reporting (ending : Ending) (whole : Visit) (visits : List Visit) (store : NativeStore) :
    Prop where
  report : Report F contentDigest context plane call store.log ⟨lease, grant, request⟩ s attempt
  within : Within store.log
  outcome : call.document.outcome = outcomeOf ending
  fits : context.fits (outcomeBinding call grant) = true
  journal : outcomeBinding call grant ∈ store.journals ∨ s.status ∈ reportable
  settleable : Settleable context call grant request lease s attempt (whole :: visits) store.log
    ending
  allowed : attempt.status ∈ ending.allowed
  free : ∀ type ∈ [LifecycleType.runCancelRequested, ending.attemptType, ending.runType],
    type = .runCancelRequested ∧ s.cancellationRequested = true ∨ Free request type store.log
  unfailed : lease.status = .leased →
    ∀ earlier ∈ store.log, earlier.id.val ≠ failedEventId lease.leaseId.val
  room : store.log.length + 4 ≤ cloudEventsIntegerMax
  valid : ∀ visit ∈ whole :: visits,
    FactsValid request ending visit ∧ FailureValid plane call lease visit
  budget : 4 ≤ whole.budget

/-- The failure of an open lease has the revision of the run, and a cancellation that was asked of
the attempt was asked of the run as well. -/
structure Recordable (ending : Ending) : Prop where
  revision : lease.status = .leased → plane.experimentRevision = s.experimentRevision.val
  asked : ending = .cancelled → attempt.cancellationRequested = true →
    s.cancellationRequested = true

end

section

variable {F : FloatText} {contentDigest : Json → Option String} {context : NativeContext}
  {plane : WorkerPlane} {call : OutcomeCall} {grant : GrantRecord} {request : NativeRequest}
  {lease : LeaseRecord} {s : RunSnapshot} {attempt : AttemptSnapshot} {ending : Ending}
  {whole : Visit} {visits : List Visit} {store : NativeStore}

theorem Report.unique {log : EventLog} {bound other : Bound} {t : RunSnapshot}
    {found : AttemptSnapshot} (h : Report F contentDigest context plane call log bound s attempt)
    (hother : Report F contentDigest context plane call log other t found) :
    other = bound ∧ t = s := by
  obtain rfl := h.workers.unique hother.workers
  exact ⟨rfl, Option.some.inj (Except.ok.inj (hother.folds.symm.trans h.folds))⟩

namespace Reporting

variable (h : Reporting F contentDigest context plane call grant request lease s attempt ending
  whole visits store)

include h

theorem accepted : Accepted F contentDigest context plane call grant store := by
  refine h.journal.imp_right ?_
  intro hopen bound t found hreport
  obtain ⟨-, rfl⟩ := h.report.unique hreport
  exact hopen

theorem pending (pending : List LifecycleType)
    (htypes : ∀ type ∈ pending,
      type ∈ [LifecycleType.runCancelRequested, ending.attemptType, ending.runType])
    (hcount : pending.length ≤ 3)
    (hasked : s.cancellationRequested = true → LifecycleType.runCancelRequested ∉ pending) :
    At F contentDigest context plane call grant request pending store.log lease s attempt := by
  refine ⟨h.report, h.within, ?_, ?_⟩
  · intro type htype
    rcases h.free type (htypes type htype) with ⟨rfl, hflag⟩ | hfree
    · exact absurd htype (hasked hflag)
    · exact hfree
  · have hroom := h.room
    split <;> omega

/-- Both facts of the run are still to be recorded. -/
theorem opened :
    At F contentDigest context plane call grant request [ending.attemptType, ending.runType]
      store.log lease s attempt := by
  refine h.pending _ (by simp) (by decide : 2 ≤ 3) fun _ => ?_
  have happart := types_apart ending
  simp [happart.2.1, happart.2.2]

theorem failable (hrecordable : Recordable plane lease s attempt ending)
    (hleased : lease.status = .leased) : Failable plane store.log lease s :=
  ⟨hleased, h.unfailed hleased, hrecordable.revision hleased⟩

theorem underway_of_head
    (hhead : Head F contentDigest context plane call grant request lease ending 0 store.log) :
    Underway F contentDigest context plane call grant request lease ending store := by
  refine ⟨h.accepted, 0, Nat.zero_le _, .inl ⟨?_, hhead⟩⟩
  cases ending <;> decide

theorem underway_of_settled
    (hsettled : Settled context request ending store.log lease s) :
    Underway F contentDigest context plane call grant request lease ending store :=
  h.underway_of_head (.settled (.opened h.opened hsettled h.allowed))

/-- A cancellation that is asked of the run, or that a revoked grant stands for, is observed. -/
theorem underway_cancelled (hrecordable : Recordable plane lease s attempt ending)
    (hending : ending = .cancelled) :
    Underway F contentDigest context plane call grant request lease ending store := by
  have hsettleable := h.settleable
  have hopened := h.opened
  have hallowed := h.allowed
  subst hending
  obtain ⟨hasked, hlease⟩ := hsettleable
  have hstanding : Failable plane store.log lease s ∨ Observed store.log lease :=
    hlease.imp_left (h.failable hrecordable)
  by_cases hflag : s.cancellationRequested = true
  · rcases hstanding with hfailable | hobserved
    · exact h.underway_of_head (.asked hopened hflag hallowed hfailable (Nat.zero_le 1))
    · exact h.underway_of_settled ⟨hflag, hobserved⟩
  · have hattempt : attempt.cancellationRequested ≠ true := fun hasked =>
      hflag (hrecordable.asked rfl hasked)
    have hnone : (s.cancellationRequested || attempt.cancellationRequested) = false := by
      simp [hflag, hattempt]
    have hrevoked : grant.revoked = true := by
      rw [hnone] at hasked
      exact hasked.resolve_left Bool.false_ne_true
    have hasking := h.pending _ (fun type htype => htype) (Nat.le_refl 3)
      fun hrequested => absurd hrequested hflag
    exact h.underway_of_head (.asking hasking hrevoked hnone hallowed hstanding)

/-- However its calls are cut short, the whole report that follows closes the run. -/
theorem settles (hrecordable : Recordable plane lease s attempt ending) :
    Retry.Settles (reconcileNativeOutcome F contentDigest context plane call) whole
      (Closed request ending) store visits := by
  have hlater : Underway F contentDigest context plane call grant request lease ending store →
      Underway F contentDigest context plane call grant request lease ending
        (Retry.after (reconcileNativeOutcome F contentDigest context plane call) store visits) := by
    intro hunderway
    refine Retry.after_invariant_of_mem ?_ hunderway
    intro visit hvisit store hstore
    obtain ⟨hfacts, hfailure⟩ := h.valid visit (List.mem_cons_of_mem whole hvisit)
    exact hstore.reconcile h.outcome h.fits hfacts hfailure
  have hsettles := fun hunderway =>
    settles_of_underway h.outcome h.fits h.valid h.budget (hlater hunderway)
  have hsettleable := h.settleable
  have hopened := h.opened
  cases ending with
  | succeeded => exact hsettles (h.underway_of_settled hsettleable)
  | failed =>
    rcases hsettleable with hfailed | ⟨hleased, hrequested, hrevoked, hadmits⟩
    · exact hsettles (h.underway_of_settled hfailed)
    · have hfailing : Failing F contentDigest context plane call grant request lease store.log s
          attempt := ⟨hopened, h.failable hrecordable hleased, hrequested, hrevoked, h.allowed⟩
      exact settles_of_unrecorded h.outcome h.fits h.valid h.budget hadmits
        ⟨h.accepted, s, attempt, hfailing⟩
  | cancelled => exact hsettles (h.underway_cancelled hrecordable rfl)

theorem folds (Q : RunSnapshot → Prop) (hs : Q s) : Folds request Q store.log := by
  intro state hfold
  obtain rfl : some s = state := Except.ok.inj (h.report.folds.symm.trans hfold)
  exact ⟨s, rfl, hs⟩

/-- The failure of the lease is taken by the workers and not by the run. -/
theorem revision_of_settles
    (hsettles : Retry.Settles (reconcileNativeOutcome F contentDigest context plane call) whole
      (Closed request ending) store visits) (hleased : lease.status = .leased) :
    plane.experimentRevision = s.experimentRevision.val := by
  by_contra hrevision
  have hending : ending ≠ .succeeded := by
    rintro rfl
    have hcompleted := h.settleable.1
    rw [hleased] at hcompleted
    cases hcompleted
  have hfree := (h.free ending.attemptType (by simp)).resolve_left
    fun hasked => (types_apart ending).2.1 hasked.1.symm
  have hastray : Astray F contentDigest context plane call grant request ending 0 store.log :=
    .inl ⟨Nat.zero_le _, ⟨lease, h.report.workers, hleased⟩, hfree, h.folds _ hrevision⟩
  have hnames : ∀ log, Astray F contentDigest context plane call grant request ending 0 log →
      ∃ lease, Names F contentDigest context plane call log ⟨lease, grant, request⟩ := by
    rintro log (⟨-, hdiverging⟩ | ⟨-, hdiverged⟩)
    · obtain ⟨lease, hnames, -⟩ := hdiverging.names
      exact ⟨lease, hnames⟩
    · obtain ⟨lease, hnames, -⟩ := hdiverged.names
      exact ⟨lease, hnames⟩
  refine not_settles_of_stalls hnames ?_ hastray hsettles
  intro visit hvisit
  rw [outcomeSteps_eq h.outcome]
  exact astray_stalls hending

/-- The attempt is cancelled, and its run refuses to be. -/
theorem asked_of_settles
    (hsettles : Retry.Settles (reconcileNativeOutcome F contentDigest context plane call) whole
      (Closed request ending) store visits) (hending : ending = .cancelled)
    (hasked : attempt.cancellationRequested = true) : s.cancellationRequested = true := by
  subst hending
  by_contra hflag
  have hfree : Free request .runCancelled store.log :=
    (h.free .runCancelled (by simp [Ending.runType])).resolve_left fun hasked => by cases hasked.1
  have hattempt : AskedOfAttempt request s := by
    refine ⟨Bool.eq_false_iff.mpr hflag, ?_⟩
    simp [cancelRequested, Runs.findAttempt, h.report.attempts, h.report.attemptId, hasked]
  have hunheard : Unheard F contentDigest context plane call grant request 0 store.log :=
    ⟨Nat.zero_le _, ⟨lease, h.report.workers⟩, hfree, h.folds _ hattempt⟩
  have hnames : ∀ log, Unheard F contentDigest context plane call grant request 0 log →
      ∃ lease, Names F contentDigest context plane call log ⟨lease, grant, request⟩ :=
    fun _ hstuck => hstuck.2.names
  refine not_settles_of_stalls hnames ?_ hunheard hsettles
  intro visit hvisit
  rw [outcomeSteps_eq h.outcome]
  exact unheard_stalls

end Reporting

end

/-- Once its run has ended, a report is answered only if it names that ending. -/
def Exclusive (F : FloatText) (contentDigest : Json → Option String) (context : NativeContext)
    (plane : WorkerPlane) : Prop :=
  ∀ call visit store later receipt bound s attempt,
    Report F contentDigest context plane call store.log bound s attempt →
    s.status ∈ Runs.terminalRunStatuses →
    reconcileNativeOutcome F contentDigest context plane call visit store = (later, .ok receipt) →
    ∃ ending : Ending, call.document.outcome = outcomeOf ending ∧ s.status = ending.runStatus

/-- However the calls before it are cut short, a repeated report closes its run, and no other report
is answered then, exactly when what it has to record is what the run accepts. -/
theorem native_outcome_iff (F : FloatText) (contentDigest : Json → Option String)
    (context : NativeContext) (plane : WorkerPlane) (call : OutcomeCall) (grant : GrantRecord)
    (request : NativeRequest) (lease : LeaseRecord) (s : RunSnapshot) (attempt : AttemptSnapshot)
    (ending : Ending) (whole : Visit) (visits : List Visit) (store : NativeStore)
    (h : Reporting F contentDigest context plane call grant request lease s attempt ending whole
      visits store) :
    Retry.Settles (reconcileNativeOutcome F contentDigest context plane call) whole
        (Closed request ending) store visits ∧ Exclusive F contentDigest context plane ↔
      Recordable plane lease s attempt ending := by
  constructor
  · rintro ⟨hsettles, -⟩
    exact ⟨h.revision_of_settles hsettles, h.asked_of_settles hsettles⟩
  · intro hrecordable
    exact ⟨h.settles hrecordable, fun _ _ _ _ _ _ _ _ => reconcile_exclusive⟩

/-! A cancelled attempt whose cancellation was asked of the run, or of the attempt only. -/

deriving instance DecidableEq for NativeRequest

def citationDigest : String :=
  "jcs-sha256:0000000000000000000000000000000000000000000000000000000000000000"

def trialPlatform : Json := .obj [("architecture", .str "x86_64"), ("os", .str "linux")]

/-- `execution_object` of a reviewed request. -/
def trialConfig : Json.Members := [
  ("code", .obj [("bundleDigest", .str trialDigest), ("entrypoint", .str "brick:main"),
    ("mediaType", .str "researchos.native-reviewed-python-bundle/v0alpha1"),
    ("review", .obj [("bundleDigest", .str trialDigest), ("citationDigest", .str citationDigest)])]),
  ("environment", .obj [("abi", .str "cp312"), ("dependencyLockDigest", .str trialDigest),
    ("interpreterDigest", .str trialDigest), ("inventoryDigest", .str trialDigest),
    ("platform", trialPlatform), ("pythonVersion", .str "3.12.1")]),
  ("inputs", .arr []),
  ("limits", .obj [("artifactBytes", .int 1024), ("stderrBytes", .int 1024),
    ("stdoutBytes", .int 1024), ("wallTimeSeconds", .int 60)]),
  ("platform", trialPlatform),
  ("profile", .str "native-reviewed-python/v0alpha1"),
  ("restrictions", .obj [
    ("filesystem", .obj [("requested", .str "host"), ("required", .bool false)]),
    ("memory", .obj [("requested", .str "unbounded"), ("required", .bool false)]),
    ("network", .obj [("requested", .str "none"), ("required", .bool false)])])]

/-- `content_digest` of the configuration, and of the whole request. -/
def trialConfigDigest : String :=
  "jcs-sha256:6e279059e137c5215b0368ca448fc6bc37b082b78d13c8e3615c3ba535c58b3b"

def trialRequestDigest : String :=
  "jcs-sha256:089e3b9cbe60f9d94abebf0bfd28bc87b57e767e1d56be88b10b8671acb4a005"

def trialContent (j : Json) : Option String :=
  if j = .obj trialConfig then some trialConfigDigest else none

def trialContext : NativeContext where
  authorization _ _ :=
    .ok ⟨1, "workflow", citationDigest, citationDigest, citationDigest, citationDigest⟩
  requestDigest _ := trialRequestDigest
  startJournal _ _ := .ok ()
  output _ _ := .ok ()
  fits _ := true

def trialRequest : NativeRequest where
  projectId := trialProject
  revision := 1
  workflowId := "workflow"
  taskId := ⟨"task", .refl true⟩
  runId := ⟨"run-1", .refl true⟩
  attemptId := ⟨"attempt-1", .refl true⟩
  workerId := ⟨"worker-a", .refl true⟩
  authorizationEventId := "event-0"
  authorizationSequence := "1"
  specDigest := citationDigest
  registryDigest := citationDigest
  planDigest := citationDigest
  decisionDigest := citationDigest
  configDigest := trialConfigDigest

def nativeClaims : GrantClaims := { trialClaims with configDigest := trialConfigDigest }

/-- The report of an exited process whose attempt was cancelled. -/
def cancelledReport : OutcomeCall where
  workerId := "worker-a"
  claims := .ok nativeClaims
  document := ⟨"lease.grant-a", trialRequestDigest, .obj [], .exited, .cancelled, fun _ => rfl⟩

def nativeRegistered : ResearchEvent :=
  trialFact ⟨1, .refl true⟩ .workerRegistered false
    [("runtime", .str "native-reviewed-process"), ("workerId", .str "worker-a")]

def nativeQueued : ResearchEvent :=
  trialFact ⟨2, .refl true⟩ .workQueued true
    [("config", .obj trialConfig), ("configDigest", .str trialConfigDigest),
      ("imageDigest", .str trialDigest),
      ("imageMediaType", .str "researchos.native-reviewed-python-bundle/v0alpha1"),
      ("runtime", .str "native-reviewed-process"), ("taskId", .str "task")]

def nativeGrant : ResearchEvent :=
  trialFact ⟨3, .refl true⟩ .grantRecorded true
    [("authorizationEventId", .str "event-0"), ("authorizationSequence", .str "1"),
      ("configDigest", .str trialConfigDigest), ("expiresAt", .str "2026-01-02T00:00:00Z"),
      ("grantId", .str "grant-a"), ("imageDigest", .str trialDigest),
      ("keyId", .str "local.hmac.1"), ("nonce", .str "nonce"), ("taskId", .str "task"),
      ("workerId", .str "worker-a")]

/-- The consumed lease of the trial. -/
def nativeWorkers : EventLog := [
  { nativeRegistered with id := ⟨"event-1", .refl true⟩ },
  { nativeQueued with id := ⟨"event-2", .refl true⟩ },
  { nativeGrant with id := ⟨"event-3", .refl true⟩ },
  { trialLeased ⟨4, .refl true⟩ "worker-a" "grant-a" "lease.grant-a" with
    id := ⟨"event-4", .refl true⟩ },
  { trialClaimed ⟨5, .refl true⟩ "worker-a" "lease.grant-a" with id := ⟨"event-5", .refl true⟩ },
  { trialConsumed ⟨6, .refl true⟩ "grant-a" "lease.grant-a" with id := ⟨"event-6", .refl true⟩ }]

def storedAt (sequence : SequenceNumber) (draft : Runs.LifecycleDraft) : List ResearchEvent :=
  (validateEventDocument
    (.obj (Storage.assigned draft.members sequence Storage.firstStreamVersion))).toList

def trialTime : String := "2026-01-01T00:00:20Z"

/-- The recorded start, and then the request to cancel. -/
def askedLog (type : LifecycleType) : EventLog :=
  let sequences : List SequenceNumber :=
    [⟨7, .refl true⟩, ⟨8, .refl true⟩, ⟨9, .refl true⟩, ⟨10, .refl true⟩]
  nativeWorkers ++
    ((startFacts trialRequest).zip sequences).flatMap (fun p =>
      storedAt p.2 (trialRequest.draft trialRequest.remoteEventId trialTime p.1)) ++
    storedAt ⟨11, .refl true⟩
      (trialRequest.draft (fun _ => "cancel-1") trialTime (.reasoned type "operator.cancelled"))

def wholeVisit : Visit where
  budget := 4
  now := Rfc3339Timestamp.instant ⟨"2026-01-01T00:00:30Z", .refl true⟩
  stamp := "2026-01-01T00:00:30Z"
  time := "2026-01-01T00:00:30Z"

/-- What the checks of the trial report find. -/
structure TrialFound (type : LifecycleType) (grant : GrantRecord) (lease : LeaseRecord)
    (s : RunSnapshot) (attempt : AttemptSnapshot) : Prop where
  report : Report JsonText.scientific trialContent trialContext trialPlane cancelledReport
    (askedLog type) ⟨lease, grant, trialRequest⟩ s attempt
  leaseId : lease.leaseId.val = "lease.grant-a"
  runId : lease.runId.val = "run-1"
  attemptId : lease.attemptId.val = "attempt-1"
  leased : lease.status = .leased
  asked : s.cancellationRequested = decide (type = .runCancelRequested) ∧
    attempt.cancellationRequested = decide (type = .attemptCancelRequested)
  revision : s.experimentRevision.val = 1
  reportable : s.status ∈ reportable
  allowed : attempt.status ∈ Ending.cancelled.allowed

/-- The same, read off the answer of the checks. -/
def trialChecks (type : LifecycleType) : Bool :=
  match checkReport JsonText.scientific trialContent trialContext trialPlane cancelledReport
      (askedLog type) with
  | .error _ => false
  | .ok (bound, s, attempt) =>
    decide (bound.request = trialRequest) && decide (bound.lease.leaseId.val = "lease.grant-a") &&
      decide (bound.lease.runId.val = "run-1") && decide (bound.lease.attemptId.val = "attempt-1") &&
      decide (bound.lease.status = .leased) &&
      decide (s.cancellationRequested = decide (type = .runCancelRequested)) &&
      decide (attempt.cancellationRequested = decide (type = .attemptCancelRequested)) &&
      decide (s.experimentRevision.val = 1) && decide (s.status ∈ reportable) &&
      decide (attempt.status ∈ Ending.cancelled.allowed)

theorem trialChecks_asked : ∀ type ∈ [LifecycleType.runCancelRequested, .attemptCancelRequested],
    trialChecks type = true := by decide +kernel

theorem trialFound_of_checks {type : LifecycleType} (h : trialChecks type = true) :
    ∃ grant lease s attempt, TrialFound type grant lease s attempt := by
  unfold trialChecks at h
  split at h
  · cases h
  · rename_i bound s attempt hcheck
    simp only [Bool.and_eq_true, decide_eq_true_eq] at h
    obtain ⟨⟨⟨⟨⟨⟨⟨⟨⟨hrequest, hlease⟩, hrun⟩, hattempt⟩, hleased⟩, hflag⟩, hasked⟩, hrevision⟩,
      hreportable⟩, hallowed⟩ := h
    obtain ⟨lease, grant, request⟩ := bound
    subst hrequest
    exact ⟨grant, lease, s, attempt, checkReport_eq_ok.mp hcheck, hlease, hrun, hattempt, hleased,
      ⟨hflag, hasked⟩, hrevision, hreportable, hallowed⟩

theorem trial_facts : FactsValid trialRequest .cancelled wholeVisit := by
  have hvalid : ∀ fact ∈ [cancelFact, attemptFact .cancelled, runFact .cancelled],
      (validateEventDocument (.obj (Storage.assigned (trialRequest.draft trialRequest.remoteEventId
        wholeVisit.time fact).members Storage.firstSequence Storage.firstStreamVersion))).isSome =
        true := by decide +kernel
  intro fact hfact
  exact Option.isSome_iff_exists.mp (hvalid fact hfact)

theorem TrialFound.failure {type : LifecycleType} {grant : GrantRecord} {lease : LeaseRecord}
    {s : RunSnapshot} {attempt : AttemptSnapshot} (h : TrialFound type grant lease s attempt) :
    FailureValid trialPlane cancelledReport lease wholeVisit := by
  have hvalid : ∀ reasonCode ∈ [taskFailed, Recovery.cancelObserved],
      (validateEventDocument (.obj (Storage.assigned (workFailedDraft trialPlane "lease.grant-a"
        cancelledReport.workerId reasonCode "run-1" "attempt-1" (failedEventId "lease.grant-a")
        wholeVisit.stamp).members Storage.firstSequence Storage.firstStreamVersion))).isSome =
        true := by decide +kernel
  intro reasonCode hreason
  rw [Valid, workFailed, h.leaseId, h.runId, h.attemptId]
  exact Option.isSome_iff_exists.mp (hvalid reasonCode hreason)

theorem TrialFound.reporting {type : LifecycleType} {grant : GrantRecord} {lease : LeaseRecord}
    {s : RunSnapshot} {attempt : AttemptSnapshot} (h : TrialFound type grant lease s attempt)
    (htype : type ∈ [LifecycleType.runCancelRequested, .attemptCancelRequested]) :
    Reporting JsonText.scientific trialContent trialContext trialPlane cancelledReport grant
      trialRequest lease s attempt .cancelled wholeVisit [] ⟨askedLog type, []⟩ := by
  have hlogs : ∀ type ∈ [LifecycleType.runCancelRequested, .attemptCancelRequested],
      (askedLog type).length + 4 ≤ cloudEventsIntegerMax ∧ ∀ event ∈ askedLog type,
        event.sequence.val ≤ (askedLog type).length ∧
        event.id.val ≠ failedEventId "lease.grant-a" ∧
        ∀ fact ∈ [LifecycleType.runCancelRequested, Ending.cancelled.attemptType,
          Ending.cancelled.runType], event.id.val ≠ trialRequest.remoteEventId fact := by
    decide +kernel
  obtain ⟨hroom, hevents⟩ := hlogs type htype
  have heither : ∀ type ∈ [LifecycleType.runCancelRequested, .attemptCancelRequested],
      (decide (type = .runCancelRequested) || decide (type = .attemptCancelRequested)) = true := by
    decide
  have hasked : (s.cancellationRequested || attempt.cancellationRequested) = true := by
    rw [h.asked.1, h.asked.2]
    exact heither type htype
  exact
    { report := h.report
      within := fun event hevent => (hevents event hevent).1
      outcome := rfl
      fits := rfl
      journal := .inr h.reportable
      settleable := ⟨.inl hasked, .inl h.leased⟩
      allowed := h.allowed
      free := fun fact hfact => .inr fun event hevent => (hevents event hevent).2.2 fact hfact
      unfailed := fun _ => by
        rw [h.leaseId]
        exact fun event hevent => (hevents event hevent).2.1
      room := hroom
      valid := by
        intro visit hvisit
        rw [List.mem_singleton.mp hvisit]
        exact ⟨trial_facts, h.failure⟩
      budget := Nat.le_refl 4 }

/-- A cancellation of the run is brought to its end. -/
theorem native_outcome_trial :
    Retry.Settles (reconcileNativeOutcome JsonText.scientific trialContent trialContext trialPlane
        cancelledReport) wholeVisit (Closed trialRequest .cancelled)
        ⟨askedLog .runCancelRequested, []⟩ [] ∧
      Exclusive JsonText.scientific trialContent trialContext trialPlane := by
  obtain ⟨grant, lease, s, attempt, h⟩ := trialFound_of_checks
    (trialChecks_asked .runCancelRequested (by decide))
  refine (native_outcome_iff _ _ _ _ _ grant trialRequest lease s attempt .cancelled _ _ _
    (h.reporting (by decide))).mpr ⟨fun _ => ?_, fun _ _ => h.asked.1⟩
  rw [h.revision]
  rfl

/-- One of the attempt is accepted for the attempt, and its run is never closed. -/
theorem attempt_cancellation_stalls :
    trialChecks .attemptCancelRequested = true ∧
      ¬ Retry.Settles (reconcileNativeOutcome JsonText.scientific trialContent trialContext
        trialPlane cancelledReport) wholeVisit (Closed trialRequest .cancelled)
        ⟨askedLog .attemptCancelRequested, []⟩ [] := by
  have hchecks := trialChecks_asked .attemptCancelRequested (by decide)
  refine ⟨hchecks, fun hsettles => ?_⟩
  obtain ⟨grant, lease, s, attempt, h⟩ := trialFound_of_checks hchecks
  have hasked := (h.reporting (by decide)).asked_of_settles hsettles rfl h.asked.2
  rw [h.asked.1] at hasked
  cases hasked

end ResearchOs.Native
