import Mathlib.Tactic.Push
import ResearchOs.Data.JsonText
import ResearchOs.Core.Runs.Safety

/-! RunSnapshot documents: writing a snapshot and validating one. -/
namespace ResearchOs.Runs

def runSnapshotApiVersion : String := "researchos.dev/v0alpha1"

def textDocument {p : String → Bool} (s : Checked p) : Json := .str s.val

def naturalDocument {p : Nat → Bool} (n : Checked p) : Json := .int n.val

def AttemptSnapshot.document (attempt : AttemptSnapshot) : Json :=
  .obj [
    ("attemptId", textDocument attempt.attemptId),
    ("cancellationRequested", .bool attempt.cancellationRequested),
    ("lastEventId", textDocument attempt.lastEventId),
    ("lastHeartbeatSequence", Strict.ofOption naturalDocument attempt.lastHeartbeatSequence),
    ("lastSequence", naturalDocument attempt.lastSequence),
    ("ordinal", naturalDocument attempt.ordinal),
    ("retryDecisionId", Strict.ofOption textDocument attempt.retryDecisionId),
    ("retryHint", Strict.ofOption (fun hint => .str (RetryHint.text hint)) attempt.retryHint),
    ("retryOf", Strict.ofOption textDocument attempt.retryOf),
    ("status", .str attempt.status.text)]

/-- A member that is left out when there is no value. -/
def omitted {α : Type} (key : String) (encode : α → Json) : Option α → Json.Members
  | none => []
  | some a => [(key, encode a)]

def RunDigests.document (digests : RunDigests) : Json :=
  .obj (omitted "decisionDigest" textDocument digests.decisionDigest ++ [
    ("plan", textDocument digests.plan),
    ("registry", textDocument digests.registry),
    ("spec", textDocument digests.spec)])

def ConsumedAuthorization.document (authorization : ConsumedAuthorization) : Json :=
  .obj [("eventId", textDocument authorization.eventId),
    ("sequence", naturalDocument authorization.sequence)]

def RunReview.document (review : RunReview) : Json :=
  .obj [
    ("decisionId", Strict.ofOption textDocument review.decisionId),
    ("eventId", Strict.ofOption textDocument review.eventId),
    ("reviewed", .bool review.reviewed),
    ("sequence", Strict.ofOption naturalDocument review.sequence)]

/-- `run_snapshot_document` -/
def runSnapshotDocument (snapshot : RunSnapshot) : Json :=
  .obj ([
    ("activeAttemptId", Strict.ofOption textDocument snapshot.activeAttemptId),
    ("apiVersion", .str runSnapshotApiVersion),
    ("attempts", .arr (snapshot.attempts.map AttemptSnapshot.document)),
    ("cancellationRequested", .bool snapshot.cancellationRequested)] ++
    omitted "consumedAuthorization" ConsumedAuthorization.document snapshot.consumedAuthorization ++ [
    ("digests", snapshot.digests.document),
    ("experimentRevision", naturalDocument snapshot.experimentRevision),
    ("kind", .str "RunSnapshot"),
    ("lastEventId", textDocument snapshot.lastEventId),
    ("lastSequence", naturalDocument snapshot.lastSequence),
    ("maxAttempts", naturalDocument snapshot.maxAttempts),
    ("projectId", textDocument snapshot.projectId),
    ("review", snapshot.review.document),
    ("runId", textDocument snapshot.runId),
    ("status", .str snapshot.status.text),
    ("workflowId", textDocument snapshot.workflowId)])

/-! Validation. -/

/-- What `coerce_attempt_enums` makes of a status or a retry hint: the attempt statuses are
tried first, for both fields. -/
inductive CoercedEnum where
  | status (status : AttemptStatus)
  | hint (hint : RetryHint)

def coerceAttemptEnums (s : String) : Option CoercedEnum :=
  match AttemptStatus.ofText s with
  | some status => some (.status status)
  | none => (RetryHint.ofText s).map .hint

def validateAttemptStatus : Json → Option AttemptStatus
  | .str s =>
    match coerceAttemptEnums s with
    | some (.status status) => some status
    | _ => none
  | _ => none

def validateRetryHint : Json → Option RetryHint
  | .str s =>
    match coerceAttemptEnums s with
    | some (.hint hint) => some hint
    | _ => none
  | _ => none

/-- A model validator that runs after the fields. -/
def after {α : Type} (check : α → Except String Unit) (a : α) : Option α :=
  match check a with
  | .ok () => some a
  | .error _ => none

def AttemptSnapshot.validate (j : Json) : Option AttemptSnapshot := do
  let ms ← Strict.closed ["attemptId", "ordinal", "retryOf", "retryDecisionId", "status",
    "cancellationRequested", "retryHint", "lastEventId", "lastSequence", "lastHeartbeatSequence"] j
  let attemptId ← Strict.required ms "attemptId" Strict.identifier
  let ordinal ← Strict.required ms "ordinal" (Strict.natural _)
  let retryOf ← Strict.required ms "retryOf" (Strict.nullable Strict.identifier)
  let retryDecisionId ← Strict.required ms "retryDecisionId" (Strict.nullable Strict.identifier)
  let status ← Strict.required ms "status" validateAttemptStatus
  let cancellationRequested ← Strict.required ms "cancellationRequested" Strict.boolean
  let retryHint ← Strict.required ms "retryHint" (Strict.nullable validateRetryHint)
  let lastEventId ← Strict.required ms "lastEventId" Strict.cloudEventsString
  let lastSequence ← Strict.required ms "lastSequence" (Strict.natural _)
  let lastHeartbeatSequence ← Strict.defaulted ms "lastHeartbeatSequence" none
    (Strict.nullable (Strict.natural _))
  after attemptFieldsAreConsistent ⟨attemptId, ordinal, retryOf, retryDecisionId, status,
    cancellationRequested, retryHint, lastEventId, lastSequence, lastHeartbeatSequence⟩

def RunDigests.validate (j : Json) : Option RunDigests := do
  let ms ← Strict.closed ["spec", "registry", "plan", "decisionDigest"] j
  let spec ← Strict.required ms "spec" (Strict.text _)
  let registry ← Strict.required ms "registry" (Strict.text _)
  let plan ← Strict.required ms "plan" (Strict.text _)
  let decisionDigest ← Strict.omittable ms "decisionDigest" (Strict.text _)
  some ⟨spec, registry, plan, decisionDigest⟩

def ConsumedAuthorization.validate (j : Json) : Option ConsumedAuthorization := do
  let ms ← Strict.closed ["eventId", "sequence"] j
  let eventId ← Strict.required ms "eventId" Strict.cloudEventsString
  let sequence ← Strict.required ms "sequence" (Strict.natural _)
  some ⟨eventId, sequence⟩

def RunReview.validate (j : Json) : Option RunReview := do
  let ms ← Strict.closed ["reviewed", "eventId", "sequence", "decisionId"] j
  let reviewed ← Strict.required ms "reviewed" Strict.boolean
  let eventId ← Strict.defaulted ms "eventId" none (Strict.nullable Strict.cloudEventsString)
  let sequence ← Strict.defaulted ms "sequence" none (Strict.nullable (Strict.natural _))
  let decisionId ← Strict.defaulted ms "decisionId" none (Strict.nullable Strict.identifier)
  after reviewFieldsAreConsistent ⟨reviewed, eventId, sequence, decisionId⟩

/-- `validate_run_snapshot_document` -/
def validateRunSnapshotDocument (document : Json) : Option RunSnapshot := do
  let ms ← Strict.closed ["apiVersion", "kind", "projectId", "experimentRevision", "runId",
    "workflowId", "digests", "maxAttempts", "status", "cancellationRequested", "activeAttemptId",
    "attempts", "lastEventId", "lastSequence", "review", "consumedAuthorization"] document
  Strict.required ms "apiVersion" (Strict.literal runSnapshotApiVersion)
  Strict.required ms "kind" (Strict.literal "RunSnapshot")
  let projectId ← Strict.required ms "projectId" Strict.identifier
  let experimentRevision ← Strict.required ms "experimentRevision" (Strict.natural _)
  let runId ← Strict.required ms "runId" Strict.identifier
  let workflowId ← Strict.required ms "workflowId" Strict.identifier
  let digests ← Strict.required ms "digests" RunDigests.validate
  let maxAttempts ← Strict.required ms "maxAttempts" (Strict.natural _)
  let status ← Strict.required ms "status" (Strict.enumeration RunStatus.ofText)
  let cancellationRequested ← Strict.required ms "cancellationRequested" Strict.boolean
  let activeAttemptId ← Strict.required ms "activeAttemptId" (Strict.nullable Strict.identifier)
  let attempts ← Strict.defaulted ms "attempts" [] (Strict.array AttemptSnapshot.validate)
  let lastEventId ← Strict.required ms "lastEventId" Strict.cloudEventsString
  let lastSequence ← Strict.required ms "lastSequence" (Strict.natural _)
  let review ← Strict.required ms "review" RunReview.validate
  let consumedAuthorization ← Strict.omittable ms "consumedAuthorization"
    ConsumedAuthorization.validate
  if attempts.length ≤ maxAttemptsLimit then
    after assertRunSnapshotInvariants ⟨projectId, experimentRevision, runId, workflowId, digests,
      maxAttempts, status, cancellationRequested, activeAttemptId, attempts, lastEventId,
      lastSequence, review, consumedAuthorization⟩
  else none

/-! Reading back. -/

theorem after_of_ok {α : Type} {check : α → Except String Unit} {a : α} (h : check a = .ok ()) :
    after check a = some a := by
  simp [after, h]

theorem validateAttemptStatus_text (status : AttemptStatus) :
    validateAttemptStatus (.str status.text) = some status := by
  simp [validateAttemptStatus, coerceAttemptEnums, AttemptStatus.ofText_text]

/-- The hint `unknown` reads as the attempt status of the same name, which is not a hint. -/
theorem validateRetryHint_text (hint : RetryHint) :
    validateRetryHint (.str hint.text) = if hint = .unknown then none else some hint := by
  cases hint <;> decide

theorem nullable_retryHint (hint : Option RetryHint) :
    Strict.nullable validateRetryHint (Strict.ofOption (fun h => .str (RetryHint.text h)) hint) =
      if hint = some .unknown then none else some hint := by
  cases hint with
  | none => rfl
  | some hint =>
    simp only [Strict.ofOption, Strict.nullable, validateRetryHint_text]
    by_cases h : hint = .unknown <;> simp [h]

@[simp] theorem nullable_textDocument {p : String → Bool} (a : Option (Checked p)) :
    Strict.nullable (Strict.text p) (Strict.ofOption textDocument a) = some a :=
  Strict.nullable_text a

@[simp] theorem nullable_naturalDocument {p : Nat → Bool} (a : Option (Checked p)) :
    Strict.nullable (Strict.natural p) (Strict.ofOption naturalDocument a) = some a :=
  Strict.nullable_natural a

@[simp] theorem text_textDocument {p : String → Bool} (a : Checked p) :
    Strict.text p (textDocument a) = some a :=
  Strict.text_str a

@[simp] theorem natural_naturalDocument {p : Nat → Bool} (a : Checked p) :
    Strict.natural p (naturalDocument a) = some a :=
  Strict.natural_int a

theorem validate_attemptDocument {attempt : AttemptSnapshot} (h : attempt.Consistent)
    (hhint : attempt.retryHint ≠ some .unknown) :
    AttemptSnapshot.validate attempt.document = some attempt := by
  refine (Strict.closed_bind rfl).trans ?_
  refine (Strict.required_bind rfl (text_textDocument _)).trans ?_
  refine (Strict.required_bind rfl (natural_naturalDocument _)).trans ?_
  refine (Strict.required_bind rfl (nullable_textDocument _)).trans ?_
  refine (Strict.required_bind rfl (nullable_textDocument _)).trans ?_
  refine (Strict.required_bind rfl (validateAttemptStatus_text _)).trans ?_
  refine (Strict.required_bind rfl (Strict.boolean_bool _)).trans ?_
  refine (Strict.required_bind rfl ((nullable_retryHint _).trans (if_neg hhint))).trans ?_
  refine (Strict.required_bind rfl (text_textDocument _)).trans ?_
  refine (Strict.required_bind rfl (natural_naturalDocument _)).trans ?_
  refine (Strict.defaulted_bind rfl (nullable_naturalDocument _)).trans ?_
  exact after_of_ok (attemptFieldsAreConsistent_iff.mpr h)

theorem validate_attemptDocument_unknown {attempt : AttemptSnapshot}
    (hhint : attempt.retryHint = some .unknown) :
    AttemptSnapshot.validate attempt.document = none := by
  refine (Strict.closed_bind rfl).trans ?_
  refine (Strict.required_bind rfl (text_textDocument _)).trans ?_
  refine (Strict.required_bind rfl (natural_naturalDocument _)).trans ?_
  refine (Strict.required_bind rfl (nullable_textDocument _)).trans ?_
  refine (Strict.required_bind rfl (nullable_textDocument _)).trans ?_
  refine (Strict.required_bind rfl (validateAttemptStatus_text _)).trans ?_
  refine (Strict.required_bind rfl (Strict.boolean_bool _)).trans ?_
  exact Strict.required_bind_none rfl ((nullable_retryHint _).trans (if_pos hhint))

theorem validate_digestsDocument (digests : RunDigests) :
    RunDigests.validate digests.document = some digests := by
  obtain ⟨spec, registry, plan, decisionDigest⟩ := digests
  cases decisionDigest <;>
    refine (Strict.closed_bind rfl).trans ?_ <;>
    refine (Strict.required_bind rfl (text_textDocument _)).trans ?_ <;>
    refine (Strict.required_bind rfl (text_textDocument _)).trans ?_ <;>
    refine (Strict.required_bind rfl (text_textDocument _)).trans ?_ <;>
    exact Strict.omittable_bind textDocument rfl fun x _ => text_textDocument x

theorem validate_authorizationDocument (authorization : ConsumedAuthorization) :
    ConsumedAuthorization.validate authorization.document = some authorization := by
  refine (Strict.closed_bind rfl).trans ?_
  refine (Strict.required_bind rfl (text_textDocument _)).trans ?_
  exact Strict.required_bind rfl (natural_naturalDocument _)

theorem validate_reviewDocument {review : RunReview}
    (h : reviewFieldsAreConsistent review = .ok ()) :
    RunReview.validate review.document = some review := by
  refine (Strict.closed_bind rfl).trans ?_
  refine (Strict.required_bind rfl (Strict.boolean_bool _)).trans ?_
  refine (Strict.defaulted_bind rfl (nullable_textDocument _)).trans ?_
  refine (Strict.defaulted_bind rfl (nullable_naturalDocument _)).trans ?_
  refine (Strict.defaulted_bind rfl (nullable_textDocument _)).trans ?_
  exact after_of_ok h

theorem enumeration_status (status : RunStatus) :
    Strict.enumeration RunStatus.ofText (.str status.text) = some status :=
  RunStatus.ofText_text status

/-- All members but the attempts read back. -/
theorem validate_runSnapshotDocument_eq {s : RunSnapshot} (h : s.Invariant) :
    ∃ k, validateRunSnapshotDocument (runSnapshotDocument s) =
        Strict.array AttemptSnapshot.validate (.arr (s.attempts.map AttemptSnapshot.document)) >>= k ∧
      k s.attempts = some s := by
  have hlength : s.attempts.length ≤ maxAttemptsLimit :=
    le_trans h.budget (inRange_iff.mp s.maxAttempts.property).2
  have hauthorization : ∀ a ∈ s.consumedAuthorization,
      ConsumedAuthorization.validate a.document = some a :=
    fun a _ => validate_authorizationDocument a
  refine ⟨_, (Strict.closed_bind (by cases s.consumedAuthorization <;> rfl)).trans <|
    (Strict.required_bind (by cases s.consumedAuthorization <;> rfl)
      (show Strict.literal _ (.str runSnapshotApiVersion) = some () from rfl)).trans <|
    (Strict.required_bind (by cases s.consumedAuthorization <;> rfl)
      (show Strict.literal _ (.str "RunSnapshot") = some () from rfl)).trans <|
    (Strict.required_bind (by cases s.consumedAuthorization <;> rfl)
      (text_textDocument s.projectId)).trans <|
    (Strict.required_bind (by cases s.consumedAuthorization <;> rfl)
      (natural_naturalDocument s.experimentRevision)).trans <|
    (Strict.required_bind (by cases s.consumedAuthorization <;> rfl)
      (text_textDocument s.runId)).trans <|
    (Strict.required_bind (by cases s.consumedAuthorization <;> rfl)
      (text_textDocument s.workflowId)).trans <|
    (Strict.required_bind (by cases s.consumedAuthorization <;> rfl)
      (validate_digestsDocument s.digests)).trans <|
    (Strict.required_bind (by cases s.consumedAuthorization <;> rfl)
      (natural_naturalDocument s.maxAttempts)).trans <|
    (Strict.required_bind (by cases s.consumedAuthorization <;> rfl)
      (enumeration_status s.status)).trans <|
    (Strict.required_bind (by cases s.consumedAuthorization <;> rfl)
      (Strict.boolean_bool s.cancellationRequested)).trans <|
    (Strict.required_bind (by cases s.consumedAuthorization <;> rfl)
      (nullable_textDocument s.activeAttemptId)).trans <|
    Strict.defaulted_bind_eq (by cases s.consumedAuthorization <;> rfl), ?_⟩
  refine (Strict.required_bind (by cases s.consumedAuthorization <;> rfl)
    (text_textDocument s.lastEventId)).trans ?_
  refine (Strict.required_bind (by cases s.consumedAuthorization <;> rfl)
    (natural_naturalDocument s.lastSequence)).trans ?_
  refine (Strict.required_bind (by cases s.consumedAuthorization <;> rfl)
    (validate_reviewDocument h.reviewFields)).trans ?_
  refine (Strict.omittable_bind ConsumedAuthorization.document
    (by cases s.consumedAuthorization <;> rfl) hauthorization).trans ?_
  exact (if_pos hlength).trans (after_of_ok h.accepted)

/-- A snapshot reads back exactly when no attempt carries the hint `unknown`; otherwise its
document is refused. -/
theorem validate_runSnapshotDocument {s : RunSnapshot} (h : s.Invariant) :
    validateRunSnapshotDocument (runSnapshotDocument s) =
      if ∀ a ∈ s.attempts, a.retryHint ≠ some .unknown then some s else none := by
  obtain ⟨k, hk, htail⟩ := validate_runSnapshotDocument_eq h
  rw [hk]
  by_cases hhints : ∀ a ∈ s.attempts, a.retryHint ≠ some .unknown
  · have hattempts : Strict.array AttemptSnapshot.validate
        (.arr (s.attempts.map AttemptSnapshot.document)) = some s.attempts :=
      Strict.array_map s.attempts fun a ha =>
        validate_attemptDocument (h.linked.consistent a ha) (hhints a ha)
    rw [if_pos hhints, ← htail, hattempts]
    rfl
  · rw [if_neg hhints]
    push Not at hhints
    obtain ⟨a, ha, hhint⟩ := hhints
    rw [Strict.array_map_none ha (validate_attemptDocument_unknown hhint)]
    rfl

end ResearchOs.Runs
