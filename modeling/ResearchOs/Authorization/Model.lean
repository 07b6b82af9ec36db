import ResearchOs.Events.Model

/-! `plan.authorization.evaluated`: the closed payload of a recorded decision. -/
namespace ResearchOs.Authorization

/-- `PlanAuthorizationStatus` -/
inductive PlanAuthorizationStatus where
  | authorized
  | pending
  | denied
  deriving DecidableEq, Repr

namespace PlanAuthorizationStatus

def text : PlanAuthorizationStatus → String
  | authorized => "authorized"
  | pending => "pending"
  | denied => "denied"

def ofText (s : String) : Option PlanAuthorizationStatus :=
  [authorized, pending, denied].find? fun status => status.text = s

end PlanAuthorizationStatus

def maxAuthorizationEntries : Nat := 10000

def isRequirementId (s : String) : Bool := inRange 1 4096 s.length

abbrev AuthorizationDigest := StrictDigest

abbrev AuthorizationIdentifier := EventIdentifier

abbrev AuthorizationRequirementId := Checked isRequirementId

/-- The order of texts by code points. -/
def precedes {p : String → Bool} (a b : Checked p) : Prop := a.val.toList < b.val.toList

instance {p : String → Bool} (a b : Checked p) : Decidable (precedes a b) :=
  inferInstanceAs (Decidable (_ < _))

/-- A collection of a decision: bounded, sorted and without repetition. -/
def isCollection {p : String → Bool} (items : List (Checked p)) : Bool :=
  inRange 0 maxAuthorizationEntries items.length && decide (items.Pairwise precedes)

abbrev Identifiers := Checked (isCollection (p := isEventIdentifier))

abbrev Requirements := Checked (isCollection (p := isRequirementId))

structure PlanAuthorizationEventBinding where
  specDigest : AuthorizationDigest
  registryDigest : AuthorizationDigest
  planDigest : AuthorizationDigest
  decisionDigest : AuthorizationDigest
  deriving DecidableEq

/-- The members of a recorded decision. -/
structure Decision where
  workflowId : EventIdentifier
  binding : PlanAuthorizationEventBinding
  status : PlanAuthorizationStatus
  authorized : Bool
  requiredCapabilities : Identifiers
  requiredPermissions : Identifiers
  missingCapabilities : Identifiers
  missingPermissions : Identifiers
  approvedRequirements : Requirements
  pendingRequirements : Requirements
  deniedRequirements : Requirements

namespace Decision

def texts {p : String → Bool} (items : List (Checked p)) : List String := items.map Subtype.val

/-- The requirements that have a disposition, in the order of their texts. -/
def sortedRequirements (d : Decision) : List String :=
  (texts d.approvedRequirements.val ++ texts d.pendingRequirements.val ++
    texts d.deniedRequirements.val).mergeSort fun a b => decide (a.toList ≤ b.toList)

/-- The disposition that the last of the three collections gives. -/
def disposition (d : Decision) (requirementId : String) : String :=
  if requirementId ∈ texts d.deniedRequirements.val then "denied"
  else if requirementId ∈ texts d.pendingRequirements.val then "pending"
  else "approved"

def grantEntry (missing : List String) (value : String) : Json :=
  .obj [("id", .str value),
    ("decision", .str (if value ∈ missing then "missing" else "granted"))]

/-- `_decision_payload` -/
def decisionPayload (d : Decision) : Json :=
  .obj [("status", .str d.status.text),
    ("digests", .obj [("spec", .str d.binding.specDigest.val),
      ("registry", .str d.binding.registryDigest.val), ("plan", .str d.binding.planDigest.val)]),
    ("capabilities", .arr ((texts d.requiredCapabilities.val).map
      (grantEntry (texts d.missingCapabilities.val)))),
    ("permissions", .arr ((texts d.requiredPermissions.val).map
      (grantEntry (texts d.missingPermissions.val)))),
    ("requirements", .arr (d.sortedRequirements.map fun requirementId =>
      .obj [("id", .str requirementId), ("decision", .str (d.disposition requirementId))]))]

/-- A missing grant or a denied requirement. -/
def hasDenial (d : Decision) : Bool :=
  !d.missingCapabilities.val.isEmpty || !d.missingPermissions.val.isEmpty ||
    !d.deniedRequirements.val.isEmpty

/-- The status follows from the collections. -/
def statusMatches (d : Decision) : Bool :=
  match d.status with
  | .authorized => !d.hasDenial && d.pendingRequirements.val.isEmpty
  | .pending => !d.hasDenial && !d.pendingRequirements.val.isEmpty
  | .denied => d.hasDenial

def disjoint (a b : Requirements) : Bool := a.val.all fun item => !b.val.contains item

/-- `result_is_normalized_and_self_consistent` of the report that has these members. -/
def isSelfConsistent (contentDigest : Json → Option String) (d : Decision) : Bool :=
  d.missingCapabilities.val.all d.requiredCapabilities.val.contains &&
    d.missingPermissions.val.all d.requiredPermissions.val.contains &&
    disjoint d.approvedRequirements d.pendingRequirements &&
    disjoint d.approvedRequirements d.deniedRequirements &&
    disjoint d.pendingRequirements d.deniedRequirements &&
    d.authorized == decide (d.status = .authorized) && d.statusMatches &&
    contentDigest d.decisionPayload == some d.binding.decisionDigest.val

end Decision

/-- A decision whose members agree with each other and with its digest. -/
structure PlanAuthorizationEvaluatedPayload (contentDigest : Json → Option String)
    extends Decision where
  decisionIsSelfConsistent : toDecision.isSelfConsistent contentDigest = true

def PlanAuthorizationEventBinding.validate (j : Json) : Option PlanAuthorizationEventBinding := do
  let ms ← Strict.closed ["specDigest", "registryDigest", "planDigest", "decisionDigest"] j
  let specDigest ← Strict.required ms "specDigest" (Strict.text _)
  let registryDigest ← Strict.required ms "registryDigest" (Strict.text _)
  let planDigest ← Strict.required ms "planDigest" (Strict.text _)
  let decisionDigest ← Strict.required ms "decisionDigest" (Strict.text _)
  some ⟨specDigest, registryDigest, planDigest, decisionDigest⟩

/-- `freeze_collections` -/
def collection {p : String → Bool} (ms : Json.Members) (key : String) :
    Option (Checked (isCollection (p := p))) :=
  (Strict.required ms key (Strict.array (Strict.text p))).bind (Strict.checked _)

def Decision.validate (j : Json) : Option Decision := do
  let ms ← Strict.closed ["workflowId", "binding", "status", "authorized", "requiredCapabilities",
    "requiredPermissions", "missingCapabilities", "missingPermissions", "approvedRequirements",
    "pendingRequirements", "deniedRequirements", "approvalAuthentication", "authority",
    "execution"] j
  let workflowId ← Strict.required ms "workflowId" (Strict.text _)
  let binding ← Strict.required ms "binding" PlanAuthorizationEventBinding.validate
  let status ← Strict.required ms "status" (Strict.enumeration PlanAuthorizationStatus.ofText)
  let authorized ← Strict.required ms "authorized" Strict.boolean
  let requiredCapabilities ← collection ms "requiredCapabilities"
  let requiredPermissions ← collection ms "requiredPermissions"
  let missingCapabilities ← collection ms "missingCapabilities"
  let missingPermissions ← collection ms "missingPermissions"
  let approvedRequirements ← collection ms "approvedRequirements"
  let pendingRequirements ← collection ms "pendingRequirements"
  let deniedRequirements ← collection ms "deniedRequirements"
  let _ ← Strict.required ms "approvalAuthentication" (Strict.literal "not-authenticated")
  let _ ← Strict.required ms "authority" (Strict.literal "audit-only")
  let _ ← Strict.required ms "execution" (Strict.literal "not-executed")
  some ⟨workflowId, binding, status, authorized, requiredCapabilities, requiredPermissions,
    missingCapabilities, missingPermissions, approvedRequirements, pendingRequirements,
    deniedRequirements⟩

def PlanAuthorizationEvaluatedPayload.validate (contentDigest : Json → Option String) (j : Json) :
    Option (PlanAuthorizationEvaluatedPayload contentDigest) := do
  let decision ← Decision.validate j
  if h : decision.isSelfConsistent contentDigest = true then some ⟨decision, h⟩ else none

def planAuthorizationEvaluatedType : String := "plan.authorization.evaluated"

/-- `PlanAuthorizationRecordError` -/
structure RecordError where
  message : String
  deriving DecidableEq, Repr

/-- `validate_plan_authorization_evaluated_event` -/
def validateEvaluatedEvent (contentDigest : Json → Option String) (event : ResearchEvent) :
    Except RecordError (PlanAuthorizationEvaluatedPayload contentDigest) :=
  if event.type.val ≠ planAuthorizationEvaluatedType then
    .error ⟨"authorization event type is invalid"⟩
  else if event.data.runId.isSome ∨ event.data.attemptId.isSome ∨ event.data.blockId.isSome then
    .error ⟨"authorization event aggregate scope is invalid"⟩
  else
    match PlanAuthorizationEvaluatedPayload.validate contentDigest (.obj event.data.payload) with
    | some payload => .ok payload
    | none => .error ⟨"authorization event payload is invalid"⟩

end ResearchOs.Authorization
