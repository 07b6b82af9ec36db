import ResearchOs.Authorization.Model
import ResearchOs.Data.Fold

/-! `authorize_plan`: explicit grants and decisions against one ready plan. -/
namespace ResearchOs.Authorization

/-- A planned task, as far as authorization and binding read it. -/
structure PlannedTask where
  nodePath : List String
  configDigest : String
  declaredCapabilities : List String
  declaredPermissions : List String

/-- A node of a plan; the body of a loop is a graph of stages. -/
inductive PlanNode where
  | task (task : PlannedTask)
  | approval
  | loop (body : List (List PlanNode))

/-- The stages of `PlannedGraph`. -/
abbrev PlannedGraph := List (List PlanNode)

mutual

/-- The tasks of a node, at any depth of loops. -/
def PlanNode.tasks : PlanNode → List PlannedTask
  | .task task => [task]
  | .approval => []
  | .loop body => stagesTasks body

def stagesTasks : List (List PlanNode) → List PlannedTask
  | [] => []
  | stage :: stages => stageTasks stage ++ stagesTasks stages

def stageTasks : List PlanNode → List PlannedTask
  | [] => []
  | node :: nodes => node.tasks ++ stageTasks nodes

end

/-- What a compiled plan contributes to a ready report. -/
structure CompiledPlan where
  specDigest : String
  registryDigest : String
  planDigest : String
  policyRequirements : List String
  graph : PlannedGraph

/-- `DryRunReport`; a blocked one has no plan. -/
structure DryRunReport where
  projectId : EventIdentifier
  revision : ExperimentRevision
  workflowId : EventIdentifier
  plan : Option CompiledPlan

inductive RequirementDecisionValue where
  | approved
  | denied
  deriving DecidableEq, Repr

def RequirementDecisionValue.text : RequirementDecisionValue → String
  | .approved => "approved"
  | .denied => "denied"

structure RequirementDecision where
  requirementId : String
  decision : RequirementDecisionValue

structure PlanAuthorizationPolicy where
  specDigest : String
  registryDigest : String
  planDigest : String
  grantedCapabilities : List String
  grantedPermissions : List String
  requirementDecisions : List RequirementDecision

structure PlanAuthorizationResult where
  status : PlanAuthorizationStatus
  specDigest : String
  registryDigest : String
  planDigest : String
  decisionDigest : String
  requiredCapabilities : List String
  requiredPermissions : List String
  missingCapabilities : List String
  missingPermissions : List String
  approvedRequirements : List String
  pendingRequirements : List String
  deniedRequirements : List String

inductive PlanAuthorizationError where
  | rejected (message : String)
  /-- The digest of the decision raises. -/
  | raised
  deriving DecidableEq, Repr

/-- Raise a `PlanAuthorizationError` unless the condition holds. -/
def requirePlan (condition : Prop) [Decidable condition] (message : String) :
    Except PlanAuthorizationError Unit :=
  if condition then .ok () else .error (.rejected message)

def sortTexts (texts : List String) : List String :=
  texts.mergeSort fun a b => decide (a.toList ≤ b.toList)

/-- A set of texts in order. -/
def sortedSet (texts : List String) : List String := sortTexts texts.dedup

/-- `KNOWN_PLAN_CAPABILITIES` -/
def knownPlanCapabilities : List String :=
  ["simulate", "read.local_evidence", "read.external_api", "write.experiment_draft",
    "execute.local", "execute.oci", "execute.gpu", "execute.mps", "execute.native",
    "train.simulated", "process.native"]

/-- The required capabilities of `_declared_access`. -/
def declaredCapabilities (graph : PlannedGraph) : List String :=
  sortedSet ((stagesTasks graph).flatMap PlannedTask.declaredCapabilities)

/-- The required permissions of `_declared_access`. -/
def declaredPermissions (graph : PlannedGraph) : List String :=
  sortedSet ((stagesTasks graph).flatMap PlannedTask.declaredPermissions)

/-- `_validated_unique_identifiers` -/
def validatedUniqueIdentifiers (values : List String) (label : String) :
    Except PlanAuthorizationError Unit := do
  requirePlan (values.all isEventIdentifier = true) ("authorization " ++ label ++ " are invalid")
  requirePlan values.Nodup ("authorization " ++ label ++ " contain duplicates")

/-- `_validated_decisions` -/
def validatedDecisions : List RequirementDecision → List String → Except PlanAuthorizationError Unit
  | [], _ => .ok ()
  | value :: values, seen => do
    requirePlan (value.requirementId ≠ "") "authorization requirement decisions are invalid"
    requirePlan (value.requirementId ∉ seen)
      "authorization requirement decisions contain duplicates"
    validatedDecisions values (value.requirementId :: seen)

namespace PlanAuthorizationPolicy

/-- The decision on a requirement. -/
def decision (policy : PlanAuthorizationPolicy) (requirementId : String) :
    Option RequirementDecisionValue :=
  (policy.requirementDecisions.find? fun value => value.requirementId = requirementId).map
    RequirementDecision.decision

/-- `_validate_policy_shape` and the validations of its members. -/
def validate (policy : PlanAuthorizationPolicy) : Except PlanAuthorizationError Unit := do
  requirePlan ([policy.specDigest, policy.registryDigest, policy.planDigest].all isSemanticDigest =
    true) "authorization policy contains an invalid digest"
  validatedUniqueIdentifiers policy.grantedCapabilities "capability grants"
  validatedUniqueIdentifiers policy.grantedPermissions "permission grants"
  validatedDecisions policy.requirementDecisions []

/-- The grants and decisions that the plan asks for, and no others. -/
def fit (policy : PlanAuthorizationPolicy) (plan : CompiledPlan) :
    Except PlanAuthorizationError Unit := do
  requirePlan (policy.specDigest = plan.specDigest ∧ policy.registryDigest = plan.registryDigest ∧
    policy.planDigest = plan.planDigest) "authorization policy does not match the plan binding"
  requirePlan ((declaredCapabilities plan.graph).all knownPlanCapabilities.contains = true)
    "authorization plan declares an unregistered capability"
  requirePlan plan.policyRequirements.Nodup "authorization plan contains duplicate requirements"
  requirePlan (policy.grantedCapabilities.all (declaredCapabilities plan.graph).contains = true)
    "authorization policy contains an unknown capability grant"
  requirePlan (policy.grantedPermissions.all (declaredPermissions plan.graph).contains = true)
    "authorization policy contains an unknown permission grant"
  requirePlan (policy.requirementDecisions.all (fun value =>
      plan.policyRequirements.contains value.requirementId) = true)
    "authorization policy contains an unknown requirement decision"

variable (policy : PlanAuthorizationPolicy) (plan : CompiledPlan)

def missingCapabilities : List String :=
  (declaredCapabilities plan.graph).filter fun value => value ∉ policy.grantedCapabilities

def missingPermissions : List String :=
  (declaredPermissions plan.graph).filter fun value => value ∉ policy.grantedPermissions

def requirementsWith (decision : Option RequirementDecisionValue) : List String :=
  (sortTexts plan.policyRequirements).filter fun requirementId =>
    policy.decision requirementId = decision

def status : PlanAuthorizationStatus :=
  if policy.missingCapabilities plan ≠ [] ∨ policy.missingPermissions plan ≠ [] ∨
      policy.requirementsWith plan (some .denied) ≠ [] then .denied
  else if policy.requirementsWith plan none ≠ [] then .pending
  else .authorized

def grantDecision (granted : List String) (value : String) : Json :=
  .obj [("id", .str value),
    ("decision", .str (if value ∈ granted then "granted" else "missing"))]

def requirementDecision (requirementId : String) : Json :=
  .obj [("id", .str requirementId),
    ("decision", .str (((policy.decision requirementId).map RequirementDecisionValue.text).getD
      "pending"))]

/-- `decision_payload` -/
def decisionPayload : Json :=
  .obj [("status", .str (policy.status plan).text),
    ("digests", .obj [("spec", .str plan.specDigest), ("registry", .str plan.registryDigest),
      ("plan", .str plan.planDigest)]),
    ("capabilities", .arr ((declaredCapabilities plan.graph).map
      (grantDecision policy.grantedCapabilities))),
    ("permissions", .arr ((declaredPermissions plan.graph).map
      (grantDecision policy.grantedPermissions))),
    ("requirements", .arr ((sortTexts plan.policyRequirements).map policy.requirementDecision))]

/-- The result with a decision digest. -/
def result (decisionDigest : String) : PlanAuthorizationResult where
  status := policy.status plan
  specDigest := plan.specDigest
  registryDigest := plan.registryDigest
  planDigest := plan.planDigest
  decisionDigest := decisionDigest
  requiredCapabilities := declaredCapabilities plan.graph
  requiredPermissions := declaredPermissions plan.graph
  missingCapabilities := policy.missingCapabilities plan
  missingPermissions := policy.missingPermissions plan
  approvedRequirements := policy.requirementsWith plan (some .approved)
  pendingRequirements := policy.requirementsWith plan none
  deniedRequirements := policy.requirementsWith plan (some .denied)

end PlanAuthorizationPolicy

/-- `authorize_plan` -/
def authorizePlan (contentDigest : Json → Option String) (report : DryRunReport)
    (policy : PlanAuthorizationPolicy) : Except PlanAuthorizationError PlanAuthorizationResult :=
  match report.plan with
  | none => .error (.rejected "authorization requires a complete ready plan")
  | some plan => do
    policy.validate
    policy.fit plan
    match contentDigest (policy.decisionPayload plan) with
    | none => .error .raised
    | some decisionDigest => .ok (policy.result plan decisionDigest)

/-! What an accepted policy says of the plan. -/

theorem requirePlan_ok {condition : Prop} [Decidable condition] {message : String} {u : Unit} :
    requirePlan condition message = .ok u ↔ condition := by
  by_cases h : condition <;> simp [requirePlan, h]

theorem mem_sortedSet {texts : List String} {text : String} :
    text ∈ sortedSet texts ↔ text ∈ texts := by
  simp [sortedSet, sortTexts]

theorem nodup_sortedSet (texts : List String) : (sortedSet texts).Nodup :=
  (List.mergeSort_perm _ _).nodup_iff.mpr (List.nodup_dedup _)

theorem sortTexts_eq_nil {texts : List String} : sortTexts texts = [] ↔ texts = [] := by
  constructor
  · intro h
    have hperm : (sortTexts texts).Perm texts := List.mergeSort_perm _ _
    rw [h] at hperm
    exact hperm.symm.eq_nil
  · rintro rfl
    exact List.mergeSort_nil

namespace PlanAuthorizationPolicy

variable {policy : PlanAuthorizationPolicy} {plan : CompiledPlan}

/-- The checks that a policy passes before its decision. -/
structure Fits (policy : PlanAuthorizationPolicy) (plan : CompiledPlan) : Prop where
  digests : isSemanticDigest policy.specDigest = true ∧
    isSemanticDigest policy.registryDigest = true ∧ isSemanticDigest policy.planDigest = true
  specDigest : policy.specDigest = plan.specDigest
  registryDigest : policy.registryDigest = plan.registryDigest
  planDigest : policy.planDigest = plan.planDigest
  identifiers : ∀ value ∈ policy.grantedCapabilities, isEventIdentifier value = true
  known : ∀ value ∈ declaredCapabilities plan.graph, value ∈ knownPlanCapabilities
  requirements : plan.policyRequirements.Nodup

theorem fits_of_ok (hvalidate : policy.validate = .ok ()) (hfit : policy.fit plan = .ok ()) :
    policy.Fits plan := by
  obtain ⟨_, hdigests, hvalidate⟩ := Fold.bind_eq_ok.mp hvalidate
  obtain ⟨_, hcapabilities, -⟩ := Fold.bind_eq_ok.mp hvalidate
  obtain ⟨_, hidentifiers, -⟩ := Fold.bind_eq_ok.mp hcapabilities
  obtain ⟨_, hbinding, hfit⟩ := Fold.bind_eq_ok.mp hfit
  obtain ⟨_, hknown, hfit⟩ := Fold.bind_eq_ok.mp hfit
  obtain ⟨_, hunique, -⟩ := Fold.bind_eq_ok.mp hfit
  rw [requirePlan_ok] at hdigests hidentifiers hbinding hknown hunique
  refine ⟨?_, hbinding.1, hbinding.2.1, hbinding.2.2, ?_, ?_, hunique⟩
  · simpa using hdigests
  · simpa using hidentifiers
  · intro value hvalue
    simpa using List.all_eq_true.mp hknown value hvalue

theorem status_eq_authorized : policy.status plan = .authorized ↔
    policy.missingCapabilities plan = [] ∧ policy.missingPermissions plan = [] ∧
      policy.requirementsWith plan (some .denied) = [] ∧ policy.requirementsWith plan none = [] := by
  unfold status
  split_ifs with hdenied hpending
  · simp only [false_iff]
    tauto
  · simp only [false_iff]
    tauto
  · simp only [true_iff]
    tauto

/-- An authorized policy grants every capability that the plan declares. -/
theorem granted_of_authorized (h : policy.status plan = .authorized) {value : String}
    (hvalue : value ∈ declaredCapabilities plan.graph) : value ∈ policy.grantedCapabilities := by
  obtain ⟨hmissing, -⟩ := status_eq_authorized.mp h
  by_contra hnot
  have hmem : value ∈ policy.missingCapabilities plan := by
    rw [missingCapabilities, List.mem_filter]
    exact ⟨hvalue, by simpa using hnot⟩
  rw [hmissing] at hmem
  exact List.not_mem_nil hmem

end PlanAuthorizationPolicy

theorem authorizePlan_ok {contentDigest : Json → Option String} {report : DryRunReport}
    {policy : PlanAuthorizationPolicy} {result : PlanAuthorizationResult}
    (h : authorizePlan contentDigest report policy = .ok result) :
    ∃ plan decisionDigest, report.plan = some plan ∧ policy.Fits plan ∧
      contentDigest (policy.decisionPayload plan) = some decisionDigest ∧
      result = policy.result plan decisionDigest := by
  unfold authorizePlan at h
  split at h
  · cases h
  · rename_i plan hplan
    obtain ⟨_, hvalidate, h⟩ := Fold.bind_eq_ok.mp h
    obtain ⟨_, hfit, h⟩ := Fold.bind_eq_ok.mp h
    split at h
    · cases h
    · rename_i decisionDigest hdigest
      cases h
      exact ⟨plan, decisionDigest, hplan, PlanAuthorizationPolicy.fits_of_ok hvalidate hfit,
        hdigest, rfl⟩

end ResearchOs.Authorization
