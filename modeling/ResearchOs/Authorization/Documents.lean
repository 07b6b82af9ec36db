import ResearchOs.Authorization.Record
import ResearchOs.Authorization.Verdict

/-! `from_result`: the report on a decision, and the payload that records it. -/
namespace ResearchOs.Authorization

/-- The members of a report; its collections have no bound. -/
structure ReportMembers where
  status : PlanAuthorizationStatus
  authorized : Bool
  binding : PlanAuthorizationEventBinding
  requiredCapabilities : List AuthorizationIdentifier
  requiredPermissions : List AuthorizationIdentifier
  missingCapabilities : List AuthorizationIdentifier
  missingPermissions : List AuthorizationIdentifier
  approvedRequirements : List AuthorizationRequirementId
  pendingRequirements : List AuthorizationRequirementId
  deniedRequirements : List AuthorizationRequirementId

namespace ReportMembers

open Decision (grantEntry texts)

def dispositions (report : ReportMembers) : List String :=
  texts report.approvedRequirements ++ texts report.pendingRequirements ++
    texts report.deniedRequirements

def disposition (report : ReportMembers) (requirementId : String) : String :=
  if requirementId ∈ texts report.deniedRequirements then "denied"
  else if requirementId ∈ texts report.pendingRequirements then "pending"
  else "approved"

/-- `_decision_payload` -/
def decisionPayload (report : ReportMembers) : Json :=
  .obj [("status", .str report.status.text),
    ("digests", .obj [("spec", .str report.binding.specDigest.val),
      ("registry", .str report.binding.registryDigest.val),
      ("plan", .str report.binding.planDigest.val)]),
    ("capabilities", .arr ((texts report.requiredCapabilities).map
      (grantEntry (texts report.missingCapabilities)))),
    ("permissions", .arr ((texts report.requiredPermissions).map
      (grantEntry (texts report.missingPermissions)))),
    ("requirements", .arr ((sortTexts report.dispositions).map fun requirementId =>
      .obj [("id", .str requirementId), ("decision", .str (report.disposition requirementId))]))]

/-- Sorted and without repetition. -/
def ascending {p : String → Bool} (items : List (Checked p)) : Bool :=
  decide (items.Pairwise precedes)

def normalized (report : ReportMembers) : Bool :=
  ascending report.requiredCapabilities && ascending report.requiredPermissions &&
    ascending report.missingCapabilities && ascending report.missingPermissions &&
    ascending report.approvedRequirements && ascending report.pendingRequirements &&
    ascending report.deniedRequirements

def hasDenial (report : ReportMembers) : Bool :=
  !report.missingCapabilities.isEmpty || !report.missingPermissions.isEmpty ||
    !report.deniedRequirements.isEmpty

def statusMatches (report : ReportMembers) : Bool :=
  match report.status with
  | .authorized => !report.hasDenial && report.pendingRequirements.isEmpty
  | .pending => !report.hasDenial && !report.pendingRequirements.isEmpty
  | .denied => report.hasDenial

def disjoint (a b : List AuthorizationRequirementId) : Bool := a.all fun item => !b.contains item

/-- `result_is_normalized_and_self_consistent` -/
def isSelfConsistent (contentDigest : Json → Option String) (report : ReportMembers) : Bool :=
  report.normalized && report.missingCapabilities.all report.requiredCapabilities.contains &&
    report.missingPermissions.all report.requiredPermissions.contains &&
    disjoint report.approvedRequirements report.pendingRequirements &&
    disjoint report.approvedRequirements report.deniedRequirements &&
    disjoint report.pendingRequirements report.deniedRequirements &&
    report.authorized == decide (report.status = .authorized) && report.statusMatches &&
    contentDigest report.decisionPayload == some report.binding.decisionDigest.val

end ReportMembers

structure PlanAuthorizationReport (contentDigest : Json → Option String) extends ReportMembers where
  resultIsNormalizedAndSelfConsistent : toReportMembers.isSelfConsistent contentDigest = true

def checkedTexts (p : String → Bool) (texts : List String) : Option (List (Checked p)) :=
  texts.mapM (Strict.checked p)

namespace PlanAuthorizationResult

def binding (result : PlanAuthorizationResult) : Option PlanAuthorizationEventBinding := do
  let specDigest ← Strict.checked _ result.specDigest
  let registryDigest ← Strict.checked _ result.registryDigest
  let planDigest ← Strict.checked _ result.planDigest
  let decisionDigest ← Strict.checked _ result.decisionDigest
  some ⟨specDigest, registryDigest, planDigest, decisionDigest⟩

def members (result : PlanAuthorizationResult) : Option ReportMembers := do
  let binding ← result.binding
  let requiredCapabilities ← checkedTexts _ result.requiredCapabilities
  let requiredPermissions ← checkedTexts _ result.requiredPermissions
  let missingCapabilities ← checkedTexts _ result.missingCapabilities
  let missingPermissions ← checkedTexts _ result.missingPermissions
  let approvedRequirements ← checkedTexts _ result.approvedRequirements
  let pendingRequirements ← checkedTexts _ result.pendingRequirements
  let deniedRequirements ← checkedTexts _ result.deniedRequirements
  some ⟨result.status, result.authorized, binding, requiredCapabilities, requiredPermissions,
    missingCapabilities, missingPermissions, approvedRequirements, pendingRequirements,
    deniedRequirements⟩

end PlanAuthorizationResult

/-- `PlanAuthorizationReport.from_result` -/
def PlanAuthorizationReport.fromResult (contentDigest : Json → Option String)
    (result : PlanAuthorizationResult) : Option (PlanAuthorizationReport contentDigest) := do
  let report ← result.members
  if h : report.isSelfConsistent contentDigest = true then some ⟨report, h⟩ else none

/-- `PlanAuthorizationEvaluatedPayload.from_result` -/
def PlanAuthorizationEvaluatedPayload.fromResult (contentDigest : Json → Option String)
    (result : PlanAuthorizationResult) (workflowId : EventIdentifier) :
    Option (PlanAuthorizationEvaluatedPayload contentDigest) :=
  PlanAuthorizationEvaluatedPayload.validate contentDigest (.obj (result.payload workflowId))

/-! The members of a result. -/

variable {contentDigest : Json → Option String} {result : PlanAuthorizationResult}
  {p : String → Bool} {texts : List String}

theorem checkedTexts_ok (h : ∀ text ∈ texts, p text = true) :
    ∃ items : List (Checked p), checkedTexts p texts = some items ∧ Decision.texts items = texts := by
  refine ⟨texts.attach.map fun text => ⟨text.val, h text.val text.property⟩, ?_, ?_⟩
  · induction texts with
    | nil => rfl
    | cons text texts ih =>
      obtain ⟨htext, htexts⟩ := List.forall_mem_cons.mp h
      have hrest := ih htexts
      rw [checkedTexts] at hrest ⊢
      rw [List.mapM_cons, Strict.checked, dif_pos htext, hrest]
      simp [List.attach_cons, List.map_map, Function.comp_def]
  · rw [Decision.texts, List.map_map]
    exact List.attach_map_subtype_val texts

/-- The parts of a result have the form that documents ask for. -/
structure PlanAuthorizationResult.WellFormed (result : PlanAuthorizationResult) : Prop where
  specDigest : isSemanticDigest result.specDigest = true
  registryDigest : isSemanticDigest result.registryDigest = true
  planDigest : isSemanticDigest result.planDigest = true
  decisionDigest : isSemanticDigest result.decisionDigest = true
  requiredCapabilities : ∀ value ∈ result.requiredCapabilities, isEventIdentifier value = true
  requiredPermissions : ∀ value ∈ result.requiredPermissions, isEventIdentifier value = true
  missingCapabilities : ∀ value ∈ result.missingCapabilities, isEventIdentifier value = true
  missingPermissions : ∀ value ∈ result.missingPermissions, isEventIdentifier value = true
  approvedRequirements : ∀ id ∈ result.approvedRequirements, isRequirementId id = true
  pendingRequirements : ∀ id ∈ result.pendingRequirements, isRequirementId id = true
  deniedRequirements : ∀ id ∈ result.deniedRequirements, isRequirementId id = true

/-- The members are those of the result. -/
structure ReportMembers.Says (report : ReportMembers) (result : PlanAuthorizationResult) :
    Prop where
  status : report.status = result.status
  authorized : report.authorized = result.authorized
  specDigest : report.binding.specDigest.val = result.specDigest
  registryDigest : report.binding.registryDigest.val = result.registryDigest
  planDigest : report.binding.planDigest.val = result.planDigest
  decisionDigest : report.binding.decisionDigest.val = result.decisionDigest
  requiredCapabilities : Decision.texts report.requiredCapabilities = result.requiredCapabilities
  requiredPermissions : Decision.texts report.requiredPermissions = result.requiredPermissions
  missingCapabilities : Decision.texts report.missingCapabilities = result.missingCapabilities
  missingPermissions : Decision.texts report.missingPermissions = result.missingPermissions
  approvedRequirements : Decision.texts report.approvedRequirements = result.approvedRequirements
  pendingRequirements : Decision.texts report.pendingRequirements = result.pendingRequirements
  deniedRequirements : Decision.texts report.deniedRequirements = result.deniedRequirements

theorem PlanAuthorizationResult.WellFormed.members (h : result.WellFormed) :
    ∃ report, result.members = some report ∧ report.Says result := by
  obtain ⟨capabilities, hcapabilities, hc⟩ := checkedTexts_ok h.requiredCapabilities
  obtain ⟨permissions, hpermissions, hp⟩ := checkedTexts_ok h.requiredPermissions
  obtain ⟨lacking, hlacking, hl⟩ := checkedTexts_ok h.missingCapabilities
  obtain ⟨denied, hdenied, hd⟩ := checkedTexts_ok h.missingPermissions
  obtain ⟨approved, happroved, ha⟩ := checkedTexts_ok h.approvedRequirements
  obtain ⟨pending, hpending, hw⟩ := checkedTexts_ok h.pendingRequirements
  obtain ⟨refused, hrefused, hr⟩ := checkedTexts_ok h.deniedRequirements
  refine ⟨⟨result.status, result.authorized, ⟨⟨_, h.specDigest⟩, ⟨_, h.registryDigest⟩,
    ⟨_, h.planDigest⟩, ⟨_, h.decisionDigest⟩⟩, capabilities, permissions, lacking, denied,
    approved, pending, refused⟩, ?_, rfl, rfl, rfl, rfl, rfl, rfl, hc, hp, hl, hd, ha, hw, hr⟩
  have hbinding : result.binding = some ⟨⟨_, h.specDigest⟩, ⟨_, h.registryDigest⟩,
      ⟨_, h.planDigest⟩, ⟨_, h.decisionDigest⟩⟩ := by
    simp [PlanAuthorizationResult.binding, Strict.checked, h.specDigest, h.registryDigest,
      h.planDigest, h.decisionDigest]
  simp [PlanAuthorizationResult.members, hbinding, hcapabilities, hpermissions, hlacking, hdenied,
    happroved, hpending, hrefused]

/-! The recorded payload is a report whose collections are bounded. -/

/-- Every collection is in the bound of the recorded payload. -/
structure ReportMembers.Bounded (report : ReportMembers) : Prop where
  requiredCapabilities : report.requiredCapabilities.length ≤ maxAuthorizationEntries
  requiredPermissions : report.requiredPermissions.length ≤ maxAuthorizationEntries
  missingCapabilities : report.missingCapabilities.length ≤ maxAuthorizationEntries
  missingPermissions : report.missingPermissions.length ≤ maxAuthorizationEntries
  approvedRequirements : report.approvedRequirements.length ≤ maxAuthorizationEntries
  pendingRequirements : report.pendingRequirements.length ≤ maxAuthorizationEntries
  deniedRequirements : report.deniedRequirements.length ≤ maxAuthorizationEntries

theorem all_ofPairs {keys : List String} {pairs : Json.Members}
    (h : pairs.all (fun pair => keys.contains pair.1) = true) :
    (Json.ofPairs pairs).all (fun pair => keys.contains pair.1) = true :=
  List.all_eq_true.mpr fun _ hpair => List.all_eq_true.mp h _ (Json.mem_ofPairs hpair)

theorem PlanAuthorizationResult.payload_keys (result : PlanAuthorizationResult)
    (workflowId : EventIdentifier) :
    (result.payload workflowId).all (fun member => ["workflowId", "binding", "status", "authorized",
      "requiredCapabilities", "requiredPermissions", "missingCapabilities", "missingPermissions",
      "approvedRequirements", "pendingRequirements", "deniedRequirements", "approvalAuthentication",
      "authority", "execution"].contains member.1) = true :=
  all_ofPairs rfl

theorem array_checkedTexts (texts : List String) :
    Strict.array (Strict.text p) (.arr (texts.map .str)) = checkedTexts p texts := by
  rw [Strict.array, checkedTexts, List.mapM_map]
  rfl

theorem collection_eq {ms : Json.Members} {key : String}
    (h : ms.lookup key = some (.arr (texts.map .str))) :
    collection (p := p) ms key = (checkedTexts p texts).bind (Strict.checked isCollection) := by
  rw [collection, Strict.required, h, Option.bind_some, array_checkedTexts]

theorem isCollection_iff {items : List (Checked p)} :
    isCollection items = true ↔
      items.length ≤ maxAuthorizationEntries ∧ ReportMembers.ascending items = true := by
  simp [isCollection, ReportMembers.ascending, inRange_iff]

theorem texts_length (items : List (Checked p)) : (Decision.texts items).length = items.length :=
  List.length_map _

/-- A collection that is read is bounded. -/
theorem length_of_collection {ms : Json.Members} {key : String}
    {items : Checked (isCollection (p := p))}
    (hlookup : ms.lookup key = some (.arr (texts.map .str))) (h : collection ms key = some items) :
    texts.length ≤ maxAuthorizationEntries := by
  have htexts := collection_texts hlookup h
  have hbound := (isCollection_iff.mp items.property).1
  rwa [← htexts, texts_length]


/-- The parts of a result that its members are read from. -/
structure PlanAuthorizationResult.Reads (result : PlanAuthorizationResult) (report : ReportMembers) :
    Prop where
  status : report.status = result.status
  authorized : report.authorized = result.authorized
  binding : result.binding = some report.binding
  requiredCapabilities :
    checkedTexts _ result.requiredCapabilities = some report.requiredCapabilities
  requiredPermissions : checkedTexts _ result.requiredPermissions = some report.requiredPermissions
  missingCapabilities : checkedTexts _ result.missingCapabilities = some report.missingCapabilities
  missingPermissions : checkedTexts _ result.missingPermissions = some report.missingPermissions
  approvedRequirements :
    checkedTexts _ result.approvedRequirements = some report.approvedRequirements
  pendingRequirements : checkedTexts _ result.pendingRequirements = some report.pendingRequirements
  deniedRequirements : checkedTexts _ result.deniedRequirements = some report.deniedRequirements

theorem reads_of_members {report : ReportMembers} (h : result.members = some report) :
    result.Reads report := by
  obtain ⟨binding, hbinding, h⟩ := Option.bind_eq_some_iff.mp h
  obtain ⟨capabilities, hcapabilities, h⟩ := Option.bind_eq_some_iff.mp h
  obtain ⟨permissions, hpermissions, h⟩ := Option.bind_eq_some_iff.mp h
  obtain ⟨lacking, hlacking, h⟩ := Option.bind_eq_some_iff.mp h
  obtain ⟨ungranted, hungranted, h⟩ := Option.bind_eq_some_iff.mp h
  obtain ⟨approved, happroved, h⟩ := Option.bind_eq_some_iff.mp h
  obtain ⟨pending, hpending, h⟩ := Option.bind_eq_some_iff.mp h
  obtain ⟨denied, hdenied, h⟩ := Option.bind_eq_some_iff.mp h
  cases h
  exact ⟨rfl, rfl, hbinding, hcapabilities, hpermissions, hlacking, hungranted, happroved, hpending,
    hdenied⟩

theorem validate_binding {binding : PlanAuthorizationEventBinding}
    (h : result.binding = some binding) :
    PlanAuthorizationEventBinding.validate (.obj (Json.ofPairs
      [("specDigest", .str result.specDigest), ("registryDigest", .str result.registryDigest),
        ("planDigest", .str result.planDigest), ("decisionDigest", .str result.decisionDigest)])) =
      some binding := by
  obtain ⟨spec, hspec, h⟩ := Option.bind_eq_some_iff.mp h
  obtain ⟨registry, hregistry, h⟩ := Option.bind_eq_some_iff.mp h
  obtain ⟨plan, hplan, h⟩ := Option.bind_eq_some_iff.mp h
  obtain ⟨decision, hdecision, h⟩ := Option.bind_eq_some_iff.mp h
  cases h
  rw [PlanAuthorizationEventBinding.validate, Strict.closed_bind (all_ofPairs rfl),
    Strict.required_bind (by rw [Json.lookup_ofPairs]; rfl) hspec,
    Strict.required_bind (by rw [Json.lookup_ofPairs]; rfl) hregistry,
    Strict.required_bind (by rw [Json.lookup_ofPairs]; rfl) hplan,
    Strict.required_bind (by rw [Json.lookup_ofPairs]; rfl) hdecision]

theorem collection_bind {α : Type} {ms : Json.Members} {key : String} {items : List (Checked p)}
    {k : Checked (isCollection (p := p)) → Option α}
    (hlookup : ms.lookup key = some (.arr (texts.map .str)))
    (htexts : checkedTexts p texts = some items) (h : isCollection items = true) :
    collection ms key >>= k = k ⟨items, h⟩ := by
  rw [collection_eq hlookup, htexts, Option.bind_some, Strict.checked, dif_pos h]
  rfl

theorem ofText_text (status : PlanAuthorizationStatus) :
    PlanAuthorizationStatus.ofText status.text = some status := by
  cases status <;> decide

theorem literal_text (text : String) : Strict.literal text (.str text) = some () := if_pos rfl

/-- The decision with the members of a report. -/
theorem exists_decision (contentDigest : Json → Option String) {report : ReportMembers}
    (h : result.members = some report)
    (hnormalized : report.normalized = true) (hbounded : report.Bounded)
    (workflowId : EventIdentifier) :
    ∃ decision, Decision.validate (.obj (result.payload workflowId)) = some decision ∧
      decision.isSelfConsistent contentDigest = report.isSelfConsistent contentDigest := by
  obtain ⟨hstatus, hauthorized, hbinding, hcapabilities, hpermissions, hlacking, hungranted,
    happroved, hpending, hdenied⟩ := reads_of_members h
  have hascending := hnormalized
  simp only [ReportMembers.normalized, Bool.and_eq_true] at hascending
  obtain ⟨⟨⟨⟨⟨⟨h1, h2⟩, h3⟩, h4⟩, h5⟩, h6⟩, h7⟩ := hascending
  have hlookup (key : String) : (result.payload workflowId).lookup key = _ :=
    Json.lookup_ofPairs key _
  refine ⟨⟨workflowId, report.binding, report.status, report.authorized,
    ⟨report.requiredCapabilities, isCollection_iff.mpr ⟨hbounded.requiredCapabilities, h1⟩⟩,
    ⟨report.requiredPermissions, isCollection_iff.mpr ⟨hbounded.requiredPermissions, h2⟩⟩,
    ⟨report.missingCapabilities, isCollection_iff.mpr ⟨hbounded.missingCapabilities, h3⟩⟩,
    ⟨report.missingPermissions, isCollection_iff.mpr ⟨hbounded.missingPermissions, h4⟩⟩,
    ⟨report.approvedRequirements, isCollection_iff.mpr ⟨hbounded.approvedRequirements, h5⟩⟩,
    ⟨report.pendingRequirements, isCollection_iff.mpr ⟨hbounded.pendingRequirements, h6⟩⟩,
    ⟨report.deniedRequirements, isCollection_iff.mpr ⟨hbounded.deniedRequirements, h7⟩⟩⟩, ?_, ?_⟩
  · rw [Decision.validate, Strict.closed_bind (result.payload_keys workflowId),
      Strict.required_bind (hlookup "workflowId") (Strict.text_str workflowId),
      Strict.required_bind (hlookup "binding") (validate_binding hbinding),
      Strict.required_bind (hlookup "status") (ofText_text result.status),
      Strict.required_bind (hlookup "authorized") (Strict.boolean_bool result.authorized),
      collection_bind (hlookup "requiredCapabilities") hcapabilities,
      collection_bind (hlookup "requiredPermissions") hpermissions,
      collection_bind (hlookup "missingCapabilities") hlacking,
      collection_bind (hlookup "missingPermissions") hungranted,
      collection_bind (hlookup "approvedRequirements") happroved,
      collection_bind (hlookup "pendingRequirements") hpending,
      collection_bind (hlookup "deniedRequirements") hdenied,
      Strict.required_bind (hlookup "approvalAuthentication") (literal_text "not-authenticated"),
      Strict.required_bind (hlookup "authority") (literal_text "audit-only"),
      Strict.required_bind (hlookup "execution") (literal_text "not-executed"), hstatus, hauthorized]
  · rw [ReportMembers.isSelfConsistent, hnormalized, Bool.true_and]
    rfl

/-- The collections of what is read as a decision. -/
theorem decision_collections {ms : Json.Members} {decision : Decision}
    (h : Decision.validate (.obj ms) = some decision) :
    collection ms "requiredCapabilities" = some decision.requiredCapabilities ∧
      collection ms "requiredPermissions" = some decision.requiredPermissions ∧
      collection ms "missingCapabilities" = some decision.missingCapabilities ∧
      collection ms "missingPermissions" = some decision.missingPermissions ∧
      collection ms "approvedRequirements" = some decision.approvedRequirements ∧
      collection ms "pendingRequirements" = some decision.pendingRequirements ∧
      collection ms "deniedRequirements" = some decision.deniedRequirements := by
  obtain ⟨_, hms, h⟩ := Option.bind_eq_some_iff.mp h
  cases Strict.closed_some hms
  -- The identity, the binding and the status are read before the collections.
  obtain ⟨_, -, h⟩ := Option.bind_eq_some_iff.mp h
  obtain ⟨_, -, h⟩ := Option.bind_eq_some_iff.mp h
  obtain ⟨_, -, h⟩ := Option.bind_eq_some_iff.mp h
  obtain ⟨_, -, h⟩ := Option.bind_eq_some_iff.mp h
  obtain ⟨_, hcapabilities, h⟩ := Option.bind_eq_some_iff.mp h
  obtain ⟨_, hpermissions, h⟩ := Option.bind_eq_some_iff.mp h
  obtain ⟨_, hlacking, h⟩ := Option.bind_eq_some_iff.mp h
  obtain ⟨_, hungranted, h⟩ := Option.bind_eq_some_iff.mp h
  obtain ⟨_, happroved, h⟩ := Option.bind_eq_some_iff.mp h
  obtain ⟨_, hpending, h⟩ := Option.bind_eq_some_iff.mp h
  obtain ⟨_, hdenied, h⟩ := Option.bind_eq_some_iff.mp h
  obtain ⟨_, -, h⟩ := Option.bind_eq_some_iff.mp h
  obtain ⟨_, -, h⟩ := Option.bind_eq_some_iff.mp h
  obtain ⟨_, -, h⟩ := Option.bind_eq_some_iff.mp h
  cases h
  exact ⟨hcapabilities, hpermissions, hlacking, hungranted, happroved, hpending, hdenied⟩

/-- What is read as a decision is bounded. -/
theorem bounded_of_decision {report : ReportMembers} {workflowId : EventIdentifier}
    {decision : Decision} (htold : report.Says result)
    (h : Decision.validate (.obj (result.payload workflowId)) = some decision) :
    report.Bounded := by
  have hlookup (key : String) : (result.payload workflowId).lookup key = _ :=
    Json.lookup_ofPairs key _
  obtain ⟨hcapabilities, hpermissions, hlacking, hungranted, happroved, hpending, hdenied⟩ :=
    decision_collections h
  refine ⟨?_, ?_, ?_, ?_, ?_, ?_, ?_⟩
  · rw [← texts_length, htold.requiredCapabilities]
    exact length_of_collection (hlookup "requiredCapabilities") hcapabilities
  · rw [← texts_length, htold.requiredPermissions]
    exact length_of_collection (hlookup "requiredPermissions") hpermissions
  · rw [← texts_length, htold.missingCapabilities]
    exact length_of_collection (hlookup "missingCapabilities") hlacking
  · rw [← texts_length, htold.missingPermissions]
    exact length_of_collection (hlookup "missingPermissions") hungranted
  · rw [← texts_length, htold.approvedRequirements]
    exact length_of_collection (hlookup "approvedRequirements") happroved
  · rw [← texts_length, htold.pendingRequirements]
    exact length_of_collection (hlookup "pendingRequirements") hpending
  · rw [← texts_length, htold.deniedRequirements]
    exact length_of_collection (hlookup "deniedRequirements") hdenied

theorem decision_of_payload {j : Json}
    {payload : PlanAuthorizationEvaluatedPayload contentDigest}
    (h : PlanAuthorizationEvaluatedPayload.validate contentDigest j = some payload) :
    Decision.validate j = some payload.toDecision := by
  obtain ⟨decision, hdecision, h⟩ := Option.bind_eq_some_iff.mp h
  split_ifs at h with hconsistent
  cases h
  exact hdecision

/-- A recorded payload recomputes the digest of the decision. -/
theorem payload_digest {payload : PlanAuthorizationEvaluatedPayload contentDigest}
    {workflowId : EventIdentifier}
    (h : PlanAuthorizationEvaluatedPayload.fromResult contentDigest result workflowId =
      some payload) :
    contentDigest payload.decisionPayload = some result.decisionDigest := by
  have htold := decision_says (decision_of_payload h)
  have hconsistent := payload.decisionIsSelfConsistent
  simp only [Decision.isSelfConsistent, Bool.and_eq_true, beq_iff_eq] at hconsistent
  rw [hconsistent.2, htold.decisionDigest]

/-- Of a consistent report, the payload validates exactly where its collections are bounded. -/
theorem payload_isSome_iff {report : ReportMembers} (h : result.members = some report)
    (htold : report.Says result) (hconsistent : report.isSelfConsistent contentDigest = true)
    (workflowId : EventIdentifier) :
    (PlanAuthorizationEvaluatedPayload.fromResult contentDigest result workflowId).isSome = true ↔
      report.Bounded := by
  constructor
  · intro hsome
    cases hdecision : Decision.validate (.obj (result.payload workflowId)) with
    | none =>
      rw [PlanAuthorizationEvaluatedPayload.fromResult, PlanAuthorizationEvaluatedPayload.validate,
        hdecision] at hsome
      cases hsome
    | some decision => exact bounded_of_decision htold hdecision
  · intro hbounded
    have hnormalized : report.normalized = true := by
      simp only [ReportMembers.isSelfConsistent, Bool.and_eq_true] at hconsistent
      tauto
    obtain ⟨decision, hdecision, hsame⟩ :=
      exists_decision contentDigest h hnormalized hbounded workflowId
    rw [PlanAuthorizationEvaluatedPayload.fromResult, PlanAuthorizationEvaluatedPayload.validate,
      hdecision]
    simp [hsame, hconsistent]

end ResearchOs.Authorization
