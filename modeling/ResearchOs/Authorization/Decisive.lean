import ResearchOs.Authorization.Documents
import ResearchOs.Jcs.Ordered

/-! Which decisions can be recorded: the bounds of the payload, and nothing else. -/
namespace ResearchOs.Authorization

open Decision (texts)
open ReportMembers (ascending)

variable {contentDigest : Json → Option String} {policy : PlanAuthorizationPolicy}
  {plan : CompiledPlan} {decisionDigest : String} {report : ReportMembers} {p : String → Bool}
  {values : List String}

/-! Orders. -/

def Ascends (values : List String) : Prop := values.Pairwise fun a b => a.toList < b.toList

theorem sortTexts_perm (values : List String) : (sortTexts values).Perm values :=
  List.mergeSort_perm _ _

theorem sortTexts_pairwise (values : List String) :
    (sortTexts values).Pairwise fun a b => a.toList ≤ b.toList := by
  have htrans : ∀ a b c : String, decide (a.toList ≤ b.toList) = true →
      decide (b.toList ≤ c.toList) = true → decide (a.toList ≤ c.toList) = true := by
    intro a b c hab hbc
    simp only [decide_eq_true_eq] at hab hbc ⊢
    exact le_trans hab hbc
  have htotal : ∀ a b : String,
      (decide (a.toList ≤ b.toList) || decide (b.toList ≤ a.toList)) = true := by
    intro a b
    simp only [Bool.or_eq_true, decide_eq_true_eq]
    exact le_total _ _
  exact (List.pairwise_mergeSort htrans htotal values).imp of_decide_eq_true

theorem sortTexts_ascends (h : values.Nodup) : Ascends (sortTexts values) := by
  have hnodup := (sortTexts_perm values).nodup_iff.mpr h
  exact (sortTexts_pairwise values).imp₂ (fun _ _ hle hne =>
    lt_of_le_of_ne hle fun hsame => hne (String.toList_injective hsame)) hnodup

theorem sortTexts_eq_of_perm {other : List String} (h : values.Perm other) :
    sortTexts values = sortTexts other :=
  ((sortTexts_perm values).trans (h.trans (sortTexts_perm other).symm)).eq_of_pairwise
    (fun _ _ _ _ hab hba => String.toList_injective (le_antisymm hab hba))
    (sortTexts_pairwise values) (sortTexts_pairwise other)

theorem ascending_of_texts {items : List (Checked p)} (h : Ascends (texts items)) :
    ascending items = true := by
  rw [Ascends, texts, List.pairwise_map] at h
  exact decide_eq_true h

theorem declaredCapabilities_ascends (graph : PlannedGraph) : Ascends (declaredCapabilities graph) :=
  sortTexts_ascends (List.nodup_dedup _)

theorem declaredPermissions_ascends (graph : PlannedGraph) : Ascends (declaredPermissions graph) :=
  sortTexts_ascends (List.nodup_dedup _)

/-! Membership in the collections of a report. -/

theorem mem_texts {items : List (Checked p)} {item : Checked p} :
    item.val ∈ texts items ↔ item ∈ items := by
  rw [texts, List.mem_map]
  constructor
  · rintro ⟨other, hother, hsame⟩
    rwa [← Subtype.ext hsame]
  · exact fun h => ⟨item, h, rfl⟩

theorem all_contains_of_texts {items others : List (Checked p)}
    (h : ∀ text ∈ texts items, text ∈ texts others) : items.all others.contains = true := by
  simp only [List.all_eq_true, List.contains_iff_mem]
  exact fun item hitem => mem_texts.mp (h item.val (mem_texts.mpr hitem))

theorem disjoint_of_texts {items others : List AuthorizationRequirementId}
    (h : ∀ text ∈ texts items, text ∉ texts others) :
    ReportMembers.disjoint items others = true := by
  simp only [ReportMembers.disjoint, List.all_eq_true, Bool.not_eq_true', List.contains_eq_mem,
    decide_eq_false_iff_not]
  exact fun item hitem hother => h item.val (mem_texts.mpr hitem) (mem_texts.mpr hother)

theorem isEmpty_of_texts {items : List (Checked p)} : items.isEmpty = (texts items).isEmpty := by
  cases items <;> rfl

/-! The report on an accepted policy. -/

namespace PlanAuthorizationPolicy

theorem mem_requirementsWith {decision : Option RequirementDecisionValue} {requirementId : String} :
    requirementId ∈ policy.requirementsWith plan decision ↔
      requirementId ∈ plan.policyRequirements ∧ policy.decision requirementId = decision := by
  rw [requirementsWith, List.mem_filter, (sortTexts_perm _).mem_iff, decide_eq_true_eq]

theorem requirementsWith_ascends (h : plan.policyRequirements.Nodup)
    (decision : Option RequirementDecisionValue) :
    Ascends (policy.requirementsWith plan decision) :=
  (sortTexts_ascends h).filter _

/-- Each requirement is in the collection of its decision, and in that alone. -/
theorem requirementsWith_perm (policy : PlanAuthorizationPolicy) (plan : CompiledPlan) :
    (policy.requirementsWith plan (some .approved) ++ policy.requirementsWith plan none ++
      policy.requirementsWith plan (some .denied)).Perm plan.policyRequirements := by
  refine List.Perm.trans ?_ (sortTexts_perm plan.policyRequirements)
  simp only [requirementsWith]
  generalize sortTexts plan.policyRequirements = ids
  induction ids with
  | nil => exact List.Perm.refl []
  | cons id ids ih =>
    cases hdecision : policy.decision id with
    | none =>
      rw [List.filter_cons_of_neg (by simp [hdecision]), List.filter_cons_of_pos (by simp [hdecision]),
        List.filter_cons_of_neg (by simp [hdecision])]
      refine List.Perm.trans ?_ (ih.cons id)
      exact (List.perm_middle.append_right _)
    | some decision =>
      cases decision with
      | approved =>
        rw [List.filter_cons_of_pos (by simp [hdecision]),
          List.filter_cons_of_neg (by simp [hdecision]), List.filter_cons_of_neg (by simp [hdecision])]
        exact ih.cons id
      | denied =>
        rw [List.filter_cons_of_neg (by simp [hdecision]),
          List.filter_cons_of_neg (by simp [hdecision]), List.filter_cons_of_pos (by simp [hdecision])]
        exact List.perm_middle.trans (ih.cons id)

theorem grantDecision_eq {granted required : List String} {value : String} (h : value ∈ required) :
    Decision.grantEntry (required.filter fun value => value ∉ granted) value =
      grantDecision granted value := by
  rw [Decision.grantEntry, grantDecision]
  by_cases hgranted : value ∈ granted
  · rw [if_neg (by simp [hgranted]), if_pos hgranted]
  · rw [if_pos (by simp [h, hgranted]), if_neg hgranted]

/-- The report recomputes the payload that was digested. -/
theorem decisionPayload_eq (h : report.Says (policy.result plan decisionDigest)) :
    report.decisionPayload = policy.decisionPayload plan := by
  have hrequirements : sortTexts report.dispositions = sortTexts plan.policyRequirements := by
    rw [ReportMembers.dispositions, h.approvedRequirements, h.pendingRequirements,
      h.deniedRequirements]
    exact sortTexts_eq_of_perm (policy.requirementsWith_perm plan)
  have hentries : ((sortTexts plan.policyRequirements).map fun requirementId => Json.obj
      [("id", .str requirementId), ("decision", .str (report.disposition requirementId))]) =
        (sortTexts plan.policyRequirements).map policy.requirementDecision := by
    refine List.map_congr_left fun requirementId hmem => ?_
    have hrequired := (sortTexts_perm _).mem_iff.mp hmem
    rw [requirementDecision, ReportMembers.disposition, h.pendingRequirements, h.deniedRequirements]
    simp only [result, mem_requirementsWith, hrequired, true_and]
    cases hdecision : policy.decision requirementId with
    | none => rfl
    | some decision => cases decision <;> rfl
  have hcapabilities : (declaredCapabilities plan.graph).map
      (Decision.grantEntry (policy.missingCapabilities plan)) =
        (declaredCapabilities plan.graph).map (grantDecision policy.grantedCapabilities) :=
    List.map_congr_left fun _ hmem => grantDecision_eq hmem
  have hpermissions : (declaredPermissions plan.graph).map
      (Decision.grantEntry (policy.missingPermissions plan)) =
        (declaredPermissions plan.graph).map (grantDecision policy.grantedPermissions) :=
    List.map_congr_left fun _ hmem => grantDecision_eq hmem
  rw [ReportMembers.decisionPayload, decisionPayload, h.status, h.specDigest, h.registryDigest,
    h.planDigest, h.requiredCapabilities, h.requiredPermissions, h.missingCapabilities,
    h.missingPermissions, hrequirements, hentries]
  simp only [result, hcapabilities, hpermissions]

theorem statusMatches_result (h : report.Says (policy.result plan decisionDigest)) :
    report.statusMatches = true := by
  rw [ReportMembers.statusMatches, ReportMembers.hasDenial, h.status]
  simp only [isEmpty_of_texts, h.missingCapabilities, h.missingPermissions, h.deniedRequirements,
    h.pendingRequirements, result, status]
  split_ifs with hdenied hpending
  · simpa [or_assoc] using hdenied
  · simp only [not_or, ne_eq, not_not] at hdenied
    simp [hdenied, hpending]
  · simp only [not_or, ne_eq, not_not] at hdenied hpending
    simp [hdenied, hpending]

theorem isSelfConsistent_result (hrequirements : plan.policyRequirements.Nodup)
    (hdigest : contentDigest (policy.decisionPayload plan) = some decisionDigest)
    (h : report.Says (policy.result plan decisionDigest)) :
    report.isSelfConsistent contentDigest = true := by
  have hnormalized : report.normalized = true := by
    simp only [ReportMembers.normalized, Bool.and_eq_true]
    refine ⟨⟨⟨⟨⟨⟨?_, ?_⟩, ?_⟩, ?_⟩, ?_⟩, ?_⟩, ?_⟩
    · exact ascending_of_texts (h.requiredCapabilities ▸ declaredCapabilities_ascends _)
    · exact ascending_of_texts (h.requiredPermissions ▸ declaredPermissions_ascends _)
    · exact ascending_of_texts (h.missingCapabilities ▸ (declaredCapabilities_ascends _).filter _)
    · exact ascending_of_texts (h.missingPermissions ▸ (declaredPermissions_ascends _).filter _)
    · exact ascending_of_texts (h.approvedRequirements ▸ requirementsWith_ascends hrequirements _)
    · exact ascending_of_texts (h.pendingRequirements ▸ requirementsWith_ascends hrequirements _)
    · exact ascending_of_texts (h.deniedRequirements ▸ requirementsWith_ascends hrequirements _)
  have hseparate : ∀ {a b : Option RequirementDecisionValue}, a ≠ b →
      ∀ text ∈ policy.requirementsWith plan a, text ∉ policy.requirementsWith plan b := by
    intro a b hne text ha hb
    exact hne ((mem_requirementsWith.mp ha).2.symm.trans (mem_requirementsWith.mp hb).2)
  simp only [ReportMembers.isSelfConsistent, Bool.and_eq_true, beq_iff_eq]
  refine ⟨⟨⟨⟨⟨⟨⟨⟨hnormalized, ?_⟩, ?_⟩, ?_⟩, ?_⟩, ?_⟩, ?_⟩, statusMatches_result h⟩, ?_⟩
  · refine all_contains_of_texts ?_
    rw [h.missingCapabilities, h.requiredCapabilities]
    exact fun text htext => (List.mem_filter.mp htext).1
  · refine all_contains_of_texts ?_
    rw [h.missingPermissions, h.requiredPermissions]
    exact fun text htext => (List.mem_filter.mp htext).1
  · refine disjoint_of_texts ?_
    rw [h.approvedRequirements, h.pendingRequirements]
    exact hseparate (by simp)
  · refine disjoint_of_texts ?_
    rw [h.approvedRequirements, h.deniedRequirements]
    exact hseparate (by simp)
  · refine disjoint_of_texts ?_
    rw [h.pendingRequirements, h.deniedRequirements]
    exact hseparate (by simp)
  · rw [h.authorized, h.status]
    rfl
  · rw [decisionPayload_eq h, hdigest, h.decisionDigest]
    rfl

/-- The bounds of the recorded payload, in the plan and the policy. -/
structure Recordable (policy : PlanAuthorizationPolicy) (plan : CompiledPlan) : Prop where
  permissions : (declaredPermissions plan.graph).length ≤ maxAuthorizationEntries
  requirements : ∀ decision : Option RequirementDecisionValue,
    (plan.policyRequirements.countP fun requirementId =>
      decide (policy.decision requirementId = decision)) ≤ maxAuthorizationEntries

theorem requirementsWith_length (decision : Option RequirementDecisionValue) :
    (policy.requirementsWith plan decision).length =
      plan.policyRequirements.countP fun requirementId =>
        decide (policy.decision requirementId = decision) := by
  rw [requirementsWith, ← List.countP_eq_length_filter]
  exact (sortTexts_perm _).countP_eq _

/-- There are few known capabilities. -/
theorem declaredCapabilities_length
    (h : ∀ value ∈ declaredCapabilities plan.graph, value ∈ knownPlanCapabilities) :
    (declaredCapabilities plan.graph).length ≤ maxAuthorizationEntries :=
  ((nodup_sortedSet _).subperm h).length_le.trans (by decide)

theorem bounded_iff_recordable
    (hknown : ∀ value ∈ declaredCapabilities plan.graph, value ∈ knownPlanCapabilities)
    (h : report.Says (policy.result plan decisionDigest)) :
    report.Bounded ↔ policy.Recordable plan := by
  have hcapabilities := declaredCapabilities_length hknown
  have hfilter (values : List String) (granted : List String) :
      (values.filter fun value => value ∉ granted).length ≤ values.length :=
    List.length_filter_le _ _
  constructor
  · intro hbounded
    refine ⟨?_, fun decision => ?_⟩
    · have hpermissions := hbounded.requiredPermissions
      rwa [← texts_length, h.requiredPermissions] at hpermissions
    · rw [← requirementsWith_length]
      cases decision with
      | none =>
        have hpending := hbounded.pendingRequirements
        rwa [← texts_length, h.pendingRequirements] at hpending
      | some decision =>
        cases decision with
        | approved =>
          have happroved := hbounded.approvedRequirements
          rwa [← texts_length, h.approvedRequirements] at happroved
        | denied =>
          have hdenied := hbounded.deniedRequirements
          rwa [← texts_length, h.deniedRequirements] at hdenied
  · intro hrecordable
    have hrequirements := hrecordable.requirements
    simp only [← requirementsWith_length] at hrequirements
    refine ⟨?_, ?_, ?_, ?_, ?_, ?_, ?_⟩
    · rw [← texts_length, h.requiredCapabilities]
      exact hcapabilities
    · rw [← texts_length, h.requiredPermissions]
      exact hrecordable.permissions
    · rw [← texts_length, h.missingCapabilities]
      exact (hfilter _ _).trans hcapabilities
    · rw [← texts_length, h.missingPermissions]
      exact (hfilter _ _).trans hrecordable.permissions
    · rw [← texts_length, h.approvedRequirements]
      exact hrequirements _
    · rw [← texts_length, h.pendingRequirements]
      exact hrequirements _
    · rw [← texts_length, h.deniedRequirements]
      exact hrequirements _

/-- What the documents ask of the texts of a plan. -/
structure Documentable (plan : CompiledPlan) : Prop where
  permissions : ∀ value ∈ declaredPermissions plan.graph, isEventIdentifier value = true
  requirements : ∀ requirementId ∈ plan.policyRequirements, isRequirementId requirementId = true

theorem wellFormed_result (hfits : policy.Fits plan) (hplan : Documentable plan)
    (hdigest : isSemanticDigest decisionDigest = true) :
    (policy.result plan decisionDigest).WellFormed := by
  have hknown : ∀ value ∈ knownPlanCapabilities, isEventIdentifier value = true := by decide
  have hrequirements (decision : Option RequirementDecisionValue) :
      ∀ requirementId ∈ policy.requirementsWith plan decision,
        isRequirementId requirementId = true :=
    fun requirementId hmem => hplan.requirements requirementId (mem_requirementsWith.mp hmem).1
  have hdigests := hfits.digests
  rw [hfits.specDigest, hfits.registryDigest, hfits.planDigest] at hdigests
  refine ⟨hdigests.1, hdigests.2.1, hdigests.2.2, hdigest, ?_, hplan.permissions, ?_, ?_,
    hrequirements _, hrequirements _, hrequirements _⟩
  · exact fun value hvalue => hknown value (hfits.known value hvalue)
  · exact fun value hvalue => hknown value (hfits.known value (List.mem_filter.mp hvalue).1)
  · exact fun value hvalue => hplan.permissions value (List.mem_filter.mp hvalue).1

end PlanAuthorizationPolicy

/-- The report on an accepted policy validates, and its payload where it is in the bounds. -/
theorem documents_of_authorizePlan {reported : DryRunReport} {result : PlanAuthorizationResult}
    (hreported : reported.plan = some plan)
    (hplan : PlanAuthorizationPolicy.Documentable plan)
    (hdigests : ∀ value digest, contentDigest value = some digest → isSemanticDigest digest = true)
    (h : authorizePlan contentDigest reported policy = .ok result) (workflowId : EventIdentifier) :
    (∃ document : PlanAuthorizationReport contentDigest,
      PlanAuthorizationReport.fromResult contentDigest result = some document ∧
        document.Says result ∧
        contentDigest document.decisionPayload = some document.binding.decisionDigest.val) ∧
      ((PlanAuthorizationEvaluatedPayload.fromResult contentDigest result workflowId).isSome = true ↔
        policy.Recordable plan) := by
  obtain ⟨plan', decisionDigest, hplan', hfits, hdigest, rfl⟩ := authorizePlan_ok h
  obtain rfl : plan = plan' := Option.some.inj (hreported.symm.trans hplan')
  obtain ⟨report, hreport, htold⟩ :=
    (PlanAuthorizationPolicy.wellFormed_result hfits hplan (hdigests _ _ hdigest)).members
  have hconsistent := PlanAuthorizationPolicy.isSelfConsistent_result hfits.requirements hdigest htold
  refine ⟨⟨⟨report, hconsistent⟩, ?_, htold, ?_⟩, ?_⟩
  · rw [PlanAuthorizationReport.fromResult, hreport]
    simp [hconsistent]
  · rw [PlanAuthorizationPolicy.decisionPayload_eq htold, hdigest, htold.decisionDigest]
    rfl
  · rw [payload_isSome_iff hreport htold hconsistent]
    exact PlanAuthorizationPolicy.bounded_iff_recordable hfits.known htold

end ResearchOs.Authorization

/-! Equal digests are of equal decisions, unless two texts collide under SHA-256. -/
namespace ResearchOs.Authorization

open Jcs (canonicalJson isOrdered utf16)
open JsonText (FloatText render)

variable {F : FloatText} {policy other : PlanAuthorizationPolicy} {plan otherPlan : CompiledPlan}

/-! The payload with its members in order. -/

theorem serializeMembers_keys (ms : Json.Members) :
    (Jcs.serializeMembers F ms).map Prod.fst = ms.map Prod.fst := by
  induction ms with
  | nil => rfl
  | cons member ms ih => rw [Jcs.serializeMembers, List.map_cons, List.map_cons, ih]

/-- The order in which members are listed does not matter. -/
theorem canonicalJson_obj_perm {ms others : Json.Members}
    (hkeys : ((ms.map Prod.fst).map utf16).Nodup)
    (hperm : (Jcs.serializeMembers F ms).Perm (Jcs.serializeMembers F others)) :
    canonicalJson F (.obj ms) = canonicalJson F (.obj others) := by
  rw [← serializeMembers_keys (F := F), List.map_map] at hkeys
  rw [canonicalJson, canonicalJson, Jcs.sortMembers, Jcs.sortMembers,
    SortBy.sortBy_eq_of_perm (fun a ha b hb hsame => ?_) hperm]
  exact List.inj_on_of_nodup_map hkeys ha hb hsame

theorem serializeArray_congr {α : Type} {f g : α → Json}
    (h : ∀ a, canonicalJson F (f a) = canonicalJson F (g a)) (items : List α) :
    Jcs.serializeArray F (items.map f) = Jcs.serializeArray F (items.map g) := by
  induction items with
  | nil => rfl
  | cons item items ih =>
    rw [List.map_cons, List.map_cons, Jcs.serializeArray, Jcs.serializeArray, h item, ih]

/-- An entry of a decision, with its members in order. -/
def entry (id decision : String) : Json := .obj [("decision", .str decision), ("id", .str id)]

theorem canonicalJson_entry (id decision : String) :
    canonicalJson F (.obj [("id", .str id), ("decision", .str decision)]) =
      canonicalJson F (entry id decision) :=
  canonicalJson_obj_perm (show (["id", "decision"].map utf16).Nodup by decide)
    (List.Perm.swap _ _ [])

theorem isOrdered_entry (id decision : String) : isOrdered (entry id decision) = true := by
  have hkeys : Jcs.keysOrdered ["decision", "id"] = true := by decide
  simp [entry, isOrdered, Jcs.areOrderedMembers, hkeys]

/-- The entries of some values, with the decision on each. -/
def entries (decision : String → String) (values : List String) : Json :=
  .arr (values.map fun value => entry value (decision value))

theorem isOrdered_entries (decision : String → String) (values : List String) :
    isOrdered (entries decision values) = true := by
  rw [entries, isOrdered]
  induction values with
  | nil => rfl
  | cons value values ih =>
    rw [List.map_cons, Jcs.areOrderedItems, isOrdered_entry, ih]
    rfl

def grantText (granted : List String) (value : String) : String :=
  if value ∈ granted then "granted" else "missing"

def decisionText (policy : PlanAuthorizationPolicy) (requirementId : String) : String :=
  ((policy.decision requirementId).map RequirementDecisionValue.text).getD "pending"

/-- The payload with its members in order. -/
def orderedPayload (policy : PlanAuthorizationPolicy) (plan : CompiledPlan) : Json :=
  .obj [("capabilities", entries (grantText policy.grantedCapabilities)
      (declaredCapabilities plan.graph)),
    ("digests", .obj [("plan", .str plan.planDigest), ("registry", .str plan.registryDigest),
      ("spec", .str plan.specDigest)]),
    ("permissions", entries (grantText policy.grantedPermissions) (declaredPermissions plan.graph)),
    ("requirements", entries (decisionText policy) (sortTexts plan.policyRequirements)),
    ("status", .str (policy.status plan).text)]

theorem canonicalJson_entries {encode : String → Json} {decision : String → String}
    (h : ∀ value, encode value = .obj [("id", .str value), ("decision", .str (decision value))])
    (values : List String) :
    canonicalJson F (.arr (values.map encode)) = canonicalJson F (entries decision values) := by
  have hentry (value : String) : canonicalJson F (encode value) =
      canonicalJson F (entry value (decision value)) := by
    rw [h, canonicalJson_entry]
  rw [entries, canonicalJson, canonicalJson, serializeArray_congr hentry]

theorem canonicalJson_payload (policy : PlanAuthorizationPolicy) (plan : CompiledPlan) :
    canonicalJson F (policy.decisionPayload plan) = canonicalJson F (orderedPayload policy plan) := by
  have hdigests : canonicalJson F (.obj [("spec", .str plan.specDigest),
      ("registry", .str plan.registryDigest), ("plan", .str plan.planDigest)]) =
        canonicalJson F (.obj [("plan", .str plan.planDigest),
          ("registry", .str plan.registryDigest), ("spec", .str plan.specDigest)]) :=
    canonicalJson_obj_perm (show (["spec", "registry", "plan"].map utf16).Nodup by decide)
      (List.reverse_perm _).symm
  have hcapabilities : canonicalJson F (.arr ((declaredCapabilities plan.graph).map
      (PlanAuthorizationPolicy.grantDecision policy.grantedCapabilities))) =
        canonicalJson F (entries (grantText policy.grantedCapabilities)
          (declaredCapabilities plan.graph)) :=
    canonicalJson_entries (fun _ => rfl) _
  have hpermissions : canonicalJson F (.arr ((declaredPermissions plan.graph).map
      (PlanAuthorizationPolicy.grantDecision policy.grantedPermissions))) =
        canonicalJson F (entries (grantText policy.grantedPermissions)
          (declaredPermissions plan.graph)) :=
    canonicalJson_entries (fun _ => rfl) _
  have hrequirements : canonicalJson F (.arr ((sortTexts plan.policyRequirements).map
      policy.requirementDecision)) =
        canonicalJson F (entries (decisionText policy) (sortTexts plan.policyRequirements)) :=
    canonicalJson_entries (fun _ => rfl) _
  refine canonicalJson_obj_perm (show (["status", "digests", "capabilities", "permissions",
    "requirements"].map utf16).Nodup by decide) ?_
  simp only [Jcs.serializeMembers, hdigests, hcapabilities, hpermissions, hrequirements]
  refine (List.perm_append_singleton _ [_, _, _, _]).symm.trans ?_
  exact List.Perm.swap _ _ _

theorem isOrdered_payload (policy : PlanAuthorizationPolicy) (plan : CompiledPlan) :
    isOrdered (orderedPayload policy plan) = true := by
  have hkeys : Jcs.keysOrdered
      ["capabilities", "digests", "permissions", "requirements", "status"] = true := by decide
  have hdigests : Jcs.keysOrdered ["plan", "registry", "spec"] = true := by decide
  simp [orderedPayload, isOrdered, Jcs.areOrderedMembers, isOrdered_entries, hkeys, hdigests]

/-! What the payload tells of a decision. -/

theorem entries_injective {decision decided : String → String} {values others : List String}
    (h : entries decision values = entries decided others) :
    values = others ∧ ∀ value ∈ values, decision value = decided value := by
  have hpairs : (values.map fun value => entry value (decision value)) =
      others.map fun value => entry value (decided value) := Json.arr.inj h
  induction values generalizing others with
  | nil =>
    cases others with
    | nil => exact ⟨rfl, fun value hvalue => absurd hvalue List.not_mem_nil⟩
    | cons value others => cases hpairs
  | cons value values ih =>
    cases others with
    | nil => cases hpairs
    | cons other others =>
      simp only [List.map_cons, List.cons.injEq, entry, Json.obj.injEq, Prod.mk.injEq,
        Json.str.injEq, true_and, and_true] at hpairs
      obtain ⟨⟨hdecision, rfl⟩, hrest⟩ := hpairs
      obtain ⟨rfl, hdecisions⟩ := ih (congrArg Json.arr hrest) hrest
      exact ⟨rfl, List.forall_mem_cons.mpr ⟨hdecision, hdecisions⟩⟩

theorem grantText_eq {granted others : List String} {value : String}
    (h : grantText granted value = grantText others value) : value ∈ granted ↔ value ∈ others := by
  unfold grantText at h
  split_ifs at h with hgranted hothers hothers
  · simp [hgranted, hothers]
  · simp at h
  · simp at h
  · simp [hgranted, hothers]

theorem decisionText_eq {requirementId : String}
    (h : decisionText policy requirementId = decisionText other requirementId) :
    policy.decision requirementId = other.decision requirementId := by
  unfold decisionText at h
  cases hpolicy : policy.decision requirementId with
  | none =>
    cases hother : other.decision requirementId with
    | none => rfl
    | some decision =>
      rw [hpolicy, hother] at h
      cases decision <;> simp [RequirementDecisionValue.text] at h
  | some decision =>
    cases hother : other.decision requirementId with
    | none =>
      rw [hpolicy, hother] at h
      cases decision <;> simp [RequirementDecisionValue.text] at h
    | some decided =>
      rw [hpolicy, hother] at h
      cases decision <;> cases decided <;> simp [RequirementDecisionValue.text] at h ⊢

theorem text_injective {status decided : PlanAuthorizationStatus} (h : status.text = decided.text) :
    status = decided := by
  cases status <;> cases decided <;> simp [PlanAuthorizationStatus.text] at h ⊢

/-- One payload is the payload of one decision. -/
theorem result_eq_of_payload {decisionDigest : String}
    (h : orderedPayload policy plan = orderedPayload other otherPlan) :
    policy.result plan decisionDigest = other.result otherPlan decisionDigest := by
  simp only [orderedPayload, Json.obj.injEq, List.cons.injEq, Prod.mk.injEq, Json.str.injEq,
    true_and, and_true] at h
  obtain ⟨hcapabilities, ⟨hplan, hregistry, hspec⟩, hpermissions, hrequirements, hstatus⟩ := h
  obtain ⟨hrequired, hgranted⟩ := entries_injective hcapabilities
  obtain ⟨hdeclared, hpermitted⟩ := entries_injective hpermissions
  obtain ⟨hids, hdecided⟩ := entries_injective hrequirements
  have hlacking : policy.missingCapabilities plan = other.missingCapabilities otherPlan := by
    rw [PlanAuthorizationPolicy.missingCapabilities, PlanAuthorizationPolicy.missingCapabilities,
      ← hrequired]
    exact List.filter_congr fun value hvalue => by simp [grantText_eq (hgranted value hvalue)]
  have hungranted : policy.missingPermissions plan = other.missingPermissions otherPlan := by
    rw [PlanAuthorizationPolicy.missingPermissions, PlanAuthorizationPolicy.missingPermissions,
      ← hdeclared]
    exact List.filter_congr fun value hvalue => by simp [grantText_eq (hpermitted value hvalue)]
  have hrequirementsWith (decision : Option RequirementDecisionValue) :
      policy.requirementsWith plan decision = other.requirementsWith otherPlan decision := by
    rw [PlanAuthorizationPolicy.requirementsWith, PlanAuthorizationPolicy.requirementsWith, ← hids]
    exact List.filter_congr fun id hid => by rw [decisionText_eq (hdecided id hid)]
  simp only [PlanAuthorizationPolicy.result, text_injective hstatus, hspec, hregistry, hplan,
    hrequired, hdeclared, hlacking, hungranted, hrequirementsWith]

/-- Two different texts with one digest. -/
def Collide (x y : Except String (List Char)) : Prop :=
  ∃ a b, x = .ok a ∧ y = .ok b ∧ a ≠ b ∧
    Sha256.hexdigest (String.ofList a) = Sha256.hexdigest (String.ofList b)

/-- Payloads with one digest are of one decision, or their texts collide. -/
theorem result_eq_of_digest {digest : String}
    (h : Jcs.contentDigest F (policy.decisionPayload plan) = .ok digest)
    (hother : Jcs.contentDigest F (other.decisionPayload otherPlan) = .ok digest) :
    policy.result plan digest = other.result otherPlan digest ∨
      Collide (canonicalJson F (policy.decisionPayload plan))
        (canonicalJson F (other.decisionPayload otherPlan)) := by
  obtain ⟨text, htext, hdigest⟩ := Fold.bind_eq_ok.mp h
  obtain ⟨otherText, hotherText, hotherDigest⟩ := Fold.bind_eq_ok.mp hother
  have hhex := (String.append_right_inj _).mp
    ((Except.ok.inj hdigest).trans (Except.ok.inj hotherDigest).symm)
  by_cases hsame : text = otherText
  · left
    have hreads := Jcs.readsBack_of_isOrdered (F := F) _ (isOrdered_payload policy plan)
    have hotherReads := Jcs.readsBack_of_isOrdered (F := F) _ (isOrdered_payload other otherPlan)
    rw [canonicalJson_payload, hreads.text] at htext
    rw [canonicalJson_payload, hotherReads.text] at hotherText
    refine result_eq_of_payload (hreads.eq_of_text hotherReads ?_)
    rw [Except.ok.inj htext, Except.ok.inj hotherText, hsame]
  · exact .inr ⟨text, otherText, htext, hotherText, hsame, hhex⟩

end ResearchOs.Authorization
