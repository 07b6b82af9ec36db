import ResearchOs.Authorization.Lineage
import ResearchOs.Report.Fold
import ResearchOs.Core.Runs.Control
import ResearchOs.Core.Runs.Safety
import ResearchOs.Core.Workers.Control

/-! What the reads of one project take from a log in which other projects record too. -/
namespace ResearchOs.Report

open Authorization (LineageQuery LineageReport applyLineage matchesLineageQuery
  planAuthorizationEvaluatedType queryLineage requirePlaces validateEvaluatedEvent)
open Budget (BudgetFold applyBudgetFold)
open JsonText (FloatText)
open Research (LedgerFold applyResearchEvent)
open Runs (RunStateProjection runControl)
open Storage (EventLog)

/-- Two events at one place: the same event, or two of other projects. -/
structure Alike (projectId : EventIdentifier) (a b : ResearchEvent) : Prop where
  sequence : a.sequence = b.sequence
  same : a = b ∨ a.data.projectId ≠ projectId ∧ b.data.projectId ≠ projectId

/-- Two logs that agree on the events of a project. -/
abbrev SameView (projectId : EventIdentifier) (log other : EventLog) : Prop :=
  List.Forall₂ (Alike projectId) log other

variable {projectId runId : EventIdentifier} {a b event : ResearchEvent} {log other : EventLog}

theorem Alike.symm (h : Alike projectId a b) : Alike projectId b a :=
  ⟨h.sequence.symm, h.same.imp Eq.symm And.symm⟩

theorem SameView.symm (h : SameView projectId log other) : SameView projectId other log :=
  (h.imp fun _ _ hsame => hsame.symm).flip

/-- A step that skips foreign events does not tell alike events apart. -/
theorem Alike.step {σ ε : Type} {step : σ → ResearchEvent → Except ε σ}
    (hforeign : ∀ s e, e.data.projectId ≠ projectId → step s e = .ok s)
    (h : Alike projectId a b) (s : σ) : step s a = step s b := by
  rcases h.same with rfl | ⟨ha, hb⟩
  · rfl
  · rw [hforeign s a ha, hforeign s b hb]

/-! The folds of the controls skip foreign events. -/

theorem run_foreign (runId : EventIdentifier) (snapshot : Option Runs.RunSnapshot)
    (event : ResearchEvent) (h : event.data.projectId ≠ projectId) :
    RunStateProjection.apply ⟨projectId, runId⟩ snapshot event = .ok snapshot := by
  apply if_neg
  rw [Runs.belongs]
  simp [h]

theorem budget_foreign (fold : BudgetFold) (event : ResearchEvent)
    (h : event.data.projectId ≠ projectId) : applyBudgetFold projectId fold event = .ok fold :=
  if_pos h

theorem research_foreign (fold : LedgerFold) (event : ResearchEvent)
    (h : event.data.projectId ≠ projectId) : applyResearchEvent projectId fold event = .ok fold :=
  if_pos h

theorem worker_foreign (F : FloatText) (fold : Workers.WorkerFold) (event : ResearchEvent)
    (h : event.data.projectId ≠ projectId) :
    Workers.applyWorkerFold F projectId fold event = .ok fold :=
  if_pos h

theorem project_foreign (fold : ProjectFold) (event : ResearchEvent)
    (h : event.data.projectId ≠ projectId) : ProjectFold.apply projectId fold event = .ok fold := by
  simp [ProjectFold.apply, research_foreign fold.ledger event h,
    budget_foreign fold.budget event h, ProjectFold.isBudgetEvent, h]

section

variable (h : SameView projectId log other)

include h

theorem rebuild_runs (runId : EventIdentifier) :
    Runs.rebuild ⟨projectId, runId⟩ log = Runs.rebuild ⟨projectId, runId⟩ other := by
  have hsame : List.Forall₂ (fun a b => runControl.position a = runControl.position b ∧
      ∀ state, runControl.apply ⟨projectId, runId⟩ state a =
        runControl.apply ⟨projectId, runId⟩ state b) log other := by
    refine h.imp fun a b hab => ⟨congrArg Subtype.val hab.sequence, fun state => ?_⟩
    exact congrArg Runs.fromRun (hab.step (run_foreign runId) state)
  rw [Runs.rebuild, Runs.rebuild, FrozenReplay.visit_congr hsame, h.length_eq]

theorem rebuild_budget : Budget.rebuild projectId log = Budget.rebuild projectId other := by
  have hsame : List.Forall₂ (fun a b =>
      Budget.budgetControl.position a = Budget.budgetControl.position b ∧
      ∀ state, Budget.budgetControl.apply projectId state a =
        Budget.budgetControl.apply projectId state b) log other := by
    refine h.imp fun a b hab => ⟨congrArg Subtype.val hab.sequence, fun state => ?_⟩
    exact congrArg Budget.fromBudget (hab.step budget_foreign state)
  rw [Budget.rebuild, Budget.rebuild, FrozenReplay.visit_congr hsame, h.length_eq]

theorem rebuild_research : Research.rebuild projectId log = Research.rebuild projectId other := by
  have hsame : List.Forall₂ (fun a b =>
      Research.researchControl.position a = Research.researchControl.position b ∧
      ∀ state, Research.researchControl.apply projectId state a =
        Research.researchControl.apply projectId state b) log other := by
    refine h.imp fun a b hab => ⟨congrArg Subtype.val hab.sequence, fun state => ?_⟩
    exact congrArg Research.fromResearch (hab.step research_foreign state)
  rw [Research.rebuild, Research.rebuild, FrozenReplay.visit_congr hsame, h.length_eq]

theorem rebuild_workers (F : FloatText) :
    Workers.rebuild F projectId log = Workers.rebuild F projectId other := by
  have hfold : Workers.replayWorkers F projectId log = Workers.replayWorkers F projectId other :=
    Fold.foldlM_congr (h.imp fun a b hab => hab.step (worker_foreign F))
  rw [Workers.rebuild, Workers.rebuild, hfold, h.length_eq]

end

/-! The lineage scan. -/

section

variable {contentDigest : Json → Option String} {query : LineageQuery}

/-- An authorization event that its own validation rejects. -/
def IsInvalid (contentDigest : Json → Option String) (event : ResearchEvent) : Prop :=
  event.type.val = planAuthorizationEvaluatedType ∧
    ∀ payload, validateEvaluatedEvent contentDigest event ≠ .ok payload

/-- A foreign event that is no invalid decision is skipped. -/
theorem lineage_foreign (hproject : event.data.projectId ≠ query.projectId)
    (hvalid : ¬ IsInvalid contentDigest event) (found : List Authorization.LineageMatch) :
    applyLineage contentDigest query found event = .ok found := by
  unfold applyLineage
  by_cases htype : event.type.val = planAuthorizationEvaluatedType
  · rw [if_neg (not_not.mpr htype)]
    cases hpayload : validateEvaluatedEvent contentDigest event with
    | ok payload =>
      apply if_neg
      simp [matchesLineageQuery, hproject]
    | error error =>
      refine (hvalid ⟨htype, fun payload hok => ?_⟩).elim
      rw [hpayload] at hok
      cases hok
  · exact if_pos htype

theorem requirePlaces_eq (h : SameView projectId log other) :
    requirePlaces log = requirePlaces other := by
  rw [requirePlaces, requirePlaces, h.length_eq]
  exact Fold.inOrder_congr
    (h.imp fun a b hab => ⟨congrArg Subtype.val hab.sequence, fun _ => rfl⟩)

theorem lineage_eq (h : SameView query.projectId log other)
    (hlog : ∀ event ∈ log, event.data.projectId ≠ query.projectId →
      ¬ IsInvalid contentDigest event)
    (hother : ∀ event ∈ other, event.data.projectId ≠ query.projectId →
      ¬ IsInvalid contentDigest event) :
    queryLineage contentDigest query log = queryLineage contentDigest query other := by
  have hsame : log.foldlM (applyLineage contentDigest query) [] =
      other.foldlM (applyLineage contentDigest query) [] := by
    have hleft := (List.forall₂_and_left _ _).mpr ⟨hlog, h⟩
    have hboth := (List.forall₂_and_left _ _).mpr ⟨hother, hleft.flip⟩
    refine Fold.foldlM_congr (hboth.flip.imp ?_)
    rintro a b ⟨hb, ha, hab⟩ found
    rcases hab.same with rfl | ⟨hna, hnb⟩
    · rfl
    · rw [lineage_foreign hna (ha hna), lineage_foreign hnb (hb hnb)]
  rw [queryLineage, queryLineage, requirePlaces_eq h, hsame, h.length_eq]

/-- An invalid decision of any project fails the scan. -/
theorem lineage_fails_closed (hmem : event ∈ log) (hinvalid : IsInvalid contentDigest event)
    (report : LineageReport) : queryLineage contentDigest query log ≠ .ok report := by
  intro hreport
  obtain ⟨_, -, hreport⟩ := Fold.bind_eq_ok.mp hreport
  obtain ⟨found, hfound, -⟩ := Fold.bind_eq_ok.mp hreport
  obtain ⟨before, later, rfl⟩ := List.append_of_mem hmem
  obtain ⟨state, -, hrest⟩ := Fold.foldlM_append_eq_ok.mp hfound
  obtain ⟨next, hnext, -⟩ := Fold.foldlM_cons_eq_ok.mp hrest
  unfold applyLineage at hnext
  rw [if_neg (not_not.mpr hinvalid.1)] at hnext
  cases hpayload : validateEvaluatedEvent contentDigest event with
  | ok payload => exact hinvalid.2 payload hpayload
  | error error =>
    rw [hpayload] at hnext
    cases hnext

end

/-! The scan of a report. -/

def isMatch (runId projectId : EventIdentifier) (event : ResearchEvent) : Bool :=
  namesRun runId event && decide (event.data.projectId = projectId)

@[simp] theorem note_folds (runId : EventIdentifier) (boundProject : Option EventIdentifier)
    (scan : Scan) (event : ResearchEvent) :
    (Scan.note runId boundProject scan event).folds = scan.folds := by
  unfold Scan.note
  split_ifs <;> rfl

@[simp] theorem note_authorizations (runId : EventIdentifier)
    (boundProject : Option EventIdentifier) (scan : Scan) (event : ResearchEvent) :
    (Scan.note runId boundProject scan event).authorizations = scan.authorizations := by
  unfold Scan.note
  split_ifs <;> rfl

theorem note_matching (runId projectId : EventIdentifier) (scan : Scan) (event : ResearchEvent) :
    (Scan.note runId (some projectId) scan event).matching =
      scan.matching ++ [event].filter (isMatch runId projectId) := by
  unfold Scan.note
  by_cases hrun : namesRun runId event = true
  · by_cases hproject : event.data.projectId = projectId
    · simp [hrun, hproject, isElsewhere, isMatch]
    · simp [hrun, hproject, isElsewhere, isMatch]
  · rw [Bool.not_eq_true] at hrun
    simp [hrun, isMatch]

/-- What a scan has taken from the events behind a state. -/
structure Scanned (runId projectId : EventIdentifier) (s : Scan) (log : EventLog) (t : Scan) :
    Prop where
  matching : t.matching = s.matching ++ log.filter (isMatch runId projectId)
  authorizations : t.authorizations = (log.filter isAuthorization).reverse ++ s.authorizations
  folds : ∀ other, log.foldlM (ProjectFold.apply other) (s.folds other) = .ok (t.folds other)

/-- The fold of every project after an event that one project has folded. -/
theorem apply_update {s : Scan} {fold : ProjectFold}
    (h : ProjectFold.apply event.data.projectId (s.folds event.data.projectId) event = .ok fold)
    (other : EventIdentifier) : ProjectFold.apply other (s.folds other) event =
      .ok (Function.update s.folds event.data.projectId fold other) := by
  by_cases hother : other = event.data.projectId
  · subst hother
    rw [Function.update_self]
    exact h
  · rw [Function.update_of_ne hother]
    exact project_foreign _ event (Ne.symm hother)

theorem scanned_of_ok {s t : Scan}
    (h : log.foldlM (scanEvent runId (some projectId)) s = .ok t) :
    Scanned runId projectId s log t := by
  induction log generalizing s with
  | nil =>
    cases h
    exact ⟨by simp, by simp, fun _ => rfl⟩
  | cons event rest ih =>
    obtain ⟨u, hu, hrest⟩ := Fold.foldlM_cons_eq_ok.mp h
    obtain ⟨fold, hfold, hu⟩ := Fold.bind_eq_ok.mp hu
    cases hu
    obtain ⟨hmatching, hauthorizations, hfolds⟩ := ih hrest
    refine ⟨?_, ?_, ?_⟩
    · rw [hmatching, note_matching, List.append_assoc, ← List.filter_append]
      rfl
    · rw [hauthorizations, note_authorizations, ← List.append_assoc]
      congr 1
      rw [List.filter_cons]
      split_ifs with hauthorization <;> simp [hauthorization]
    · intro other
      have hrest := hfolds other
      rw [note_folds] at hrest
      exact Fold.foldlM_cons_eq_ok.mpr ⟨_, apply_update hfold other, hrest⟩

theorem scan_of_folds {s : Scan}
    (h : ∀ other, ∃ fold, log.foldlM (ProjectFold.apply other) (s.folds other) = .ok fold) :
    ∃ t, log.foldlM (scanEvent runId (some projectId)) s = .ok t := by
  induction log generalizing s with
  | nil => exact ⟨s, rfl⟩
  | cons event rest ih =>
    obtain ⟨_, hown⟩ := h event.data.projectId
    obtain ⟨fold, hfold, -⟩ := Fold.foldlM_cons_eq_ok.mp hown
    have hscanned : scanEvent runId (some projectId) s event =
        .ok (Scan.note runId (some projectId) { s with
          authorizations := [event].filter isAuthorization ++ s.authorizations
          folds := Function.update s.folds event.data.projectId fold } event) :=
      Fold.bind_eq_ok.mpr ⟨fold, hfold, rfl⟩
    obtain ⟨t, ht⟩ := ih (s := Scan.note runId (some projectId) { s with
        authorizations := [event].filter isAuthorization ++ s.authorizations
        folds := Function.update s.folds event.data.projectId fold } event) (by
      intro other
      obtain ⟨last, hlast⟩ := h other
      obtain ⟨next, hnext, hrest⟩ := Fold.foldlM_cons_eq_ok.mp hlast
      rw [apply_update hfold other] at hnext
      cases hnext
      rw [note_folds]
      exact ⟨last, hrest⟩)
    exact ⟨t, Fold.foldlM_cons_eq_ok.mpr ⟨_, hscanned, ht⟩⟩

/-- The research and budget facts of every other project fold in that project. -/
def ForeignFolds (projectId : EventIdentifier) (log : EventLog) : Prop :=
  ∀ other ≠ projectId, ∃ fold, log.foldlM (ProjectFold.apply other) ProjectFold.empty = .ok fold

/-- Whatever the other events are, a project that folds in one log folds so in the other. -/
theorem project_fold_eq (h : SameView projectId log other) (fold : ProjectFold) :
    log.foldlM (ProjectFold.apply projectId) fold =
      other.foldlM (ProjectFold.apply projectId) fold :=
  Fold.foldlM_congr (h.imp fun _ _ hab => hab.step project_foreign)

theorem matching_eq (h : SameView projectId log other) :
    log.filter (isMatch runId projectId) = other.filter (isMatch runId projectId) := by
  refine Fold.filter_congr (h.imp fun a b hab => ?_)
  rcases hab.same with rfl | ⟨ha, hb⟩
  · exact .inl rfl
  · exact .inr ⟨by simp [isMatch, ha], by simp [isMatch, hb]⟩

theorem mem_of_alike (h : SameView projectId log other) (hmem : event ∈ log)
    (hproject : event.data.projectId = projectId) : event ∈ other := by
  obtain ⟨found, hfound, hsame⟩ := Fold.exists_of_mem_right h.flip hmem
  rcases hsame.same with rfl | ⟨hne, -⟩
  · exact hfound
  · exact (hne hproject).elim

/-- In a log without a repeated id, a fact of the project is found by its id. -/
theorem find_of_mem {authorizations : List ResearchEvent} (hmem : event ∈ authorizations)
    (hids : ∀ a ∈ authorizations, ∀ b ∈ authorizations, a.id = b.id → a = b) :
    (authorizations.find? fun found => decide (found.id = event.id)) = some event := by
  have hsome : ((authorizations.find? fun found => decide (found.id = event.id)).isSome) = true := by
    rw [List.find?_isSome]
    exact ⟨event, hmem, by simp⟩
  obtain ⟨found, hfound⟩ := Option.isSome_iff_exists.mp hsome
  have hid : found.id = event.id := by simpa using List.find?_some hfound
  rw [hfound, hids found (List.mem_of_find?_eq_some hfound) event hmem hid]

section

variable {contentDigest : Json → Option String} {authorizations others : List ResearchEvent}
  {snapshot : Runs.RunSnapshot} {citation : Runs.ConsumedAuthorization} {highWater : Nat}

theorem consumed_ok {stored : ResearchEvent}
    (h : consumedAuthorization contentDigest authorizations snapshot citation highWater =
      .ok stored) :
    stored ∈ authorizations ∧ stored.id = citation.eventId ∧
      stored.data.projectId = snapshot.projectId := by
  unfold consumedAuthorization at h
  split at h
  · cases h
  · rename_i found hfound
    split_ifs at h
    split at h
    · cases h
    · split_ifs at h with hbound
      cases h
      simp only [isBoundTo, Bool.and_eq_true, decide_eq_true_eq] at hbound
      exact ⟨List.mem_of_find?_eq_some hfound, by simpa using List.find?_some hfound,
        hbound.1.1.1.1.1.1⟩

/-- The consumed authorization of a run does not depend on foreign decisions. -/
theorem consumed_of_ok {stored : ResearchEvent} (hproject : snapshot.projectId = projectId)
    (hsame : ∀ event ∈ authorizations, event.data.projectId = projectId → event ∈ others)
    (hids : ∀ a ∈ others, ∀ b ∈ others, a.id = b.id → a = b)
    (h : consumedAuthorization contentDigest authorizations snapshot citation highWater =
      .ok stored) :
    consumedAuthorization contentDigest others snapshot citation highWater = .ok stored := by
  obtain ⟨hmem, hid, hbound⟩ := consumed_ok h
  have hother := find_of_mem (hsame stored hmem (hbound.trans hproject)) hids
  have hfound : (authorizations.find? fun event => decide (event.id = citation.eventId)) =
      some stored := by
    unfold consumedAuthorization at h
    split at h
    · cases h
    · rename_i found hfound
      split_ifs at h
      split at h
      · cases h
      · split_ifs at h
        cases h
        exact hfound
  rw [hid] at hother
  unfold consumedAuthorization at h ⊢
  rw [hfound] at h
  rw [hother]
  exact h

theorem authorization_of_ok {state : Option Runs.RunSnapshot} {consumed : Option ResearchEvent}
    (hproject : ∀ s ∈ state, Runs.RunSnapshot.projectId s = projectId)
    (hsame : ∀ event ∈ authorizations, event.data.projectId = projectId → event ∈ others)
    (hids : ∀ a ∈ others, ∀ b ∈ others, a.id = b.id → a = b)
    (h : reportAuthorization contentDigest authorizations state highWater = .ok consumed) :
    reportAuthorization contentDigest others state highWater = .ok consumed := by
  cases state with
  | none => exact h
  | some snapshot =>
    unfold reportAuthorization at h ⊢
    cases hcitation : snapshot.consumedAuthorization with
    | none => simpa [hcitation] using h
    | some citation =>
      simp only [hcitation] at h ⊢
      cases hstored : consumedAuthorization contentDigest authorizations snapshot citation
          highWater with
      | error error =>
        rw [hstored] at h
        cases h
      | ok stored =>
        rw [consumed_of_ok (hproject snapshot rfl) hsame hids hstored]
        rw [hstored] at h
        exact h

end

theorem observedProject_eq_ok {scan : Scan} {found : EventIdentifier} :
    observedProject (some projectId) scan = .ok found ↔
      scan.matching.isEmpty = false ∧ found = projectId := by
  unfold observedProject
  by_cases hmatching : scan.matching.isEmpty = true
  · rw [if_pos hmatching]
    split_ifs <;> simp [hmatching]
  · simp [hmatching, eq_comm]

theorem snapshot_project {state : Option Runs.RunSnapshot} {matching : List ResearchEvent}
    (h : foldSnapshot ⟨projectId, runId⟩ matching = .ok state) :
    ∀ s ∈ state, Runs.RunSnapshot.projectId s = projectId := by
  unfold foldSnapshot at h
  split at h
  · rename_i snapshot hfold
    cases h
    intro s hs
    exact (Runs.fold_bound hfold s hs).1
  · cases h
  · cases h

theorem places_eq (h : SameView projectId log other)
    (hplaces : ∀ i event, log[i]? = some event → event.sequence.val = 1 + i) :
    ∀ i event, other[i]? = some event → event.sequence.val = 1 + i := by
  have hmap : log.map (fun event => event.sequence.val) =
      other.map fun event => event.sequence.val :=
    Fold.map_eq_map_of_forall₂ h fun a b hab => congrArg Subtype.val hab.sequence
  intro i event hevent
  have hplace := congrArg (fun places => places[i]?) hmap
  simp only [List.getElem?_map, hevent, Option.map_some, Option.map_eq_some_iff] at hplace
  obtain ⟨found, hfound, hsame⟩ := hplace
  rw [← hsame]
  exact hplaces i found hfound

/-- A report of a project survives another content of the other projects, where that content
folds too. -/
theorem report_of_ok {contentDigest : Json → Option String} {report : RunReport}
    (h : SameView projectId log other) (hfolds : ForeignFolds projectId other)
    (hids : (other.map (·.id)).Nodup)
    (hreport : buildRunReport contentDigest log runId (some projectId) = .ok report) :
    buildRunReport contentDigest other runId (some projectId) = .ok report := by
  obtain ⟨scan, hscan, hreport⟩ := Fold.bind_eq_ok.mp hreport
  obtain ⟨hplaces, hscan⟩ := Fold.inOrder_eq_ok.mp hscan
  have hscanned := scanned_of_ok hscan
  have hown := hscanned.folds projectId
  rw [project_fold_eq h] at hown
  obtain ⟨found, hfound⟩ : ∃ t, other.foldlM (scanEvent runId (some projectId)) Scan.empty =
      .ok t := by
    refine scan_of_folds fun q => ?_
    by_cases hq : q = projectId
    · subst hq
      exact ⟨_, hown⟩
    · exact hfolds q hq
  have hother := scanned_of_ok hfound
  have hmatching : found.matching = scan.matching := by
    rw [hother.matching, hscanned.matching, matching_eq h]
  have hfold : found.folds projectId = scan.folds projectId := by
    have hsame := (hother.folds projectId).symm.trans hown
    exact Except.ok.inj hsame
  have hmem : ∀ event ∈ scan.authorizations, event.data.projectId = projectId →
      event ∈ found.authorizations := by
    intro event hevent hproject
    rw [hscanned.authorizations, Scan.empty, List.append_nil, List.mem_reverse,
      List.mem_filter] at hevent
    rw [hother.authorizations, Scan.empty, List.append_nil, List.mem_reverse, List.mem_filter]
    exact ⟨mem_of_alike h hevent.1 hproject, hevent.2⟩
  have hunique : ∀ a ∈ found.authorizations, ∀ b ∈ found.authorizations, a.id = b.id → a = b := by
    intro a ha b hb hid
    rw [hother.authorizations, Scan.empty, List.append_nil, List.mem_reverse,
      List.mem_filter] at ha hb
    exact List.inj_on_of_nodup_map hids ha.1 hb.1 hid
  obtain ⟨project, hproject, hreport⟩ := Fold.bind_eq_ok.mp hreport
  obtain ⟨hsome, hproject⟩ := observedProject_eq_ok.mp hproject
  rw [hproject] at hreport
  obtain ⟨snapshot, hsnapshot, hreport⟩ := Fold.bind_eq_ok.mp hreport
  obtain ⟨ledger, hledger, hreport⟩ := Fold.bind_eq_ok.mp hreport
  obtain ⟨metrics, hmetrics, hreport⟩ := Fold.bind_eq_ok.mp hreport
  obtain ⟨consumed, hconsumed, hreport⟩ := Fold.bind_eq_ok.mp hreport
  have hconsumed' := authorization_of_ok (snapshot_project hsnapshot) hmem hunique hconsumed
  rw [h.length_eq] at hledger hconsumed' hreport
  rw [← hmatching] at hsnapshot hmetrics hsome hreport
  rw [← hfold] at hledger hreport
  refine Fold.bind_eq_ok.mpr ⟨found, Fold.inOrder_eq_ok.mpr ⟨places_eq h hplaces, hfound⟩, ?_⟩
  refine Fold.bind_eq_ok.mpr ⟨projectId, observedProject_eq_ok.mpr ⟨hsome, rfl⟩, ?_⟩
  refine Fold.bind_eq_ok.mpr ⟨snapshot, hsnapshot, Fold.bind_eq_ok.mpr ⟨ledger, hledger, ?_⟩⟩
  exact Fold.bind_eq_ok.mpr ⟨metrics, hmetrics, Fold.bind_eq_ok.mpr ⟨consumed, hconsumed', hreport⟩⟩

/-- What a project reads from a log is what it reads from any log with its events at the same
places: the four rebuilds always, the lineage scan where no decision of another project is
invalid, and a report where the facts of the other projects fold in them. A scan that meets an
invalid decision of any project fails. -/
theorem project_isolation (F : FloatText) (contentDigest : Json → Option String)
    (projectId : EventIdentifier) (log other : EventLog) (h : SameView projectId log other) :
    (∀ runId, Runs.rebuild ⟨projectId, runId⟩ log = Runs.rebuild ⟨projectId, runId⟩ other) ∧
    Budget.rebuild projectId log = Budget.rebuild projectId other ∧
    Research.rebuild projectId log = Research.rebuild projectId other ∧
    Workers.rebuild F projectId log = Workers.rebuild F projectId other ∧
    (∀ query : LineageQuery, query.projectId = projectId →
      (∀ event ∈ log ++ other, event.data.projectId ≠ projectId →
        ¬ IsInvalid contentDigest event) →
      queryLineage contentDigest query log = queryLineage contentDigest query other) ∧
    (∀ query : LineageQuery, ∀ event ∈ log, IsInvalid contentDigest event →
      ∀ report, queryLineage contentDigest query log ≠ .ok report) ∧
    (ForeignFolds projectId log → ForeignFolds projectId other → (log.map (·.id)).Nodup →
      (other.map (·.id)).Nodup → ∀ runId report,
        buildRunReport contentDigest log runId (some projectId) = .ok report ↔
          buildRunReport contentDigest other runId (some projectId) = .ok report) := by
  refine ⟨rebuild_runs h, rebuild_budget h, rebuild_research h, rebuild_workers h F, ?_, ?_, ?_⟩
  · rintro query rfl hvalid
    exact lineage_eq h (fun event hevent => hvalid event (List.mem_append_left _ hevent))
      fun event hevent => hvalid event (List.mem_append_right _ hevent)
  · intro query event hevent hinvalid
    exact lineage_fails_closed hevent hinvalid
  · intro hlog hother hids hids' runId report
    exact ⟨report_of_ok h hother hids', report_of_ok h.symm hlog hids⟩

/-! A run of one project, and a fact of another project behind it. -/

def trialProject : EventIdentifier := ⟨"project-a", by decide⟩

def otherProject : EventIdentifier := ⟨"project-b", by decide⟩

def trialRun : EventIdentifier := ⟨"run-1", .refl true⟩

def trialDigest : String :=
  "sha256:0000000000000000000000000000000000000000000000000000000000000000"

def trialEvent (id : CloudEventsString) (sequence : SequenceNumber) (type : EventIdentifier)
    (projectId : EventIdentifier) (runId : Option EventIdentifier) (payload : Json.Members) :
    ResearchEvent where
  id := id
  source := ⟨"urn:trial", .refl true⟩
  type := type
  time := ⟨"2026-01-01T00:00:00Z", .refl true⟩
  subject := ⟨"trial", .refl true⟩
  data :=
    { actor := ⟨⟨"actor", .refl true⟩, some .human, none, by simp⟩
      projectId := projectId
      experimentRevision := ⟨1, .refl true⟩
      runId := runId
      attemptId := none
      blockId := none
      payload := payload
      evidenceRefs := []
      evidenceRefsAreUnique := List.nodup_nil }
  sequence := sequence
  streamid := projectId
  streamversion := ⟨0, .refl true⟩
  correlationid := none
  causationid := none

def trialQueued : ResearchEvent :=
  trialEvent ⟨"queue-1", .refl true⟩ ⟨1, .refl true⟩ ⟨"run.queued", .refl true⟩ trialProject
    (some trialRun) [("maxAttempts", .int 1), ("planDigest", .str trialDigest),
      ("registryDigest", .str trialDigest), ("specDigest", .str trialDigest),
      ("workflowId", .str "flow")]

/-- A fact of the other project, of any type, with an empty payload. -/
def otherFact (type : EventIdentifier) : ResearchEvent :=
  trialEvent ⟨"fact-2", .refl true⟩ ⟨2, .refl true⟩ type otherProject none []

def trialLog (type : EventIdentifier) : EventLog := [trialQueued, otherFact type]

def trialQuery : LineageQuery where
  projectId := trialProject
  experimentRevision := ⟨1, .refl true⟩
  workflowId := ⟨"flow", .refl true⟩
  binding := ⟨⟨trialDigest, .refl true⟩, ⟨trialDigest, .refl true⟩, ⟨trialDigest, .refl true⟩, none⟩

theorem trialLog_sameView (first second : EventIdentifier) :
    SameView trialProject (trialLog first) (trialLog second) := by
  have hother : otherProject ≠ trialProject := by decide
  exact .cons ⟨rfl, .inl rfl⟩ (.cons ⟨rfl, .inr ⟨hother, hother⟩⟩ .nil)

theorem project_isolation_trial :
    Runs.rebuild ⟨trialProject, trialRun⟩ (trialLog ⟨"note.recorded", by decide⟩) =
      Runs.rebuild ⟨trialProject, trialRun⟩ (trialLog ⟨"decision.recorded", by decide⟩) :=
  (project_isolation JsonText.scientific (fun _ => none) trialProject _ _
    (trialLog_sameView _ _)).1 trialRun

/-- A malformed decision of another project stops the report of a run, and a malformed
authorization of another project stops the lineage scan. -/
theorem project_poisoned :
    (∀ first second, SameView trialProject (trialLog first) (trialLog second)) ∧
    (∃ report, buildRunReport (fun _ => none) (trialLog ⟨"note.recorded", by decide⟩) trialRun
      (some trialProject) = .ok report) ∧
    (∀ report, buildRunReport (fun _ => none) (trialLog ⟨"decision.recorded", by decide⟩) trialRun
      (some trialProject) ≠ .ok report) ∧
    (∃ report, queryLineage (fun _ => none) trialQuery (trialLog ⟨"note.recorded", by decide⟩) =
      .ok report) ∧
    ∀ report, queryLineage (fun _ => none) trialQuery
      (trialLog ⟨"plan.authorization.evaluated", by decide⟩) ≠ .ok report := by
  have hreports : ∀ {ε α : Type} {r : Except ε α}, r.toOption.isSome = true → ∃ a, r = .ok a := by
    intro ε α r h
    cases r with
    | ok a => exact ⟨a, rfl⟩
    | error e => cases h
  have hraises : ∀ {ε α : Type} {r : Except ε α}, r.toOption.isSome = false → ∀ a, r ≠ .ok a := by
    rintro ε α r h a rfl
    cases h
  exact ⟨trialLog_sameView, hreports (by decide +kernel), hraises (by decide +kernel),
    hreports (by decide +kernel), hraises (by decide +kernel)⟩

end ResearchOs.Report
