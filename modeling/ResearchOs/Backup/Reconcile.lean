import Mathlib.Data.List.AList
import ResearchOs.Core.Runs.Safety
import ResearchOs.Core.Runs.Status

/-! `recovery/backup.py`: the runs that a restored image leaves in flight. -/
namespace ResearchOs.Backup

open Runs (LifecycleType RunSnapshot RunStateProjection Ending)
open Storage (EventLog)

/-- The statuses that `_run_status_for` reads off the type of an event. -/
def runStatusMapping : List (String × String) :=
  [("run.queued", "queued"), ("run.started", "running"),
    ("run.cancel.requested", "cancel-requested"), ("run.completed", "completed"),
    ("run.failed", "failed"), ("run.cancelled", "cancelled")]

/-- `TERMINAL_RUN_STATUSES`, by their texts. -/
def terminalRunStates : List String := Runs.terminalRunStatuses.map Runs.RunStatus.text

/-- `previous or "unknown"` -/
def orUnknown : Option String → String
  | some previous => if previous = "" then "unknown" else previous
  | none => "unknown"

/-- `_run_status_for` -/
def runStatusFor (eventType : String) (previous : Option String) : String :=
  (runStatusMapping.lookup eventType).getD (orUnknown previous)

/-- The last state of each run. -/
abbrev RunStates := AList fun _ : EventIdentifier => String

/-- One event of the replayed prefix. -/
def noteEvent (projectId : EventIdentifier) (states : RunStates) (event : ResearchEvent) :
    RunStates :=
  match event.data.runId with
  | none => states
  | some runId =>
    if event.data.projectId ≠ projectId then states
    else states.insert runId (runStatusFor event.type.val (states.lookup runId))

structure ReconciledRun where
  runId : EventIdentifier
  lastState : String

/-- `_reconcile_runs` of the replayed prefix. -/
def reconcileRuns (projectId : EventIdentifier) (log : EventLog) : List ReconciledRun :=
  let states := log.foldl (noteEvent projectId) ∅
  ((states.entries.mergeSort fun a b => a.1.val ≤ b.1.val).filter fun item =>
    item.2 ∉ terminalRunStates).map fun item => ⟨item.1, item.2⟩

variable {projectId runId : EventIdentifier} {log : EventLog} {states : RunStates}
  {event : ResearchEvent} {s : RunSnapshot}

/-- The state of a run is as terminal as its status. -/
def Agrees (states : RunStates) (runId : EventIdentifier) (s : RunSnapshot) : Prop :=
  ∃ state, states.lookup runId = some state ∧
    (state ∈ terminalRunStates ↔ s.status ∈ Runs.terminalRunStatuses)

theorem noteEvent_other (h : Runs.belongs event projectId runId = false) :
    (noteEvent projectId states event).lookup runId = states.lookup runId := by
  unfold noteEvent
  split
  · rfl
  · rename_i other hrun
    split_ifs with hproject
    · rfl
    · refine AList.lookup_insert_ne ?_
      rintro rfl
      rw [Runs.belongs_iff.mpr ⟨not_not.mp hproject, hrun⟩] at h
      cases h

theorem noteEvent_own (h : Runs.belongs event projectId runId = true) :
    (noteEvent projectId states event).lookup runId =
      some (runStatusFor event.type.val (states.lookup runId)) := by
  obtain ⟨hproject, hrun⟩ := Runs.belongs_iff.mp h
  simp only [noteEvent, hrun, hproject, ne_eq, not_true_eq_false, if_false, AList.lookup_insert]

/-! The map of event types against the reducer. -/

/-- The types of the events that the map passes over. -/
def passedTypes : List LifecycleType := .runReviewed :: LifecycleType.attemptTypes

theorem mapping_passed {type : LifecycleType} (h : type ∈ passedTypes) :
    runStatusMapping.lookup type.text = none := by
  have hall : ∀ type ∈ passedTypes, runStatusMapping.lookup type.text = none := by decide
  exact hall type h

theorem mapping_mapped {type : LifecycleType} (h : type ∉ passedTypes) :
    ∃ state, runStatusMapping.lookup type.text = some state ∧
      (state ∈ terminalRunStates ↔ type ∈ Runs.closingTypes) := by
  cases type with
  | runQueued => exact ⟨"queued", by decide, by decide⟩
  | runStarted => exact ⟨"running", by decide, by decide⟩
  | runCancelRequested => exact ⟨"cancel-requested", by decide, by decide⟩
  | runCompleted => exact ⟨"completed", by decide, by decide⟩
  | runFailed => exact ⟨"failed", by decide, by decide⟩
  | runCancelled => exact ⟨"cancelled", by decide, by decide⟩
  | _ => exact absurd (by decide) h

theorem mapping_observed (h : Runs.ResearchEvent.lifecycleType? event = none) :
    runStatusMapping.lookup event.type.val = none := by
  cases hlookup : runStatusMapping.lookup event.type.val with
  | none => rfl
  | some state =>
    -- Every text of the map is one of a lifecycle type.
    have htexts : ∀ item ∈ runStatusMapping, (LifecycleType.ofText item.1).isSome = true := by decide
    obtain ⟨before, after, hsplit, -⟩ := List.lookup_eq_some_iff.mp hlookup
    have hmem : (event.type.val, state) ∈ runStatusMapping := by
      rw [hsplit]
      simp
    have hsome := htexts _ hmem
    rw [Runs.ResearchEvent.lifecycleType?] at h
    rw [h] at hsome
    cases hsome

theorem orUnknown_terminal (state : String) :
    orUnknown (some state) ∈ terminalRunStates ↔ state ∈ terminalRunStates := by
  have hreads : orUnknown (some state) = if state = "" then "unknown" else state := rfl
  rw [hreads]
  by_cases hempty : state = ""
  · rw [if_pos hempty, hempty]
    decide
  · rw [if_neg hempty]

theorem agrees_passed (hagrees : Agrees states runId s) {t : RunSnapshot}
    (hstatus : t.status ∈ Runs.terminalRunStatuses ↔ s.status ∈ Runs.terminalRunStatuses)
    (hpassed : runStatusMapping.lookup event.type.val = none)
    (hown : Runs.belongs event projectId runId = true) :
    Agrees (noteEvent projectId states event) runId t := by
  obtain ⟨state, hlookup, hterminal⟩ := hagrees
  refine ⟨orUnknown (some state), ?_, ?_⟩
  · rw [noteEvent_own hown, hlookup, runStatusFor, hpassed, Option.getD_none]
  · rw [orUnknown_terminal, hterminal, hstatus]

theorem agrees_mapped {type : LifecycleType} {t : RunSnapshot}
    (hstatus : t.status ∈ Runs.terminalRunStatuses ↔ type ∈ Runs.closingTypes)
    (htype : event.type.val = type.text) (hmapped : type ∉ passedTypes)
    (hown : Runs.belongs event projectId runId = true) :
    Agrees (noteEvent projectId states event) runId t := by
  obtain ⟨state, hlookup, hterminal⟩ := mapping_mapped hmapped
  refine ⟨state, ?_, hterminal.trans hstatus.symm⟩
  rw [noteEvent_own hown, runStatusFor, htype, hlookup, Option.getD_some]

/-- One event keeps the two readings of a run together. -/
theorem agrees_step {before after : Option RunSnapshot}
    (hagrees : ∀ s, before = some s → Agrees states runId s)
    (happly : (⟨projectId, runId⟩ : RunStateProjection).apply before event = .ok after) :
    ∀ t, after = some t → Agrees (noteEvent projectId states event) runId t := by
  rintro t rfl
  cases hown : Runs.belongs event projectId runId with
  | false =>
    simp only [RunStateProjection.apply, hown, Bool.false_eq_true, if_false] at happly
    obtain ⟨state, hlookup, hterminal⟩ := hagrees t (Except.ok.inj happly)
    exact ⟨state, (noteEvent_other hown).trans hlookup, hterminal⟩
  | true =>
    cases hlifecycle : Runs.ResearchEvent.lifecycleType? event with
    | none =>
      have hpassed := mapping_observed hlifecycle
      cases before with
      | none =>
        simp only [RunStateProjection.apply, hown, if_true, hlifecycle] at happly
        cases happly
      | some s =>
        obtain ⟨-, hstate⟩ := Runs.apply_observed_ok hown hlifecycle happly
        obtain rfl := Option.some.inj hstate
        exact agrees_passed (hagrees s rfl) Iff.rfl hpassed hown
    | some type =>
      have htype : event.type.val = type.text := (LifecycleType.text_of_ofText hlifecycle).symm
      cases before with
      | none =>
        obtain ⟨rfl, u, hstate, hqueued⟩ := Runs.apply_first hown hlifecycle happly
        obtain rfl := Option.some.inj hstate
        refine agrees_mapped ?_ htype (by decide) hown
        rw [hqueued]
        decide
      | some s =>
        by_cases hreview : type = .runReviewed
        · subst hreview
          obtain ⟨u, hstate, hsame⟩ := Runs.apply_reviewed hown hlifecycle happly
          obtain rfl := Option.some.inj hstate
          refine agrees_passed (hagrees s rfl) ?_ ?_ hown
          · rw [hsame]
          · rw [htype]
            exact mapping_passed (by decide)
        · obtain ⟨hopen, u, hstate, hclosing⟩ :=
            Runs.apply_terminal hown hlifecycle hreview happly
          obtain rfl := Option.some.inj hstate
          by_cases hpasses : type ∈ passedTypes
          · have hcloses : ∀ type ∈ passedTypes, type ∉ Runs.closingTypes := by decide
            have hstays : t.status ∉ Runs.terminalRunStatuses :=
              fun hterminal => hcloses type hpasses (hclosing.mp hterminal)
            refine agrees_passed (hagrees s rfl) (iff_of_false hstays hopen) ?_ hown
            rw [htype]
            exact mapping_passed hpasses
          · exact agrees_mapped hclosing htype hpasses hown

theorem agrees_replay {state : Option RunSnapshot}
    (hfold : (⟨projectId, runId⟩ : RunStateProjection).fold log = .ok state) :
    ∀ s, state = some s → Agrees (log.foldl (noteEvent projectId) ∅) runId s := by
  induction log using List.reverseRecOn generalizing state with
  | nil =>
    rintro s rfl
    cases hfold
  | append_singleton log event ih =>
    obtain ⟨before, hbefore, happly⟩ := Fold.foldlM_concat_eq_ok.mp hfold
    rw [List.foldl_concat]
    exact agrees_step (ih hbefore) happly

/-- A restored image lists a run that has a snapshot exactly when its status is not terminal. -/
theorem reconcile_lists_open (projectId : EventIdentifier) (log : EventLog)
    (runId : EventIdentifier) (s : RunSnapshot)
    (hsnapshot : (⟨projectId, runId⟩ : RunStateProjection).fold log = .ok (some s)) :
    (∃ item ∈ reconcileRuns projectId log, item.runId = runId) ↔
      s.status ∉ Runs.terminalRunStatuses := by
  obtain ⟨state, hlookup, hterminal⟩ := agrees_replay hsnapshot s rfl
  rw [← hterminal]
  set states := log.foldl (noteEvent projectId) ∅
  simp only [reconcileRuns, List.mem_map, List.mem_filter, List.mem_mergeSort, decide_eq_true_eq]
  constructor
  · rintro ⟨_, ⟨⟨other, found⟩, ⟨hmem, hopen⟩, rfl⟩, rfl⟩
    have hfound := AList.mem_lookup_iff.mpr hmem
    rw [Option.mem_def, hlookup] at hfound
    rw [Option.some.inj hfound]
    exact hopen
  · intro hopen
    have hmem := AList.mem_lookup_iff.mp (Option.mem_def.mpr hlookup)
    exact ⟨⟨runId, state⟩, ⟨⟨runId, state⟩, ⟨hmem, hopen⟩, rfl⟩, rfl⟩

theorem reconcile_lists_open_trial :
    ∃ item ∈ reconcileRuns Runs.trialRun.projectId Runs.trialEvents,
      item.runId = Runs.trialRun.runId := by
  obtain ⟨s, hfold, hopen⟩ : ∃ s, Runs.trialProjection.fold Runs.trialEvents = .ok (some s) ∧
      s.status ∉ Runs.terminalRunStatuses := ⟨_, rfl, by decide⟩
  exact (reconcile_lists_open Runs.trialRun.projectId Runs.trialEvents Runs.trialRun.runId s
    hfold).mpr hopen

end ResearchOs.Backup
