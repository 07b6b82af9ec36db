import ResearchOs.Core.Runs.Draft
import ResearchOs.Core.Runs.Recorded
import ResearchOs.Core.Runs.Status

/-! Logs whose lifecycle facts went through `RunControl` and whose other facts any writer appended. -/
namespace ResearchOs.Runs

open Storage (EventLog)

/-- A lifecycle fact extends the fold of its run at the head; another fact only takes its place. -/
inductive Committed : EventLog → Prop
  | empty : Committed []
  | lifecycle {log : EventLog} {event : ResearchEvent} {p : RunStateProjection}
      {state : Option RunSnapshot} {next : RunSnapshot} (h : Committed log)
      (hplace : event.sequence.val = log.length + 1) (hfold : p.fold log = .ok state)
      (htype : ResearchEvent.lifecycleType? event ≠ none)
      (hbelongs : belongs event p.projectId p.runId = true)
      (happly : p.apply state event = .ok (some next)) : Committed (log ++ [event])
  | other {log : EventLog} {event : ResearchEvent} (h : Committed log)
      (hplace : event.sequence.val = log.length + 1)
      (htype : ResearchEvent.lifecycleType? event = none) : Committed (log ++ [event])

/-- Two facts that name one run. -/
def SameRun (a b : ResearchEvent) : Prop :=
  a.data.projectId = b.data.projectId ∧ a.data.runId = b.data.runId ∧ a.data.runId ≠ none

instance (a b : ResearchEvent) : Decidable (SameRun a b) := inferInstanceAs (Decidable (_ ∧ _))

/-- Every fact that names a run which has been queued carries the revision of the run. -/
def Revisioned (log : EventLog) : Prop :=
  log.Pairwise fun queued event => ResearchEvent.lifecycleType? queued = some .runQueued →
    SameRun queued event → event.data.experimentRevision = queued.data.experimentRevision

instance (log : EventLog) : Decidable (Revisioned log) :=
  inferInstanceAs (Decidable (List.Pairwise _ _))

variable {p : RunStateProjection} {s : RunSnapshot} {state : Option RunSnapshot} {log : EventLog}
  {e queued : ResearchEvent}

theorem sameRun_of_belongs (hq : belongs queued p.projectId p.runId = true)
    (hb : belongs e p.projectId p.runId = true) : SameRun queued e := by
  rw [belongs_iff] at hq hb
  refine ⟨hq.1.trans hb.1.symm, hq.2.trans hb.2.symm, ?_⟩
  rw [hq.2]
  exact Option.some_ne_none _

theorem SameRun.belongs (h : SameRun queued e) :
    ∃ p : RunStateProjection, belongs queued p.projectId p.runId = true ∧
      belongs e p.projectId p.runId = true := by
  obtain ⟨hproject, hrun, hnone⟩ := h
  obtain ⟨runId, hrunId⟩ := Option.ne_none_iff_exists'.mp hnone
  refine ⟨⟨queued.data.projectId, runId⟩, belongs_iff.mpr ⟨rfl, hrunId⟩, ?_⟩
  exact belongs_iff.mpr ⟨hproject.symm, hrun.symm.trans hrunId⟩

/-- An accepted fact of a queued run carries the revision of the run. -/
theorem revision_of_apply (hs : s.Invariant) (hb : belongs e p.projectId p.runId = true)
    (h : p.apply (some s) e = .ok state) :
    e.data.experimentRevision = s.experimentRevision := by
  have hreply : Reply p e (some s) (p.apply (some s) e) := apply_reply (by simpa using hs)
  rw [h] at hreply
  cases hreply with
  | foreign hforeign =>
    rw [hb] at hforeign
    cases hforeign
  | moved _ hf _ => exact hf.revision

/-- A run that has been queued in the log folds to a snapshot of its revision. -/
theorem fold_of_queued (hfold : p.fold log = .ok state) (hmem : queued ∈ log)
    (hb : belongs queued p.projectId p.runId = true)
    (hl : ResearchEvent.lifecycleType? queued = some .runQueued) :
    ∃ s, state = some s ∧ s.experimentRevision = queued.data.experimentRevision := by
  obtain ⟨before, later, rfl⟩ := List.append_of_mem hmem
  obtain ⟨found, hbefore, hrest⟩ := Fold.foldlM_append_eq_ok.mp hfold
  obtain ⟨next, happly, hlater⟩ := Fold.foldlM_cons_eq_ok.mp hrest
  have hfound : ∀ s ∈ found, s.Invariant := fold_invariant hbefore
  have hstands : ∃ s, next = some s ∧ s.Invariant ∧
      s.experimentRevision = queued.data.experimentRevision := by
    have hreply := apply_reply (p := p) (e := queued) hfound
    rw [happly] at hreply
    have hinvariant := hreply.invariant hfound
    cases hreply with
    | foreign hforeign =>
      rw [hb] at hforeign
      cases hforeign
    | unqueued =>
      obtain ⟨-, t, hsome, -⟩ := apply_first hb hl happly
      cases hsome
    | opened payload _ _ => exact ⟨_, rfl, hinvariant _ rfl, rfl⟩
    | moved _ hf hu =>
      have hextends := hu.extends hf (hfound _ rfl)
      exact ⟨_, rfl, hinvariant _ rfl, hextends.experimentRevision.trans hf.revision.symm⟩
  obtain ⟨s, rfl, hs, hrevision⟩ := hstands
  obtain ⟨t, rfl, hextends, -⟩ := foldlM_apply_extends hs hlater
  exact ⟨t, rfl, hextends.experimentRevision.trans hrevision⟩

/-- A run that folds to a snapshot has been queued in the log at its revision. -/
theorem queued_of_fold (hfold : p.fold log = .ok (some s)) :
    ∃ queued ∈ log, ResearchEvent.lifecycleType? queued = some .runQueued ∧
      belongs queued p.projectId p.runId = true ∧
      queued.data.experimentRevision = s.experimentRevision := by
  induction log using List.reverseRecOn generalizing s with
  | nil => cases hfold
  | append_singleton log event ih =>
    obtain ⟨before, hbefore, happly⟩ := Fold.foldlM_concat_eq_ok.mp hfold
    have hinvariant := fold_invariant (p := p) hbefore
    have hreply := apply_reply (p := p) (e := event) hinvariant
    rw [happly] at hreply
    cases hreply with
    | foreign _ =>
      obtain ⟨queued, hmem, hqueued⟩ := ih hbefore
      exact ⟨queued, List.mem_append_left _ hmem, hqueued⟩
    | opened payload hb _ =>
      refine ⟨event, List.mem_append_right _ List.mem_cons_self, ?_, hb, rfl⟩
      cases hl : ResearchEvent.lifecycleType? event with
      | none =>
        simp only [RunStateProjection.apply, if_pos hb, hl, observeUnrelated] at happly
        cases happly
      | some type =>
        obtain ⟨rfl, -⟩ := apply_first hb hl happly
        rfl
    | moved hb hf hu =>
      obtain ⟨queued, hmem, hl, hq, hrevision⟩ := ih hbefore
      refine ⟨queued, List.mem_append_left _ hmem, hl, hq, hrevision.trans ?_⟩
      exact (hu.extends hf (hinvariant _ rfl)).experimentRevision.symm

theorem Committed.within (h : Committed log) : Within log := by
  induction h with
  | empty =>
    intro event hevent
    cases hevent
  | lifecycle _ hplace _ _ _ _ ih | other _ hplace _ ih =>
    intro event hevent
    rw [List.length_append, List.length_singleton]
    rcases List.mem_append.mp hevent with hevent | hevent
    · have hearlier := ih event hevent
      omega
    · cases List.mem_singleton.mp hevent
      omega

theorem Committed.inPlace (h : Committed log) :
    ∀ i event, log[i]? = some event → event.sequence.val = i + 1 := by
  have hconcat : ∀ {log : EventLog} {last : ResearchEvent},
      (∀ i event, log[i]? = some event → event.sequence.val = i + 1) →
      last.sequence.val = log.length + 1 →
      ∀ i event, (log ++ [last])[i]? = some event → event.sequence.val = i + 1 := by
    intro log last hlog hlast i event hevent
    rw [List.getElem?_append] at hevent
    split_ifs at hevent with hi
    · exact hlog i event hevent
    · obtain ⟨hzero, rfl⟩ := List.getElem?_eq_some_iff.mp hevent
      rw [List.length_singleton] at hzero
      simp only [List.getElem_singleton]
      omega
  induction h with
  | empty =>
    intro i event hevent
    cases hevent
  | lifecycle _ hplace _ _ _ _ ih => exact hconcat ih hplace
  | other _ hplace _ ih => exact hconcat ih hplace

/-- An event that a `RunControl` append has stored is committed. -/
theorem Committed.append {call : RunControlCall} {result : RunControlResult} (h : Committed log)
    (happend : appendAlone p log call = .ok result) : Committed (log ++ [result.stored]) := by
  obtain ⟨snapshot, hfold, happend⟩ := Fold.bind_eq_ok.mp happend
  obtain ⟨document, hdraft, happend⟩ := Fold.bind_eq_ok.mp happend
  obtain ⟨stored, hcommit, hfinish⟩ := Fold.bind_eq_ok.mp happend
  obtain ⟨-, -, preflight, next, hchecked⟩ := draftLifecycle_ok hdraft
  have hstored := hchecked.stored (commitLifecycle_ok hcommit)
  obtain ⟨hsame, -⟩ := finishLifecycle_ok hfinish
  obtain ⟨type, htype⟩ := hstored.lifecycle
  rw [hsame]
  exact h.lifecycle hstored.preflight.sequence (fromRun_eq_ok.mp hfold)
    (by simp [htype]) hstored.belongs hstored.applied

/-- What a client of `RunControl` lands is committed. -/
theorem Committed.lands {client : RunClient} {next : RunSnapshot} (h : Committed log)
    (hlands : Lands log client e state next) : Committed (log ++ [e]) := by
  obtain ⟨type, htype⟩ := hlands.lifecycle
  exact h.lifecycle (Storage.EventLog.append_ok hlands.appended).sequence hlands.folded
    (by simp [htype]) hlands.belongs hlands.applied

theorem revisioned_concat : Revisioned (log ++ [e]) ↔ Revisioned log ∧
    ∀ queued ∈ log, ResearchEvent.lifecycleType? queued = some .runQueued → SameRun queued e →
      e.data.experimentRevision = queued.data.experimentRevision := by
  simp [Revisioned, List.pairwise_append]

/-- A fact that agrees with the revision of its run is swallowed by every fold. -/
theorem folds_other (hwithin : Within log) (hplace : e.sequence.val = log.length + 1)
    (hl : ResearchEvent.lifecycleType? e = none)
    (hrevision : ∀ queued ∈ log, ResearchEvent.lifecycleType? queued = some .runQueued →
      SameRun queued e → e.data.experimentRevision = queued.data.experimentRevision)
    (hfold : p.fold log = .ok state) : ∃ next, p.apply state e = .ok next := by
  by_cases hb : belongs e p.projectId p.runId = true
  · cases state with
    | none =>
      refine ⟨none, ?_⟩
      simp only [RunStateProjection.apply, if_pos hb, hl, observeUnrelated]
    | some s =>
      obtain ⟨queued, hmem, hqueued, hq, hsame⟩ := queued_of_fold hfold
      have hbound := fold_bound hfold s rfl
      have hcursor := fold_cursor hwithin hfold
      have hown := belongs_iff.mp hb
      refine ⟨_, apply_observed (fold_invariant (p := p) hfold s rfl) hb hl
        ⟨by omega, ?_, hown.1.trans hbound.1.symm, ?_⟩⟩
      · rw [← hsame]
        exact hrevision queued hmem hqueued (sameRun_of_belongs hq hb)
      · rw [hbound.2]
        exact hown.2
  · exact ⟨state, if_neg hb⟩

theorem folds_of_concat (h : ∀ p : RunStateProjection, ∃ state, p.fold (log ++ [e]) = .ok state)
    (p : RunStateProjection) : ∃ state, p.fold log = .ok state := by
  obtain ⟨_, hstate⟩ := h p
  obtain ⟨before, hbefore, -⟩ := Fold.foldlM_concat_eq_ok.mp hstate
  exact ⟨before, hbefore⟩

/-- A fact that every fold swallows agrees with the revision of its run. -/
theorem agrees_of_folds (h : ∀ p : RunStateProjection, ∃ state, p.fold (log ++ [e]) = .ok state) :
    ∀ queued ∈ log, ResearchEvent.lifecycleType? queued = some .runQueued → SameRun queued e →
      e.data.experimentRevision = queued.data.experimentRevision := by
  intro queued hmem hl hsame
  obtain ⟨p, hq, hb⟩ := hsame.belongs
  obtain ⟨_, hstate⟩ := h p
  obtain ⟨before, hbefore, hstep⟩ := Fold.foldlM_concat_eq_ok.mp hstate
  obtain ⟨s, rfl, hrevision⟩ := fold_of_queued hbefore hmem hq hl
  have hinvariant : s.Invariant := fold_invariant hbefore s rfl
  rw [revision_of_apply hinvariant hb hstep, hrevision]

/-- Every run of a committed log folds exactly when its facts agree with the revisions of the
runs that they name. -/
theorem Committed.folds_iff (h : Committed log) :
    (∀ p : RunStateProjection, ∃ state, p.fold log = .ok state) ↔ Revisioned log := by
  induction h with
  | empty => exact ⟨fun _ => .nil, fun _ p => ⟨none, rfl⟩⟩
  | @lifecycle log event p state next hlog hplace hfold _ hbelongs happly ih =>
    rw [revisioned_concat]
    constructor
    · intro hfolds
      exact ⟨ih.mp fun p => folds_of_concat hfolds p, agrees_of_folds hfolds⟩
    · rintro ⟨hrevisioned, -⟩ p'
      obtain ⟨before, hbefore⟩ := ih.mpr hrevisioned p'
      by_cases hb : belongs event p'.projectId p'.runId = true
      · have hsame : p' = p := by
          rw [belongs_iff] at hb hbelongs
          have hrun := Option.some.inj (hb.2.symm.trans hbelongs.2)
          cases p
          cases p'
          exact congrArg₂ RunStateProjection.mk (hb.1.symm.trans hbelongs.1) hrun
        subst hsame
        exact ⟨some next, Fold.foldlM_concat_eq_ok.mpr ⟨state, hfold, happly⟩⟩
      · exact ⟨before, Fold.foldlM_concat_eq_ok.mpr ⟨before, hbefore, if_neg hb⟩⟩
  | @other log event hlog hplace htype ih =>
    rw [revisioned_concat]
    constructor
    · intro hfolds
      exact ⟨ih.mp fun p => folds_of_concat hfolds p, agrees_of_folds hfolds⟩
    · rintro ⟨hrevisioned, hagrees⟩ p
      obtain ⟨before, hbefore⟩ := ih.mpr hrevisioned p
      obtain ⟨next, hnext⟩ := folds_other hlog.within hplace htype hagrees hbefore
      exact ⟨next, Fold.foldlM_concat_eq_ok.mpr ⟨before, hbefore, hnext⟩⟩

end ResearchOs.Runs
