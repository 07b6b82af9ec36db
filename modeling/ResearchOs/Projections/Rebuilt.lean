import ResearchOs.Projections.QueryTables
import ResearchOs.Core.Runs.Committed

/-! When the query tables of a committed log can be rebuilt, and what they then hold. -/
namespace ResearchOs.Projections

open FirstSeen (Table)
open JsonText (FloatText)
open Runs (Committed Revisioned RunSnapshot RunStateProjection belongs belongs_iff)
open Storage (EventLog RunProjectionRecord)

/-- What one replay of the whole log, in order, puts into the tables. -/
structure Replayed (F : FloatText) (log : EventLog) (tables : QueryTables) : Prop where
  specRevisions : ∀ row, row ∈ tables.specRevisions ↔
    FirstSeen.first (log.filterMap specRevision) row.key = some row
  artifacts : ∀ row, row ∈ tables.artifacts ↔
    FirstSeen.first (log.flatMap artifactEntries) row.digest = some row
  artifactLinks : ∀ row, row ∈ tables.artifactLinks ↔ ∃ event ∈ log,
    row.eventSequence = event.sequence ∧ ⟨row.digest, row.role⟩ ∈ digestRefs event
  runProjections : ∀ row, row ∈ tables.runProjections ↔ ∃ p : RunStateProjection, ∃ state,
    (∃ event ∈ log, belongs event p.projectId p.runId = true) ∧ p.fold log = .ok state ∧
      Runs.projectionRecord F p log.length state = some row
  keyed : tables.Keyed

/-- One spec digest for each revision of each project that runs are queued with. -/
def SpecsAgree (log : EventLog) : Prop :=
  FirstSeen.Agree (·.specDigest) (log.filterMap specRevision)

variable {F : FloatText} {log : EventLog} {event : ResearchEvent}

/-! The loop. -/

theorem gatherFrom_eq_ok {highWater expected : Nat} {gathered next : Gathered}
    (hplace : ∀ i event, log[i]? = some event → event.sequence.val = expected + i) :
    gatherFrom highWater expected gathered log = .ok next ↔
      log.foldlM gather gathered = .ok next := by
  induction log generalizing expected gathered with
  | nil => exact Iff.rfl
  | cons event rest ih =>
    have hfirst : event.sequence.val = expected := hplace 0 event rfl
    have hrest : ∀ i other, rest[i]? = some other → other.sequence.val = expected + 1 + i := by
      intro i other hother
      have hi := hplace (i + 1) other hother
      omega
    rw [gatherFrom, if_pos hfirst, Fold.foldlM_cons_eq_ok, Fold.bind_eq_ok]
    exact exists_congr fun middle => and_congr_right fun _ => ih hrest

theorem gather_eq_ok {gathered next : Gathered} : gather gathered event = .ok next ↔
    indexSpecRevision gathered.specs event = .ok next.specs ∧
      next.artifacts = (artifactEntries event).foldl FirstSeen.note gathered.artifacts ∧
      next.links = gathered.links ++ artifactLinks event ∧
      foldRun gathered.folds event = .ok next.folds := by
  unfold gather
  constructor
  · intro h
    obtain ⟨specs, hspecs, h⟩ := Fold.bind_eq_ok.mp h
    obtain ⟨folds, hfolds, h⟩ := Fold.bind_eq_ok.mp h
    cases h
    exact ⟨hspecs, rfl, rfl, hfolds⟩
  · rintro ⟨hspecs, hartifacts, hlinks, hfolds⟩
    obtain ⟨specs, artifacts, links, folds⟩ := next
    cases hartifacts
    cases hlinks
    exact Fold.bind_eq_ok.mpr ⟨specs, hspecs, Fold.bind_eq_ok.mpr ⟨folds, hfolds, rfl⟩⟩

/-- The loop fills its four tables independently. -/
theorem foldlM_gather_eq_ok {gathered next : Gathered} :
    log.foldlM gather gathered = .ok next ↔
      log.foldlM indexSpecRevision gathered.specs = .ok next.specs ∧
        next.artifacts = (log.flatMap artifactEntries).foldl FirstSeen.note gathered.artifacts ∧
        next.links = gathered.links ++ log.flatMap artifactLinks ∧
        log.foldlM foldRun gathered.folds = .ok next.folds := by
  induction log generalizing gathered with
  | nil =>
    obtain ⟨specs, artifacts, links, folds⟩ := gathered
    obtain ⟨specs', artifacts', links', folds'⟩ := next
    simp [pure, Except.pure, Gathered.mk.injEq, eq_comm]
  | cons event rest ih =>
    rw [Fold.foldlM_cons_eq_ok, Fold.foldlM_cons_eq_ok, Fold.foldlM_cons_eq_ok]
    constructor
    · rintro ⟨middle, hmiddle, hrest⟩
      obtain ⟨hspecs, hartifacts, hlinks, hfolds⟩ := gather_eq_ok.mp hmiddle
      obtain ⟨hspecs', hartifacts', hlinks', hfolds'⟩ := ih.mp hrest
      refine ⟨⟨_, hspecs, hspecs'⟩, ?_, ?_, ⟨_, hfolds, hfolds'⟩⟩
      · rw [hartifacts', hartifacts, List.flatMap_cons, List.foldl_append]
      · rw [hlinks', hlinks, List.flatMap_cons, List.append_assoc]
    · rintro ⟨⟨specs, hspecs, hspecs'⟩, hartifacts, hlinks, folds, hfolds, hfolds'⟩
      refine ⟨⟨specs, (artifactEntries event).foldl FirstSeen.note gathered.artifacts,
        gathered.links ++ artifactLinks event, folds⟩,
        gather_eq_ok.mpr ⟨hspecs, rfl, rfl, hfolds⟩, ih.mpr ⟨hspecs', ?_, ?_, hfolds'⟩⟩
      · rw [hartifacts, List.flatMap_cons, List.foldl_append]
      · rw [hlinks, List.flatMap_cons, List.append_assoc]

/-! Spec revisions. -/

theorem foldlM_indexSpecRevision_eq {specs : Table SpecKey SpecRevisionRecord} :
    log.foldlM indexSpecRevision specs =
      (log.filterMap specRevision).foldlM
        (FirstSeen.noteAgreeing (·.specDigest) specConflict) specs := by
  induction log generalizing specs with
  | nil => rfl
  | cons event rest ih =>
    rw [List.foldlM_cons]
    cases hentry : specRevision event with
    | none =>
      rw [List.filterMap_cons_none hentry, ← ih]
      simp only [indexSpecRevision, hentry]
      rfl
    | some entry =>
      rw [List.filterMap_cons_some hentry, List.foldlM_cons]
      simp only [indexSpecRevision, hentry, ih]

theorem indexSpecRevision_eq_ok {specs : Table SpecKey SpecRevisionRecord} :
    log.foldlM indexSpecRevision ∅ = .ok specs ↔
      SpecsAgree log ∧ specs = (log.filterMap specRevision).foldl FirstSeen.note ∅ := by
  rw [foldlM_indexSpecRevision_eq, FirstSeen.foldlM_noteAgreeing_eq_ok]
  simp [SpecsAgree]

/-- A spec revision is recorded under its own key. -/
theorem specRevision_key {entry : SpecKey × SpecRevisionRecord}
    (h : specRevision event = some entry) : entry.1 = entry.2.key := by
  unfold specRevision at h
  split_ifs at h
  split at h
  · obtain ⟨digest, -, rfl⟩ := Option.map_eq_some_iff.mp h
    rfl
  · cases h

/-! Runs. -/

/-- The folds of the loop are the folds of the runs that the log names. -/
structure Tracks (log : EventLog) (folds : Table RunKey (Option RunSnapshot)) : Prop where
  folded : ∀ p : RunStateProjection,
    p.fold log = .ok ((folds.lookup (p.projectId, p.runId)).getD none)
  named : ∀ p : RunStateProjection, (p.projectId, p.runId) ∈ folds ↔
    ∃ event ∈ log, belongs event p.projectId p.runId = true

theorem fromRun_eq_ok {α : Type} {r : Except Runs.RunError α} {a : α} :
    fromRun r = .ok a ↔ r = .ok a := by
  cases r <;> simp [fromRun]

theorem tracks_empty : Tracks [] ∅ where
  folded p := by
    rw [AList.lookup_empty]
    rfl
  named p := by simp

theorem not_belongs_of_none (hrun : event.data.runId = none) (p : RunStateProjection) :
    ¬ belongs event p.projectId p.runId = true := by
  rw [belongs_iff, hrun]
  rintro ⟨-, hsome⟩
  cases hsome

/-- The fold of a run that an event names moves by the event, and no other one does. -/
theorem Tracks.insert {folds : Table RunKey (Option RunSnapshot)} {runId : EventIdentifier}
    {snapshot : Option RunSnapshot} (h : Tracks log folds) (hrun : event.data.runId = some runId)
    (happly : RunStateProjection.apply ⟨event.data.projectId, runId⟩
      ((folds.lookup (event.data.projectId, runId)).getD none) event = .ok snapshot) :
    Tracks (log ++ [event]) (folds.insert (event.data.projectId, runId) snapshot) := by
  have hown : ∀ p : RunStateProjection, belongs event p.projectId p.runId = true ↔
      (p.projectId, p.runId) = (event.data.projectId, runId) := by
    intro p
    rw [belongs_iff, hrun, Option.some.injEq, Prod.mk.injEq]
    exact and_congr eq_comm eq_comm
  constructor
  · intro p
    rw [RunStateProjection.fold, Fold.foldlM_concat_eq_ok]
    refine ⟨_, h.folded p, ?_⟩
    by_cases hkey : (p.projectId, p.runId) = (event.data.projectId, runId)
    · obtain ⟨projectId, run⟩ := p
      cases hkey
      rw [AList.lookup_insert, Option.getD_some]
      exact happly
    · rw [AList.lookup_insert_ne hkey]
      exact if_neg (fun hb => hkey ((hown p).mp hb))
  · intro p
    rw [AList.mem_insert, h.named p]
    simp only [List.mem_append, List.mem_singleton, or_and_right, exists_or, exists_eq_left, hown]
    exact or_comm

theorem tracks_of_foldlM {folds : Table RunKey (Option RunSnapshot)}
    (h : log.foldlM foldRun ∅ = .ok folds) : Tracks log folds := by
  induction log using List.reverseRecOn generalizing folds with
  | nil =>
    cases h
    exact tracks_empty
  | append_singleton log event ih =>
    obtain ⟨before, hbefore, hstep⟩ := Fold.foldlM_concat_eq_ok.mp h
    have htracks := ih hbefore
    unfold foldRun at hstep
    cases hrun : event.data.runId with
    | none =>
      rw [hrun] at hstep
      cases hstep
      constructor
      · intro p
        rw [RunStateProjection.fold, Fold.foldlM_concat_eq_ok]
        exact ⟨_, htracks.folded p, if_neg (not_belongs_of_none hrun p)⟩
      · intro p
        rw [htracks.named p]
        simp [not_belongs_of_none hrun p]
    | some runId =>
      rw [hrun] at hstep
      obtain ⟨snapshot, hsnapshot, hstep⟩ := Fold.bind_eq_ok.mp hstep
      cases hstep
      exact htracks.insert hrun (fromRun_eq_ok.mp hsnapshot)

/-- The loop folds what every run folds. -/
theorem foldRun_of_folds (h : ∀ p : RunStateProjection, ∃ state, p.fold log = .ok state) :
    ∃ folds, log.foldlM foldRun ∅ = .ok folds := by
  induction log using List.reverseRecOn with
  | nil => exact ⟨∅, rfl⟩
  | append_singleton log event ih =>
    obtain ⟨folds, hfolds⟩ := ih (Runs.folds_of_concat h)
    have htracks := tracks_of_foldlM hfolds
    cases hrun : event.data.runId with
    | none =>
      refine ⟨folds, Fold.foldlM_concat_eq_ok.mpr ⟨folds, hfolds, ?_⟩⟩
      simp only [foldRun, hrun]
    | some runId =>
      obtain ⟨state, hstate⟩ := h ⟨event.data.projectId, runId⟩
      obtain ⟨before, hbefore, hstep⟩ := Fold.foldlM_concat_eq_ok.mp hstate
      have hsame := htracks.folded ⟨event.data.projectId, runId⟩
      rw [RunStateProjection.fold, hbefore] at hsame
      rw [Except.ok.inj hsame] at hstep
      refine ⟨folds.insert (event.data.projectId, runId) state,
        Fold.foldlM_concat_eq_ok.mpr ⟨folds, hfolds, ?_⟩⟩
      simp only [foldRun, hrun]
      exact Fold.bind_eq_ok.mpr ⟨state, fromRun_eq_ok.mpr hstep, rfl⟩

theorem foldRun_ok_iff : (∃ folds, log.foldlM foldRun ∅ = .ok folds) ↔
    ∀ p : RunStateProjection, ∃ state, p.fold log = .ok state := by
  constructor
  · rintro ⟨folds, hfolds⟩ p
    exact ⟨_, (tracks_of_foldlM hfolds).folded p⟩
  · exact foldRun_of_folds

/-- Every snapshot of a run can be written as a row. -/
theorem runProjectionRecord_ok (lastSequence : Nat) (key : RunKey)
    (snapshot : Option RunSnapshot) :
    ∃ row, runProjectionRecord F lastSequence key snapshot = .ok row ∧
      row.projectId = key.1 ∧ row.runId = key.2 := by
  cases snapshot with
  | none => exact ⟨_, rfl, rfl, rfl⟩
  | some snapshot =>
    obtain ⟨row, hrow, hproject, hrun, -⟩ :=
      Runs.requireCachedSnapshot_projectionRecord F ⟨key.1, key.2⟩ lastSequence snapshot
    refine ⟨row, ?_, hproject, hrun⟩
    simp only [runProjectionRecord, hrow]

theorem runProjectionRecord_eq_ok {lastSequence : Nat} {key : RunKey}
    {snapshot : Option RunSnapshot} {row : RunProjectionRecord} :
    runProjectionRecord F lastSequence key snapshot = .ok row ↔
      Runs.projectionRecord F ⟨key.1, key.2⟩ lastSequence snapshot = some row := by
  unfold runProjectionRecord
  split
  · rename_i found hfound
    rw [hfound, Except.ok.injEq, Option.some.injEq]
  · rename_i hfound
    rw [hfound]
    constructor
    · intro h
      cases h
    · intro h
      cases h

/-! The tables. -/

/-- A table of the first entries of a list, each under the key that it names. -/
theorem lookup_first {κ α : Type} [DecidableEq κ] {keyOf : α → κ} {entries : List (κ × α)}
    (hkey : ∀ entry ∈ entries, entry.1 = keyOf entry.2) (key : κ) (value : α)
    (h : (entries.foldl FirstSeen.note ∅).lookup key = some value) : keyOf value = key := by
  rw [FirstSeen.lookup_foldl_note, AList.lookup_empty, Option.none_or] at h
  exact (hkey _ (FirstSeen.mem_of_first h)).symm

theorem specRevision_keys (log : EventLog) : ∀ entry ∈ log.filterMap specRevision,
    entry.1 = entry.2.key := by
  intro entry hentry
  obtain ⟨event, -, hspec⟩ := List.mem_filterMap.mp hentry
  exact specRevision_key hspec

theorem artifactEntries_keys (log : EventLog) : ∀ entry ∈ log.flatMap artifactEntries,
    entry.1 = entry.2.digest := by
  intro entry hentry
  obtain ⟨event, -, hentry⟩ := List.mem_flatMap.mp hentry
  obtain ⟨ref, -, rfl⟩ := List.mem_map.mp hentry
  rfl

theorem mem_artifactLinks {row : ArtifactLinkRecord} : row ∈ log.flatMap artifactLinks ↔
    ∃ event ∈ log, row.eventSequence = event.sequence ∧
      ⟨row.digest, row.role⟩ ∈ digestRefs event := by
  rw [List.mem_flatMap]
  refine exists_congr fun event => and_congr_right fun _ => ?_
  unfold artifactLinks
  constructor
  · intro hrow
    obtain ⟨ref, href, rfl⟩ := List.mem_map.mp hrow
    exact ⟨rfl, href⟩
  · rintro ⟨hsequence, href⟩
    refine List.mem_map.mpr ⟨_, href, ?_⟩
    obtain ⟨digest, eventSequence, role⟩ := row
    cases hsequence
    rfl

/-- One event cites a digest in a role once, and two events have two sequences. -/
theorem artifactLinks_nodup (h : (log.map (·.sequence)).Nodup) :
    (log.flatMap artifactLinks).Nodup := by
  rw [List.nodup_flatMap]
  constructor
  · intro event _
    refine (List.nodup_dedup _).map ?_
    intro a b hab
    obtain ⟨digest, role⟩ := a
    obtain ⟨digest', role'⟩ := b
    cases hab
    rfl
  · have hapart : log.Pairwise fun a b => a.sequence ≠ b.sequence := List.pairwise_map.mp h
    refine hapart.imp fun {a b} hne => ?_
    refine List.disjoint_left.mpr fun row hrow hrow' => ?_
    obtain ⟨ref, -, rfl⟩ := List.mem_map.mp hrow
    obtain ⟨ref', -, hsame⟩ := List.mem_map.mp hrow'
    exact hne (congrArg ArtifactLinkRecord.eventSequence hsame).symm

theorem sequence_nodup (hplace : ∀ i event, log[i]? = some event → event.sequence.val = i + 1) :
    (log.map (·.sequence)).Nodup := by
  rw [List.nodup_iff_injective_get]
  intro i j hij
  have hi := hplace i.val _ (List.getElem?_eq_getElem (by simpa using i.isLt))
  have hj := hplace j.val _ (List.getElem?_eq_getElem (by simpa using j.isLt))
  have hsame := congrArg Subtype.val hij
  simp only [List.get_eq_getElem, List.getElem_map] at hsame
  exact Fin.ext (by omega)

/-- The rows of the runs, sorted by their keys. -/
def runRows (F : FloatText) (log : EventLog) (folds : Table RunKey (Option RunSnapshot)) :
    Except QueryError (List RunProjectionRecord) :=
  (folds.entries.mergeSort fun a b => runKeyLE a.1 b.1).mapM fun item =>
    runProjectionRecord F log.length item.1 item.2

theorem mem_runRows {folds : Table RunKey (Option RunSnapshot)} {rows : List RunProjectionRecord}
    (htracks : Tracks log folds) (h : runRows F log folds = .ok rows) {row : RunProjectionRecord} :
    row ∈ rows ↔ ∃ p : RunStateProjection, ∃ state,
      (∃ event ∈ log, belongs event p.projectId p.runId = true) ∧ p.fold log = .ok state ∧
        Runs.projectionRecord F p log.length state = some row := by
  rw [Fold.mem_of_mapM_eq_ok h]
  constructor
  · rintro ⟨⟨key, state⟩, hitem, hrow⟩
    have hlookup : folds.lookup key = some state :=
      AList.mem_lookup_iff.mpr (List.mem_mergeSort.mp hitem)
    have hnamed := (htracks.named ⟨key.1, key.2⟩).mp (AList.lookup_isSome.mp (by
      rw [hlookup]
      rfl))
    have hfolded := htracks.folded ⟨key.1, key.2⟩
    rw [hlookup, Option.getD_some] at hfolded
    exact ⟨⟨key.1, key.2⟩, state, hnamed, hfolded, runProjectionRecord_eq_ok.mp hrow⟩
  · rintro ⟨p, state, hnamed, hfolded, hrow⟩
    obtain ⟨found, hfound⟩ :=
      Option.isSome_iff_exists.mp (AList.lookup_isSome.mpr ((htracks.named p).mpr hnamed))
    have hsame := htracks.folded p
    rw [hfound, Option.getD_some, hfolded] at hsame
    cases hsame
    exact ⟨⟨(p.projectId, p.runId), state⟩,
      List.mem_mergeSort.mpr (AList.mem_lookup_iff.mp hfound), runProjectionRecord_eq_ok.mpr hrow⟩

theorem runRows_nodup {folds : Table RunKey (Option RunSnapshot)}
    {rows : List RunProjectionRecord} (h : runRows F log folds = .ok rows) :
    (rows.map fun row => (row.projectId, row.runId)).Nodup := by
  have hkeys := Fold.map_eq_map_of_forall₂ (f := fun item => item.1)
    (g := fun row => (row.projectId, row.runId)) (Fold.mapM_eq_ok.mp h) (by
      rintro ⟨key, state⟩ row hrow
      obtain ⟨found, hfound, hproject, hrun⟩ :=
        runProjectionRecord_ok (F := F) log.length key state
      rw [hfound] at hrow
      cases hrow
      exact Prod.ext hproject.symm hrun.symm)
  rw [← hkeys]
  exact ((List.mergeSort_perm _ _).map _).nodup_iff.mpr folds.keys_nodup

/-- What the loop has gathered goes into the tables. -/
theorem rebuilt_of_gathered {gathered : Gathered} {tables : QueryTables}
    (hplace : ∀ i event, log[i]? = some event → event.sequence.val = i + 1)
    (hgathered : log.foldlM gather Gathered.empty = .ok gathered)
    (hrows : runRows F log gathered.folds = .ok tables.runProjections)
    (hspecs : tables.specRevisions = (FirstSeen.values gathered.specs).mergeSort specLE)
    (hartifacts : tables.artifacts = (FirstSeen.values gathered.artifacts).mergeSort artifactLE)
    (hlinks : tables.artifactLinks = gathered.links) : Replayed F log tables := by
  obtain ⟨hindexed, hfirst, hcited, hfolds⟩ := foldlM_gather_eq_ok.mp hgathered
  obtain ⟨-, hspecTable⟩ := indexSpecRevision_eq_ok.mp hindexed
  have hspecKey := @lookup_first _ _ _ SpecRevisionRecord.key _ (specRevision_keys log)
  have hartifactKey := @lookup_first _ _ _ ArtifactIndexRecord.digest _ (artifactEntries_keys log)
  have hall : gathered.links = log.flatMap artifactLinks := hcited
  rw [hspecTable] at hspecs
  have hartifactTable : gathered.artifacts =
      (log.flatMap artifactEntries).foldl FirstSeen.note ∅ := hfirst
  rw [hartifactTable] at hartifacts
  rw [hall] at hlinks
  constructor
  · intro row
    rw [hspecs, List.mem_mergeSort, FirstSeen.mem_values hspecKey, FirstSeen.lookup_foldl_note,
      AList.lookup_empty, Option.none_or]
  · intro row
    rw [hartifacts, List.mem_mergeSort, FirstSeen.mem_values hartifactKey,
      FirstSeen.lookup_foldl_note, AList.lookup_empty, Option.none_or]
  · intro row
    rw [hlinks, mem_artifactLinks]
  · intro row
    exact mem_runRows (tracks_of_foldlM hfolds) hrows
  · constructor
    · rw [hspecs]
      exact ((List.mergeSort_perm _ _).map _).nodup_iff.mpr (FirstSeen.nodup_values hspecKey)
    · rw [hartifacts]
      exact ((List.mergeSort_perm _ _).map _).nodup_iff.mpr (FirstSeen.nodup_values hartifactKey)
    · rw [hlinks]
      exact artifactLinks_nodup (sequence_nodup hplace)
    · exact runRows_nodup hrows

/-- What a successful rebuild has met. -/
theorem agrees_of_rebuilt {tables : QueryTables}
    (hplace : ∀ i event, log[i]? = some event → event.sequence.val = i + 1)
    (h : rebuildQueryTables F log = .ok tables) :
    SpecsAgree log ∧ ∀ p : RunStateProjection, ∃ state, p.fold log = .ok state := by
  obtain ⟨gathered, hgathered, -⟩ := Fold.bind_eq_ok.mp h
  have hfold := (gatherFrom_eq_ok (by simpa [Nat.add_comm] using hplace)).mp hgathered
  obtain ⟨hindexed, -, -, hfolds⟩ := foldlM_gather_eq_ok.mp hfold
  exact ⟨(indexSpecRevision_eq_ok.mp hindexed).1, foldRun_ok_iff.mp ⟨_, hfolds⟩⟩

/-- A log whose specs agree and whose runs fold is indexed. -/
theorem rebuilt_of_agrees
    (hplace : ∀ i event, log[i]? = some event → event.sequence.val = i + 1)
    (hspecs : SpecsAgree log) (hfolds : ∀ p : RunStateProjection, ∃ state, p.fold log = .ok state) :
    ∃ tables, rebuildQueryTables F log = .ok tables ∧ Replayed F log tables := by
  obtain ⟨folds, hfolds⟩ := foldRun_of_folds hfolds
  let gathered : Gathered := {
    specs := (log.filterMap specRevision).foldl FirstSeen.note ∅
    artifacts := (log.flatMap artifactEntries).foldl FirstSeen.note ∅
    links := log.flatMap artifactLinks
    folds := folds }
  have hgathered : log.foldlM gather Gathered.empty = .ok gathered :=
    foldlM_gather_eq_ok.mpr ⟨indexSpecRevision_eq_ok.mpr ⟨hspecs, rfl⟩, rfl, rfl, hfolds⟩
  have hvisited : gatherFrom log.length 1 Gathered.empty log = .ok gathered :=
    (gatherFrom_eq_ok (by simpa [Nat.add_comm] using hplace)).mpr hgathered
  obtain ⟨rows, hrows⟩ : ∃ rows, runRows F log folds = .ok rows := by
    refine Fold.exists_mapM_eq_ok fun item _ => ?_
    obtain ⟨row, hrow, -⟩ := runProjectionRecord_ok (F := F) log.length item.1 item.2
    exact ⟨row, hrow⟩
  let tables : QueryTables := {
    specRevisions := (FirstSeen.values gathered.specs).mergeSort specLE
    artifacts := (FirstSeen.values gathered.artifacts).mergeSort artifactLE
    artifactLinks := gathered.links
    runProjections := rows }
  have hreplayed : Replayed F log tables :=
    rebuilt_of_gathered hplace hgathered hrows rfl rfl rfl
  refine ⟨tables, ?_, hreplayed⟩
  exact Fold.bind_eq_ok.mpr ⟨gathered, hvisited, Fold.bind_eq_ok.mpr ⟨rows, hrows,
    if_pos hreplayed.keyed⟩⟩

/-- The tables of a committed log rebuild, to what one replay puts into them, exactly when every
fact agrees with the revision of the queued run that it names and the runs queued at one revision
of a project share one spec digest. -/
theorem rebuild_query_tables_iff (F : FloatText) (log : EventLog) (h : Committed log) :
    (∃ tables, rebuildQueryTables F log = .ok tables ∧ Replayed F log tables) ↔
      Revisioned log ∧ SpecsAgree log := by
  rw [← h.folds_iff]
  constructor
  · rintro ⟨tables, htables, -⟩
    obtain ⟨hspecs, hfolds⟩ := agrees_of_rebuilt h.inPlace htables
    exact ⟨hfolds, hspecs⟩
  · rintro ⟨hfolds, hspecs⟩
    exact rebuilt_of_agrees h.inPlace hspecs hfolds

/-! Two runs of one revision, queued from two plans. -/

instance (log : EventLog) : Decidable (SpecsAgree log) :=
  inferInstanceAs (Decidable (List.Pairwise _ _))

def trialProject : EventIdentifier := ⟨"project", .refl true⟩

def trialDigest : String :=
  "sha256:0000000000000000000000000000000000000000000000000000000000000000"

def otherDigest : String :=
  "sha256:1111111111111111111111111111111111111111111111111111111111111111"

/-- A draft that queues a run from a plan. -/
def trialQueued (eventId : String) (runId : EventIdentifier) (specDigest : String) :
    Runs.LifecycleDraft where
  eventId := eventId
  eventType := .runQueued
  time := "2026-01-01T00:00:00Z"
  source := "urn:researchos:run"
  subject := "run"
  streamId := runId.val
  actorId := "run-control"
  actorKind := some .system
  projectId := trialProject
  experimentRevision := 1
  runId := runId
  attemptId := none
  payload := [("maxAttempts", .int 1), ("planDigest", .str trialDigest),
    ("registryDigest", .str trialDigest), ("specDigest", .str specDigest),
    ("workflowId", .str "flow")]
  payloadIsCanonical := by simp [Json.canonical]

/-- Two appends of `RunControl`, one after the other. -/
def queueTwo (first second : Runs.LifecycleDraft) : Except Runs.ControlError EventLog := do
  let queued ← Runs.appendAlone ⟨first.projectId, first.runId⟩ [] ⟨first.document, none⟩
  let other ← Runs.appendAlone ⟨second.projectId, second.runId⟩ [queued.stored]
    ⟨second.document, none⟩
  .ok [queued.stored, other.stored]

theorem committed_queueTwo {first second : Runs.LifecycleDraft}
    (h : queueTwo first second = .ok log) : Committed log := by
  obtain ⟨queued, hqueued, h⟩ := Fold.bind_eq_ok.mp h
  obtain ⟨other, hother, h⟩ := Fold.bind_eq_ok.mp h
  cases h
  exact (Committed.empty.append hqueued).append hother

def trialPlan : Runs.LifecycleDraft := trialQueued "queue-1" ⟨"run-1", .refl true⟩ trialDigest

def samePlan : Runs.LifecycleDraft := trialQueued "queue-2" ⟨"run-2", by decide⟩ trialDigest

def otherPlan : Runs.LifecycleDraft := trialQueued "queue-2" ⟨"run-2", by decide⟩ otherDigest

/-- `RunControl` accepts both runs, and the tables can never be rebuilt. -/
theorem two_plans_unbuildable :
    ∃ log, queueTwo trialPlan otherPlan = .ok log ∧
      ∀ (F : FloatText) (tables : QueryTables), rebuildQueryTables F log ≠ .ok tables := by
  have haccepted : (queueTwo trialPlan otherPlan).toOption.map
      (fun log => decide (SpecsAgree log)) = some false := by decide +kernel
  cases hqueue : queueTwo trialPlan otherPlan with
  | error error =>
    rw [hqueue] at haccepted
    cases haccepted
  | ok log =>
    rw [hqueue] at haccepted
    have hapart : ¬ SpecsAgree log := of_decide_eq_false (Option.some.inj haccepted)
    refine ⟨log, rfl, fun F tables htables => ?_⟩
    exact hapart (agrees_of_rebuilt (committed_queueTwo hqueue).inPlace htables).1

theorem rebuild_query_tables_trial :
    ∃ log, queueTwo trialPlan samePlan = .ok log ∧
      ∃ tables, rebuildQueryTables JsonText.scientific log = .ok tables ∧
        Replayed JsonText.scientific log tables := by
  have haccepted : (queueTwo trialPlan samePlan).toOption.map
      (fun log => decide (Revisioned log ∧ SpecsAgree log)) = some true := by decide +kernel
  cases hqueue : queueTwo trialPlan samePlan with
  | error error =>
    rw [hqueue] at haccepted
    cases haccepted
  | ok log =>
    rw [hqueue] at haccepted
    have hagrees : Revisioned log ∧ SpecsAgree log := of_decide_eq_true (Option.some.inj haccepted)
    exact ⟨log, rfl, (rebuild_query_tables_iff JsonText.scientific log
      (committed_queueTwo hqueue)).mpr hagrees⟩

end ResearchOs.Projections
