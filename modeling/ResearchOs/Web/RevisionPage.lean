import ResearchOs.Projections.Rebuilt
import ResearchOs.Web.Listing

/-! `revision_page`: the spec revisions of a project, and the table that a rebuild keeps of them. -/
namespace ResearchOs.Web

open JsonText (FloatText)
open Storage
open Projections (ReadsAs SpecRevisionRecord specRevision)

structure SpecRevision where
  projectId : String
  revision : Nat
  specDigest : String
  firstSeenSequence : Nat
  deriving DecidableEq, Repr

/-- The text that a fact has for its spec digest. -/
def specDigestText (event : ResearchEvent) : Option String :=
  match event.data.payload.lookup "specDigest" with
  | some (.str text) => some text
  | _ => none

/-- A row whose JSON text the query reads by path. -/
def jsonEvent (F : FloatText) (row : EventRow) : Except StoreError (Nat × ResearchEvent) :=
  match decodeEventJson F row.eventJson with
  | some (_, event) => .ok (row.sequence.val, event)
  | none => .error (.sqlite .operational)

def isQueuedUntil (projectId : String) (untilSequence : Nat) (row : EventRow) : Bool :=
  (decide (row.projectId = projectId) && decide (row.eventType = Runs.LifecycleType.runQueued.text)) &&
    decide (row.sequence.val ≤ untilSequence)

def revisionGroups (facts : List (Nat × ResearchEvent)) : List (Nat × Nat) :=
  Groups.groups (fun fact : Nat × ResearchEvent => fact.2.data.experimentRevision.val) Prod.fst
    List.min? (facts.filter fun fact => (specDigestText fact.2).isSome)

/-- The record of a group, if the digest of its first fact is a semantic one. -/
def recordOf (projectId : String) (group : Nat × Nat) (event : ResearchEvent) :
    Option SpecRevision :=
  ((specDigestText event).bind (Strict.checked isSemanticDigest)).map fun digest =>
    ⟨projectId, group.1, digest.val, group.2⟩

def revisionRecord (F : FloatText) (projectId : String) (events : EventsTable) (group : Nat × Nat) :
    Except StoreError (Option SpecRevision) := do
  let facts ← readEvents F (factQuery projectId group.2) events
  pure (facts.head?.bind fun fact => recordOf projectId group fact.event)

/-- `list_spec_revisions_page` -/
def listSpecRevisionsPage (F : FloatText) (projectId : String) (after untilSequence limit : Nat)
    (events : EventsTable) : Except StoreError (List SpecRevision) := do
  requireValue (1 ≤ limit ∧ limit ≤ maxReadPageSize) "invalid revision page bounds"
  let facts ← (events.rows.filter (isQueuedUntil projectId untilSequence)).mapM (jsonEvent F)
  let rows := (SortBy.sortBy Prod.snd
    ((revisionGroups facts).filter fun group => after < group.2)).take limit
  let records ← rows.mapM (revisionRecord F projectId events)
  pure (records.filterMap id)

structure RevisionItem where
  revision : Nat
  specDigest : String
  firstSeenSequence : Nat
  deriving DecidableEq, Repr

def RevisionItem.of (row : SpecRevision) : RevisionItem :=
  ⟨row.revision, row.specDigest, row.firstSeenSequence⟩

def revisionScope (projectId : String) : String := projectId ++ "|revisions"

/-- `revision_page` -/
def revisionPage (F : FloatText) (projectId : String) (limit : Option Nat) (db : Database)
    (cursor : Option String) : Except ApiError (ListingPage RevisionItem) := do
  let (after, highWater) ← bounds cursor (revisionScope projectId) db.lastSequence
  let size := limit.getD defaultPageLimit
  let selected ← guarded (listSpecRevisionsPage F projectId after highWater size db.events)
  let last := (selected.getLast?.map SpecRevision.firstSeenSequence).getD after
  pure {
    items := selected.map RevisionItem.of
    nextCursor := if selected.length = size then
      some (encodeCursor last highWater (revisionScope projectId)) else none
    highWaterMark := highWater }

/-- The pages of the revisions: the k-th request reads the k-th store. -/
def followRevisions (F : FloatText) (projectId : String) (limits : Nat → Option Nat)
    (stores : Nat → Database) : Nat → Nat → Option String →
      Except ApiError (List RevisionItem × Option String) :=
  Pages.follow fun k cursor =>
    (revisionPage F projectId (limits k) (stores k) cursor).map ListingPage.toPage

/-- The rows of the table for one project. -/
def tableItems (projectId : String) (rows : List SpecRevisionRecord) : List RevisionItem :=
  (rows.filter fun row => row.projectId.val = projectId).map fun row =>
    ⟨row.revision.val, row.specDigest.val, row.firstSeenSequence.val⟩

/-! What one page reads of a recorded log. -/

/-- A queued run of the project with a text for its spec digest. -/
def Cites (projectId : String) (event : ResearchEvent) : Prop :=
  event.data.projectId.val = projectId ∧ event.type.val = Runs.LifecycleType.runQueued.text ∧
    (specDigestText event).isSome = true

instance (projectId : String) (event : ResearchEvent) : Decidable (Cites projectId event) :=
  inferInstanceAs (Decidable (_ ∧ _))

variable {F : FloatText} {db later : Database} {log : EventLog} {row : EventRow}
  {event : ResearchEvent} {projectId : String} {limits : Nat → Option Nat} {stores : Nat → Database}

/-- The groups of a log, in the order of their first facts. -/
def logGroups (projectId : String) (log : EventLog) : List (Nat × Nat) :=
  SortBy.sortBy Prod.snd (Groups.groups
    (fun event : ResearchEvent => event.data.experimentRevision.val) (fun event => event.sequence.val)
    List.min? (log.filter fun event => Cites projectId event))

/-- What the page shows of a group. -/
def groupItem (log : EventLog) (group : Nat × Nat) : Option RevisionItem :=
  (log.find? fun event => event.sequence.val = group.2).bind fun event =>
    ((specDigestText event).bind (Strict.checked isSemanticDigest)).map fun digest =>
      ⟨group.1, digest.val, group.2⟩

theorem jsonEvent_of_reads (h : Reads F row event) :
    jsonEvent F row = .ok (event.sequence.val, event) := by
  have hsequence := h.ids.1
  obtain ⟨stored, hread, rfl⟩ := h
  unfold storedEventFromRow at hread
  cases hdecode : decodeEventJson F row.eventJson with
  | none =>
    rw [hdecode] at hread
    cases hread
  | some found =>
    obtain ⟨document, event⟩ := found
    rw [hdecode] at hread
    dsimp only at hread
    split_ifs at hread
    cases hread
    simp only [jsonEvent, hdecode, hsequence]

theorem mapM_jsonEvent {rows : List EventRow} (h : List.Forall₂ (Reads F) rows log) :
    rows.mapM (jsonEvent F) = .ok (log.map fun event => (event.sequence.val, event)) := by
  refine Fold.mapM_eq_ok.mpr ?_
  rw [List.forall₂_map_right_iff]
  exact h.imp fun _ _ hread => jsonEvent_of_reads hread

/-- Every store that extends the recorded one has its groups. -/
theorem groups_of_recorded (h : Recorded F db log) (hlater : Extends F db later) :
    ∃ facts, (later.events.rows.filter (isQueuedUntil projectId db.lastSequence)).mapM (jsonEvent F) =
        .ok facts ∧
      SortBy.sortBy Prod.snd (revisionGroups facts) = logGroups projectId log := by
  have hrows : later.events.rows.filter (isQueuedUntil projectId db.lastSequence) =
      db.events.rows.filter fun row => decide (row.projectId = projectId) &&
        decide (row.eventType = Runs.LifecycleType.runQueued.text) := filter_until hlater _
  have hreads : List.Forall₂ (Reads F) (db.events.rows.filter fun row =>
      decide (row.projectId = projectId) &&
        decide (row.eventType = Runs.LifecycleType.runQueued.text))
      (log.filter fun event => decide (event.data.projectId.val = projectId) &&
        decide (event.type.val = Runs.LifecycleType.runQueued.text)) := by
    refine forall₂_filter h.reads fun row event hread => ?_
    obtain ⟨hproject, htype, -⟩ := columns_of_row hread
    rw [hproject, htype]
  refine ⟨_, hrows ▸ mapM_jsonEvent hreads, ?_⟩
  unfold logGroups revisionGroups
  rw [List.filter_map, Groups.groups_map]
  congr 2
  rw [Function.comp_def, List.filter_filter]
  refine List.filter_congr fun event _ => ?_
  rw [Bool.eq_iff_iff, Bool.and_eq_true, Bool.and_eq_true, decide_eq_true_iff, decide_eq_true_iff,
    decide_eq_true_iff]
  constructor
  · rintro ⟨htext, hproject, htype⟩
    exact ⟨hproject, htype, htext⟩
  · rintro ⟨hproject, htype, htext⟩
    exact ⟨htext, hproject, htype⟩

theorem mem_logGroups {group : Nat × Nat} : group ∈ logGroups projectId log ↔
    (∃ event ∈ log, Cites projectId event ∧ event.data.experimentRevision.val = group.1 ∧
      event.sequence.val = group.2) ∧
    ∀ event ∈ log, Cites projectId event → event.data.experimentRevision.val = group.1 →
      group.2 ≤ event.sequence.val := by
  obtain ⟨revision, first⟩ := group
  rw [logGroups, SortBy.mem_sortBy, Groups.mem_groups_min]
  simp only [List.mem_filter, decide_eq_true_eq, and_assoc, and_imp]

theorem nodup_groupValues (h : Recorded F db log) : ((Groups.groups
    (fun event : ResearchEvent => event.data.experimentRevision.val) (fun event => event.sequence.val)
    List.min? (log.filter fun event => Cites projectId event)).map Prod.snd).Nodup := by
  refine Groups.nodup_values ?_ fun k n hgroup => (Groups.mem_groups_min.mp hgroup).1
  exact (sequence_nodup h).sublist (List.filter_sublist.map _)

theorem ascending_logGroups (h : Recorded F db log) :
    Ascending.Keyed Prod.snd (logGroups projectId log) :=
  Groups.sorted_values (nodup_groupValues h)

/-- The event at a sequence of the log. -/
theorem find_sequence (h : Recorded F db log) (hevent : event ∈ log) :
    (log.find? fun other => other.sequence.val = event.sequence.val) = some event := by
  cases hfound : log.find? fun other => other.sequence.val = event.sequence.val with
  | none => exact absurd (decide_eq_true rfl) (List.find?_eq_none.mp hfound event hevent)
  | some other =>
    have hsame : other.sequence.val = event.sequence.val := by
      simpa using List.find?_some hfound
    rw [List.inj_on_of_nodup_map (sequence_nodup h) (List.mem_of_find?_eq_some hfound) hevent hsame]

theorem groupItem_of_mem (h : Recorded F db log) (hevent : event ∈ log) (revision : Nat) :
    groupItem log (revision, event.sequence.val) =
      ((specDigestText event).bind (Strict.checked isSemanticDigest)).map fun digest =>
        ⟨revision, digest.val, event.sequence.val⟩ := by
  rw [groupItem, find_sequence h hevent, Option.bind_some]

/-- The record of a group is what its first fact makes of it. -/
theorem revisionRecord_of_mem (h : Recorded F db log) (hlater : Extends F db later)
    (hproject : isBoundedIdentifier projectId = true) {group : Nat × Nat}
    (hgroup : group ∈ logGroups projectId log) : ∃ record,
      revisionRecord F projectId later.events group = .ok record ∧
        record.map RevisionItem.of = groupItem log group ∧
        ∀ item ∈ record, item.firstSeenSequence = group.2 := by
  obtain ⟨revision, first⟩ := group
  obtain ⟨⟨event, hevent, ⟨hcites, -, -⟩, -, rfl⟩, -⟩ := mem_logGroups.mp hgroup
  obtain ⟨row, hrow, hread⟩ := exists_row h hevent
  have hmem : row ∈ later.events.rows := by
    obtain ⟨rest, hrows, -⟩ := hlater
    rw [hrows]
    exact List.mem_append_left _ hrow
  have hrowProject := (columns_of_row hread).1.trans hcites
  have hsequence := hread.ids.1
  obtain ⟨stored, hstored, hfacts⟩ := readEvents_factQuery hmem
    (readable_of_extends h hlater row hmem) hproject hrowProject
  obtain ⟨found, hfound, rfl⟩ := hread
  obtain rfl := Projections.readsAs_unique hstored hfound
  rw [hsequence] at hfacts
  refine ⟨recordOf projectId (revision, stored.event.sequence.val) stored.event, ?_, ?_, ?_⟩
  · simp only [revisionRecord, hfacts, bind, Except.bind, pure, Except.pure, List.head?_cons,
      Option.bind_some]
  · rw [groupItem_of_mem h hevent, recordOf, Option.map_map]
    rfl
  · intro item hitem
    obtain ⟨_, -, rfl⟩ := Option.map_eq_some_iff.mp hitem
    rfl

theorem mapM_revisionRecord (h : Recorded F db log) (hlater : Extends F db later)
    (hproject : isBoundedIdentifier projectId = true) {groups : List (Nat × Nat)}
    (hgroups : ∀ group ∈ groups, group ∈ logGroups projectId log) : ∃ records,
      groups.mapM (revisionRecord F projectId later.events) = .ok records ∧
        (records.filterMap id).map RevisionItem.of = groups.filterMap (groupItem log) ∧
        ((records.filterMap id).map SpecRevision.firstSeenSequence).Sublist
          (groups.map Prod.snd) := by
  induction groups with
  | nil => exact ⟨[], rfl, rfl, .slnil⟩
  | cons group groups ih =>
    obtain ⟨hgroup, hgroups⟩ := List.forall_mem_cons.mp hgroups
    obtain ⟨record, hrecord, hitem, hfirst⟩ := revisionRecord_of_mem h hlater hproject hgroup
    obtain ⟨records, hrecords, hitems, hfirsts⟩ := ih hgroups
    refine ⟨record :: records, ?_, ?_, ?_⟩
    · rw [List.mapM_cons, hrecord, hrecords]
      rfl
    · cases record with
      | none => rw [List.filterMap_cons_none rfl, hitems, List.filterMap_cons_none hitem.symm]
      | some item =>
        rw [List.filterMap_cons_some hitem.symm, ← hitems]
        rfl
    · cases record with
      | none =>
        rw [List.filterMap_cons_none rfl]
        exact hfirsts.cons _
      | some item =>
        rw [List.map_cons, ← hfirst item rfl]
        exact hfirsts.cons_cons _

/-- A cursor stands for the groups above a position under the mark of the first page. -/
def Stands (projectId : String) (db : Database) (log : EventLog) (stores : Nat → Database) (k : Nat)
    (cursor : Option String) (rest : List (Nat × Nat)) : Prop :=
  ∃ after, bounds cursor (revisionScope projectId) (stores k).lastSequence =
      .ok (after, db.lastSequence) ∧
    rest = (logGroups projectId log).filter fun group => after < group.2

theorem eq_of_sublist_take {α : Type} {xs ys : List α} {n : Nat} (h : xs.Sublist (ys.take n))
    (hlength : xs.length = n) : xs = ys.take n := by
  refine h.eq_of_length_le ?_
  rw [hlength]
  exact List.length_take_le _ _

theorem revisionPage_selects (h : Recorded F db log) (hproject : isBoundedIdentifier projectId = true)
    (hstores : ∀ k, Extends F db (stores k))
    (hlimits : ∀ k, 1 ≤ (limits k).getD defaultPageLimit ∧
      (limits k).getD defaultPageLimit ≤ maxReadPageSize) :
    Pages.Selects (fun k cursor =>
        (revisionPage F projectId (limits k) (stores k) cursor).map ListingPage.toPage)
      (Stands projectId db log stores) (fun k => (limits k).getD defaultPageLimit)
      (groupItem log) := by
  rintro k cursor rest ⟨after, hbounds, rfl⟩
  set size := (limits k).getD defaultPageLimit with hsize
  set rest := (logGroups projectId log).filter fun group => after < group.2 with hrest
  obtain ⟨facts, hfacts, hgroups⟩ := @groups_of_recorded F db (stores k) log projectId h (hstores k)
  have hnodup : ((revisionGroups facts).map Prod.snd).Nodup := by
    have hperm := (SortBy.sortBy_perm Prod.snd (revisionGroups facts)).map Prod.snd
    rw [hgroups] at hperm
    exact hperm.nodup_iff.mp (List.pairwise_map.mpr
      ((ascending_logGroups h).imp fun hlt => Nat.ne_of_lt hlt))
  have hrows : SortBy.sortBy Prod.snd ((revisionGroups facts).filter fun group => after < group.2) =
      rest := by
    rw [Groups.sortBy_filter hnodup, hgroups]
  have hmem : ∀ group ∈ rest.take size, group ∈ logGroups projectId log :=
    fun group hgroup => List.mem_of_mem_filter (List.mem_of_mem_take hgroup)
  obtain ⟨records, hrecords, hitems, hfirsts⟩ := mapM_revisionRecord h (hstores k) hproject hmem
  have hlist : listSpecRevisionsPage F projectId after db.lastSequence size (stores k).events =
      .ok (records.filterMap id) := by
    rw [listSpecRevisionsPage, requireValue, if_pos (hlimits k), hfacts]
    simp only [bind, Except.bind, hrows, hrecords, pure, Except.pure]
  set selected := records.filterMap id with hselected
  refine ⟨⟨selected.map RevisionItem.of, if selected.length = size then
    some (encodeCursor ((selected.getLast?.map SpecRevision.firstSeenSequence).getD after)
      db.lastSequence (revisionScope projectId)) else none⟩, ?_, hitems, ?_⟩
  · simp only [revisionPage, hbounds, bind, Except.bind, guarded, ← hsize, hlist, pure, Except.pure,
      Except.map]
  · rw [List.length_map]
    by_cases hfull : selected.length = size
    · rw [if_pos hfull, if_pos hfull]
      refine ⟨_, rfl, ?_⟩
      -- A full page shows every group it selected, so that its last item is its last group.
      have hsame : selected.map SpecRevision.firstSeenSequence = (rest.take size).map Prod.snd := by
        rw [List.map_take] at hfirsts ⊢
        exact eq_of_sublist_take hfirsts (by rw [List.length_map, hfull])
      have hpositive := (hlimits k).1
      obtain ⟨last, hlast⟩ : ∃ last, (rest.take size).getLast? = some last := by
        cases hgetLast : (rest.take size).getLast? with
        | some last => exact ⟨last, rfl⟩
        | none =>
          have hlength := congrArg List.length hsame
          rw [List.getLast?_eq_none_iff.mp hgetLast, List.length_map, List.map_nil,
            List.length_nil] at hlength
          omega
      have hends : selected.getLast?.map SpecRevision.firstSeenSequence = some last.2 := by
        rw [← List.getLast?_map, hsame, List.getLast?_map, hlast, Option.map_some]
      rw [hends, Option.getD_some]
      obtain ⟨⟨event, hevent, -, -, hsequence⟩, -⟩ :=
        mem_logGroups.mp (hmem last (List.mem_of_getLast? hlast))
      obtain ⟨row, hrow, hread⟩ := exists_row h hevent
      have hle : last.2 ≤ db.lastSequence := by
        rw [← hsequence, ← hread.ids.1]
        exact Database.le_lastSequence hrow
      refine ⟨last.2, ?_, ?_⟩
      · rw [bounds_encodeCursor hle (hstores (k + 1)).lastSequence_le db.lastSequence_le,
          if_pos (Or.inr rfl)]
      · exact (Ascending.filter_after_page (ascending_logGroups h) hlast).symm
    · rw [if_neg hfull, if_neg hfull]

/-! The table of the same log. -/

/-- What the table shows of a fact. -/
def factItem (event : ResearchEvent) : Option RevisionItem :=
  ((specDigestText event).bind (Strict.checked isSemanticDigest)).map fun digest =>
    ⟨event.data.experimentRevision.val, digest.val, event.sequence.val⟩

/-- A fact that the table can show. -/
def Names (projectId : String) (event : ResearchEvent) : Prop :=
  Cites projectId event ∧ (factItem event).isSome = true

instance (projectId : String) (event : ResearchEvent) : Decidable (Names projectId event) :=
  inferInstanceAs (Decidable (_ ∧ _))

/-- The first text that a revision has for its digest is not a semantic digest. -/
def Malformed (projectId : String) (log : EventLog) (event : ResearchEvent) : Prop :=
  Cites projectId event ∧ ¬ Names projectId event ∧ ∀ other ∈ log, Cites projectId other →
    other.data.experimentRevision.val = event.data.experimentRevision.val →
      event.sequence.val ≤ other.sequence.val

instance (projectId : String) (log : EventLog) (event : ResearchEvent) :
    Decidable (Malformed projectId log event) :=
  inferInstanceAs (Decidable (_ ∧ _ ∧ _))

/-- After the malformed first text of a revision, no revision is named that was not named before. -/
def DropsNothing (projectId : String) (log : EventLog) : Prop :=
  ∀ event ∈ log, Malformed projectId log event →
    ∀ other ∈ log, Names projectId other → event.sequence.val < other.sequence.val →
      ∃ earlier ∈ log, Names projectId earlier ∧
        earlier.data.experimentRevision.val = other.data.experimentRevision.val ∧
          earlier.sequence.val < event.sequence.val

instance (projectId : String) (log : EventLog) : Decidable (DropsNothing projectId log) :=
  inferInstanceAs (Decidable (∀ event ∈ log, _))

theorem Names.of_factItem {item : RevisionItem}
    (hproject : event.data.projectId.val = projectId)
    (htype : event.type.val = Runs.LifecycleType.runQueued.text) (h : factItem event = some item) :
    Names projectId event := by
  refine ⟨⟨hproject, htype, ?_⟩, by rw [h]; rfl⟩
  obtain ⟨_, hdigest, -⟩ := Option.map_eq_some_iff.mp h
  obtain ⟨_, htext, -⟩ := Option.bind_eq_some_iff.mp hdigest
  rw [htext]
  rfl

theorem specRevision_eq_some {key : Projections.SpecKey} {record : SpecRevisionRecord} :
    specRevision event = some (key, record) ↔
      event.type.val = Runs.LifecycleType.runQueued.text ∧
        key = (event.data.projectId, event.data.experimentRevision) ∧ record.key = key ∧
        record.firstSeenSequence = event.sequence ∧
        (specDigestText event).bind (Strict.checked isSemanticDigest) = some record.specDigest := by
  unfold specRevision specDigestText
  by_cases htype : event.type.val = Runs.LifecycleType.runQueued.text
  · rw [if_neg (not_not_intro htype)]
    split
    · rename_i text htext
      simp only [htext, Option.bind_some, Option.map_eq_some_iff]
      obtain ⟨recordProject, revision, digest, first⟩ := record
      constructor
      · rintro ⟨found, hfound, hentry⟩
        cases hentry
        exact ⟨htype, rfl, rfl, rfl, hfound⟩
      · rintro ⟨-, rfl, hkey, rfl, hdigest⟩
        obtain ⟨rfl, rfl⟩ := Prod.mk.inj hkey
        exact ⟨digest, hdigest, rfl⟩
    · rename_i hnone
      simp only [reduceCtorEq, false_iff, not_and]
      intro _ _ _ _ hdigest
      simp at hdigest
  · rw [if_pos htype]
    simp [htype]

/-- The table shows the first fact of each revision that names a digest. -/
theorem mem_tableItems {tables : Projections.QueryTables}
    (h : Projections.Replayed F log tables) (hascending : log.Pairwise fun e f =>
      e.sequence.val < f.sequence.val) {item : RevisionItem} :
    item ∈ tableItems projectId tables.specRevisions ↔
      ∃ event ∈ log, Names projectId event ∧ factItem event = some item ∧
        ∀ other ∈ log, Names projectId other →
          other.data.experimentRevision.val = event.data.experimentRevision.val →
            event.sequence.val ≤ other.sequence.val := by
  simp only [tableItems, List.mem_map, List.mem_filter, decide_eq_true_eq]
  constructor
  · rintro ⟨record, ⟨hrecord, hproject⟩, rfl⟩
    obtain ⟨event, hevent, hentry, hleast⟩ :=
      (FirstSeen.first_filterMap_iff hascending).mp ((h.specRevisions record).mp hrecord)
    obtain ⟨htype, hkey, -, hsequence, hdigest⟩ := specRevision_eq_some.mp hentry
    obtain ⟨hrecordProject, hrevision⟩ := Prod.mk.inj hkey
    have hitem : factItem event = some ⟨record.revision.val, record.specDigest.val,
        record.firstSeenSequence.val⟩ := by
      rw [factItem, hdigest, hsequence, hrevision]
      rfl
    rw [hrecordProject] at hproject
    refine ⟨event, hevent, .of_factItem hproject htype hitem, hitem, fun other hother hnames hsame => ?_⟩
    obtain ⟨⟨hotherProject, hotherType, -⟩, hotherItem⟩ := hnames
    obtain ⟨found, hfound⟩ := Option.isSome_iff_exists.mp hotherItem
    obtain ⟨digest, hotherDigest, -⟩ := Option.map_eq_some_iff.mp hfound
    refine hleast other hother ⟨record.projectId, record.revision, digest, other.sequence⟩ ?_
    refine specRevision_eq_some.mpr ⟨hotherType, ?_, rfl, rfl, hotherDigest⟩
    rw [hkey]
    exact Prod.ext (Subtype.ext (hproject.trans hotherProject.symm)) (Subtype.ext hsame.symm)
  · rintro ⟨event, hevent, ⟨⟨hproject, htype, -⟩, -⟩, hitem, hleast⟩
    obtain ⟨digest, hdigest, rfl⟩ := Option.map_eq_some_iff.mp hitem
    refine ⟨⟨event.data.projectId, event.data.experimentRevision, digest, event.sequence⟩,
      ⟨(h.specRevisions _).mpr ?_, hproject⟩, rfl⟩
    refine (FirstSeen.first_filterMap_iff hascending).mpr ⟨event, hevent,
      specRevision_eq_some.mpr ⟨htype, rfl, rfl, rfl, hdigest⟩, fun other hother found hfound => ?_⟩
    obtain ⟨hotherType, hkey, -, -, hotherDigest⟩ := specRevision_eq_some.mp hfound
    obtain ⟨hotherProject, hrevision⟩ := Prod.mk.inj hkey
    have hotherItem : factItem other = some ⟨other.data.experimentRevision.val,
        found.specDigest.val, other.sequence.val⟩ := by
      rw [factItem, hotherDigest]
      rfl
    exact hleast other hother (.of_factItem (hotherProject ▸ hproject) hotherType hotherItem)
      (congrArg Subtype.val hrevision.symm)

/-- The pages show the first fact of each revision with a text, if that text is a digest. -/
theorem mem_groupItems (h : Recorded F db log) {item : RevisionItem} :
    item ∈ (logGroups projectId log).filterMap (groupItem log) ↔
      ∃ event ∈ log, Names projectId event ∧ factItem event = some item ∧
        ∀ other ∈ log, Cites projectId other →
          other.data.experimentRevision.val = event.data.experimentRevision.val →
            event.sequence.val ≤ other.sequence.val := by
  rw [List.mem_filterMap]
  constructor
  · rintro ⟨⟨revision, first⟩, hgroup, hitem⟩
    obtain ⟨⟨event, hevent, hcites, rfl, rfl⟩, hleast⟩ := mem_logGroups.mp hgroup
    rw [groupItem_of_mem h hevent] at hitem
    exact ⟨event, hevent, ⟨hcites, by rw [factItem, hitem]; rfl⟩, hitem, hleast⟩
  · rintro ⟨event, hevent, ⟨hcites, -⟩, hitem, hleast⟩
    refine ⟨(event.data.experimentRevision.val, event.sequence.val),
      mem_logGroups.mpr ⟨⟨event, hevent, hcites, rfl, rfl⟩, hleast⟩, ?_⟩
    rw [groupItem_of_mem h hevent]
    exact hitem

theorem inPlace_of_recorded (h : Recorded F db log) :
    ∀ i event, log[i]? = some event → event.sequence.val = i + 1 := by
  intro i event hevent
  have hmaps : log.map (fun event => event.sequence.val) = List.range' 1 log.length := by
    rw [← h.reads.length_eq, ← h.appendLog.sequences]
    exact (Fold.map_eq_map_of_forall₂ h.reads fun _ _ hread => congrArg Subtype.val hread.ids.1).symm
  have hlength : i < log.length := (List.getElem?_eq_some_iff.mp hevent).1
  have hat := congrArg (fun sequences : List Nat => sequences[i]?) hmaps
  simp only [List.getElem?_map, hevent, Option.map_some, List.getElem?_range' hlength] at hat
  have := Option.some.inj hat
  omega

theorem replayed_of_rebuilt {tables : Projections.QueryTables} (h : Recorded F db log)
    (htables : Projections.rebuildQueryTables F log = .ok tables) :
    Projections.Replayed F log tables := by
  obtain ⟨hspecs, hfolds⟩ := Projections.agrees_of_rebuilt (inPlace_of_recorded h) htables
  obtain ⟨found, hfound, hreplayed⟩ :=
    Projections.rebuilt_of_agrees (inPlace_of_recorded h) hspecs hfolds
  rw [htables] at hfound
  cases hfound
  exact hreplayed

theorem specLE_trans {a b c : SpecRevisionRecord} (hab : Projections.specLE a b = true)
    (hbc : Projections.specLE b c = true) : Projections.specLE a c = true := by
  simp only [Projections.specLE, Projections.textLE, Bool.or_eq_true, Bool.and_eq_true,
    decide_eq_true_eq] at *
  rcases hab with hab | ⟨hab, htext⟩
  · rcases hbc with hbc | ⟨hbc, -⟩ <;> exact Or.inl (by omega)
  · rcases hbc with hbc | ⟨hbc, htext'⟩
    · exact Or.inl (by omega)
    · exact Or.inr ⟨by omega, String.le_trans htext htext'⟩

theorem specLE_total (a b : SpecRevisionRecord) :
    (Projections.specLE a b || Projections.specLE b a) = true := by
  simp only [Projections.specLE, Projections.textLE, Bool.or_eq_true, Bool.and_eq_true,
    decide_eq_true_eq]
  rcases Nat.lt_trichotomy a.firstSeenSequence.val b.firstSeenSequence.val with hlt | hsame | hgt
  · exact Or.inl (Or.inl hlt)
  · rcases String.le_total a.projectId.val b.projectId.val with htext | htext
    · exact Or.inl (Or.inr ⟨hsame, htext⟩)
    · exact Or.inr (Or.inr ⟨hsame.symm, htext⟩)
  · exact Or.inr (Or.inl hgt)

theorem sorted_of_rebuilt {tables : Projections.QueryTables}
    (htables : Projections.rebuildQueryTables F log = .ok tables) :
    tables.specRevisions.Pairwise fun a b => Projections.specLE a b = true := by
  obtain ⟨gathered, -, htables⟩ := Fold.bind_eq_ok.mp htables
  obtain ⟨rows, -, htables⟩ := Fold.bind_eq_ok.mp htables
  unfold Projections.replaceQueryTables at htables
  split_ifs at htables
  cases htables
  have htrans : ∀ a b c, Projections.specLE a b → Projections.specLE b c → Projections.specLE a c :=
    fun _ _ _ => specLE_trans
  exact List.pairwise_mergeSort htrans specLE_total _

/-- The table stands in the order of its sequences, no two of which are the same. -/
theorem ascending_tableItems {tables : Projections.QueryTables} (h : Recorded F db log)
    (htables : Projections.rebuildQueryTables F log = .ok tables) :
    Ascending.Keyed RevisionItem.firstSeenSequence (tableItems projectId tables.specRevisions) := by
  have hreplayed := replayed_of_rebuilt h htables
  have hnodup := List.pairwise_map.mp hreplayed.keyed.specRevisions
  rw [tableItems, Ascending.Keyed, List.pairwise_map]
  refine List.Pairwise.filter _ ?_
  refine ((sorted_of_rebuilt htables).and hnodup).imp_of_mem fun {a b} ha hb hle => ?_
  obtain ⟨hle, hne⟩ := hle
  have hsequences : a.firstSeenSequence.val ≠ b.firstSeenSequence.val := by
    intro hsame
    have hascending := ascending_log h
    obtain ⟨event, hevent, hentry, -⟩ :=
      (FirstSeen.first_filterMap_iff hascending).mp ((hreplayed.specRevisions a).mp ha)
    obtain ⟨other, hother, hfound, -⟩ :=
      (FirstSeen.first_filterMap_iff hascending).mp ((hreplayed.specRevisions b).mp hb)
    obtain ⟨-, -, -, hfirst, -⟩ := specRevision_eq_some.mp hentry
    obtain ⟨-, -, -, hfirst', -⟩ := specRevision_eq_some.mp hfound
    rw [hfirst, hfirst'] at hsame
    obtain rfl := List.inj_on_of_nodup_map (sequence_nodup h) hevent hother hsame
    rw [hentry, Option.some.injEq] at hfound
    exact hne (congrArg Prod.fst hfound)
  simp only [Projections.specLE, Bool.or_eq_true, Bool.and_eq_true, decide_eq_true_eq] at hle
  change a.firstSeenSequence.val < b.firstSeenSequence.val
  omega

theorem groupItem_sequence {group : Nat × Nat} {item : RevisionItem}
    (h : groupItem log group = some item) : item.firstSeenSequence = group.2 := by
  obtain ⟨_, -, h⟩ := Option.bind_eq_some_iff.mp h
  obtain ⟨_, -, rfl⟩ := Option.map_eq_some_iff.mp h
  rfl

theorem ascending_groupItems (h : Recorded F db log) :
    Ascending.Keyed RevisionItem.firstSeenSequence
      ((logGroups projectId log).filterMap (groupItem log)) := by
  refine List.Pairwise.filterMap _ (fun a b hlt item hitem other hother => ?_)
    (@ascending_logGroups F db log projectId h)
  rw [groupItem_sequence hitem, groupItem_sequence hother]
  exact hlt

/-! When the pages show the table. -/

/-- A revision that the pages show is one of the table; without a loss, the table has no other. -/
theorem groupItems_eq_table {tables : Projections.QueryTables} (h : Recorded F db log)
    (htables : Projections.rebuildQueryTables F log = .ok tables)
    (hdrops : DropsNothing projectId log) :
    (logGroups projectId log).filterMap (groupItem log) =
      tableItems projectId tables.specRevisions := by
  refine (ascending_groupItems h).eq_of_mem_iff (ascending_tableItems h htables) fun item => ?_
  rw [mem_groupItems h, mem_tableItems (replayed_of_rebuilt h htables) (ascending_log h)]
  refine exists_congr fun event => and_congr_right fun hevent => and_congr_right fun hnames =>
    and_congr_right fun _ => ⟨fun hleast other hother hother' => ?_,
      fun hleast other hother hcites hsame => ?_⟩
  · exact hleast other hother hother'.1
  · -- The first text of the revision is a digest, or it is malformed and this fact comes first.
    by_contra hlater
    obtain ⟨first, hfirst, ⟨hfirstCites, hfirstSame⟩, hfirstLeast⟩ := (ascending_log h).exists_least
      (p := fun fact => Cites projectId fact ∧
        fact.data.experimentRevision.val = event.data.experimentRevision.val)
      ⟨other, hother, hcites, hsame⟩
    have hbefore := hfirstLeast other hother ⟨hcites, hsame⟩
    by_cases hfirstNames : Names projectId first
    · have := hleast first hfirst hfirstNames hfirstSame
      omega
    · have hmalformed : Malformed projectId log first :=
        ⟨hfirstCites, hfirstNames, fun fact hfact hfactCites hfactSame =>
          hfirstLeast fact hfact ⟨hfactCites, hfactSame.trans hfirstSame⟩⟩
      obtain ⟨earlier, hearlier, hearlierNames, hearlierSame, hlt⟩ :=
        hdrops first hfirst hmalformed event hevent hnames (by omega)
      have := hleast earlier hearlier hearlierNames hearlierSame
      omega

/-- Without a loss, no group that is shown stands behind one that is left out. -/
theorem shown_first (h : Recorded F db log) (hdrops : DropsNothing projectId log) :
    (logGroups projectId log).Pairwise fun a b =>
      (groupItem log b).isSome = true → (groupItem log a).isSome = true := by
  refine (ascending_logGroups h).imp_of_mem fun {a b} ha hb hlt hshown => ?_
  obtain ⟨revision, first⟩ := a
  obtain ⟨revision', first'⟩ := b
  obtain ⟨⟨event, hevent, hcites, rfl, rfl⟩, hleast⟩ := mem_logGroups.mp ha
  obtain ⟨⟨other, hother, hcites', rfl, rfl⟩, hleast'⟩ := mem_logGroups.mp hb
  rw [groupItem_of_mem h hother] at hshown
  rw [groupItem_of_mem h hevent]
  by_contra hlost
  have hmalformed : Malformed projectId log event :=
    ⟨hcites, fun hnames => hlost hnames.2, fun fact hfact hfactCites hsame =>
      hleast fact hfact hfactCites hsame⟩
  obtain ⟨earlier, hearlier, hearlierNames, hsame, hbefore⟩ :=
    hdrops event hevent hmalformed other hother ⟨hcites', hshown⟩ hlt
  have := hleast' earlier hearlier hearlierNames.1 hsame
  have hlt' : event.sequence.val < other.sequence.val := hlt
  omega

/-- Pages of one revision that show the table have lost nothing. -/
theorem dropsNothing_of_single {tables : Projections.QueryTables} (h : Recorded F db log)
    (htables : Projections.rebuildQueryTables F log = .ok tables)
    (hshown : ((logGroups projectId log).takeWhile fun group => (groupItem log group).isSome).filterMap
      (groupItem log) = tableItems projectId tables.specRevisions) : DropsNothing projectId log := by
  intro event hevent ⟨hcites, hunnamed, hleast⟩ other hother hnames hlt
  obtain ⟨first, hfirst, ⟨hfirstNames, hfirstSame⟩, hfirstLeast⟩ := (ascending_log h).exists_least
    (p := fun fact => Names projectId fact ∧
      fact.data.experimentRevision.val = other.data.experimentRevision.val)
    ⟨other, hother, hnames, rfl⟩
  refine ⟨first, hfirst, hfirstNames, hfirstSame, ?_⟩
  by_contra hlater
  have hne : event.sequence.val ≠ first.sequence.val := by
    intro hsame
    obtain rfl := List.inj_on_of_nodup_map (sequence_nodup h) hevent hfirst hsame
    exact hunnamed hfirstNames
  obtain ⟨item, hitem⟩ := Option.isSome_iff_exists.mp hfirstNames.2
  have hmem : item ∈ tableItems projectId tables.specRevisions :=
    (mem_tableItems (replayed_of_rebuilt h htables) (ascending_log h)).mpr ⟨first, hfirst,
      hfirstNames, hitem, fun fact hfact hfactNames hsame =>
        hfirstLeast fact hfact ⟨hfactNames, hsame.trans hfirstSame⟩⟩
  rw [← hshown, List.mem_filterMap] at hmem
  obtain ⟨group, hgroup, hgroupItem⟩ := hmem
  have hsequence : group.2 = first.sequence.val := by
    rw [← groupItem_sequence hgroupItem]
    obtain ⟨_, -, rfl⟩ := Option.map_eq_some_iff.mp hitem
    rfl
  have hlost : (event.data.experimentRevision.val, event.sequence.val) ∈ logGroups projectId log :=
    mem_logGroups.mpr ⟨⟨event, hevent, hcites, rfl, rfl⟩, hleast⟩
  have hbefore : event.sequence.val < group.2 := by omega
  have hnamed := (ascending_logGroups h).of_takeWhile hlost hgroup hbefore
  rw [groupItem_of_mem h hevent] at hnamed
  exact hunnamed ⟨hcites, hnamed⟩

/-! The listing. -/

theorem length_logGroups_le : (logGroups projectId log).length ≤ log.length := by
  rw [logGroups, (SortBy.sortBy_perm _ _).length_eq]
  exact Groups.length_groups_le.trans (List.length_filter_le _ _)

theorem stands_first (calls : Nat → List AppendCall) :
    Stands projectId db log (requestStores F db calls) 0 none (logGroups projectId log) := by
  refine ⟨0, rfl, (List.filter_eq_self.mpr fun group hgroup => decide_eq_true ?_).symm⟩
  obtain ⟨⟨event, -, -, -, hsequence⟩, -⟩ := mem_logGroups.mp hgroup
  rw [← hsequence]
  exact (inRange_iff.mp event.sequence.property).1

theorem listing_of_dropsNothing {tables : Projections.QueryTables} {fuel : Nat}
    (h : Recorded F db log) (htables : Projections.rebuildQueryTables F log = .ok tables)
    (hproject : isBoundedIdentifier projectId = true) (calls : Nat → List AppendCall)
    (hlimits : ∀ k, 1 ≤ (limits k).getD defaultPageLimit ∧
      (limits k).getD defaultPageLimit ≤ maxReadPageSize)
    (hfuel : log.length < fuel) (hdrops : DropsNothing projectId log) :
    followRevisions F projectId limits (requestStores F db calls) fuel 0 none =
      .ok (tableItems projectId tables.specRevisions, none) := by
  have hselects := @revisionPage_selects F db log projectId limits (requestStores F db calls) h
    hproject requestStores_extends hlimits
  obtain ⟨items, hfollow, hfirst, hwithin⟩ := Pages.follow_selects hselects (fun k => (hlimits k).1)
    (stands_first calls) (length_logGroups_le.trans_lt hfuel)
  rw [Pages.filterMap_takeWhile (shown_first h hdrops)] at hfirst
  rw [hwithin.eq_of_length_le hfirst.length_le, groupItems_eq_table h htables hdrops] at hfollow
  exact hfollow

theorem dropsNothing_of_listing {tables : Projections.QueryTables} {fuel : Nat}
    (h : Recorded F db log) (htables : Projections.rebuildQueryTables F log = .ok tables)
    (hproject : isBoundedIdentifier projectId = true) (calls : Nat → List AppendCall)
    (hfuel : log.length < fuel)
    (hlisting : followRevisions F projectId (fun _ => some 1) (requestStores F db calls) fuel 0 none =
      .ok (tableItems projectId tables.specRevisions, none)) : DropsNothing projectId log := by
  have hselects := @revisionPage_selects F db log projectId (fun _ => some 1)
    (requestStores F db calls) h hproject requestStores_extends fun _ => by decide
  have hfollow := Pages.follow_single hselects (stands_first calls)
    (length_logGroups_le.trans_lt hfuel)
  have hsame := hfollow.symm.trans hlisting
  rw [Except.ok.injEq, Prod.mk.injEq] at hsame
  exact dropsNothing_of_single h htables hsame.1

def queuedFields (id specDigest : String) : Json :=
  .obj [("data", .obj [("actor", .obj [("id", .str "operator")]), ("evidenceRefs", .arr []),
    ("experimentRevision", .int 1), ("payload", .obj [("specDigest", .str specDigest)]),
    ("projectId", .str "project"), ("schemaVersion", .str "v0alpha1")]),
    ("datacontenttype", .str "application/json"),
    ("dataschema", .str researchEventSchemaId), ("id", .str id),
    ("source", .str "urn:trial"), ("specversion", .str "1.0"), ("streamid", .str "stream"),
    ("subject", .str "subject"), ("time", .str "2026-01-01T00:00:00Z"),
    ("type", .str "run.queued")]

def malformedCall : AppendCall :=
  ⟨⟨queuedFields "event-1" "draft", by decide⟩, .null, .aware trialTime, fun _ => none⟩

def namedCall : AppendCall :=
  ⟨⟨queuedFields "event-2" Projections.trialDigest, by decide⟩, .null, .aware trialTime,
    fun _ => none⟩

def queuedLog : Except StoreError EventLog := do
  let first ← EventLog.append [] malformedCall.document malformedCall.token
  let second ← EventLog.append [first] namedCall.document namedCall.token
  .ok [first, second]

theorem queuedLog_recorded : ∃ db log, queuedLog = .ok log ∧ Recorded JsonText.scientific db log := by
  have hcreated : createSchema (.aware trialTime) = .ok trialStore := rfl
  have hfirst : malformedCall.commits JsonText.scientific trialStore = true := by decide +kernel
  have hsecond : namedCall.commits JsonText.scientific
      ((append JsonText.scientific malformedCall).exec trialStore).2 = true := by decide +kernel
  obtain ⟨first, hadded, hrecorded⟩ :=
    recorded_of_commits (createSchema_recorded hcreated) hfirst
  obtain ⟨second, hadded', hrecorded'⟩ := recorded_of_commits hrecorded hsecond
  refine ⟨_, [first, second], ?_, hrecorded'⟩
  simp only [queuedLog, hadded, bind, Except.bind]
  exact hadded' ▸ rfl

theorem fold_of_unnamed (h : ∀ event ∈ log, event.data.runId = none) (p : Runs.RunStateProjection) :
    p.fold log = .ok none := by
  unfold Runs.RunStateProjection.fold
  induction log with
  | nil => rfl
  | cons event rest ih =>
    obtain ⟨hevent, hrest⟩ := List.forall_mem_cons.mp h
    rw [List.foldlM_cons, Runs.RunStateProjection.apply,
      if_neg (Projections.not_belongs_of_none hevent p)]
    exact ih hrest

end ResearchOs.Web
