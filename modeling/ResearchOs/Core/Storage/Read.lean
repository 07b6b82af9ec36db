import ResearchOs.Data.Ascending
import ResearchOs.Core.Storage.Protocol

/-! An accepted append reads back as the event it returned, now and after every later append. -/
namespace ResearchOs.Storage

open JsonText (FloatText)

variable {F : FloatText} {call : AppendCall} {db db' : Database} {row : EventRow}
  {stored : StoredEvent}

/-- The row passes every check of a read. -/
def Readable (F : FloatText) (row : EventRow) : Prop := ∃ stored, storedEventFromRow F row = .ok stored

/-- A later store: the rows of the earlier one, and readable rows after them. -/
def Extends (F : FloatText) (db later : Database) : Prop :=
  ∃ rest, later.events.rows = db.events.rows ++ rest ∧ ∀ row ∈ rest, Readable F row

theorem Extends.refl (F : FloatText) (db : Database) : Extends F db db :=
  ⟨[], (List.append_nil _).symm, fun _ h => absurd h List.not_mem_nil⟩

theorem Extends.trans {mid later : Database} (h : Extends F db mid) (h' : Extends F mid later) :
    Extends F db later := by
  obtain ⟨rest, hrows, hreads⟩ := h
  obtain ⟨rest', hrows', hreads'⟩ := h'
  refine ⟨rest ++ rest', by rw [hrows', hrows, List.append_assoc], ?_⟩
  intro row hrow
  obtain hrow | hrow := List.mem_append.mp hrow
  · exact hreads row hrow
  · exact hreads' row hrow

theorem Appended.extends (h : Appended F call db row stored db') : Extends F db db' := by
  refine ⟨[row], h.rows, fun other hother => ?_⟩
  rw [List.mem_singleton.mp hother]
  exact ⟨stored, h.reads⟩

/-- Whatever the calls, a run of appends only extends the store. -/
theorem run_extends (db : Database) (calls : List AppendCall) :
    Extends F db ((appendStore F).run db calls) := by
  refine (appendStore F).run_invariant (P := Extends F db) ?_ (.refl F db) calls
  intro later call hlater hcommits
  obtain ⟨row, stored, happended⟩ := AppendCall.appended hcommits
  exact hlater.trans happended.extends

/-- What a row says of the draft that was accepted for it, and of the event that was returned. -/
structure RoundTrip (F : FloatText) (call : AppendCall) (row : EventRow) (stored : StoredEvent) :
    Prop where
  reads : storedEventFromRow F row = .ok stored
  document : ∃ ms, draftMembers call.document.val = .ok ms ∧
    legacyCanonicalJson F (.obj (assigned ms row.sequence row.streamVersion)) =
      some row.eventJson ∧
    legacyContentDigest F (.obj (assigned ms row.sequence row.streamVersion)) =
      some row.eventDigest ∧
    JsonText.loads F row.eventJson = some (.obj (assigned ms row.sequence row.streamVersion)) ∧
    validateEventDocument (.obj (assigned ms row.sequence row.streamVersion)) = some stored.event
  columns : row.indexColumns = expectedColumns stored.event
  recordedAt : stored.recordedAt = row.recordedAt
  digest : stored.digest = row.eventDigest
  sequence : stored.sequence = row.sequence.val

theorem Appended.roundTrip (h : Appended F call db row stored db') :
    RoundTrip F call row stored := by
  obtain ⟨ms, hms, hvalid⟩ := h.document
  obtain ⟨ms', hms', hjson, hdigest⟩ := h.written
  rw [hms] at hms'
  cases hms'
  have hcanonical : (Json.obj (assigned ms row.sequence row.streamVersion)).canonical = true :=
    canonical_assigned (draftMembers_ok hms ▸ call.document.property)
  have hloads := JsonText.loads_dumps hcanonical hjson
  have hreads := h.reads
  obtain ⟨hsequence, hsame⟩ := sequence_of_storedEventFromRow hreads
  refine ⟨h.reads, ⟨ms, hms, hjson, hdigest, hloads, hvalid⟩, ?_, ?_, hsame, hsequence⟩
  · unfold storedEventFromRow at hreads
    split at hreads
    · cases hreads
    · split_ifs at hreads with _ hcolumns _
      cases hreads
      exact mismatchedColumns_eq_nil.mp (not_not.mp hcolumns)
  · unfold storedEventFromRow at hreads
    split at hreads
    · cases hreads
    · split_ifs at hreads
      cases hreads
      rfl

/-- The row of an accepted draft reads back as the event that was returned; it stays where it is,
and nothing that is appended later is ever unreadable. -/
theorem append_read_round_trip {F : FloatText} {call : AppendCall} {db db' : Database}
    {stored : StoredEvent} (h : (append F call).exec db = (.ok stored, db')) :
    ∃ row, db'.events.rows = db.events.rows ++ [row] ∧ RoundTrip F call row stored ∧
      ∀ calls, ∃ rest, ((appendStore F).run db' calls).events.rows =
          db.events.rows ++ row :: rest ∧
        (∀ later ∈ rest, Readable F later) ∧
        ((appendStore F).run db' calls).events.rows.find?
          (fun r => r.eventId = stored.event.id.val) = some row := by
  obtain ⟨row, happended⟩ := append_ok h
  have htrip := happended.roundTrip
  refine ⟨row, happended.rows, htrip, fun calls => ?_⟩
  obtain ⟨rest, hrows, hreads⟩ := run_extends (F := F) db' calls
  have hsplit : ((appendStore F).run db' calls).events.rows = db.events.rows ++ row :: rest := by
    rw [hrows, happended.rows, List.append_assoc, List.singleton_append]
  refine ⟨rest, hsplit, hreads, ?_⟩
  have hid : row.eventId = stored.event.id.val := by
    have hcolumns := htrip.columns
    simp only [EventRow.indexColumns, expectedColumns, List.cons.injEq, Prod.mk.injEq,
      Column.text.injEq, Option.some.injEq, true_and] at hcolumns
    exact hcolumns.2.1
  have hunique := ((appendStore F).run db' calls).events.eventIdsAreUnique
  have hmem : row ∈ ((appendStore F).run db' calls).events.rows := by
    rw [hsplit]
    exact List.mem_append_right _ List.mem_cons_self
  rw [← hid]
  cases hfind : ((appendStore F).run db' calls).events.rows.find? fun r =>
      r.eventId = row.eventId with
  | none =>
    have hnone := List.find?_eq_none.mp hfind row hmem
    simp at hnone
  | some found =>
    have hfound : found.eventId = row.eventId := by simpa using List.find?_some hfind
    rw [List.inj_on_of_nodup_map hunique (List.mem_of_find?_eq_some hfind) hmem hfound]

theorem append_read_round_trip_trial : ∃ stored appended row,
    (append JsonText.scientific (trialCall (.int 0))).exec trialStore = (.ok stored, appended) ∧
      appended.events.rows = [row] ∧
      RoundTrip JsonText.scientific (trialCall (.int 0)) row stored := by
  have hcommits : (trialCall (.int 0)).commits JsonText.scientific trialStore = true := by
    decide +kernel
  rcases hexec : (append JsonText.scientific (trialCall (.int 0))).exec trialStore
    with ⟨_ | stored, appended⟩
  · simp [AppendCall.commits, hexec, Except.toOption] at hcommits
  · obtain ⟨row, hrows, htrip, -⟩ := append_read_round_trip hexec
    exact ⟨stored, appended, row, rfl, hrows, htrip⟩

end ResearchOs.Storage

/-! `read_events`: a bounded page of verified rows. -/
namespace ResearchOs.Storage

open JsonText (FloatText)

def maxReadPageSize : Nat := 1000

/-- The arguments of `read_events`. -/
structure ReadQuery where
  afterSequence : Nat
  limit : Nat
  untilSequence : Option Nat
  eventTypes : Option (List String)
  projectId : Option String
  runId : Option String
  eventId : Option String
  newestFirst : Bool

def requireValue (condition : Prop) [Decidable condition] (message : String) :
    Except StoreError Unit :=
  if condition then .ok () else .error (.value message)

def isBoundedIdentifier (value : String) : Bool :=
  decide (1 ≤ value.length) && decide (value.length ≤ 255)

namespace ReadQuery

def validate (query : ReadQuery) : Except StoreError Unit := do
  requireValue (query.afterSequence ≤ cloudEventsIntegerMax)
    "after_sequence is outside the supported sequence range"
  requireValue (1 ≤ query.limit ∧ query.limit ≤ maxReadPageSize)
    "limit must be an integer in 1..1000"
  requireValue (query.untilSequence.all (fun value => decide (value ≤ cloudEventsIntegerMax)) = true)
    "until_sequence is outside the supported sequence range"
  requireValue ((query.eventTypes.getD []).dedup.length ≤ 32)
    "event_types exceeds the closed list limit"
  requireValue ("" ∉ query.eventTypes.getD []) "event_types entries must be non-empty strings"
  requireValue (query.projectId.all isBoundedIdentifier = true)
    "project_id must be a bounded identifier"
  requireValue (query.runId.all isBoundedIdentifier = true) "run_id must be a bounded identifier"
  requireValue (query.eventId.all isBoundedIdentifier = true)
    "event_id must be a bounded identifier"

/-- The clauses that filter the rows, apart from their sequence. -/
def admits (query : ReadQuery) (row : EventRow) : Bool :=
  query.projectId.all (fun value => decide (row.projectId = value)) &&
    query.runId.all (fun value => decide (row.runId = some value)) &&
    query.eventId.all (fun value => decide (row.eventId = value)) &&
    query.untilSequence.all (fun value => decide (row.sequence.val ≤ value)) &&
    query.eventTypes.all (fun types => decide (row.eventType ∈ types))

/-- The rows of the query, before its limit. -/
def select (query : ReadQuery) (rows : List EventRow) : List EventRow :=
  let selected := (rows.filter query.admits).filter fun row =>
    query.afterSequence < row.sequence.val
  if query.newestFirst then selected.reverse else selected

end ReadQuery

/-- `read_events`; no type at all selects no row. -/
def readEvents (F : FloatText) (query : ReadQuery) (events : EventsTable) :
    Except StoreError (List StoredEvent) := do
  query.validate
  ((query.select events.rows).take query.limit).mapM (storedEventFromRow F)

/-! Rows that read back. -/

variable {F : FloatText} {row : EventRow} {stored : StoredEvent}

theorem requireValue_ok {condition : Prop} [Decidable condition] {message : String} {u : Unit} :
    requireValue condition message = .ok u ↔ condition := by
  by_cases h : condition <;> simp [requireValue, h]

theorem ReadQuery.validate_ok {query : ReadQuery} {u : Unit} : query.validate = .ok u ↔
    query.afterSequence ≤ cloudEventsIntegerMax ∧
      (1 ≤ query.limit ∧ query.limit ≤ maxReadPageSize) ∧
      query.untilSequence.all (fun value => decide (value ≤ cloudEventsIntegerMax)) = true ∧
      (query.eventTypes.getD []).dedup.length ≤ 32 ∧ "" ∉ query.eventTypes.getD [] ∧
      query.projectId.all isBoundedIdentifier = true ∧ query.runId.all isBoundedIdentifier = true ∧
      query.eventId.all isBoundedIdentifier = true := by
  simp only [ReadQuery.validate, Fold.bind_eq_ok, requireValue_ok, exists_and_left, exists_const]

/-- A row fails to read only as an integrity failure. -/
theorem integrity_of_storedEventFromRow {e : StoreError}
    (h : storedEventFromRow F row = .error e) : ∃ message, e = .integrity message := by
  unfold storedEventFromRow at h
  split at h
  · cases h
    exact ⟨_, rfl⟩
  · split_ifs at h
    all_goals
      cases h
      exact ⟨_, rfl⟩

theorem sequence_of_reads (h : storedEventFromRow F row = .ok stored) :
    stored.sequence = row.sequence.val :=
  (sequence_of_storedEventFromRow h).1

theorem columns_of_reads (h : storedEventFromRow F row = .ok stored) :
    row.indexColumns = expectedColumns stored.event := by
  unfold storedEventFromRow at h
  split at h
  · cases h
  · split_ifs at h with _ hcolumns _
    cases h
    exact mismatchedColumns_eq_nil.mp (not_not.mp hcolumns)

theorem projectId_of_reads (h : storedEventFromRow F row = .ok stored) :
    stored.event.data.projectId.val = row.projectId := by
  have hcolumns := columns_of_reads h
  simp only [EventRow.indexColumns, expectedColumns, List.cons.injEq, Prod.mk.injEq,
    Column.text.injEq, Option.some.injEq, true_and] at hcolumns
  exact hcolumns.2.2.2.2.2.2.1.symm

/-- The rows of an extended store: those of the store, and readable ones above them. -/
theorem Extends.above {db later : Database} (h : Extends F db later) :
    ∃ rest, later.events.rows = db.events.rows ++ rest ∧ (∀ row ∈ rest, Readable F row) ∧
      ∀ row ∈ rest, db.lastSequence < row.sequence.val := by
  obtain ⟨rest, hrows, hreads⟩ := h
  refine ⟨rest, hrows, hreads, fun row hrow => ?_⟩
  have hascending := later.events.ascending
  rw [hrows] at hascending
  have hcross := (List.pairwise_append.mp hascending).2.2
  have hbelow : ∀ n ∈ db.events.rows.map (fun r => r.sequence.val), n < row.sequence.val := by
    intro n hn
    obtain ⟨r, hr, rfl⟩ := List.mem_map.mp hn
    exact hcross r hr row hrow
  have hpositive : 0 < row.sequence.val := (inRange_iff.mp row.sequence.property).1
  unfold Database.lastSequence
  revert hbelow
  generalize db.events.rows.map (fun r => r.sequence.val) = sequences
  intro hbelow
  induction sequences with
  | nil => exact hpositive
  | cons n ns ih =>
    have hn := hbelow n List.mem_cons_self
    have hns := ih fun m hm => hbelow m (List.mem_cons_of_mem n hm)
    exact max_lt hn hns

theorem Extends.lastSequence_le {db later : Database} (h : Extends F db later) :
    db.lastSequence ≤ later.lastSequence := by
  obtain ⟨rest, hrows, -⟩ := h
  unfold Database.lastSequence
  rw [hrows, List.map_append]
  induction db.events.rows.map (fun r => r.sequence.val) with
  | nil => exact Nat.zero_le _
  | cons n ns ih => exact max_le_max (le_refl n) ih

end ResearchOs.Storage
