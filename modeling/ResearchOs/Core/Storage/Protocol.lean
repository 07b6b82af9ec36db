import Mathlib.Data.List.MinMax
import ResearchOs.Data.CompareAndSwap
import ResearchOs.Core.Storage.Append

/-! The append protocol: what the tables hold after any interleaving of appends. -/
namespace ResearchOs.Storage

open JsonText (FloatText)

theorem EventsTable.rows_of_insert {table table' : EventsTable} {row : EventRow}
    (h : table.insert row = some table') : table'.rows = insertRow row table.rows := by
  unfold EventsTable.insert at h
  split at h
  · cases h
  · cases h
    rfl

theorem Database.le_lastSequence {db : Database} {r : EventRow} (h : r ∈ db.events.rows) :
    r.sequence.val ≤ db.lastSequence :=
  List.le_max_of_le (List.mem_map_of_mem h) le_rfl

theorem insertEvent_ok {fault : Option SqliteError} {row : EventRow} {db db' : Database}
    (h : insertEvent fault row db = .ok db') (hrow : db.lastSequence < row.sequence.val) :
    db'.events.rows = db.events.rows ++ [row] ∧ db'.runProjections = db.runProjections := by
  unfold insertEvent at h
  split at h
  · cases h
  · rename_i events hinsert
    cases h
    refine ⟨?_, rfl⟩
    rw [EventsTable.rows_of_insert hinsert]
    exact insertRow_of_forall_lt fun r hr => lt_of_le_of_lt (Database.le_lastSequence hr) hrow
  · cases h

theorem replaceCheckpoint_ok {fault : Option SqliteError} {highWater verifiedEventCount : Nat}
    {lastEventDigest : Option Sha256Digest} {recordedAt : String} {db db' : Database}
    (h : replaceCheckpoint fault highWater lastEventDigest verifiedEventCount recordedAt db =
      .ok db') :
    db' = { db with
      checkpoint := some ⟨highWater, lastEventDigest, schemaDefinitionDigest, verifiedEventCount,
        recordedAt⟩ } := by
  unfold replaceCheckpoint at h
  split at h
  · cases h
  · dsimp only at h
    split_ifs at h
    cases h
    rfl

theorem recordedTimestamp_ok {clock : ClockReading} {s : String}
    (h : recordedTimestamp clock = .ok s) : ∃ utc : UtcDateTime, s = utc.isoformat := by
  cases clock with
  | aware utc =>
    cases h
    exact ⟨utc, rfl⟩
  | naive => cases h
  | raises => cases h

theorem draftMembers_ok {document : Json} {ms : Json.Members} (h : draftMembers document = .ok ms) :
    document = .obj ms := by
  cases document with
  | obj ms' =>
    dsimp only [draftMembers] at h
    split_ifs at h
    cases h
    rfl
  | _ => cases h

theorem preflightEvent_ok {ms : Json.Members} {event : ResearchEvent}
    (h : preflightEvent ms = .ok event) :
    validateEventDocument (.obj (assigned ms firstSequence firstStreamVersion)) = some event := by
  unfold preflightEvent at h
  split at h
  · rename_i preflight hvalid
    cases h
    exact hvalid
  · cases h

theorem requireExpectedHead_ok {expectedHead : Option Nat} {db : Database} {u : Unit}
    (h : requireExpectedHead expectedHead db = .ok u) :
    ∀ v, expectedHead = some v → db.lastSequence = v := by
  rintro v rfl
  simp only [requireExpectedHead] at h
  split_ifs at h with hv
  exact hv.symm

theorem allocateSequence_ok {db : Database} {sequence : SequenceNumber}
    (h : allocateSequence db = .ok sequence) : sequence.val = db.lastSequence + 1 := by
  unfold allocateSequence at h
  split_ifs at h
  cases h
  rfl

theorem allocateStreamVersion_ok {streamId : String} {db : Database} {streamVersion : StreamVersion}
    (h : allocateStreamVersion streamId db = .ok streamVersion) :
    streamVersion.val = db.nextStreamVersion streamId := by
  unfold allocateStreamVersion at h
  split_ifs at h
  cases h
  rfl

/-- The completed event is the preflight event at its allocated place. -/
theorem completeEvent_ok {F : FloatText} {ms : Json.Members} {sequence : SequenceNumber}
    {streamVersion : StreamVersion} {event preflight : ResearchEvent} {eventJson : String}
    {digest : Sha256Digest} (hpreflight : preflightEvent ms = .ok preflight)
    (h : completeEvent F ms sequence streamVersion = .ok (event, eventJson, digest)) :
    event = preflight.placed sequence streamVersion ∧
      validateEventDocument (.obj (assigned ms sequence streamVersion)) = some event ∧
      legacyCanonicalJson F (.obj (assigned ms sequence streamVersion)) = some eventJson ∧
      legacyContentDigest F (.obj (assigned ms sequence streamVersion)) = some digest := by
  dsimp only [completeEvent] at h
  split at h
  · cases h
  · rename_i event' hevent
    split at h
    · rename_i eventJson' digest' hjson hdigest
      cases h
      refine ⟨?_, hevent, hjson, hdigest⟩
      rw [validate_assigned ms sequence firstSequence streamVersion firstStreamVersion,
        preflightEvent_ok hpreflight] at hevent
      cases hevent
      rfl
    · cases h

/-- What an append that returns did to the database. -/
structure Appended (F : FloatText) (call : AppendCall) (db : Database) (row : EventRow)
    (stored : StoredEvent) (db' : Database) : Prop where
  expected : ∀ v, validateExpectedLastSequence call.expectedLastSequence = .ok (some v) →
    db.lastSequence = v
  document : ∃ ms, draftMembers call.document.val = .ok ms ∧
    validateEventDocument (.obj (assigned ms row.sequence row.streamVersion)) = some stored.event
  written : ∃ ms, draftMembers call.document.val = .ok ms ∧
    legacyCanonicalJson F (.obj (assigned ms row.sequence row.streamVersion)) =
      some row.eventJson ∧
    legacyContentDigest F (.obj (assigned ms row.sequence row.streamVersion)) =
      some row.eventDigest
  sequence : row.sequence.val = db.lastSequence + 1
  streamVersion : row.streamVersion.val = db.nextStreamVersion row.streamId
  rows : db'.events.rows = db.events.rows ++ [row]
  checkpoint : db'.checkpoint = some ⟨row.sequence.val, some row.eventDigest,
    schemaDefinitionDigest, row.sequence.val, row.recordedAt⟩
  runProjections : db'.runProjections = db.runProjections
  reads : storedEventFromRow F row = .ok stored

theorem append_ok {F : FloatText} {call : AppendCall} {db db' : Database} {stored : StoredEvent}
    (h : (append F call).exec db = (.ok stored, db')) :
    ∃ row, Appended F call db row stored db' := by
  simp only [append, immediateTransaction, appendRow, Transaction.exec_bind_ok,
    Transaction.exec_lift_ok, Transaction.exec_query_ok, Transaction.exec_write_ok,
    Transaction.exec_atomically_ok, Transaction.exec_pure, and_assoc, exists_and_left,
    exists_eq_left] at h
  obtain ⟨expectedHead, hexpected, ms, hms, preflight, hpreflight, _, -, _, _, hbody, _, -,
    hcommit⟩ := h
  obtain ⟨_, -, _, -, _, -, _, hhead, sequence, hsequence, _, -, streamVersion, hversion,
    ⟨event, eventJson, digest⟩, hcomplete, recordedAt, hclock, _, inserted, hinsert, _, replaced,
    hreplace, hreturn⟩ := hbody
  cases hreturn
  cases hcommit
  obtain ⟨rfl, hvalid, hjson, hdigest⟩ := completeEvent_ok hpreflight hcomplete
  obtain ⟨utc, rfl⟩ := recordedTimestamp_ok hclock
  have hlast := allocateSequence_ok hsequence
  obtain ⟨hrows, hprojections⟩ := insertEvent_ok hinsert (hlast ▸ Nat.lt_succ_self _)
  cases replaceCheckpoint_ok hreplace
  have hdocument := draftMembers_ok hms
  have hcanonical : (Json.obj (assigned ms sequence streamVersion)).canonical = true :=
    canonical_assigned (hdocument ▸ call.document.property)
  exact ⟨_, {
    expected := fun v hv => requireExpectedHead_ok hhead v (by
      rw [hexpected] at hv
      cases hv
      rfl)
    document := ⟨ms, hms, hvalid⟩
    written := ⟨ms, hms, hjson, hdigest⟩
    sequence := hlast
    streamVersion := allocateStreamVersion_ok hversion
    rows := hrows
    checkpoint := rfl
    runProjections := hprojections
    reads := storedEventFromRow_eventRow hcanonical hvalid hjson hdigest }⟩

/-- The tables hold a contiguous log, and the checkpoint is its head. -/
structure AppendLog (db : Database) : Prop where
  sequences : db.events.rows.map (fun r => r.sequence.val) =
    List.range' 1 db.events.rows.length
  eventIds : (db.events.rows.map EventRow.eventId).Nodup
  streamVersions : ∀ streamId, ((db.events.rows.filter fun r => r.streamId = streamId).map
    fun r => r.streamVersion.val) =
      List.range (db.events.rows.filter fun r => r.streamId = streamId).length
  checkpoint : ∃ recordedAt, db.checkpoint = some ⟨db.events.rows.length,
    db.events.rows.getLast?.map EventRow.eventDigest, schemaDefinitionDigest,
    db.events.rows.length, recordedAt⟩

theorem foldr_max_concat (xs : List Nat) (x : Nat) :
    (xs ++ [x]).foldr max 0 = max (xs.foldr max 0) x := by
  induction xs with
  | nil => simp
  | cons y ys ih => simp [ih, max_assoc]

theorem foldr_max_range' (n : Nat) : (List.range' 1 n).foldr max 0 = n := by
  induction n with
  | zero => rfl
  | succ n ih =>
    rw [List.range'_1_concat, foldr_max_concat, ih]
    omega

theorem AppendLog.lastSequence {db : Database} (h : AppendLog db) :
    db.lastSequence = db.events.rows.length := by
  rw [Database.lastSequence, h.sequences, foldr_max_range']

theorem AppendLog.nextStreamVersion {db : Database} (h : AppendLog db) (streamId : String) :
    db.nextStreamVersion streamId =
      (db.events.rows.filter fun r => r.streamId = streamId).length := by
  have hsucc : ((db.events.rows.filter fun r => r.streamId = streamId).map
      fun r => r.streamVersion.val + 1) =
        List.range' 1 (db.events.rows.filter fun r => r.streamId = streamId).length := by
    have hmap := congrArg (List.map (· + 1)) (h.streamVersions streamId)
    rw [List.map_map] at hmap
    rw [List.range'_eq_map_range]
    simpa [Function.comp_def, Nat.add_comm] using hmap
  rw [Database.nextStreamVersion, hsucc, foldr_max_range']

variable {F : FloatText} {call : AppendCall} {db db' : Database} {row : EventRow}
  {stored : StoredEvent}

theorem Appended.lastSequence (h : Appended F call db row stored db') :
    db'.lastSequence = db.lastSequence + 1 := by
  rw [Database.lastSequence, h.rows, List.map_append, List.map_singleton, foldr_max_concat,
    ← Database.lastSequence, h.sequence]
  omega

theorem Appended.appendLog (h : Appended F call db row stored db') (hlog : AppendLog db) :
    AppendLog db' where
  sequences := by
    rw [h.rows, List.map_append, hlog.sequences, List.length_append, List.map_singleton,
      h.sequence, hlog.lastSequence, List.length_singleton, List.range'_1_concat, Nat.add_comm 1]
  eventIds := db'.events.eventIdsAreUnique
  streamVersions := by
    intro streamId
    have hversions := hlog.streamVersions streamId
    rw [h.rows, List.filter_append, List.map_append, hversions]
    by_cases hstream : row.streamId = streamId
    · have hversion := hlog.nextStreamVersion streamId
      subst hstream
      simp [h.streamVersion, hversion, List.range_succ]
    · simp [hstream]
  checkpoint := by
    refine ⟨row.recordedAt, ?_⟩
    rw [h.checkpoint, h.rows]
    simp [h.sequence, hlog.lastSequence]

theorem append_atomic (F : FloatText) (call : AppendCall) : Transaction.Atomic (append F call) := by
  apply Transaction.Atomic.bind (Transaction.readOnly_lift _)
  intro expectedHead
  apply Transaction.Atomic.bind (Transaction.readOnly_lift _)
  intro ms
  apply Transaction.Atomic.bind (Transaction.readOnly_lift _)
  intro preflight
  exact Transaction.atomic_atomically _

/-- The expected head that a call names, when it is well formed. -/
def AppendCall.token (call : AppendCall) : Option Nat :=
  (validateExpectedLastSequence call.expectedLastSequence).toOption.join

theorem AppendCall.expected_of_token {call : AppendCall} {v : Nat} (h : call.token = some v) :
    validateExpectedLastSequence call.expectedLastSequence = .ok (some v) := by
  unfold AppendCall.token at h
  cases hexpected : validateExpectedLastSequence call.expectedLastSequence with
  | error e => simp [hexpected, Except.toOption] at h
  | ok expected => simpa [hexpected, Except.toOption] using h

/-- The call returns. -/
def AppendCall.commits (F : FloatText) (db : Database) (call : AppendCall) : Bool :=
  ((append F call).exec db).1.toOption.isSome

theorem AppendCall.appended (h : call.commits F db = true) :
    ∃ row stored, Appended F call db row stored ((append F call).exec db).2 := by
  rcases hexec : (append F call).exec db with ⟨_ | stored, db'⟩
  · simp [AppendCall.commits, hexec, Except.toOption] at h
  · obtain ⟨row, happended⟩ := append_ok hexec
    exact ⟨row, stored, happended⟩

/-- The store as a version counter: its global head. -/
def appendStore (F : FloatText) : CompareAndSwap Database AppendCall where
  step db call := ((append F call).exec db).2
  commits db call := call.commits F db
  version := Database.lastSequence
  token := AppendCall.token
  version_lt := by
    intro db call h
    obtain ⟨row, stored, happended⟩ := AppendCall.appended h
    rw [happended.lastSequence]
    exact Nat.lt_succ_self _
  step_eq := by
    intro db call h
    rcases hexec : (append F call).exec db with ⟨e | stored, db'⟩
    · exact append_atomic F call db e db' hexec
    · simp [AppendCall.commits, hexec, Except.toOption] at h
  version_eq := by
    intro db call v h htoken
    obtain ⟨row, stored, happended⟩ := AppendCall.appended h
    exact happended.expected v (AppendCall.expected_of_token htoken)

/-- `_create_schema` on a fresh file. -/
def createSchema (clock : ClockReading) : Except StoreError Database := do
  let appliedAt ← recordedTimestamp clock
  replaceCheckpoint none 0 none 0 appliedAt ⟨EventsTable.empty, none, []⟩

theorem createSchema_ok {clock : ClockReading} {created : Database}
    (h : createSchema clock = .ok created) : ∃ appliedAt, created =
      ⟨EventsTable.empty, some ⟨0, none, schemaDefinitionDigest, 0, appliedAt⟩, []⟩ := by
  obtain ⟨appliedAt, -, hreplace⟩ := Fold.bind_eq_ok.mp h
  exact ⟨appliedAt, replaceCheckpoint_ok hreplace⟩

theorem createSchema_appendLog {clock : ClockReading} {created : Database}
    (h : createSchema clock = .ok created) : AppendLog created := by
  obtain ⟨appliedAt, rfl⟩ := createSchema_ok h
  exact ⟨rfl, .nil, fun _ => rfl, ⟨appliedAt, rfl⟩⟩

theorem appendLog_run {calls : List AppendCall} (h : AppendLog db) :
    AppendLog ((appendStore F).run db calls) := by
  apply (appendStore F).run_invariant (P := AppendLog) _ h
  intro db call hlog hcommits
  obtain ⟨row, stored, happended⟩ := AppendCall.appended hcommits
  exact happended.appendLog hlog

/-- Any interleaving of appends keeps a contiguous log under its checkpoint, an append that
raises has no effect, and at most one commits with a given expected head. -/
theorem append_protocol (F : FloatText) {clock : ClockReading} {created : Database}
    (h : createSchema clock = .ok created) (calls : List AppendCall) :
    AppendLog ((appendStore F).run created calls) ∧
      (∀ p ∈ (appendStore F).trace created calls, ∀ e db',
        (append F p.2).exec p.1 = (.error e, db') → db' = p.1) ∧
      ∀ v, ((appendStore F).winners v created calls).length ≤ 1 := by
  refine ⟨appendLog_run (createSchema_appendLog h), ?_, ?_⟩
  · intro p _ e db' hexec
    exact append_atomic F p.2 p.1 e db' hexec
  · intro v
    exact (appendStore F).winners_length_le_one v created calls

/-! Two clients that both expect an empty store. -/

def trialDraft : Document :=
  ⟨.obj [("data", .obj [("actor", .obj [("id", .str "operator")]), ("evidenceRefs", .arr []),
      ("experimentRevision", .int 1), ("payload", .obj []), ("projectId", .str "project"),
      ("schemaVersion", .str "v0alpha1")]),
    ("datacontenttype", .str "application/json"),
    ("dataschema", .str researchEventSchemaId), ("id", .str "event-1"),
    ("source", .str "urn:trial"), ("specversion", .str "1.0"), ("streamid", .str "stream"),
    ("subject", .str "subject"), ("time", .str "2026-01-01T00:00:00Z"),
    ("type", .str "note.recorded")], by decide⟩

def trialTime : UtcDateTime := ⟨⟨2026, 1, 1, 0, 0, 0, 0⟩, by decide⟩

def trialCall (expectedLastSequence : Json) : AppendCall :=
  ⟨trialDraft, expectedLastSequence, .aware trialTime, fun _ => none⟩

def trialStore : Database :=
  ⟨EventsTable.empty, some ⟨0, none, schemaDefinitionDigest, 0, trialTime.isoformat⟩, []⟩

example : (trialCall (.int 0)).commits JsonText.scientific trialStore = true := by decide +kernel

theorem append_protocol_trial : createSchema (.aware trialTime) = .ok trialStore ∧
    ((appendStore JsonText.scientific).winners 0 trialStore
      [trialCall (.int 0), trialCall (.int 0)]).length ≤ 1 :=
  ⟨rfl, (append_protocol JsonText.scientific
    (show createSchema (.aware trialTime) = .ok trialStore from rfl) _).2.2 0⟩

end ResearchOs.Storage
