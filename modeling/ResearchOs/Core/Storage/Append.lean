import ResearchOs.Data.Transaction
import ResearchOs.Data.Fold
import ResearchOs.Core.Storage.Model
import ResearchOs.Events.Model

/-! Event drafts, and the fields that the store assigns. -/
namespace ResearchOs.Storage

/-- A Python value built of JSON types. -/
abbrev Document := Checked Json.canonical

/-- `_STORE_ASSIGNED_FIELDS`, sorted. -/
def storeAssignedFields : List String := ["sequence", "sequencetype", "streamversion"]

/-- The members of a draft completed by the fields of the store. -/
def assigned (ms : Json.Members) (sequence : SequenceNumber) (streamVersion : StreamVersion) :
    Json.Members :=
  Json.insert "streamversion" (.int streamVersion.val)
    (Json.insert "sequencetype" (.str "Integer")
      (Json.insert "sequence" (.str (sequenceText sequence)) ms))

theorem canonical_assigned {ms : Json.Members} {sequence : SequenceNumber}
    {streamVersion : StreamVersion} (h : (Json.obj ms).canonical = true) :
    (Json.obj (assigned ms sequence streamVersion)).canonical = true :=
  Json.canonical_insert rfl (Json.canonical_insert rfl (Json.canonical_insert rfl h))

theorem all_insert {p : String → Bool} {key : String} {value : Json} {ms : Json.Members}
    (hkey : p key = true) : (Json.insert key value ms).all (fun m => p m.1) =
      ms.all fun m => p m.1 := by
  induction ms with
  | nil => simp [Json.insert, hkey]
  | cons m ms ih =>
    obtain ⟨k, v⟩ := m
    simp only [Json.insert]
    split
    · simp [hkey]
    · split
      · rename_i heq
        subst heq
        simp
      · simp [ih]

theorem closed_assigned {keys : List String} (hkeys : storeAssignedFields.all keys.contains = true)
    (ms : Json.Members) (sequence : SequenceNumber) (streamVersion : StreamVersion) :
    Strict.closed keys (.obj (assigned ms sequence streamVersion)) =
      if ms.all (fun m => keys.contains m.1) then some (assigned ms sequence streamVersion)
      else none := by
  simp only [storeAssignedFields, List.all_cons, List.all_nil, Bool.and_eq_true] at hkeys
  obtain ⟨hsequence, htype, hversion, -⟩ := hkeys
  rw [Strict.closed_obj, assigned, all_insert hversion, all_insert htype, all_insert hsequence]

theorem lookup_assigned {key : String} (hkey : key ∉ storeAssignedFields) (ms : Json.Members)
    (sequence : SequenceNumber) (streamVersion : StreamVersion) :
    (assigned ms sequence streamVersion).lookup key = ms.lookup key := by
  simp only [storeAssignedFields, List.mem_cons, List.not_mem_nil, or_false, not_or] at hkey
  obtain ⟨hsequence, htype, hversion⟩ := hkey
  rw [assigned, Json.lookup_insert_of_ne _ _ hversion, Json.lookup_insert_of_ne _ _ htype,
    Json.lookup_insert_of_ne _ _ hsequence]

theorem required_assigned {α : Type} {key : String} (decode : Json → Option α)
    (hkey : key ∉ storeAssignedFields) (ms : Json.Members) (sequence : SequenceNumber)
    (streamVersion : StreamVersion) :
    Strict.required (assigned ms sequence streamVersion) key decode =
      Strict.required ms key decode := by
  rw [Strict.required, lookup_assigned hkey, Strict.required]

theorem defaulted_assigned {α : Type} {key : String} (default : α) (decode : Json → Option α)
    (hkey : key ∉ storeAssignedFields) (ms : Json.Members) (sequence : SequenceNumber)
    (streamVersion : StreamVersion) :
    Strict.defaulted (assigned ms sequence streamVersion) key default decode =
      Strict.defaulted ms key default decode := by
  rw [Strict.defaulted, lookup_assigned hkey, Strict.defaulted]

theorem required_sequence (ms : Json.Members) (n : SequenceNumber) (v : StreamVersion) :
    Strict.required (assigned ms n v) "sequence" sequenceInteger = some n := by
  rw [Strict.required, assigned, Json.lookup_insert_of_ne _ _ (by decide),
    Json.lookup_insert_of_ne _ _ (by decide), Json.lookup_insert_self, Option.bind_some,
    sequenceInteger_sequenceText]

theorem required_sequencetype (ms : Json.Members) (n : SequenceNumber) (v : StreamVersion) :
    Strict.required (assigned ms n v) "sequencetype" (Strict.literal "Integer") = some () := by
  rw [Strict.required, assigned, Json.lookup_insert_of_ne _ _ (by decide),
    Json.lookup_insert_self]
  rfl

theorem required_streamversion (ms : Json.Members) (n : SequenceNumber) (v : StreamVersion) :
    Strict.required (assigned ms n v) "streamversion" (Strict.natural _) = some v := by
  rw [Strict.required, assigned, Json.lookup_insert_self, Option.bind_some, Strict.natural_int]

theorem map_bind {α β γ : Type} (x : Option α) (f : α → Option β) (g : β → γ) :
    (x.bind f).map g = x.bind fun a => (f a).map g := Option.map_bind

/-- Validation reads the assigned fields back, and of the rest of the draft nothing else. -/
theorem validate_assigned (ms : Json.Members) (n n' : SequenceNumber) (v v' : StreamVersion) :
    validateEventDocument (.obj (assigned ms n v)) =
      (validateEventDocument (.obj (assigned ms n' v'))).map fun event => event.placed n v := by
  have hrequired := fun {α : Type} (key : String) (hkey : key ∉ storeAssignedFields)
    (decode : Json → Option α) => required_assigned decode hkey ms
  have hdefaulted := fun {α : Type} (key : String) (hkey : key ∉ storeAssignedFields)
    (default : α) (decode : Json → Option α) => defaulted_assigned default decode hkey ms
  rw [validateEventDocument, validateEventDocument, closed_assigned (by decide),
    closed_assigned (by decide)]
  split
  · simp only [Option.bind_eq_bind, Option.bind_some, map_bind, required_sequence,
      required_sequencetype, required_streamversion, hrequired "specversion" (by decide),
      hrequired "id" (by decide), hrequired "source" (by decide), hrequired "type" (by decide),
      hrequired "time" (by decide), hrequired "subject" (by decide),
      hrequired "dataschema" (by decide), hrequired "datacontenttype" (by decide),
      hrequired "data" (by decide), hrequired "streamid" (by decide),
      hdefaulted "correlationid" (by decide), hdefaulted "causationid" (by decide),
      Option.map_some, ResearchEvent.placed]
  · rfl

/-- The place of a validated event is the one that was assigned. -/
theorem place_of_validate {ms : Json.Members} {n : SequenceNumber} {v : StreamVersion}
    {event : ResearchEvent} (h : validateEventDocument (.obj (assigned ms n v)) = some event) :
    event.sequence = n ∧ event.streamversion = v := by
  have hplaced := validate_assigned ms n n v v
  rw [h] at hplaced
  have hevent : event = event.placed n v := Option.some.inj hplaced
  exact ⟨congrArg ResearchEvent.sequence hevent, congrArg ResearchEvent.streamversion hevent⟩

end ResearchOs.Storage

/-! Reading a row back: its JSON, its digest and its index columns must agree. -/
namespace ResearchOs.Storage

open JsonText (FloatText)

/-- A value of an index column. -/
inductive Column where
  | integer (n : Nat)
  | text (s : Option String)
  deriving DecidableEq

def EventRow.indexColumns (row : EventRow) : List (String × Column) := [
  ("sequence", .integer row.sequence.val),
  ("event_id", .text row.eventId),
  ("stream_id", .text row.streamId),
  ("stream_version", .integer row.streamVersion.val),
  ("event_type", .text row.eventType),
  ("occurred_at", .text row.occurredAt),
  ("project_id", .text row.projectId),
  ("run_id", .text row.runId),
  ("attempt_id", .text row.attemptId),
  ("correlation_id", .text row.correlationId),
  ("causation_id", .text row.causationId),
  ("schema_version", .text row.schemaVersion)]

def expectedColumns (event : ResearchEvent) : List (String × Column) := [
  ("sequence", .integer event.sequence.val),
  ("event_id", .text event.id.val),
  ("stream_id", .text event.streamid.val),
  ("stream_version", .integer event.streamversion.val),
  ("event_type", .text event.type.val),
  ("occurred_at", .text event.time.val),
  ("project_id", .text event.data.projectId.val),
  ("run_id", .text (event.data.runId.map Subtype.val)),
  ("attempt_id", .text (event.data.attemptId.map Subtype.val)),
  ("correlation_id", .text (event.correlationid.map Subtype.val)),
  ("causation_id", .text (event.causationid.map Subtype.val)),
  ("schema_version", .text "v0alpha1")]

/-- The row that the store writes for an event. -/
def eventRow (event : ResearchEvent) (recordedAt eventJson : String) (digest : Sha256Digest) :
    EventRow where
  sequence := event.sequence
  eventId := event.id.val
  streamId := event.streamid.val
  streamVersion := event.streamversion
  eventType := event.type.val
  occurredAt := event.time.val
  recordedAt := recordedAt
  projectId := event.data.projectId.val
  runId := event.data.runId.map Subtype.val
  attemptId := event.data.attemptId.map Subtype.val
  correlationId := event.correlationid.map Subtype.val
  causationId := event.causationid.map Subtype.val
  schemaVersion := "v0alpha1"
  eventJson := eventJson
  eventDigest := digest

/-- The text of a list of names in a message. -/
def namesText (names : List String) : String :=
  "[" ++ ", ".intercalate (names.map fun name => "'" ++ name ++ "'") ++ "]"

def mismatchedColumns (row : EventRow) (event : ResearchEvent) : List String :=
  (((row.indexColumns.zip (expectedColumns event)).filter fun p => p.1.2 != p.2.2).map
    fun p => p.1.1).mergeSort

/-- The document and the event of a stored JSON text. -/
def decodeEventJson (F : FloatText) (eventJson : String) : Option (Json × ResearchEvent) :=
  match JsonText.loads F eventJson with
  | some (.obj ms) =>
    if legacyCanonicalJson F (.obj ms) = some eventJson then
      (validateEventDocument (.obj ms)).map fun event => (.obj ms, event)
    else none
  | _ => none

/-- `_stored_event_from_row` -/
def storedEventFromRow (F : FloatText) (row : EventRow) : Except StoreError StoredEvent :=
  match decodeEventJson F row.eventJson with
  | none => .error (.integrity "stored event JSON is invalid")
  | some (document, event) =>
    if legacyContentDigest F document ≠ some row.eventDigest then
      .error (.integrity ("event digest mismatch: " ++ event.id.val))
    else if mismatchedColumns row event ≠ [] then
      .error (.integrity ("event index columns disagree with canonical JSON for " ++ event.id.val ++
        ": " ++ namesText (mismatchedColumns row event)))
    else if isRecordedTimestamp row.recordedAt = false then
      .error (.integrity ("recorded_at is not canonical UTC for " ++ event.id.val))
    else .ok ⟨event, row.recordedAt, row.eventDigest⟩

theorem mismatchedColumns_eq_nil {row : EventRow} {event : ResearchEvent} :
    mismatchedColumns row event = [] ↔ row.indexColumns = expectedColumns event := by
  rw [mismatchedColumns, ← List.length_eq_zero_iff, List.length_mergeSort, List.length_map,
    List.length_eq_zero_iff]
  simp [EventRow.indexColumns, expectedColumns]

/-- The row written for a canonical document reads back as its event. -/
theorem storedEventFromRow_eventRow {F : FloatText} {ms : Json.Members} {event : ResearchEvent}
    {eventJson : String} {digest : Sha256Digest} {utc : UtcDateTime}
    (hcanonical : (Json.obj ms).canonical = true)
    (hevent : validateEventDocument (.obj ms) = some event)
    (hjson : legacyCanonicalJson F (.obj ms) = some eventJson)
    (hdigest : legacyContentDigest F (.obj ms) = some digest) :
    storedEventFromRow F (eventRow event utc.isoformat eventJson digest) =
      .ok ⟨event, utc.isoformat, digest⟩ := by
  have hloads : JsonText.loads F eventJson = some (.obj ms) :=
    JsonText.loads_dumps hcanonical hjson
  have hdecode : decodeEventJson F eventJson = some (.obj ms, event) := by
    simp [decodeEventJson, hloads, hjson, hevent]
  have hcolumns : mismatchedColumns (eventRow event utc.isoformat eventJson digest) event = [] :=
    mismatchedColumns_eq_nil.mpr rfl
  have hstamp : isRecordedTimestamp (eventRow event utc.isoformat eventJson digest).recordedAt =
      true := isRecordedTimestamp_isoformat utc
  unfold storedEventFromRow
  rw [show (eventRow event utc.isoformat eventJson digest).eventJson = eventJson from rfl, hdecode]
  simp only [hcolumns, hstamp]
  exact if_neg (not_not_intro hdigest)

/-- The sequence column of a row that reads back is its event's sequence. -/
theorem sequence_of_storedEventFromRow {F : FloatText} {row : EventRow} {stored : StoredEvent}
    (h : storedEventFromRow F row = .ok stored) :
    stored.sequence = row.sequence.val ∧ stored.digest = row.eventDigest := by
  unfold storedEventFromRow at h
  split at h
  · cases h
  · rename_i document event hdecode
    split_ifs at h with hdigest hcolumns hstamp
    have hequal := mismatchedColumns_eq_nil.mp (not_not.mp hcolumns)
    simp only [EventRow.indexColumns, expectedColumns, List.cons.injEq, Prod.mk.injEq,
      Column.integer.injEq, true_and] at hequal
    cases h
    exact ⟨hequal.1.symm, rfl⟩

end ResearchOs.Storage

/-! `EventStore.append`: one event, its row and the checkpoint in one transaction. -/
namespace ResearchOs.Storage

open JsonText (FloatText)
open Transaction (lift query write)

/-- The statements of the append transaction, each of which may fail. -/
inductive AppendStatement where
  | begin
  | selectEventId
  | selectLastSequence
  | selectLastStreamVersion
  | insertEvent
  | replaceCheckpoint
  | commit

/-- One call, with what the clock and the database do while it runs. -/
structure AppendCall where
  document : Document
  expectedLastSequence : Json
  clock : ClockReading
  faults : AppendStatement → Option SqliteError

/-- `_validate_expected_last_sequence` -/
def validateExpectedLastSequence : Json → Except StoreError (Option Nat)
  | .null => .ok none
  | .int n =>
    if n < 0 ∨ (cloudEventsIntegerMax : Int) < n then
      .error (.value "expected_last_sequence is outside the supported sequence range")
    else .ok (some n.toNat)
  | _ => .error (.value "expected_last_sequence must be an integer")

/-- The members of a draft that leaves the assigned fields to the store. -/
def draftMembers : Json → Except StoreError Json.Members
  | .obj ms =>
    let supplied := storeAssignedFields.filter fun key => (ms.lookup key).isSome
    if supplied = [] then .ok ms
    else .error (.append ("the event store assigns sequence, sequencetype and streamversion; " ++
      "caller supplied: " ++ namesText supplied))
  | _ => .error (.append "event draft must be a JSON object")

def firstSequence : SequenceNumber := ⟨1, .refl true⟩

def firstStreamVersion : StreamVersion := ⟨0, .refl true⟩

/-- The draft as the first event of an empty store. -/
def preflightEvent (ms : Json.Members) : Except StoreError ResearchEvent :=
  match validateEventDocument (.obj (assigned ms firstSequence firstStreamVersion)) with
  | some event => .ok event
  | none => .error (.append "event draft failed ResearchEvent validation")

def raised (fault : Option SqliteError) : Except StoreError Unit :=
  match fault with
  | none => .ok ()
  | some error => .error (.sqlite error)

/-- `SELECT COALESCE(MAX(sequence), 0)` -/
def Database.lastSequence (db : Database) : Nat :=
  (db.events.rows.map fun r => r.sequence.val).foldr max 0

/-- `SELECT COALESCE(MAX(stream_version), -1)`, plus one. -/
def Database.nextStreamVersion (db : Database) (streamId : String) : Nat :=
  ((db.events.rows.filter fun r => r.streamId = streamId).map
    fun r => r.streamVersion.val + 1).foldr max 0

def requireNewEventId (id : String) (db : Database) : Except StoreError Unit :=
  if db.events.rows.any fun r => r.eventId = id then
    .error (.duplicateEvent ("event id already exists: " ++ id))
  else .ok ()

def requireExpectedHead (expectedHead : Option Nat) (db : Database) : Except StoreError Unit :=
  match expectedHead with
  | none => .ok ()
  | some expected =>
    if expected = db.lastSequence then .ok ()
    else .error (.sequenceConflict expected db.lastSequence)

def allocateSequence (db : Database) : Except StoreError SequenceNumber :=
  if h : db.lastSequence < cloudEventsIntegerMax then
    .ok ⟨db.lastSequence + 1, inRange_succ h⟩
  else .error (.append "global event sequence is exhausted")

def allocateStreamVersion (streamId : String) (db : Database) : Except StoreError StreamVersion :=
  if h : db.nextStreamVersion streamId ≤ cloudEventsIntegerMax then
    .ok ⟨db.nextStreamVersion streamId, inRange_zero h⟩
  else .error (.append ("event stream version is exhausted: " ++ streamId))

/-- The event of the completed draft, its JSON and its digest. -/
def completeEvent (F : FloatText) (ms : Json.Members) (sequence : SequenceNumber)
    (streamVersion : StreamVersion) : Except StoreError (ResearchEvent × String × Sha256Digest) :=
  let document := Json.obj (assigned ms sequence streamVersion)
  match validateEventDocument document with
  | none => .error (.append "allocated event failed ResearchEvent validation")
  | some event =>
    match legacyCanonicalJson F document, legacyContentDigest F document with
    | some eventJson, some digest => .ok (event, eventJson, digest)
    | _, _ => .error (.value "canonical JSON requires writable values")

def insertEvent (fault : Option SqliteError) (row : EventRow) (db : Database) :
    Except StoreError Database :=
  match fault, db.events.insert row with
  | some .operational, _ => .error (.sqlite .operational)
  | none, some events => .ok { db with events := events }
  | _, _ => .error (.append "SQLite rejected the append-only event row")

/-- `_replace_checkpoint` -/
def replaceCheckpoint (fault : Option SqliteError) (highWater : Nat)
    (lastEventDigest : Option Sha256Digest) (verifiedEventCount : Nat) (recordedAt : String)
    (db : Database) : Except StoreError Database :=
  let row : CheckpointRow :=
    ⟨highWater, lastEventDigest, schemaDefinitionDigest, verifiedEventCount, recordedAt⟩
  match fault with
  | some error => .error (.sqlite error)
  | none =>
    if row.isAllowed then .ok { db with checkpoint := some row } else .error (.sqlite .integrity)

/-- `_immediate_transaction` -/
def immediateTransaction {α : Type} (faults : AppendStatement → Option SqliteError)
    (body : Transaction Database StoreError α) : Transaction Database StoreError α :=
  Transaction.atomically do
    lift (raised (faults .begin))
    let a ← body
    lift (raised (faults .commit))
    pure a

/-- The body of the append transaction. -/
def appendRow (F : FloatText) (call : AppendCall) (expectedHead : Option Nat) (ms : Json.Members)
    (preflight : ResearchEvent) : Transaction Database StoreError StoredEvent := do
  lift (raised (call.faults .selectEventId))
  query (requireNewEventId preflight.id.val)
  lift (raised (call.faults .selectLastSequence))
  query (requireExpectedHead expectedHead)
  let sequence ← query allocateSequence
  lift (raised (call.faults .selectLastStreamVersion))
  let streamVersion ← query (allocateStreamVersion preflight.streamid.val)
  let (event, eventJson, digest) ← lift (completeEvent F ms sequence streamVersion)
  let recordedAt ← lift (recordedTimestamp call.clock)
  write (insertEvent (call.faults .insertEvent) (eventRow event recordedAt eventJson digest))
  write (replaceCheckpoint (call.faults .replaceCheckpoint) sequence.val (some digest) sequence.val
    recordedAt)
  pure ⟨event, recordedAt, digest⟩

def append (F : FloatText) (call : AppendCall) : Transaction Database StoreError StoredEvent := do
  let expectedHead ← lift (validateExpectedLastSequence call.expectedLastSequence)
  let ms ← lift (draftMembers call.document.val)
  let preflight ← lift (preflightEvent ms)
  immediateTransaction call.faults (appendRow F call expectedHead ms preflight)

end ResearchOs.Storage
