import ResearchOs.Core.Storage.Protocol

/-! The event log of a store: its events in sequence order. -/
namespace ResearchOs.Storage

open JsonText (FloatText)

abbrev EventLog := List ResearchEvent

namespace EventLog

/-- `get_event` -/
def getEvent (log : EventLog) (id : String) : Option ResearchEvent :=
  log.find? fun event => event.id.val = id

def nextStreamVersion (log : EventLog) (streamId : String) : Nat :=
  (log.filter fun event => event.streamid.val = streamId).length

def requireNewEventId (log : EventLog) (id : String) : Except StoreError Unit :=
  if log.any fun event => event.id.val = id then
    .error (.duplicateEvent ("event id already exists: " ++ id))
  else .ok ()

def requireExpectedHead (log : EventLog) : Option Nat → Except StoreError Unit
  | none => .ok ()
  | some expected =>
    if expected = log.length then .ok () else .error (.sequenceConflict expected log.length)

def allocateSequence (log : EventLog) : Except StoreError SequenceNumber :=
  if h : log.length < cloudEventsIntegerMax then
    .ok ⟨log.length + 1, inRange_succ h⟩
  else .error (.append "global event sequence is exhausted")

def allocateStreamVersion (log : EventLog) (streamId : String) : Except StoreError StreamVersion :=
  if h : log.nextStreamVersion streamId ≤ cloudEventsIntegerMax then
    .ok ⟨log.nextStreamVersion streamId, inRange_zero h⟩
  else .error (.append ("event stream version is exhausted: " ++ streamId))

/-- The event that an append adds to the log. -/
def append (log : EventLog) (document : Document) (expectedHead : Option Nat) :
    Except StoreError ResearchEvent := do
  let ms ← draftMembers document.val
  let preflight ← preflightEvent ms
  log.requireNewEventId preflight.id.val
  log.requireExpectedHead expectedHead
  let sequence ← log.allocateSequence
  let streamVersion ← log.allocateStreamVersion preflight.streamid.val
  .ok (preflight.placed sequence streamVersion)

end EventLog

/-- What an accepted append adds. -/
structure EventLog.Added (log : EventLog) (document : Document) (expectedHead : Option Nat)
    (event : ResearchEvent) : Prop where
  document : ∃ ms, draftMembers document.val = .ok ms ∧
    validateEventDocument (.obj (assigned ms event.sequence event.streamversion)) = some event
  fresh : ∀ earlier ∈ log, earlier.id ≠ event.id
  expected : ∀ v, expectedHead = some v → log.length = v
  sequence : event.sequence.val = log.length + 1
  streamversion : event.streamversion.val = log.nextStreamVersion event.streamid.val

theorem EventLog.append_ok {log : EventLog} {document : Document} {expectedHead : Option Nat}
    {event : ResearchEvent} (h : log.append document expectedHead = .ok event) :
    log.Added document expectedHead event := by
  obtain ⟨ms, hms, h⟩ := Fold.bind_eq_ok.mp h
  obtain ⟨preflight, hpreflight, h⟩ := Fold.bind_eq_ok.mp h
  obtain ⟨_, hfresh, h⟩ := Fold.bind_eq_ok.mp h
  obtain ⟨_, hexpected, h⟩ := Fold.bind_eq_ok.mp h
  obtain ⟨sequence, hsequence, h⟩ := Fold.bind_eq_ok.mp h
  obtain ⟨streamVersion, hversion, h⟩ := Fold.bind_eq_ok.mp h
  cases h
  refine ⟨⟨ms, hms, ?_⟩, ?_, ?_, ?_, ?_⟩
  · have hvalid := preflightEvent_ok hpreflight
    change validateEventDocument (.obj (assigned ms sequence streamVersion)) = _
    rw [validate_assigned ms sequence firstSequence streamVersion firstStreamVersion, hvalid]
    rfl
  · intro earlier hearlier heq
    unfold EventLog.requireNewEventId at hfresh
    split_ifs at hfresh with hany
    have hid : earlier.id = preflight.id := heq
    apply hany
    exact List.any_eq_true.mpr ⟨earlier, hearlier, by simp [hid]⟩
  · rintro v rfl
    simp only [EventLog.requireExpectedHead] at hexpected
    split_ifs at hexpected with hv
    exact hv.symm
  · unfold EventLog.allocateSequence at hsequence
    split_ifs at hsequence
    cases hsequence
    rfl
  · unfold EventLog.allocateStreamVersion at hversion
    split_ifs at hversion
    cases hversion
    rfl

/-! The tables of the store hold the log. -/

def Reads (F : FloatText) (row : EventRow) (event : ResearchEvent) : Prop :=
  ∃ stored, storedEventFromRow F row = .ok stored ∧ stored.event = event

structure Recorded (F : FloatText) (db : Database) (log : EventLog) : Prop where
  appendLog : AppendLog db
  reads : List.Forall₂ (Reads F) db.events.rows log

theorem Reads.columns {F : FloatText} {row : EventRow} {event : ResearchEvent}
    (h : Reads F row event) : row.indexColumns = expectedColumns event := by
  obtain ⟨stored, hread, rfl⟩ := h
  unfold storedEventFromRow at hread
  split at hread
  · cases hread
  · split_ifs at hread with hdigest hcolumns hstamp
    cases hread
    exact mismatchedColumns_eq_nil.mp (not_not.mp hcolumns)

/-- The columns of a row that the appends read. -/
theorem Reads.ids {F : FloatText} {row : EventRow} {event : ResearchEvent} (h : Reads F row event) :
    row.sequence = event.sequence ∧ row.eventId = event.id.val ∧
      row.streamId = event.streamid.val ∧ row.streamVersion = event.streamversion := by
  have hcolumns := h.columns
  simp only [EventRow.indexColumns, expectedColumns, List.cons.injEq, Prod.mk.injEq,
    Column.text.injEq, Column.integer.injEq, Option.some.injEq, true_and] at hcolumns
  exact ⟨Subtype.ext hcolumns.1, hcolumns.2.1, hcolumns.2.2.1, Subtype.ext hcolumns.2.2.2.1⟩

theorem any_eventId {F : FloatText} {rows : List EventRow} {log : EventLog}
    (h : List.Forall₂ (Reads F) rows log) (id : String) :
    (rows.any fun row => row.eventId = id) = log.any fun event => event.id.val = id := by
  induction h with
  | nil => rfl
  | cons hread _ ih => simp [hread.ids.2.1, ih]

theorem length_filter_streamId {F : FloatText} {rows : List EventRow} {log : EventLog}
    (h : List.Forall₂ (Reads F) rows log) (streamId : String) :
    (rows.filter fun row => row.streamId = streamId).length = log.nextStreamVersion streamId := by
  rw [EventLog.nextStreamVersion]
  induction h with
  | nil => rfl
  | cons hread _ ih =>
    rw [List.filter_cons, List.filter_cons, hread.ids.2.2.1]
    split <;> simp [ih]

variable {F : FloatText} {db db' : Database} {log : EventLog}

theorem Recorded.lastSequence (h : Recorded F db log) : db.lastSequence = log.length :=
  h.appendLog.lastSequence.trans h.reads.length_eq

theorem Recorded.nextStreamVersion (h : Recorded F db log) (streamId : String) :
    db.nextStreamVersion streamId = log.nextStreamVersion streamId :=
  (h.appendLog.nextStreamVersion streamId).trans (length_filter_streamId h.reads streamId)

theorem createSchema_recorded {clock : ClockReading} {created : Database}
    (h : createSchema clock = .ok created) : Recorded F created [] := by
  refine ⟨createSchema_appendLog h, ?_⟩
  obtain ⟨appliedAt, rfl⟩ := createSchema_ok h
  exact .nil

/-- A row whose id is new in the table has a new id in the log. -/
theorem Appended.requireNewEventId {call : AppendCall} {row : EventRow} {stored : StoredEvent}
    (happended : Appended F call db row stored db') (h : Recorded F db log) :
    log.requireNewEventId stored.event.id.val = .ok () := by
  have hread : Reads F row stored.event := ⟨stored, happended.reads, rfl⟩
  have hunique := db'.events.eventIdsAreUnique
  rw [happended.rows, List.map_append, List.nodup_append] at hunique
  unfold EventLog.requireNewEventId
  rw [← any_eventId h.reads, if_neg]
  intro hany
  obtain ⟨earlier, hearlier, hid⟩ := List.any_eq_true.mp hany
  refine hunique.2.2 earlier.eventId (List.mem_map_of_mem hearlier) row.eventId (by simp) ?_
  rw [hread.ids.2.1]
  simpa using hid

theorem Appended.requireExpectedHead {call : AppendCall} {row : EventRow} {stored : StoredEvent}
    (happended : Appended F call db row stored db') (h : Recorded F db log) :
    log.requireExpectedHead call.token = .ok () := by
  cases htoken : call.token with
  | none => rfl
  | some v =>
    have hexpected := happended.expected v (AppendCall.expected_of_token htoken)
    rw [h.lastSequence] at hexpected
    exact if_pos hexpected.symm

/-- An append that returns adds to the log what the abstract append does. -/
theorem append_recorded {call : AppendCall} {stored : StoredEvent} (h : Recorded F db log)
    (happend : (append F call).exec db = (.ok stored, db')) :
    log.append call.document call.token = .ok stored.event ∧
      Recorded F db' (log ++ [stored.event]) := by
  obtain ⟨row, happended⟩ := append_ok happend
  have hread : Reads F row stored.event := ⟨stored, happended.reads, rfl⟩
  obtain ⟨hsequence, -, hstream, hversion⟩ := hread.ids
  constructor
  · obtain ⟨ms, hms, hvalid⟩ := happended.document
    have hpreflight : preflightEvent ms =
        .ok (stored.event.placed firstSequence firstStreamVersion) := by
      unfold preflightEvent
      rw [validate_assigned ms firstSequence row.sequence firstStreamVersion row.streamVersion,
        hvalid]
      rfl
    have hlast : log.allocateSequence = .ok stored.event.sequence := by
      have hnext := happended.sequence
      rw [h.lastSequence, hsequence] at hnext
      have hmax := stored.event.sequence.le_max
      rw [EventLog.allocateSequence, dif_pos (by omega)]
      exact congrArg Except.ok (Subtype.ext hnext.symm)
    have hcount : log.allocateStreamVersion stored.event.streamid.val =
        .ok stored.event.streamversion := by
      have hnext := happended.streamVersion
      rw [h.nextStreamVersion, hstream, hversion] at hnext
      have hmax := (inRange_iff.mp stored.event.streamversion.property).2
      rw [EventLog.allocateStreamVersion, dif_pos (by omega)]
      exact congrArg Except.ok (Subtype.ext hnext.symm)
    simp only [EventLog.append, hms, hpreflight, ResearchEvent.placed, bind, Except.bind,
      happended.requireNewEventId h, happended.requireExpectedHead h, hlast, hcount]
  · refine ⟨happended.appendLog h.appendLog, ?_⟩
    rw [happended.rows]
    exact List.rel_append h.reads (.cons hread .nil)

end ResearchOs.Storage
