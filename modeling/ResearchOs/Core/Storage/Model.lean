import Mathlib.Tactic.Ring
import ResearchOs.Canonical
import ResearchOs.Events.Model
import ResearchOs.Events.Scalars

/-! The store clock and the text of a recorded time. -/
namespace ResearchOs.Storage

structure DateTimeFields where
  year : Nat
  month : Nat
  day : Nat
  hour : Nat
  minute : Nat
  second : Nat
  microsecond : Nat

def DateTimeFields.isDateTime (t : DateTimeFields) : Bool :=
  decide (1 ≤ t.year ∧ t.year ≤ 9999 ∧ 1 ≤ t.month ∧ t.month ≤ 12 ∧ 1 ≤ t.day ∧
    t.day ≤ daysInMonth t.year t.month ∧ t.hour ≤ 23 ∧ t.minute ≤ 59 ∧ t.second ≤ 59 ∧
    t.microsecond ≤ 999999)

abbrev UtcDateTime := Checked DateTimeFields.isDateTime

/-- What the clock callable does: an aware datetime counts by its instant in UTC. -/
inductive ClockReading where
  | aware (utc : UtcDateTime)
  | naive
  | raises

def fixedDigits : Nat → Nat → List Char
  | 0, _ => []
  | width + 1, n => Nat.digitChar (n / 10 ^ width % 10) :: fixedDigits width n

/-- `value.isoformat(timespec="microseconds")` in UTC, ending in `Z`. -/
def UtcDateTime.isoformat (t : UtcDateTime) : String :=
  String.ofList <|
    fixedDigits 4 t.val.year ++ '-' :: (fixedDigits 2 t.val.month ++ '-' ::
      (fixedDigits 2 t.val.day ++ 'T' :: (fixedDigits 2 t.val.hour ++ ':' ::
        (fixedDigits 2 t.val.minute ++ ':' :: (fixedDigits 2 t.val.second ++ '.' ::
          (fixedDigits 6 t.val.microsecond ++ ['Z']))))))

def takeField (separator : Char) (width : Nat) (cs : List Char) : Option (Nat × List Char) := do
  takeDigits width 0 (← expectChar separator cs)

/-- The datetime of a text in the form that `isoformat` writes. -/
def fromIsoformat (s : String) : Option UtcDateTime := do
  let (year, cs) ← takeDigits 4 0 s.toList
  let (month, cs) ← takeField '-' 2 cs
  let (day, cs) ← takeField '-' 2 cs
  let (hour, cs) ← takeField 'T' 2 cs
  let (minute, cs) ← takeField ':' 2 cs
  let (second, cs) ← takeField ':' 2 cs
  let (microsecond, cs) ← takeField '.' 6 cs
  if cs = ['Z'] then
    Strict.checked _ ⟨year, month, day, hour, minute, second, microsecond⟩
  else none

/-- A recorded time that its own datetime is written as. -/
def isRecordedTimestamp (s : String) : Bool :=
  match fromIsoformat s with
  | none => false
  | some t => t.isoformat == s

theorem digitChar_isDigit : ∀ d, d < 10 →
    (Nat.digitChar d).isDigit = true ∧ (Nat.digitChar d).toNat - '0'.toNat = d := by
  decide

theorem takeDigits_fixedDigits (width n acc : Nat) (rest : List Char) :
    takeDigits width acc (fixedDigits width n ++ rest) =
      some (acc * 10 ^ width + n % 10 ^ width, rest) := by
  induction width generalizing acc with
  | zero => simp [fixedDigits, takeDigits, Nat.mod_one]
  | succ width ih =>
    obtain ⟨hdigit, hvalue⟩ := digitChar_isDigit (n / 10 ^ width % 10) (Nat.mod_lt _ (by decide))
    have hsplit : (10 * acc + n / 10 ^ width % 10) * 10 ^ width + n % 10 ^ width =
        acc * 10 ^ (width + 1) + n % 10 ^ (width + 1) := by
      rw [Nat.mod_pow_succ, Nat.pow_succ]
      ring
    simp only [fixedDigits, List.cons_append, takeDigits, hdigit, if_true, ih, hvalue, hsplit]

theorem takeDigits_fixedDigits_of_lt {width n : Nat} (h : n < 10 ^ width) (rest : List Char) :
    takeDigits width 0 (fixedDigits width n ++ rest) = some (n, rest) := by
  simp [takeDigits_fixedDigits, Nat.mod_eq_of_lt h]

theorem takeField_fixedDigits {separator : Char} {width n : Nat} (h : n < 10 ^ width)
    (rest : List Char) :
    takeField separator width (separator :: (fixedDigits width n ++ rest)) = some (n, rest) := by
  simp [takeField, expectChar, takeDigits_fixedDigits_of_lt h]

theorem fromIsoformat_isoformat (t : UtcDateTime) : fromIsoformat t.isoformat = some t := by
  have ht := t.property
  simp only [DateTimeFields.isDateTime, decide_eq_true_eq] at ht
  obtain ⟨-, hyear, -, hmonth, -, hday, hhour, hminute, hsecond, hmicrosecond⟩ := ht
  have hdays : daysInMonth t.val.year t.val.month ≤ 31 := by
    unfold daysInMonth
    split_ifs <;> decide
  have hyear : t.val.year < 10 ^ 4 := by omega
  have hmonth : t.val.month < 10 ^ 2 := by omega
  have hday : t.val.day < 10 ^ 2 := by omega
  have hhour : t.val.hour < 10 ^ 2 := by omega
  have hminute : t.val.minute < 10 ^ 2 := by omega
  have hsecond : t.val.second < 10 ^ 2 := by omega
  have hmicrosecond : t.val.microsecond < 10 ^ 6 := by omega
  rw [fromIsoformat, UtcDateTime.isoformat, String.toList_ofList,
    takeDigits_fixedDigits_of_lt hyear]
  simp only [Option.bind_eq_bind, Option.bind_some, takeField_fixedDigits hmonth,
    takeField_fixedDigits hday, takeField_fixedDigits hhour, takeField_fixedDigits hminute,
    takeField_fixedDigits hsecond, takeField_fixedDigits hmicrosecond, if_true]
  exact Strict.checked_val t

theorem isRecordedTimestamp_isoformat (t : UtcDateTime) :
    isRecordedTimestamp t.isoformat = true := by
  simp [isRecordedTimestamp, fromIsoformat_isoformat]

end ResearchOs.Storage

/-! The tables of the event store, and the errors it raises. -/
namespace ResearchOs.Storage

inductive SqliteError where
  | integrity
  | operational
  deriving DecidableEq, Repr

inductive StoreError where
  | value (message : String)
  | append (message : String)
  | duplicateEvent (message : String)
  | sequenceConflict (expectedLastSequence actualLastSequence : Nat)
  | integrity (message : String)
  | store (message : String)
  | sqlite (error : SqliteError)
  | clock
  deriving DecidableEq, Repr

/-- `_recorded_timestamp` of what the clock returned. -/
def recordedTimestamp : ClockReading → Except StoreError String
  | .aware utc => .ok utc.isoformat
  | .naive => .error (.store "event-store clock must return a timezone-aware datetime")
  | .raises => .error .clock

/-- A row of `events`. -/
structure EventRow where
  sequence : SequenceNumber
  eventId : String
  streamId : String
  streamVersion : StreamVersion
  eventType : String
  occurredAt : String
  recordedAt : String
  projectId : String
  runId : Option String
  attemptId : Option String
  correlationId : Option String
  causationId : Option String
  schemaVersion : String
  eventJson : String
  eventDigest : Sha256Digest

/-- `events`, in primary-key order. -/
structure EventsTable where
  rows : List EventRow
  ascending : rows.Pairwise fun r s => r.sequence.val < s.sequence.val
  eventIdsAreUnique : (rows.map EventRow.eventId).Nodup
  streamVersionsAreUnique : (rows.map fun r => (r.streamId, r.streamVersion)).Nodup

/-- The condition of `events_reject_replacement`. -/
def EventRow.replaces (row r : EventRow) : Bool :=
  decide (r.sequence = row.sequence) || decide (r.eventId = row.eventId) ||
    decide (r.streamId = row.streamId ∧ r.streamVersion = row.streamVersion)

def insertRow (row : EventRow) : List EventRow → List EventRow
  | [] => [row]
  | r :: rows =>
    if row.sequence.val < r.sequence.val then row :: r :: rows else r :: insertRow row rows

theorem insertRow_perm (row : EventRow) (rows : List EventRow) :
    (insertRow row rows).Perm (row :: rows) := by
  induction rows with
  | nil => exact List.Perm.refl _
  | cons r rows ih =>
    simp only [insertRow]
    split
    · exact List.Perm.refl _
    · exact (ih.cons r).trans (List.Perm.swap row r rows)

theorem insertRow_of_forall_lt {row : EventRow} {rows : List EventRow}
    (h : ∀ r ∈ rows, r.sequence.val < row.sequence.val) : insertRow row rows = rows ++ [row] := by
  induction rows with
  | nil => rfl
  | cons r rows ih =>
    have hr := h r List.mem_cons_self
    have hrows := ih fun s hs => h s (List.mem_cons_of_mem r hs)
    rw [insertRow, if_neg (by omega), hrows]
    rfl

theorem insertRow_ascending {row : EventRow} {rows : List EventRow}
    (hrows : rows.Pairwise fun r s => r.sequence.val < s.sequence.val)
    (hne : ∀ r ∈ rows, r.sequence.val ≠ row.sequence.val) :
    (insertRow row rows).Pairwise fun r s => r.sequence.val < s.sequence.val := by
  induction rows with
  | nil => simp [insertRow]
  | cons r rows ih =>
    obtain ⟨hr, htail⟩ := List.pairwise_cons.mp hrows
    have hrow := hne r List.mem_cons_self
    simp only [insertRow]
    split
    · rename_i hlt
      refine List.pairwise_cons.mpr ⟨?_, hrows⟩
      intro s hs
      rcases List.mem_cons.mp hs with rfl | hs
      · exact hlt
      · exact hlt.trans (hr s hs)
    · refine List.pairwise_cons.mpr ⟨?_, ih htail fun s hs => hne s (List.mem_cons_of_mem r hs)⟩
      intro s hs
      rcases List.mem_cons.mp ((insertRow_perm row rows).mem_iff.mp hs) with rfl | hs
      · omega
      · exact hr s hs

theorem EventsTable.nodup_map_insertRow {α : Type} {key : EventRow → α} {row : EventRow}
    {rows : List EventRow} (hrows : (rows.map key).Nodup) (hne : ∀ r ∈ rows, key r ≠ key row) :
    ((insertRow row rows).map key).Nodup := by
  refine ((insertRow_perm row rows).map key).nodup_iff.mpr ?_
  refine List.nodup_cons.mpr ⟨?_, hrows⟩
  intro hmem
  obtain ⟨r, hr, hkey⟩ := List.mem_map.mp hmem
  exact hne r hr hkey

/-- `INSERT INTO events`; a row that the triggers or keys reject changes nothing. -/
def EventsTable.insert (table : EventsTable) (row : EventRow) : Option EventsTable :=
  if h : table.rows.any row.replaces then none
  else
    have hfree : ∀ r ∈ table.rows, row.replaces r = false := by
      intro r hr
      simp only [List.any_eq_true, not_exists, not_and, Bool.not_eq_true] at h
      exact h r hr
    some {
      rows := insertRow row table.rows
      ascending := by
        apply insertRow_ascending table.ascending
        intro r hr heq
        simpa [EventRow.replaces, Subtype.ext heq] using hfree r hr
      eventIdsAreUnique := by
        apply EventsTable.nodup_map_insertRow table.eventIdsAreUnique
        intro r hr heq
        simpa [EventRow.replaces, heq] using hfree r hr
      streamVersionsAreUnique := by
        apply EventsTable.nodup_map_insertRow table.streamVersionsAreUnique
        intro r hr heq
        simp only [Prod.mk.injEq] at heq
        simpa [EventRow.replaces, heq] using hfree r hr }

def EventsTable.empty : EventsTable := ⟨[], .nil, .nil, .nil⟩

/-- The digest of the normalized migration statements. -/
def schemaDefinitionDigest : Sha256Digest :=
  ⟨"sha256:426fff7eaf173d703e1c0910b1237558bf99aac4d187a39f96bab55a563e202b", by decide⟩

/-- The row of `integrity_checkpoint`. -/
structure CheckpointRow where
  highWater : Nat
  lastEventDigest : Option Sha256Digest
  schemaDigest : Sha256Digest
  verifiedEventCount : Nat
  recordedAt : String

/-- The checks of `integrity_checkpoint`. -/
def CheckpointRow.isAllowed (row : CheckpointRow) : Bool :=
  decide (row.highWater ≤ cloudEventsIntegerMax ∧
    row.verifiedEventCount ≤ cloudEventsIntegerMax) &&
  (decide (row.highWater = 0 ∧ row.lastEventDigest = none ∧ row.verifiedEventCount = 0) ||
    decide (0 < row.highWater ∧ row.verifiedEventCount = row.highWater) &&
      row.lastEventDigest.isSome)

/-- Rebuildable snapshot row. -/
structure RunProjectionRecord where
  projectId : EventIdentifier
  runId : EventIdentifier
  lastSequence : Nat
  snapshotJson : Option String
  snapshotDigest : Option Sha256Digest

structure Database where
  events : EventsTable
  checkpoint : Option CheckpointRow
  runProjections : List RunProjectionRecord

/-- Live or remembered high-water fingerprint. -/
structure IntegrityCheckpoint where
  highWater : Nat
  lastEventDigest : Option Sha256Digest
  schemaDigest : Sha256Digest
  verifiedEventCount : Nat
  deriving DecidableEq

structure StoredEvent where
  event : ResearchEvent
  recordedAt : String
  digest : Sha256Digest

def StoredEvent.sequence (stored : StoredEvent) : Nat := stored.event.sequence.val

end ResearchOs.Storage
