import ResearchOs.Core.Storage.Protocol

/-! Integrity verification, the frozen high-water mark, and the prefix it trusts. -/
namespace ResearchOs.Storage

open JsonText (FloatText)
open Transaction (lift query write)

/-- The statements of verification, each of which may fail. -/
inductive VerifyStatement where
  | verifySchema
  | selectHead
  | selectCheckpoint
  | selectRows
  | replaceCheckpoint

structure VerifyCall where
  writable : Bool
  clock : ClockReading
  faults : VerifyStatement → Option SqliteError

/-- The loop variables of `verify_integrity`. -/
structure Scan where
  expectedSequence : Nat
  count : Nat
  lastDigest : Option Sha256Digest
  deriving DecidableEq

def Scan.step (F : FloatText) (scan : Scan) (row : EventRow) : Except StoreError Scan := do
  let stored ← storedEventFromRow F row
  if stored.sequence ≠ scan.expectedSequence then
    throw (.integrity ("global event sequence is not contiguous: expected " ++
      toString scan.expectedSequence ++ ", found " ++ toString stored.sequence))
  pure ⟨scan.expectedSequence + 1, scan.count + 1, some stored.digest⟩

def scanRows (F : FloatText) (rows : List EventRow) : Except StoreError Scan :=
  rows.foldlM (Scan.step F) ⟨1, 0, none⟩

/-- A read-only connection remembers nothing. -/
def rememberScan (call : VerifyCall) (scan : Scan) : Transaction Database StoreError Unit :=
  if call.writable then do
    let recordedAt ← lift (recordedTimestamp call.clock)
    write (replaceCheckpoint (call.faults .replaceCheckpoint) scan.count scan.lastDigest scan.count
      recordedAt)
  else pure ()

def verifyIntegrity (F : FloatText) (call : VerifyCall) : Transaction Database StoreError Nat := do
  lift (raised (call.faults .verifySchema))
  lift (raised (call.faults .selectRows))
  let scan ← query fun db => scanRows F db.events.rows
  rememberScan call scan
  pure scan.count

/-- `_live_head_fingerprint` -/
def liveHeadFingerprint (db : Database) : Except StoreError IntegrityCheckpoint :=
  let sequence := db.lastSequence
  if sequence = 0 then .ok ⟨0, none, schemaDefinitionDigest, 0⟩
  else
    match db.events.rows.find? fun r => r.sequence.val = sequence with
    | none => .error (.integrity ("global event sequence is not contiguous: expected " ++
        toString sequence ++ ", found none"))
    | some row => .ok ⟨sequence, some row.eventDigest, schemaDefinitionDigest, sequence⟩

/-- `_read_checkpoint`; a malformed row counts as absent. -/
def readCheckpoint (db : Database) : Option IntegrityCheckpoint :=
  match db.checkpoint with
  | none => none
  | some row =>
    if row.verifiedEventCount ≠ row.highWater then none
    else if row.highWater = 0 ∧ row.lastEventDigest.isSome then none
    else if row.highWater ≠ 0 ∧ row.lastEventDigest.isNone then none
    else some ⟨row.highWater, row.lastEventDigest, row.schemaDigest, row.verifiedEventCount⟩

def readFault (message : String) (fault : Option SqliteError) : Except StoreError Unit :=
  if fault.isSome then .error (.store message) else .ok ()

def freezeHighWater (F : FloatText) (call : VerifyCall) : Transaction Database StoreError Nat := do
  lift (raised (call.faults .verifySchema))
  lift (readFault "could not read the global event sequence" (call.faults .selectHead))
  let live ← query liveHeadFingerprint
  lift (readFault "could not read the integrity checkpoint" (call.faults .selectCheckpoint))
  let cached ← query fun db => .ok (readCheckpoint db)
  if cached = some live then pure live.highWater else verifyIntegrity F call

/-- Migration 2 on a version 1 database, as `_upgrade_schema_if_needed` applies it. -/
def upgradeSchema (clock : ClockReading) (events : EventsTable) : Except StoreError Database := do
  let appliedAt ← recordedTimestamp clock
  replaceCheckpoint none 0 none 0 appliedAt ⟨events, none, []⟩

/-! Verification reads the rows and writes at most the checkpoint. -/

theorem verifyIntegrity_atomic (F : FloatText) (call : VerifyCall) :
    Transaction.Atomic (verifyIntegrity F call) := by
  apply Transaction.Atomic.bind (Transaction.readOnly_lift _)
  intro _
  apply Transaction.Atomic.bind (Transaction.readOnly_lift _)
  intro _
  apply Transaction.Atomic.bind (Transaction.readOnly_query _)
  intro scan
  apply Transaction.Atomic.bind_pure
  unfold rememberScan
  split
  · apply Transaction.Atomic.bind (Transaction.readOnly_lift _)
    intro recordedAt
    exact Transaction.atomic_write _
  · exact Transaction.atomic_pure ()

variable {F : FloatText} {db db' : Database} {n : Nat}

theorem rememberScan_ok {call : VerifyCall} {scan : Scan} {u : Unit}
    (h : (rememberScan call scan).exec db = (.ok u, db')) : db'.events = db.events := by
  unfold rememberScan at h
  split at h
  · simp only [Transaction.exec_bind_ok, Transaction.exec_lift_ok, Transaction.exec_write_ok] at h
    obtain ⟨recordedAt, _, ⟨-, rfl⟩, hreplace⟩ := h
    cases replaceCheckpoint_ok hreplace
    rfl
  · cases h
    rfl

theorem verifyIntegrity_ok {call : VerifyCall}
    (h : (verifyIntegrity F call).exec db = (.ok n, db')) :
    (∃ scan, scanRows F db.events.rows = .ok scan ∧ scan.count = n) ∧ db'.events = db.events := by
  simp only [verifyIntegrity, Transaction.exec_bind_ok, Transaction.exec_lift_ok,
    Transaction.exec_query_ok, Transaction.exec_pure] at h
  obtain ⟨_, _, ⟨-, rfl⟩, _, _, ⟨-, rfl⟩, scan, _, ⟨hscan, rfl⟩, _, _, hremember, hreturn⟩ := h
  cases hreturn
  exact ⟨⟨scan, hscan, rfl⟩, rememberScan_ok hremember⟩

/-! A prefix that verifies. -/

/-- The rows a scan accepts, with the sequence numbers they have. -/
structure Scanned (rows : List EventRow) (scan : Scan) : Prop where
  expectedSequence : scan.expectedSequence = rows.length + 1
  count : scan.count = rows.length
  sequences : rows.map (fun r => r.sequence.val) = List.range' 1 rows.length
  lastDigest : scan.lastDigest.isSome = decide (0 < rows.length)

theorem scanned_concat {rows : List EventRow} {row : EventRow} {scan next : Scan}
    (h : Scanned rows scan) (hstep : scan.step F row = .ok next) : Scanned (rows ++ [row]) next := by
  obtain ⟨stored, hread, hrest⟩ := Fold.bind_eq_ok.mp hstep
  have hsequence := (sequence_of_storedEventFromRow hread).1
  by_cases hexpected : stored.sequence = scan.expectedSequence
  · rw [if_neg (not_not_intro hexpected)] at hrest
    cases hrest
    have hrow : row.sequence.val = rows.length + 1 := by
      rw [← hsequence, hexpected, h.expectedSequence]
    refine ⟨?_, ?_, ?_, ?_⟩
    · simp [h.expectedSequence]
    · simp [h.count]
    · rw [List.map_append, h.sequences, List.map_singleton, hrow, List.length_append,
        List.length_singleton, List.range'_1_concat, Nat.add_comm 1]
    · simp
  · rw [if_pos hexpected] at hrest
    cases hrest

theorem scanRows_scanned {rows : List EventRow} {scan : Scan} (h : scanRows F rows = .ok scan) :
    Scanned rows scan := by
  induction rows using List.reverseRecOn generalizing scan with
  | nil =>
    cases h
    exact ⟨rfl, rfl, rfl, rfl⟩
  | append_singleton rows row ih =>
    obtain ⟨before, hbefore, hstep⟩ := Fold.foldlM_concat_eq_ok.mp h
    exact scanned_concat (ih hbefore) hstep

def Verified (F : FloatText) (db : Database) : Prop :=
  ∃ scan, scanRows F db.events.rows = .ok scan

theorem Verified.lastSequence {scan : Scan} (h : scanRows F db.events.rows = .ok scan) :
    db.lastSequence = scan.count := by
  have hscanned := scanRows_scanned h
  rw [Database.lastSequence, hscanned.sequences, foldr_max_range', hscanned.count]

theorem Database.lastSequence_le (db : Database) : db.lastSequence ≤ cloudEventsIntegerMax := by
  unfold Database.lastSequence
  induction db.events.rows with
  | nil => exact Nat.zero_le _
  | cons r rows ih => exact max_le r.sequence.le_max ih

/-- A verification that meets no fault. -/
structure VerifyCall.Undisturbed (call : VerifyCall) : Prop where
  faults : ∀ statement, call.faults statement = none
  clock : ∃ utc, call.clock = .aware utc

/-- The scan decides what an undisturbed verification returns. -/
theorem verifyIntegrity_of_scan {call : VerifyCall} {scan : Scan} (hcall : call.Undisturbed)
    (h : scanRows F db.events.rows = .ok scan) :
    ((verifyIntegrity F call).exec db).1 = .ok scan.count := by
  obtain ⟨utc, hclock⟩ := hcall.clock
  have hscanned := scanRows_scanned h
  have hlast := Verified.lastSequence h
  have hbound := db.lastSequence_le
  have hallowed : CheckpointRow.isAllowed
      ⟨scan.count, scan.lastDigest, schemaDefinitionDigest, scan.count, utc.isoformat⟩ = true := by
    have hdigest := hscanned.lastDigest
    rw [← hscanned.count] at hdigest
    rcases Nat.eq_zero_or_pos scan.count with hzero | hpositive
    · have hnone : scan.lastDigest = none := by simpa [hzero] using hdigest
      simp [CheckpointRow.isAllowed, hzero, hnone]
    · have hsome : scan.lastDigest.isSome = true := by simpa [hpositive] using hdigest
      have hmax : scan.count ≤ cloudEventsIntegerMax := by omega
      simp [CheckpointRow.isAllowed, hpositive, hsome, hmax]
  have hremember : ((rememberScan call scan).exec db).1 = .ok () := by
    unfold rememberScan
    split
    · simp [Transaction.exec_bind, hclock, recordedTimestamp, Transaction.exec_write,
        replaceCheckpoint, hcall.faults, hallowed]
    · rfl
  rcases hexec : (rememberScan call scan).exec db with ⟨r, db'⟩
  rw [hexec] at hremember
  cases hremember
  simp only [verifyIntegrity, Transaction.exec_bind, Transaction.exec_lift,
    Transaction.exec_query, hcall.faults, raised, h, hexec, Transaction.exec_pure]

/-- A row appended to a verified prefix verifies in turn. -/
theorem Appended.verified {call : AppendCall} {row : EventRow} {stored : StoredEvent}
    (h : Appended F call db row stored db') (hverified : Verified F db) : Verified F db' := by
  obtain ⟨scan, hscan⟩ := hverified
  have hscanned := scanRows_scanned hscan
  have hexpected : stored.sequence = scan.expectedSequence := by
    rw [(sequence_of_storedEventFromRow h.reads).1, h.sequence, Verified.lastSequence hscan,
      hscanned.expectedSequence, hscanned.count]
  refine ⟨⟨scan.expectedSequence + 1, scan.count + 1, some stored.digest⟩, ?_⟩
  rw [h.rows]
  refine Fold.foldlM_concat_eq_ok.mpr ⟨scan, hscan, ?_⟩
  refine Fold.bind_eq_ok.mpr ⟨stored, h.reads, ?_⟩
  rw [if_neg (not_not_intro hexpected)]
  rfl

end ResearchOs.Storage

/-! When the frozen high-water mark may be trusted. -/
namespace ResearchOs.Storage

open JsonText (FloatText)

inductive StoreStep where
  | append (call : AppendCall)
  | verifyIntegrity (call : VerifyCall)
  | freezeHighWater (call : VerifyCall)

/-- The checkpoint matches the live head, so that `freeze_high_water` does not rescan. -/
def checkpointMatches (db : Database) : Bool :=
  match liveHeadFingerprint db with
  | .ok live => readCheckpoint db = some live
  | .error _ => false

/-- A store and whether every row of its prefix was verified or appended after such a prefix. -/
structure Tracked where
  database : Database
  trusted : Bool

/-- A scan that succeeds makes the prefix trusted. -/
def Tracked.scanned {α : Type} (s : Tracked) (result : Except StoreError α × Database) : Tracked :=
  ⟨result.2, s.trusted || result.1.toOption.isSome⟩

/-- An appended row is trusted when its prefix is; a freeze without a rescan adds no trust. -/
def Tracked.after (F : FloatText) (s : Tracked) : StoreStep → Tracked
  | .append call => ⟨((append F call).exec s.database).2, s.trusted⟩
  | .verifyIntegrity call => s.scanned ((verifyIntegrity F call).exec s.database)
  | .freezeHighWater call =>
    let result := (freezeHighWater F call).exec s.database
    if checkpointMatches s.database then ⟨result.2, s.trusted⟩ else s.scanned result

def Tracked.run (F : FloatText) (s : Tracked) (steps : List StoreStep) : Tracked :=
  steps.foldl (Tracked.after F) s

/-- Where a store comes from: created empty, or upgraded with the rows of version 1. -/
inductive Origin : Tracked → Prop
  | created {clock : ClockReading} {db : Database} (h : createSchema clock = .ok db) :
      Origin ⟨db, true⟩
  | upgraded {clock : ClockReading} {events : EventsTable} {db : Database}
      (h : upgradeSchema clock events = .ok db) : Origin ⟨db, events.rows.isEmpty⟩

/-- A freeze that returns without a rescan finds a trusted prefix, and returns what a fresh
verification would. -/
def PrefixTrust (F : FloatText) (s : Tracked) : Prop :=
  checkpointMatches s.database = true → s.trusted = true ∧
    ∀ live, liveHeadFingerprint s.database = .ok live → ∀ call : VerifyCall, call.Undisturbed →
      ((verifyIntegrity F call).exec s.database).1 = .ok live.highWater

/-- What holds of a store as long as no append extends an untrusted prefix. -/
def Guarded (F : FloatText) (s : Tracked) : Prop :=
  if s.trusted then Verified F s.database else checkpointMatches s.database = false

variable {F : FloatText} {s : Tracked} {db db' : Database}

theorem highWater_of_liveHead {live : IntegrityCheckpoint} (h : liveHeadFingerprint db = .ok live) :
    live.highWater = db.lastSequence := by
  dsimp only [liveHeadFingerprint] at h
  split_ifs at h with hzero
  · cases h
    exact hzero.symm
  · split at h
    · cases h
    · cases h
      rfl

theorem Guarded.prefixTrust (h : Guarded F s) : PrefixTrust F s := by
  intro hmatches
  unfold Guarded at h
  split_ifs at h with htrusted
  · obtain ⟨scan, hscan⟩ := h
    refine ⟨htrusted, ?_⟩
    intro live hlive call hcall
    rw [verifyIntegrity_of_scan hcall hscan, highWater_of_liveHead hlive,
      Verified.lastSequence hscan]
  · rw [h] at hmatches
    cases hmatches

theorem checkpointMatches_iff : checkpointMatches db = true ↔
    ∃ live, liveHeadFingerprint db = .ok live ∧ readCheckpoint db = some live := by
  unfold checkpointMatches
  cases hlive : liveHeadFingerprint db with
  | error e => simp
  | ok live => simp

/-- After an append the checkpoint matches, whatever the prefix was. -/
theorem Appended.checkpointMatches {call : AppendCall} {row : EventRow} {stored : StoredEvent}
    (h : Appended F call db row stored db') : checkpointMatches db' = true := by
  have hlast := h.lastSequence
  have hsequence := h.sequence
  have hfind : db'.events.rows.find? (fun r => r.sequence.val = db'.lastSequence) = some row := by
    have hnone : db.events.rows.find? (fun r => r.sequence.val = db'.lastSequence) = none := by
      apply List.find?_eq_none.mpr
      intro r hr
      have hle := Database.le_lastSequence hr
      simp only [decide_eq_true_eq]
      omega
    rw [h.rows, List.find?_append, hnone, hlast]
    simp [h.sequence]
  refine checkpointMatches_iff.mpr
    ⟨⟨db'.lastSequence, some row.eventDigest, schemaDefinitionDigest, db'.lastSequence⟩, ?_, ?_⟩
  · have hpositive : db'.lastSequence ≠ 0 := by omega
    simp [liveHeadFingerprint, hpositive, hfind]
  · simp [readCheckpoint, h.checkpoint, hsequence, hlast]

theorem guarded_append {call : AppendCall} (h : Guarded F s)
    (htrusted : call.commits F s.database = true → s.trusted = true) :
    Guarded F (s.after F (.append call)) := by
  cases hcommits : call.commits F s.database with
  | true =>
    obtain ⟨row, stored, happended⟩ := AppendCall.appended hcommits
    have ht := htrusted hcommits
    simp only [Guarded, Tracked.after, ht, if_true] at h ⊢
    exact happended.verified h
  | false =>
    have hsame := (appendStore F).step_eq s.database call hcommits
    have hsame : ((append F call).exec s.database).2 = s.database := hsame
    simpa only [Guarded, Tracked.after, hsame] using h

theorem guarded_scanned {result : Except StoreError Nat × Database} (h : Guarded F s)
    (herror : ∀ e db', result = (.error e, db') → db' = s.database)
    (hok : ∀ n db', result = (.ok n, db') → Verified F s.database ∧
      db'.events = s.database.events) : Guarded F (s.scanned result) := by
  obtain ⟨r, db'⟩ := result
  cases r with
  | error e =>
    cases herror e db' rfl
    simpa [Tracked.scanned, Except.toOption] using h
  | ok n =>
    obtain ⟨hverified, hevents⟩ := hok n db' rfl
    simpa [Tracked.scanned, Except.toOption, Guarded, Verified, hevents] using hverified

theorem guarded_verifyIntegrity {call : VerifyCall} (h : Guarded F s) :
    Guarded F (s.scanned ((verifyIntegrity F call).exec s.database)) := by
  apply guarded_scanned h
  · intro e db' hexec
    exact verifyIntegrity_atomic F call s.database e db' hexec
  · intro n db' hexec
    obtain ⟨⟨scan, hscan, -⟩, hevents⟩ := verifyIntegrity_ok hexec
    exact ⟨⟨scan, hscan⟩, hevents⟩

/-- A freeze fails at a read, returns the matching checkpoint, or verifies. -/
theorem freezeHighWater_cases (F : FloatText) (call : VerifyCall) (db : Database) :
    (∃ e, (freezeHighWater F call).exec db = (.error e, db)) ∨
      (checkpointMatches db = true ∧
        (freezeHighWater F call).exec db = (.ok db.lastSequence, db)) ∨
      (checkpointMatches db = false ∧
        (freezeHighWater F call).exec db = (verifyIntegrity F call).exec db) := by
  simp only [freezeHighWater, Transaction.exec_bind, Transaction.exec_lift, Transaction.exec_query]
  cases raised (call.faults .verifySchema) with
  | error e => exact .inl ⟨e, rfl⟩
  | ok _ =>
    cases readFault "could not read the global event sequence" (call.faults .selectHead) with
    | error e => exact .inl ⟨e, rfl⟩
    | ok _ =>
      cases hlive : liveHeadFingerprint db with
      | error e => exact .inl ⟨e, by simp only [hlive]⟩
      | ok live =>
        cases readFault "could not read the integrity checkpoint"
            (call.faults .selectCheckpoint) with
        | error e => exact .inl ⟨e, by simp only [hlive]⟩
        | ok _ =>
          right
          by_cases hcached : readCheckpoint db = some live
          · left
            simp [checkpointMatches, hlive, hcached, highWater_of_liveHead hlive]
          · right
            simp [checkpointMatches, hlive, hcached]

theorem freezeHighWater_of_matches {call : VerifyCall} (hfaults : ∀ st, call.faults st = none)
    (h : checkpointMatches db = true) :
    (freezeHighWater F call).exec db = (.ok db.lastSequence, db) := by
  obtain ⟨live, hlive, hread⟩ := checkpointMatches_iff.mp h
  simp [freezeHighWater, Transaction.exec_bind, hfaults, raised, readFault, hlive, hread,
    highWater_of_liveHead hlive]

theorem guarded_freezeHighWater {call : VerifyCall} (h : Guarded F s) :
    Guarded F (s.after F (.freezeHighWater call)) := by
  simp only [Tracked.after]
  rcases freezeHighWater_cases F call s.database with ⟨e, hexec⟩ | ⟨hmatches, hexec⟩ |
    ⟨hmatches, hexec⟩
  · rw [hexec]
    split
    · exact h
    · simpa [Tracked.scanned, Except.toOption] using h
  · rw [hexec, if_pos hmatches]
    exact h
  · rw [hexec, if_neg (by simp [hmatches])]
    exact guarded_verifyIntegrity h

theorem guarded_after {step : StoreStep} (h : Guarded F s)
    (htrusted : ∀ call, step = .append call → call.commits F s.database = true →
      s.trusted = true) : Guarded F (s.after F step) := by
  cases step with
  | append call => exact guarded_append h (htrusted call rfl)
  | verifyIntegrity call => exact guarded_verifyIntegrity h
  | freezeHighWater call => exact guarded_freezeHighWater h

theorem checkpointMatches_of_rows {appliedAt : String} (h : db.events.rows ≠ [])
    (hcheckpoint : db.checkpoint = some ⟨0, none, schemaDefinitionDigest, 0, appliedAt⟩) :
    checkpointMatches db = false := by
  rw [← Bool.not_eq_true, checkpointMatches_iff]
  rintro ⟨live, hlive, hread⟩
  have hhigh := highWater_of_liveHead hlive
  have hread : some (IntegrityCheckpoint.mk 0 none schemaDefinitionDigest 0) = some live := by
    simpa [readCheckpoint, hcheckpoint] using hread
  cases hread
  have hzero : 0 = db.lastSequence := hhigh
  obtain ⟨r, hr⟩ := List.exists_mem_of_ne_nil _ h
  have hle := Database.le_lastSequence hr
  have hpositive := r.sequence.pos
  omega

theorem Origin.guarded {start : Tracked} (h : Origin start) : Guarded F start := by
  cases h with
  | created h =>
    obtain ⟨appliedAt, rfl⟩ := createSchema_ok h
    exact ⟨_, rfl⟩
  | upgraded h =>
    rename_i clock events db
    obtain ⟨appliedAt, -, hreplace⟩ := Fold.bind_eq_ok.mp h
    cases replaceCheckpoint_ok hreplace
    unfold Guarded
    split_ifs with hempty
    · have hrows : events.rows = [] := List.isEmpty_iff.mp hempty
      exact ⟨⟨1, 0, none⟩, by simp only [hrows]; rfl⟩
    · exact checkpointMatches_of_rows (by simpa using hempty) rfl

theorem guarded_run {start : Tracked} (h : Guarded F start) {steps : List StoreStep}
    (htrusted : ∀ before call, before ++ [.append call] <+: steps →
      call.commits F (start.run F before).database = true → (start.run F before).trusted = true) :
    Guarded F (start.run F steps) := by
  induction steps using List.reverseRecOn with
  | nil => exact h
  | append_singleton steps step ih =>
    have hbefore := ih fun before call hlonger =>
      htrusted before call (hlonger.trans (List.prefix_append _ _))
    rw [Tracked.run, List.foldl_append]
    apply guarded_after hbefore
    rintro call rfl
    exact htrusted steps call (List.prefix_refl _)

/-- A freeze that skips the scan is right in every state of a run exactly when no append of the
run commits on an untrusted prefix. -/
theorem freeze_trust_iff (F : FloatText) {start : Tracked} (h : Origin start)
    (steps : List StoreStep) :
    (∀ before, before <+: steps → PrefixTrust F (start.run F before)) ↔
      ∀ before call, before ++ [.append call] <+: steps →
        call.commits F (start.run F before).database = true →
          (start.run F before).trusted = true := by
  constructor
  · intro htrust before call hlonger hcommits
    obtain ⟨row, stored, happended⟩ := AppendCall.appended hcommits
    have hafter : start.run F (before ++ [.append call]) =
        (start.run F before).after F (.append call) := by
      rw [Tracked.run, List.foldl_append]
      rfl
    have hprefixTrust := htrust _ hlonger
    rw [hafter] at hprefixTrust
    exact (hprefixTrust happended.checkpointMatches).1
  · intro htrusted before hlonger
    refine Guarded.prefixTrust (guarded_run h.guarded ?_)
    intro earlier call hearlier
    exact htrusted earlier call (hearlier.trans hlonger)

/-! An upgraded store whose only row is not an event. -/

def unverifiedRow : EventRow :=
  { sequence := ⟨1, .refl true⟩
    eventId := "event-0"
    streamId := "stream"
    streamVersion := ⟨0, .refl true⟩
    eventType := "note.recorded"
    occurredAt := "2026-01-01T00:00:00Z"
    recordedAt := "2026-01-01T00:00:00.000000Z"
    projectId := "project"
    runId := none
    attemptId := none
    correlationId := none
    causationId := none
    schemaVersion := "v0alpha1"
    eventJson := "\x7b\x7d"
    eventDigest := schemaDefinitionDigest }

def unverifiedEvents : EventsTable :=
  ⟨[unverifiedRow], by simp, by simp, by simp⟩

def trialVerify : VerifyCall := ⟨true, .aware trialTime, fun _ => none⟩

/-- An append before the first scan freezes the bad row as valid. -/
theorem freeze_trusts_bad_prefix : ∃ db appended,
    upgradeSchema (.aware trialTime) unverifiedEvents = .ok db ∧
      (∃ stored, (append JsonText.scientific (trialCall .null)).exec db = (.ok stored, appended)) ∧
      (freezeHighWater JsonText.scientific trialVerify).exec appended = (.ok 2, appended) ∧
      (verifyIntegrity JsonText.scientific trialVerify).exec appended =
        (.error (.integrity "stored event JSON is invalid"), appended) := by
  have hupgrade : upgradeSchema (.aware trialTime) unverifiedEvents = .ok
      ⟨unverifiedEvents, some ⟨0, none, schemaDefinitionDigest, 0, trialTime.isoformat⟩, []⟩ := rfl
  have hcommits : (trialCall .null).commits JsonText.scientific
      ⟨unverifiedEvents, some ⟨0, none, schemaDefinitionDigest, 0, trialTime.isoformat⟩, []⟩ =
        true := by decide +kernel
  rcases hexec : (append JsonText.scientific (trialCall .null)).exec
      ⟨unverifiedEvents, some ⟨0, none, schemaDefinitionDigest, 0, trialTime.isoformat⟩, []⟩
    with ⟨_ | stored, appended⟩
  · simp [AppendCall.commits, hexec, Except.toOption] at hcommits
  · obtain ⟨row, happended⟩ := append_ok hexec
    have hfaults : ∀ st, trialVerify.faults st = none := fun _ => rfl
    have hfreeze := freezeHighWater_of_matches (F := JsonText.scientific) hfaults
      happended.checkpointMatches
    have hlast : appended.lastSequence = 2 := happended.lastSequence
    have hscan : scanRows JsonText.scientific appended.events.rows =
        .error (.integrity "stored event JSON is invalid") := by
      rw [happended.rows]
      rfl
    refine ⟨_, appended, hupgrade, ⟨stored, hexec⟩, hlast ▸ hfreeze, ?_⟩
    simp [verifyIntegrity, Transaction.exec_bind, trialVerify, raised, hscan]

theorem freeze_trust_iff_trial :
    (∀ before, before <+: [.append (trialCall .null), .freezeHighWater trialVerify] →
      PrefixTrust JsonText.scientific
        (Tracked.run JsonText.scientific ⟨trialStore, true⟩ before)) ↔
      ∀ before call, before ++ [.append call] <+:
          [.append (trialCall .null), .freezeHighWater trialVerify] →
        call.commits JsonText.scientific
          (Tracked.run JsonText.scientific ⟨trialStore, true⟩ before).database = true →
        (Tracked.run JsonText.scientific ⟨trialStore, true⟩ before).trusted = true :=
  freeze_trust_iff JsonText.scientific
    (.created (show createSchema (.aware trialTime) = .ok trialStore from rfl)) _

end ResearchOs.Storage
