import ResearchOs.Data.Cell
import ResearchOs.Transfer.Journal

/-! The calls that read and write a transfer journal, and what a resumed transfer sees. -/
namespace ResearchOs.Transfer

open JsonText (FloatText)

def invalidJournal : TransferError := ⟨"transfer journal is invalid", "transfer-journal-invalid"⟩

def otherManifest : TransferError :=
  ⟨"transfer journal belongs to another manifest", "transfer-manifest-mismatch"⟩

def duplicateStart : TransferError :=
  ⟨"reconnect cannot start a second task", "transfer-duplicate-start"⟩

def exhaustedRetries : TransferError :=
  ⟨"transfer retries are exhausted", "transfer-retry-exhausted"⟩

def unknownFault : TransferError := ⟨"transfer fault is not recognized", "transfer-fault-unknown"⟩

def collapsedFault : TransferError := ⟨"transfer fault collapsed", "transfer-fault-collapsed"⟩

/-- `INTERRUPTED` -/
def interrupted : String := "transfer-interrupted"

def maxTransferRetries : Nat := 3

/-- `MAX_TRANSFER_MANIFEST_BYTES` -/
def maxTransferManifestBytes : Nat := 65536

/-- What leaves a call: a `NativeTransferError`, or an exception of the host. -/
inductive Raised where
  | transfer (error : TransferError)
  | host
  deriving DecidableEq, Repr

/-- `_FAULTS` -/
def faults : List (String × TransferObservation) :=
  [("disconnect-before-claim", .unknown), ("tunnel-loss", .unknown), ("controller-restart", .unknown),
    ("worker-restart", .unknown), ("interrupted-upload", .unknown), ("lost-completion", .unknown),
    ("disconnected-cancel", .cancelRequested), ("observation-unavailable", .unknown)]

structure FaultRecord where
  kind : String
  observation : TransferObservation
  startsTask : Bool
  deriving DecidableEq, Repr

def classifyTwoHostFault (kind : String) : Except TransferError FaultRecord :=
  match faults.lookup kind with
  | none => .error unknownFault
  | some observation => do
    require (observation ∉ [.success, .failure, .stopped]) collapsedFault
    .ok ⟨kind, observation, false⟩

/-- What `manifest_from_document` returns. -/
abbrev AcceptedManifest :=
  { manifest : TransferManifest // ∃ document, manifestFromDocument document = .ok manifest }

/-- The body that `manifest_digest` digests. -/
def manifestBody (manifest : TransferManifest) : Json :=
  .obj [("attemptId", .str manifest.attemptId),
    ("direction", .str manifest.direction.text),
    ("files", .arr (manifest.files.map fun item => .obj [("digest", .str item.digest),
      ("path", .str item.relativePath), ("sizeBytes", .int item.sizeBytes)])),
    ("grantId", .str manifest.grantId),
    ("implementation", .str "native-scoped-transfer/v0alpha1"),
    ("runId", .str manifest.runId),
    ("taskId", .str manifest.taskId)]

section

variable (F : FloatText)

def manifestDigest (manifest : TransferManifest) : Except Raised String :=
  (Jcs.contentDigest F (manifestBody manifest)).mapError fun _ => .host

/-- `_load_or_create`, from the bytes of the journal file if there is one. -/
def loadOrCreate (file : Option (List Nat)) (manifest : TransferManifest) : Except Raised Journal :=
  match file with
  | none => do
    let digest ← manifestDigest F manifest
    .ok {
      manifestDigest := digest
      grantId := manifest.grantId
      taskId := manifest.taskId
      runId := manifest.runId
      attemptId := manifest.attemptId
      direction := manifest.direction
      leaseId := none
      status := .incomplete
      observation := .unknown
      completed := []
      attempts := 0
      starts := 0
      processObservation := .unavailable
      processPid := none }
  | some raw =>
    -- `_read_journal` refuses a file that is too long.
    if maxTransferManifestBytes < raw.length then .error (.transfer invalidJournal)
    else
      match journalOfBytes F raw with
      | none => .error (.transfer invalidJournal)
      | some journal => .ok journal

/-- `_require_same_manifest` -/
def requireSameManifest (journal : Journal) (manifest : TransferManifest) : Except Raised Unit := do
  let digest ← manifestDigest F manifest
  if journal.manifestDigest ≠ digest ∨ journal.grantId ≠ manifest.grantId ∨
      journal.taskId ≠ manifest.taskId ∨ journal.runId ≠ manifest.runId ∨
      journal.attemptId ≠ manifest.attemptId ∨ journal.direction ≠ manifest.direction then
    .error (.transfer otherManifest)
  else .ok ()

end

structure TransferReceipt extends Journal where
  runtime : String

/-- How a call ends that has loaded its journal. -/
inductive Ending where
  | raised (raised : Raised)
  | returned (journal : Journal)
  | saved (journal : Journal) (raised : Option Raised := none)

/-- How far a save comes: it fails before the file is replaced, or before the directory is synced,
or it does not fail. -/
inductive SaveFate where
  | lost
  | unsynced
  | done
  deriving DecidableEq, Repr

/-- What a call read, what it wrote, what the journal file then holds, and how the call ended. -/
structure Performed extends Cell.Effect Journal (List Nat) where
  outcome : Except Raised TransferReceipt

/-- What the host does with a file of the manifest: the digest that stands at its destination, and
reading and writing it. -/
structure TransferHost where
  already : TransferFile → Except Raised (Option String)
  move : TransferFile → Except Raised Unit

/-- One turn of the loop over the files. -/
def moveFile (host : TransferHost) (item : TransferFile) : Except Raised Unit := do
  match ← host.already item with
  | some existing => if existing = item.digest then .ok () else .error (.transfer integrityMismatch)
  | none => host.move item

/-- The loop over the files: the paths that are completed, also where it is left by an exception. -/
def moveFiles (host : TransferHost) :
    List TransferFile → List String → List String × Except Raised Unit
  | [], completed => (completed, .ok ())
  | item :: rest, completed =>
    match moveFile host item with
    | .error raised => (completed, .error raised)
    | .ok () =>
      if item.relativePath ∈ completed then moveFiles host rest completed
      else moveFiles host rest (completed ++ [item.relativePath])

def checkFile (host : TransferHost) (item : TransferFile) : Except Raised Unit := do
  let existing ← host.already item
  if existing = some item.digest then .ok () else .error (.transfer integrityMismatch)

/-- `_claim_for_transfer_locked`, with the journal of the manifest. -/
def claimLoaded (leaseId : String) (journal : Journal) : Ending :=
  if journal.leaseId ∉ [none, some leaseId] then .raised (.transfer duplicateStart)
  else if 1 < journal.starts then .raised (.transfer duplicateStart)
  else if journal.starts = 0 then .saved { journal with starts := 1, leaseId := some leaseId }
  else .returned journal

/-- `_record_fault_locked`, with the journal of the manifest. -/
def recordLoaded (fault : FaultRecord) (journal : Journal) : Ending :=
  if fault.kind = "lost-completion" ∧ journal.status = .complete then .returned journal
  else if fault.startsTask = true then .raised (.transfer duplicateStart)
  else .saved { journal with observation := fault.observation }

/-- The lease of a transfer is that of the journal, or the journal takes it. -/
def takeLease (journal : Journal) : Option String → Except Raised Journal
  | none => .ok journal
  | some leaseId => do
    let _ ← (identifier (some (.str leaseId))).mapError Raised.transfer
    if journal.leaseId ∉ [none, some leaseId] then .error (.transfer duplicateStart)
    else .ok { journal with leaseId := some leaseId }

/-- The files of an incomplete transfer are moved. Where they cannot be, the journal keeps how far
it came, except when the host raises something else than a `NativeTransferError`. -/
def attempt (manifest : TransferManifest) (host : TransferHost) (journal : Journal) : Ending :=
  let (completed, result) := moveFiles host manifest.files journal.completed
  let journal := { journal with attempts := journal.attempts + 1, completed }
  match result with
  | .ok () => .saved { journal with status := .complete }
  | .error (.transfer error) =>
    if error.code ≠ interrupted then .saved journal (some (.transfer error))
    else .saved { journal with status := .incomplete, observation := .unknown }
  | .error .host => .raised .host

/-- `_transfer_locked`, with the journal of the manifest. -/
def transferLoaded (manifest : TransferManifest) (leaseId : Option String) (host : TransferHost)
    (journal : Journal) : Ending :=
  match takeLease journal leaseId with
  | .error raised => .raised raised
  | .ok journal =>
    if journal.status = .complete then
      match manifest.files.forM (checkFile host) with
      | .error raised => .raised raised
      | .ok () => .returned journal
    else if maxTransferRetries ≤ journal.attempts then .raised (.transfer exhaustedRetries)
    else attempt manifest host journal

inductive TransferCall where
  | claimForTransfer (leaseId : String)
  | recordFault (kind : String)
  | transfer (leaseId : Option String) (host : TransferHost)

/-- What a call does with the journal, after the checks it makes before it loads the journal. -/
def TransferCall.work (manifest : TransferManifest) : TransferCall → Except Raised (Journal → Ending)
  | .claimForTransfer leaseId =>
    match identifier (some (.str leaseId)) with
    | .error error => .error (.transfer error)
    | .ok leaseId => .ok (claimLoaded leaseId)
  | .recordFault kind =>
    match classifyTwoHostFault kind with
    | .error error => .error (.transfer error)
    | .ok fault => .ok (recordLoaded fault)
  | .transfer leaseId host => .ok (transferLoaded manifest leaseId host)

/-- A call under the lock of the journal, and how far its save comes. -/
structure Request where
  manifest : AcceptedManifest
  call : TransferCall
  fate : SaveFate

section

variable (F : FloatText) (runtime : String)

def refused (file : Option (List Nat)) (raised : Raised) : Performed :=
  ⟨⟨none, none, file⟩, .error raised⟩

/-- `_save` of a journal, after which the call raises or returns a receipt. -/
def save (file : Option (List Nat)) (loaded journal : Journal) (fate : SaveFate)
    (raised : Option Raised) : Performed :=
  match journalBytes F journal, fate with
  | none, _ => ⟨⟨some loaded, none, file⟩, .error .host⟩
  | some _, .lost => ⟨⟨some loaded, none, file⟩, .error .host⟩
  | some bytes, .unsynced => ⟨⟨some loaded, some journal, some bytes⟩, .error .host⟩
  | some bytes, .done =>
    ⟨⟨some loaded, some journal, some bytes⟩,
      match raised with
      | some raised => .error raised
      | none => .ok { toJournal := journal, runtime }⟩

/-- Load the journal of a manifest, and work on it. -/
def withJournal (file : Option (List Nat)) (manifest : TransferManifest) (fate : SaveFate)
    (work : Journal → Ending) : Performed :=
  match loadOrCreate F file manifest with
  | .error raised => refused file raised
  | .ok journal =>
    match requireSameManifest F journal manifest with
    | .error raised => ⟨⟨some journal, none, file⟩, .error raised⟩
    | .ok () =>
      match work journal with
      | .raised raised => ⟨⟨some journal, none, file⟩, .error raised⟩
      | .returned shown => ⟨⟨some journal, none, file⟩, .ok { toJournal := shown, runtime }⟩
      | .saved saved raised => save F runtime file journal saved fate raised

/-- `claim_for_transfer`, `record_fault` or `_transfer` -/
def perform (file : Option (List Nat)) (request : Request) : Performed :=
  match request.call.work request.manifest with
  | .error raised => refused file raised
  | .ok work => withJournal F runtime file request.manifest request.fate work

/-- What a call reads and writes. -/
def effect (file : Option (List Nat)) (request : Request) : Cell.Effect Journal (List Nat) :=
  (perform F runtime file request).toEffect

end

def Ending.journal : Ending → Option Journal
  | .raised _ => none
  | .returned journal => some journal
  | .saved journal _ => some journal

/-- The journals of all calls: those that are created or read, from whatever bytes, and what the
calls make of them. -/
inductive Reachable (F : FloatText) : Journal → Prop where
  | load {file : Option (List Nat)} {manifest : AcceptedManifest} {journal : Journal}
      (hload : loadOrCreate F file manifest = .ok journal) : Reachable F journal
  | work {journal next : Journal} {call : TransferCall} {manifest : AcceptedManifest}
      {work : Journal → Ending} (h : Reachable F journal) (hwork : call.work manifest = .ok work)
      (hnext : (work journal).journal = some next) : Reachable F next

variable {F : FloatText} {runtime : String} {journal next : Journal} {manifest : TransferManifest}
  {document : Json} {digest leaseId : String} {fault : FaultRecord} {host : TransferHost}
  {file : Option (List Nat)} {raw : List Nat} {fate : SaveFate} {lease : Option String}

/-! Every journal belongs to one manifest from its creation on. -/

theorem isJcsDigest_of_manifestDigest (h : manifestDigest F manifest = .ok digest) :
    isJcsDigest digest = true := by
  unfold manifestDigest at h
  cases hdigest : Jcs.contentDigest F (manifestBody manifest) with
  | error error =>
    rw [hdigest] at h
    cases h
  | ok found =>
    rw [hdigest] at h
    cases h
    obtain ⟨text, -, htext⟩ := Fold.bind_eq_ok.mp hdigest
    cases htext
    exact isHexDigest_hexdigest "jcs-sha256:" _

/-- The identifiers of an accepted manifest. -/
structure Identified (manifest : TransferManifest) : Prop where
  grantId : isEventIdentifier manifest.grantId = true
  taskId : isEventIdentifier manifest.taskId = true
  runId : isEventIdentifier manifest.runId = true
  attemptId : isEventIdentifier manifest.attemptId = true

theorem identified_of_manifest (h : manifestFromDocument document = .ok manifest) :
    Identified manifest := by
  unfold manifestFromDocument at h
  split at h
  · split at h
    · split at h
      · cases h
      · split at h
        · obtain ⟨_, -, h⟩ := Fold.bind_eq_ok.mp h
          obtain ⟨⟨files, total⟩, -, h⟩ := Fold.bind_eq_ok.mp h
          obtain ⟨grantId, hgrant, h⟩ := Fold.bind_eq_ok.mp h
          obtain ⟨taskId, htask, h⟩ := Fold.bind_eq_ok.mp h
          obtain ⟨runId, hrun, h⟩ := Fold.bind_eq_ok.mp h
          obtain ⟨attemptId, hattempt, h⟩ := Fold.bind_eq_ok.mp h
          cases h
          exact ⟨isEventIdentifier_of_identifier hgrant, isEventIdentifier_of_identifier htask,
            isEventIdentifier_of_identifier hrun, isEventIdentifier_of_identifier hattempt⟩
        · cases h
    · cases h
  · cases h

theorem journalOfBytes_of_loadOrCreate (h : loadOrCreate F (some raw) manifest = .ok journal) :
    journalOfBytes F raw = some journal := by
  unfold loadOrCreate at h
  dsimp only at h
  split_ifs at h
  cases hraw : journalOfBytes F raw with
  | none =>
    rw [hraw] at h
    cases h
  | some found =>
    rw [hraw] at h
    cases h
    rfl

theorem valid_of_loadOrCreate {manifest : AcceptedManifest}
    (h : loadOrCreate F file manifest = .ok journal) : journal.Valid := by
  cases file with
  | none =>
    obtain ⟨document, hdocument⟩ := manifest.property
    obtain ⟨hgrant, htask, hrun, hattempt⟩ := identified_of_manifest hdocument
    obtain ⟨digest, hdigest, h⟩ := Fold.bind_eq_ok.mp h
    cases h
    exact ⟨isJcsDigest_of_manifestDigest hdigest, hgrant, htask, hrun, hattempt⟩
  | some raw =>
    exact valid_of_journalOfBytes (journalOfBytes_of_loadOrCreate h)

/-- A call goes on with the journal of the same manifest. -/
structure Journal.Continues (journal next : Journal) : Prop where
  manifestDigest : next.manifestDigest = journal.manifestDigest
  grantId : next.grantId = journal.grantId
  taskId : next.taskId = journal.taskId
  runId : next.runId = journal.runId
  attemptId : next.attemptId = journal.attemptId

theorem Journal.Continues.refl (journal : Journal) : journal.Continues journal :=
  ⟨rfl, rfl, rfl, rfl, rfl⟩

theorem Journal.Continues.valid (h : journal.Continues next) (hvalid : journal.Valid) :
    next.Valid where
  manifestDigest := h.manifestDigest ▸ hvalid.manifestDigest
  grantId := h.grantId ▸ hvalid.grantId
  taskId := h.taskId ▸ hvalid.taskId
  runId := h.runId ▸ hvalid.runId
  attemptId := h.attemptId ▸ hvalid.attemptId

theorem continues_of_claimLoaded (h : (claimLoaded leaseId journal).journal = some next) :
    journal.Continues next := by
  unfold claimLoaded at h
  split_ifs at h <;> cases h <;> exact ⟨rfl, rfl, rfl, rfl, rfl⟩

theorem continues_of_recordLoaded (h : (recordLoaded fault journal).journal = some next) :
    journal.Continues next := by
  unfold recordLoaded at h
  split_ifs at h <;> cases h <;> exact ⟨rfl, rfl, rfl, rfl, rfl⟩

theorem continues_of_takeLease (h : takeLease journal lease = .ok next) :
    journal.Continues next := by
  cases lease with
  | none =>
    cases h
    exact .refl _
  | some leaseId =>
    obtain ⟨_, -, h⟩ := Fold.bind_eq_ok.mp h
    split_ifs at h
    cases h
    exact ⟨rfl, rfl, rfl, rfl, rfl⟩

theorem continues_of_attempt (h : (attempt manifest host journal).journal = some next) :
    journal.Continues next := by
  unfold attempt at h
  dsimp only at h
  split at h
  · cases h
    exact ⟨rfl, rfl, rfl, rfl, rfl⟩
  · split_ifs at h <;> cases h <;> exact ⟨rfl, rfl, rfl, rfl, rfl⟩
  · cases h

theorem continues_of_transferLoaded
    (h : (transferLoaded manifest lease host journal).journal = some next) :
    journal.Continues next := by
  unfold transferLoaded at h
  split at h
  · cases h
  · rename_i taken htaken
    have htake := continues_of_takeLease htaken
    have hrest : taken.Continues next := by
      split_ifs at h
      · split at h
        · cases h
        · cases h
          exact .refl _
      · cases h
      · exact continues_of_attempt h
    exact ⟨hrest.manifestDigest.trans htake.manifestDigest, hrest.grantId.trans htake.grantId,
      hrest.taskId.trans htake.taskId, hrest.runId.trans htake.runId,
      hrest.attemptId.trans htake.attemptId⟩

theorem continues_of_work {call : TransferCall} {work : Journal → Ending}
    (hwork : call.work manifest = .ok work) (h : (work journal).journal = some next) :
    journal.Continues next := by
  cases call with
  | claimForTransfer leaseId =>
    simp only [TransferCall.work] at hwork
    split at hwork
    · cases hwork
    · cases hwork
      exact continues_of_claimLoaded h
  | recordFault kind =>
    simp only [TransferCall.work] at hwork
    split at hwork
    · cases hwork
    · cases hwork
      exact continues_of_recordLoaded h
  | transfer lease host =>
    cases hwork
    exact continues_of_transferLoaded h

theorem Reachable.valid (h : Reachable F journal) : journal.Valid := by
  induction h with
  | load hload => exact valid_of_loadOrCreate hload
  | work _ hwork hnext ih => exact (continues_of_work hwork hnext).valid ih

/-! Runs of calls. -/

/-- The journal file as a place that holds one journal. -/
def journalFile (F : FloatText) : Cell.Codec Journal (List Nat) where
  encode := journalBytes F
  decode := journalOfBytes F
  Valid := Reachable F
  decode_encode := fun h => journalOfBytes_journalBytes h.valid

theorem loads_of_loadOrCreate {manifest : AcceptedManifest}
    (hload : loadOrCreate F file manifest = .ok journal) :
    ∀ a, some journal = some a → (journalFile F).Valid a ∧
      ∀ b, file = some b → (journalFile F).decode b = some a := by
  rintro a ⟨⟩
  refine ⟨.load hload, ?_⟩
  rintro b rfl
  exact journalOfBytes_of_loadOrCreate hload

theorem faithful_save {manifest : AcceptedManifest}
    (hload : loadOrCreate F file manifest = .ok journal) (hnext : Reachable F next)
    (raised : Option Raised) :
    Cell.Faithful (journalFile F) file (save F runtime file journal next fate raised).toEffect := by
  have hloads := loads_of_loadOrCreate hload
  unfold save
  split
  · exact ⟨hloads, by simp, fun _ => rfl⟩
  · exact ⟨hloads, by simp, fun _ => rfl⟩
  · rename_i bytes hbytes
    refine ⟨hloads, ?_, by simp⟩
    rintro a ⟨⟩
    exact ⟨hnext, bytes, hbytes, rfl⟩
  · rename_i bytes hbytes
    refine ⟨hloads, ?_, by simp⟩
    rintro a ⟨⟩
    exact ⟨hnext, bytes, hbytes, rfl⟩

theorem faithful_effect (file : Option (List Nat)) (request : Request) :
    Cell.Faithful (journalFile F) file (effect F runtime file request) := by
  unfold effect perform
  split
  · exact ⟨by simp [refused], by simp [refused], fun _ => rfl⟩
  · rename_i work hwork
    unfold withJournal
    split
    · exact ⟨by simp [refused], by simp [refused], fun _ => rfl⟩
    · rename_i journal hload
      have hloads := loads_of_loadOrCreate hload
      split
      · exact ⟨hloads, by simp, fun _ => rfl⟩
      · split
        · exact ⟨hloads, by simp, fun _ => rfl⟩
        · exact ⟨hloads, by simp, fun _ => rfl⟩
        · rename_i saved raised hsaved
          have hnext : (work journal).journal = some saved := by rw [hsaved]; rfl
          exact faithful_save hload (.work (.load hload) hwork hnext) raised

/-- What the file makes of a journal that was written. -/
theorem loadOrCreate_journalBytes {bytes : List Nat} (h : journal.Valid)
    (hbytes : journalBytes F journal = some bytes) : loadOrCreate F (some bytes) manifest =
      if maxTransferManifestBytes < bytes.length then .error (.transfer invalidJournal)
      else .ok journal := by
  unfold loadOrCreate
  dsimp only
  rw [journalOfBytes_journalBytes h hbytes]

/-- Every journal survives its document. Calls read and write such journals, and whether their saves
come through or not, the next call reads the journal that was written last, or it refuses a file
that is too long. -/
theorem transfer_journal (F : FloatText) (runtime : String) :
    (∀ journal, Reachable F journal → journalFrom (journalDocument journal) = some journal) ∧
    ∀ (file : Option (List Nat)) (requests : List Request),
      (∀ call ∈ Cell.trace (effect F runtime) file requests, ∀ journal,
        call.loaded = some journal ∨ call.written = some journal → Reachable F journal) ∧
      ∀ written, Cell.lastWritten (Cell.trace (effect F runtime) file requests) = some written →
        (∀ request loaded, (effect F runtime (Cell.after (effect F runtime) file requests)
          request).loaded = some loaded → loaded = written) ∧
        ∃ bytes, journalBytes F written = some bytes ∧ ∀ manifest,
          loadOrCreate F (Cell.after (effect F runtime) file requests) manifest =
            if maxTransferManifestBytes < bytes.length then .error (.transfer invalidJournal)
            else .ok written := by
  have hfaithful : ∀ file request,
      Cell.Faithful (journalFile F) file (effect F runtime file request) :=
    faithful_effect
  refine ⟨fun journal h => journalFrom_journalDocument h.valid, fun file requests => ⟨?_, ?_⟩⟩
  · intro call hcall journal hjournal
    obtain ⟨before, hcall⟩ := Cell.faithful_of_mem_trace hfaithful hcall
    rcases hjournal with hloaded | hwritten
    · exact (hcall.loads journal hloaded).1
    · exact (hcall.writes journal hwritten).1
  · intro written hwritten
    obtain ⟨hreachable, bytes, hbytes, hafter⟩ := Cell.holds_lastWritten hfaithful hwritten
    refine ⟨?_, bytes, hbytes, fun manifest => ?_⟩
    · intro request loaded hloaded
      exact Cell.loaded_eq_lastWritten hfaithful hwritten hloaded
    · rw [hafter]
      exact loadOrCreate_journalBytes hreachable.valid hbytes

end ResearchOs.Transfer
