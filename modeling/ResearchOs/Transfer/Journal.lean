import ResearchOs.Data.JsonAscii
import ResearchOs.Jcs.Canonical
import ResearchOs.Transfer.Staging

/-! The transfer journal: what is kept of a transfer, its document, and reading it back. -/
namespace ResearchOs.Transfer

open JsonText (FloatText)

inductive TransferStatus where
  | complete
  | incomplete
  | refused
  deriving DecidableEq, Repr

inductive TransferObservation where
  | success
  | failure
  | stopped
  | unknown
  | cancelRequested
  deriving DecidableEq, Repr

inductive ProcessObservation where
  | present
  | unavailable
  deriving DecidableEq, Repr

def TransferDirection.text : TransferDirection → String
  | .input => "input"
  | .output => "output"

def TransferStatus.text : TransferStatus → String
  | .complete => "complete"
  | .incomplete => "incomplete"
  | .refused => "refused"

def TransferObservation.text : TransferObservation → String
  | .success => "success"
  | .failure => "failure"
  | .stopped => "stopped"
  | .unknown => "unknown"
  | .cancelRequested => "cancel-requested"

def ProcessObservation.text : ProcessObservation → String
  | .present => "present"
  | .unavailable => "unavailable"

def TransferStatus.ofText : String → Option TransferStatus
  | "complete" => some .complete
  | "incomplete" => some .incomplete
  | "refused" => some .refused
  | _ => none

/-- `_OBSERVATIONS` -/
def TransferObservation.ofText : String → Option TransferObservation
  | "success" => some .success
  | "failure" => some .failure
  | "stopped" => some .stopped
  | "unknown" => some .unknown
  | "cancel-requested" => some .cancelRequested
  | _ => none

def ProcessObservation.ofText : String → Option ProcessObservation
  | "present" => some .present
  | "unavailable" => some .unavailable
  | _ => none

/-- `_Journal` -/
structure Journal where
  manifestDigest : String
  grantId : String
  taskId : String
  runId : String
  attemptId : String
  direction : TransferDirection
  leaseId : Option String
  status : TransferStatus
  observation : TransferObservation
  completed : List String
  attempts : Nat
  starts : Nat
  processObservation : ProcessObservation
  processPid : Option Int
  deriving DecidableEq, Repr

/-- `_journal_document` -/
def journalDocument (journal : Journal) : Json.Members :=
  [("attemptId", .str journal.attemptId),
    ("attempts", .int journal.attempts),
    ("completed", .arr (journal.completed.map .str)),
    ("direction", .str journal.direction.text),
    ("grantId", .str journal.grantId),
    ("leaseId", Strict.ofOption .str journal.leaseId),
    ("manifestDigest", .str journal.manifestDigest),
    ("observation", .str journal.observation.text),
    ("processObservation", .str journal.processObservation.text),
    ("processPid", Strict.ofOption .int journal.processPid),
    ("runId", .str journal.runId),
    ("starts", .int journal.starts),
    ("status", .str journal.status.text),
    ("taskId", .str journal.taskId)]

/-! Reading the members back. Whatever is refused raises a `KeyError`, a `TypeError` or a
`ValueError`. -/

def asText : Json → Option String
  | .str s => some s
  | _ => none

def asInteger : Json → Option Int
  | .int n => some n
  | _ => none

def counter : Json → Option Nat
  | .int n => if n < 0 then none else some n.toNat
  | _ => none

/-- `_identifier_digest` -/
def identifierDigest : Json → Option String
  | .str value => if isJcsDigest value = true then some value else none
  | _ => none

/-- `_journal_from` -/
def journalFrom (body : Json.Members) : Option Journal := do
  let status ← Strict.required body "status" (Strict.enumeration TransferStatus.ofText)
  let observation ← Strict.required body "observation" (Strict.enumeration TransferObservation.ofText)
  let direction ← Strict.required body "direction" (Strict.enumeration TransferDirection.ofText)
  let processObservation ←
    Strict.required body "processObservation" (Strict.enumeration ProcessObservation.ofText)
  let completed ← Strict.required body "completed" (Strict.array asText)
  let attempts ← Strict.required body "attempts" counter
  let starts ← Strict.required body "starts" counter
  let leaseId ← Strict.required body "leaseId" (Strict.nullable asText)
  let processPid ← Strict.required body "processPid" (Strict.nullable asInteger)
  let manifestDigest ← Strict.required body "manifestDigest" identifierDigest
  let grantId ← (identifier (body.lookup "grantId")).toOption
  let taskId ← (identifier (body.lookup "taskId")).toOption
  let runId ← (identifier (body.lookup "runId")).toOption
  let attemptId ← (identifier (body.lookup "attemptId")).toOption
  some ⟨manifestDigest, grantId, taskId, runId, attemptId, direction, leaseId, status, observation,
    completed, attempts, starts, processObservation, processPid⟩

/-- A journal of one manifest, by a digest and four identifiers. -/
structure Journal.Valid (journal : Journal) : Prop where
  manifestDigest : isJcsDigest journal.manifestDigest = true
  grantId : isEventIdentifier journal.grantId = true
  taskId : isEventIdentifier journal.taskId = true
  runId : isEventIdentifier journal.runId = true
  attemptId : isEventIdentifier journal.attemptId = true

/-! The journal in a file. -/

/-- The layout of `json.dumps` with `ensure_ascii`. -/
def spacedAscii : JsonText.Layout :=
  ⟨[' '], JsonText.escapeAscii, by simp [JsonText.isWhitespace], JsonText.scanString_escapeAscii⟩

/-- What `_save` writes, unless an integer has too many digits. -/
def journalBytes (F : FloatText) (journal : Journal) : Option (List Nat) :=
  let document := Json.obj (journalDocument journal)
  if JsonText.dumpable document then
    some (Text.bytesOf (String.ofList (spacedAscii.render F document)))
  else none

/-- What `_load_or_create` makes of the bytes of a file. -/
def journalOfBytes (F : FloatText) (raw : List Nat) : Option Journal :=
  match (Text.textOf raw).bind (JsonText.loads F) with
  | some (.obj body) => journalFrom body
  | _ => none

/-! What is written reads back. -/

variable {F : FloatText} {journal : Journal} {body : Json.Members} {bytes : List Nat} {value : Json}
  {text : String}

@[simp] theorem TransferStatus.ofText_text (status : TransferStatus) :
    ofText status.text = some status := by
  cases status <;> rfl

@[simp] theorem TransferObservation.ofText_text (observation : TransferObservation) :
    ofText observation.text = some observation := by
  cases observation <;> rfl

@[simp] theorem TransferDirection.ofText_text (direction : TransferDirection) :
    ofText direction.text = some direction := by
  cases direction <;> rfl

@[simp] theorem ProcessObservation.ofText_text (observation : ProcessObservation) :
    ofText observation.text = some observation := by
  cases observation <;> rfl

@[simp] theorem counter_natCast (n : Nat) : counter (.int n) = some n := by
  rw [counter, if_neg (by omega), Int.toNat_natCast]

theorem identifier_of_isEventIdentifier (h : isEventIdentifier text = true) :
    (identifier (some (.str text))).toOption = some text := by
  simp [identifier, require, h, Except.toOption, bind, Except.bind]

theorem journalFrom_journalDocument (h : journal.Valid) :
    journalFrom (journalDocument journal) = some journal := by
  obtain ⟨hdigest, hgrant, htask, hrun, hattempt⟩ := h
  have hcompleted : Strict.array asText (.arr (journal.completed.map .str)) =
      some journal.completed :=
    Strict.array_map _ fun _ _ => rfl
  have hlease : Strict.nullable asText (Strict.ofOption .str journal.leaseId) =
      some journal.leaseId :=
    Strict.nullable_ofOption _ (fun _ h => by cases h) fun _ _ => rfl
  have hpid : Strict.nullable asInteger (Strict.ofOption .int journal.processPid) =
      some journal.processPid := Strict.nullable_ofOption _ (fun _ h => by cases h) fun _ _ => rfl
  simp [journalFrom, journalDocument, List.lookup_cons, Strict.required, Strict.enumeration,
    hcompleted, hlease, hpid, identifierDigest, hdigest, identifier_of_isEventIdentifier, hgrant,
    htask, hrun, hattempt]

theorem isEventIdentifier_of_identifier {value : Option Json} (h : identifier value = .ok text) :
    isEventIdentifier text = true := by
  unfold identifier at h
  split at h
  · obtain ⟨_, hfound, h⟩ := Fold.bind_eq_ok.mp h
    cases h
    exact require_eq_ok.mp hfound
  · cases h

theorem isEventIdentifier_of_toOption {value : Option Json}
    (h : (identifier value).toOption = some text) : isEventIdentifier text = true := by
  cases hfound : identifier value with
  | error error =>
    rw [hfound] at h
    cases h
  | ok found =>
    rw [hfound] at h
    cases h
    exact isEventIdentifier_of_identifier hfound

theorem identifierDigest_eq_some (h : identifierDigest value = some text) :
    isJcsDigest text = true := by
  unfold identifierDigest at h
  split at h
  · split_ifs at h with hdigest
    exact Option.some.inj h ▸ hdigest
  · cases h

/-- Whatever is read back is a journal of one manifest. -/
theorem valid_of_journalFrom (h : journalFrom body = some journal) : journal.Valid := by
  obtain ⟨status, -, h⟩ := Option.bind_eq_some_iff.mp h
  obtain ⟨observation, -, h⟩ := Option.bind_eq_some_iff.mp h
  obtain ⟨direction, -, h⟩ := Option.bind_eq_some_iff.mp h
  obtain ⟨processObservation, -, h⟩ := Option.bind_eq_some_iff.mp h
  obtain ⟨completed, -, h⟩ := Option.bind_eq_some_iff.mp h
  obtain ⟨attempts, -, h⟩ := Option.bind_eq_some_iff.mp h
  obtain ⟨starts, -, h⟩ := Option.bind_eq_some_iff.mp h
  obtain ⟨leaseId, -, h⟩ := Option.bind_eq_some_iff.mp h
  obtain ⟨processPid, -, h⟩ := Option.bind_eq_some_iff.mp h
  obtain ⟨manifestDigest, hmember, h⟩ := Option.bind_eq_some_iff.mp h
  obtain ⟨grantId, hgrant, h⟩ := Option.bind_eq_some_iff.mp h
  obtain ⟨taskId, htask, h⟩ := Option.bind_eq_some_iff.mp h
  obtain ⟨runId, hrun, h⟩ := Option.bind_eq_some_iff.mp h
  obtain ⟨attemptId, hattempt, h⟩ := Option.bind_eq_some_iff.mp h
  cases h
  obtain ⟨value, -, hdigest⟩ := Option.bind_eq_some_iff.mp hmember
  exact ⟨identifierDigest_eq_some hdigest, isEventIdentifier_of_toOption hgrant,
    isEventIdentifier_of_toOption htask, isEventIdentifier_of_toOption hrun,
    isEventIdentifier_of_toOption hattempt⟩

theorem sorted_journalDocument : Json.Sorted (journalDocument journal) := by
  show List.Pairwise _ ["attemptId", "attempts", "completed", "direction", "grantId", "leaseId",
    "manifestDigest", "observation", "processObservation", "processPid", "runId", "starts", "status",
    "taskId"]
  decide +kernel

theorem canonical_journalDocument : (Json.obj (journalDocument journal)).canonical = true := by
  have hlease : (Strict.ofOption Json.str journal.leaseId).canonical = true := by
    cases journal.leaseId <;> rfl
  have hpid : (Strict.ofOption Json.int journal.processPid).canonical = true := by
    cases journal.processPid <;> rfl
  have hcompleted := Json.canonicalItems_strs journal.completed
  rw [Json.canonical, decide_eq_true sorted_journalDocument, Bool.true_and]
  simp [journalDocument, Json.canonicalMembers, Json.canonical, hlease, hpid, hcompleted]

theorem journalOfBytes_journalBytes (h : journal.Valid)
    (hbytes : journalBytes F journal = some bytes) :
    journalOfBytes F bytes = some journal := by
  unfold journalBytes at hbytes
  dsimp only at hbytes
  split_ifs at hbytes with hdump
  obtain rfl := Option.some.inj hbytes
  have hload := JsonText.loads_render (F := F) spacedAscii canonical_journalDocument hdump
  rw [journalOfBytes, Text.textOf_bytesOf, Option.bind_some, hload]
  exact journalFrom_journalDocument h

theorem valid_of_journalOfBytes (h : journalOfBytes F bytes = some journal) : journal.Valid := by
  unfold journalOfBytes at h
  split at h
  · exact valid_of_journalFrom h
  · cases h

end ResearchOs.Transfer
