import Mathlib.Algebra.GroupWithZero.Nat
import ResearchOs.Data.Fold
import ResearchOs.Data.Retention
import ResearchOs.Data.Sha256
import ResearchOs.Data.Text

/-! The view store of the dashboard: revision-bound writes and the revisions that stay readable. -/
namespace ResearchOs.Dashboard

/-- What the store does not look into: the map, its JSON text, and the check of an agent's edit. -/
structure View where
  MapState : Type
  empty : MapState
  checkAgentEdit : MapState → MapState → Option (List String) → Except String Unit
  stateJson : MapState → String
  textJson : String → String

inductive AuthorKind where
  | human
  | agent
  | system
  deriving DecidableEq, Repr

def AuthorKind.text : AuthorKind → String
  | .human => "human"
  | .agent => "agent"
  | .system => "system"

/-- `datetime.now(UTC).isoformat()` -/
abbrev Timestamp := {text : String // text.utf8ByteSize ≤ 32}

variable {V : View}

structure DashboardDocument (V : View) where
  projectId : String
  revision : Nat
  state : V.MapState
  author : String
  authorKind : AuthorKind
  updatedAt : Option Timestamp

/-- `DashboardDocument(projectId=…)` -/
def DashboardDocument.initial (V : View) (projectId : String) : DashboardDocument V :=
  ⟨projectId, 0, V.empty, "system", .system, none⟩

structure DashboardWrite (V : View) where
  projectId : String
  requestId : String
  expectedRevision : Nat
  author : String
  byAgent : Bool
  state : V.MapState
  scope : Option (List String)

def DashboardWrite.authorKind (request : DashboardWrite V) : AuthorKind :=
  if request.byAgent then .agent else .human

def scopeJson (V : View) : Option (List String) → String
  | none => "null"
  | some scope => "[" ++ ",".intercalate (scope.map V.textJson) ++ "]"

def updatedAtJson : Option Timestamp → String
  | none => "null"
  | some updatedAt => "\"" ++ updatedAt.val ++ "\""

/-- An object whose texts stand between its fixed parts. -/
def interleave : List String → List String → String
  | part :: parts, text :: texts => part ++ (text ++ interleave parts texts)
  | part :: parts, [] => part ++ interleave parts []
  | [], _ => ""

def writeParts : List String :=
  ["\x7b\"apiVersion\":\"researchos.dev/dashboard/v0alpha1\",\"kind\":\"DashboardWrite\"," ++
      "\"projectId\":", ",\"requestId\":", ",\"expectedRevision\":", ",\"author\":",
    ",\"authorKind\":\"", "\",\"state\":", ",\"scope\":", "\x7d"]

def documentParts : List String :=
  ["\x7b\"apiVersion\":\"researchos.dev/dashboard/v0alpha1\",\"kind\":\"DashboardDocument\"," ++
      "\"projectId\":", ",\"revision\":", ",\"state\":", ",\"author\":", ",\"authorKind\":\"",
    "\",\"updatedAt\":", "\x7d"]

/-- `request.model_dump_json(by_alias=True)` -/
def DashboardWrite.encoded (request : DashboardWrite V) : String :=
  interleave writeParts
    [V.textJson request.projectId, V.textJson request.requestId, toString request.expectedRevision,
      V.textJson request.author, request.authorKind.text, V.stateJson request.state,
      scopeJson V request.scope]

/-- `document.model_dump_json(by_alias=True)` -/
def DashboardDocument.encoded (document : DashboardDocument V) : String :=
  interleave documentParts
    [V.textJson document.projectId, toString document.revision, V.stateJson document.state,
      V.textJson document.author, document.authorKind.text, updatedAtJson document.updatedAt]

def maxBytes : Nat := 1048576

def sqliteIntegerMax : Nat := 2 ^ 63 - 1

def keptRevisions : Nat := 30

inductive DashboardError where
  | refused (message : String)
  | unavailable
  | overflow
  deriving DecidableEq, Repr

/-- A row of `revisions`; its body is the document that the JSON text holds. -/
structure Row (V : View) where
  project : String
  revision : Nat
  request : String
  digest : String
  body : DashboardDocument V

/-- The statements of a write, each of which may fail. -/
inductive Statement where
  | connect
  | beginImmediate
  | createTable
  | selectReplay
  | selectCurrent
  | insert
  | delete
  | commit

structure WriteCall (V : View) where
  request : DashboardWrite V
  now : Timestamp
  fails : Statement → Bool

def refuseIf (condition : Prop) [Decidable condition] (message : String) :
    Except DashboardError Unit :=
  if condition then .error (.refused message) else .ok ()

def WriteCall.execute (call : WriteCall V) (statement : Statement) : Except DashboardError Unit :=
  if call.fails statement then .error .unavailable else .ok ()

/-- `_decode` -/
def decode (projectId : String) (body : DashboardDocument V) :
    Except DashboardError (DashboardDocument V) := do
  refuseIf (maxBytes < body.encoded.utf8ByteSize) "view document exceeds limit"
  refuseIf (body.projectId ≠ projectId) "foreign view document"
  pure body

/-- `ORDER BY revision DESC LIMIT 1` -/
def newest (projectId : String) (rows : List (Row V)) : Option (Row V) :=
  (rows.filter fun row => row.project = projectId).argmax Row.revision

/-- `INSERT INTO revisions`, under the keys of the table. -/
def insertRow (row : Row V) (rows : List (Row V)) : Except DashboardError (List (Row V)) :=
  if sqliteIntegerMax < row.revision then .error .overflow
  else if rows.any fun other => other.project = row.project ∧
      (other.revision = row.revision ∨ other.request = row.request) then .error .unavailable
  else .ok (rows ++ [row])

def checkEdit (current : DashboardDocument V) (request : DashboardWrite V) :
    Except DashboardError Unit :=
  match request.authorKind with
  | .agent => (V.checkAgentEdit current.state request.state request.scope).mapError .refused
  | _ => .ok ()

def currentDocument (projectId : String) (rows : List (Row V)) :
    Except DashboardError (DashboardDocument V) :=
  match newest projectId rows with
  | some row => decode projectId row.body
  | none => .ok (DashboardDocument.initial V projectId)

/-- The row that a request identity names. -/
def replayOf (projectId requestId : String) (rows : List (Row V)) : Option (Row V) :=
  rows.find? fun row => row.project = projectId ∧ row.request = requestId

/-- `write` inside its transaction: the document, and the rows to commit. -/
def writeRows (projectId : String) (call : WriteCall V) (rows : List (Row V)) :
    Except DashboardError (DashboardDocument V × List (Row V)) := do
  let request := call.request
  let digest := Sha256.hexdigest request.encoded
  call.execute .beginImmediate
  call.execute .createTable
  call.execute .selectReplay
  match replayOf projectId request.requestId rows with
  | some replay =>
    refuseIf (replay.digest ≠ digest) "request identity reused"
    let document ← decode projectId replay.body
    call.execute .commit
    pure (document, rows)
  | none =>
    call.execute .selectCurrent
    let current ← currentDocument projectId rows
    refuseIf (request.expectedRevision ≠ current.revision) "revision conflict"
    checkEdit current request
    let document : DashboardDocument V :=
      ⟨projectId, current.revision + 1, request.state, request.author, request.authorKind,
        some call.now⟩
    call.execute .insert
    let inserted ← insertRow
      ⟨projectId, document.revision, request.requestId, digest, document⟩ rows
    call.execute .delete
    call.execute .commit
    pure (document, inserted.filter fun row =>
      ¬ (row.project = projectId ∧ row.revision + keptRevisions ≤ document.revision))

/-- `write`; the table is absent until a write commits, and a raised error rolls it back. -/
def write (projectId : String) (call : WriteCall V) (table : Option (List (Row V))) :
    Except DashboardError (DashboardDocument V × List (Row V)) := do
  refuseIf (call.request.projectId ≠ projectId) "foreign project"
  refuseIf (maxBytes - 1024 < call.request.encoded.utf8ByteSize) "view document exceeds limit"
  call.execute .connect
  writeRows projectId call (table.getD [])

/-- `read` -/
def read (projectId : String) (revision : Option Nat) (table : Option (List (Row V))) :
    Except DashboardError (DashboardDocument V) :=
  match revision, table with
  | some 0, _ => .ok (DashboardDocument.initial V projectId)
  | none, none => .ok (DashboardDocument.initial V projectId)
  | some _, none => .error (.refused "revision unavailable")
  | none, some rows => currentDocument projectId rows
  | some revision, some rows =>
    match rows.find? fun row => row.project = projectId ∧ row.revision = revision with
    | none => .error (.refused "revision unavailable")
    | some row => decode projectId row.body

/-! The texts stay within the limit: a document is at most 1024 bytes longer than its request. -/

/-- The fixed parts and the texts between them add up. -/
theorem utf8ByteSize_interleave {parts texts : List String} (h : texts.length ≤ parts.length) :
    (interleave parts texts).utf8ByteSize =
      (parts.map String.utf8ByteSize).sum + (texts.map String.utf8ByteSize).sum := by
  induction parts generalizing texts with
  | nil =>
    rw [List.length_nil, Nat.le_zero, List.length_eq_zero_iff] at h
    subst h
    rfl
  | cons part parts ih =>
    cases texts with
    | nil =>
      rw [interleave, String.utf8ByteSize_append, ih (Nat.zero_le _)]
      simp only [List.map_cons, List.sum_cons, List.map_nil, List.sum_nil]
      omega
    | cons text texts =>
      rw [interleave, String.utf8ByteSize_append, String.utf8ByteSize_append,
        ih (Nat.le_of_succ_le_succ h)]
      simp only [List.map_cons, List.sum_cons]
      omega

theorem encoded_le (projectId : String) (request : DashboardWrite V) (now : Timestamp)
    (h : request.projectId = projectId) :
    (DashboardDocument.mk projectId (request.expectedRevision + 1) request.state request.author
        request.authorKind (some now) : DashboardDocument V).encoded.utf8ByteSize ≤
      request.encoded.utf8ByteSize + 1024 := by
  have hrevision := Text.utf8ByteSize_toString_succ request.expectedRevision
  have hnow := now.property
  have hupdatedAt : (updatedAtJson (some now)).utf8ByteSize = now.val.utf8ByteSize + 2 := by
    rw [updatedAtJson, String.utf8ByteSize_append, String.utf8ByteSize_append]
    have hquote : "\"".utf8ByteSize = 1 := by decide +kernel
    omega
  have hparts : (documentParts.map String.utf8ByteSize).sum ≤ 512 := by decide +kernel
  subst h
  rw [DashboardDocument.encoded, DashboardWrite.encoded,
    utf8ByteSize_interleave (by simp [documentParts]), utf8ByteSize_interleave (by simp [writeParts])]
  simp only [List.map_cons, List.map_nil, List.sum_cons, List.sum_nil, hupdatedAt]
  omega

end ResearchOs.Dashboard
