import ResearchOs.Data.JsonEq
import ResearchOs.Data.SortBy
import ResearchOs.Core.Spec.Dump

/-! Semantic differences between two revisions of a spec. -/
namespace ResearchOs.Spec

open SortBy (sortBy)

inductive ChangeKind where
  | added
  | removed
  | changed
  deriving DecidableEq, Repr

inductive ChangeImpact where
  | metadata
  | research
  | execution
  | governance
  | extension
  deriving DecidableEq, Repr

structure SemanticChange where
  path : String
  kind : ChangeKind
  impact : ChangeImpact
  before : Json
  after : Json
  deriving DecidableEq

/-- `_escape` -/
def escape (value : String) : String :=
  String.ofList (value.toList.flatMap fun c =>
    if c = '~' then ['~', '0'] else if c = '/' then ['~', '1'] else [c])

/-- One step down into a document: to a member of an object, or to the item of a list with an
id. -/
inductive Step where
  | key (name : String)
  | item (id : String)
  deriving DecidableEq, Repr

def Step.text : Step → String
  | .key name => "/" ++ escape name
  | .item id => "[id=" ++ escape id ++ "]"

/-- The id of an item, if it is an object with one. -/
def itemId : Json → Option String
  | .obj members =>
    match members.lookup "id" with
    | some (.str id) => some id
    | _ => none
  | _ => none

/-- `_is_id_list` -/
def isIdList (items : List Json) : Bool :=
  items.all (fun item => (itemId item).isSome) && decide (items.filterMap itemId).Nodup

def itemWithId (id : String) (items : List Json) : Option Json :=
  items.find? fun item => itemId item = some id

/-- A difference at a path. What stands only on one side has `null` on the other. -/
structure Difference (π : Type) where
  path : π
  kind : ChangeKind
  before : Json
  after : Json

/-- The parts of a comparison, in the order of the names they are about. -/
def inOrder {α : Type} (parts : List (String × List α)) : List α :=
  (sortBy Prod.fst parts).flatMap Prod.snd

section

variable {π : Type} (child : π → Step → π)

/-- The members that only the new object has. -/
def addedMembers (path : π) (old new : Json.Members) : List (String × List (Difference π)) :=
  (new.filter fun member => (old.lookup member.1).isNone).map fun member =>
    (member.1, [⟨child path (.key member.1), .added, .null, member.2⟩])

/-- The items that only the new list has. -/
def addedItems (path : π) (old new : List Json) : List (String × List (Difference π)) :=
  new.filterMap fun item => (itemId item).bind fun id =>
    if (itemWithId id old).isNone then
      some (id, [⟨child path (.item id), .added, .null, item⟩])
    else none

/-- The end of `_diff_values`, for values that have no parts. -/
def diffScalars (path : π) (old new : Json) : List (Difference π) :=
  if old.valueType = new.valueType ∧ old.hostEq new then [] else [⟨path, .changed, old, new⟩]

mutual

/-- `_diff_values`, for paths that grow by one step at a time. -/
def diffValues (path : π) : Json → Json → List (Difference π)
  | .obj old, other =>
    match other with
    | .obj new => inOrder (diffMembers path new old ++ addedMembers child path old new)
    | _ => [⟨path, .changed, .obj old, other⟩]
  | .arr old, other =>
    match other with
    | .arr new =>
      if isIdList old && isIdList new then
        inOrder (diffItems path new old ++ addedItems child path old new)
      else if Json.hostEqItems old new then []
      else [⟨path, .changed, .arr old, .arr new⟩]
    | _ => [⟨path, .changed, .arr old, other⟩]
  | .null, other => diffScalars path .null other
  | .bool b, other => diffScalars path (.bool b) other
  | .int n, other => diffScalars path (.int n) other
  | .float x, other => diffScalars path (.float x) other
  | .str s, other => diffScalars path (.str s) other

def diffMembers (path : π) (new : Json.Members) :
    Json.Members → List (String × List (Difference π))
  | [] => []
  | (key, value) :: members =>
    (key, match new.lookup key with
      | some other => diffValues (child path (.key key)) value other
      | none => [⟨child path (.key key), .removed, value, .null⟩]) ::
    diffMembers path new members

def diffItems (path : π) (new : List Json) : List Json → List (String × List (Difference π))
  | [] => []
  | item :: items =>
    match itemId item with
    | some id =>
      (id, match itemWithId id new with
        | some other => diffValues (child path (.item id)) item other
        | none => [⟨child path (.item id), .removed, item, .null⟩]) ::
      diffItems path new items
    | none => diffItems path new items

end

end

/-- `_impact_for` -/
def impactFor (path : String) : ChangeImpact :=
  let root := String.ofList (((path.toList.dropWhile (· = '/')).takeWhile (· ≠ '/')).takeWhile
    (· ≠ '['))
  if root = "metadata" then .metadata
  else if root ∈ ["questions", "hypotheses", "evidence"] then .research
  else if root ∈ ["datasets", "models", "workflows", "evaluations", "resources"] then .execution
  else if root = "policies" then .governance
  else .extension

/-- The path of the whole document is shown as the root. -/
def shown (path : String) : String := if path = "" then "/" else path

/-- `_change` -/
def Difference.change (difference : Difference String) : SemanticChange where
  path := shown difference.path
  kind := difference.kind
  impact := impactFor difference.path
  before := difference.before
  after := difference.after

/-- The changes between two documents. -/
def documentChanges (before after : Json) : List SemanticChange :=
  (diffValues (fun path step => path ++ step.text) "" before after).map Difference.change

/-- `semantic_diff` -/
def semanticDiff (old new : ResearchSpec) : Except String (List SemanticChange) :=
  if old.metadata.id ≠ new.metadata.id then
    .error "cannot diff specs with different project ids"
  else if new.metadata.revision.val ≤ old.metadata.revision.val then
    .error "new revision must be greater than old revision"
  else .ok (documentChanges (old.dump true) (new.dump true))

end ResearchOs.Spec
