import ResearchOs.Jcs.Canonical
import ResearchOs.Core.Spec.Model

/-! The sealed registry of block manifests that planning resolves tasks with. -/
namespace ResearchOs.Blocks

open JsonText (FloatText)
open Spec (Identifier JsonObject NonEmptyText SemanticVersion)

inductive RuntimeType where
  | simulated
  | python
  | container
  | remoteService
  | composite
  deriving DecidableEq, Repr

def RuntimeType.text : RuntimeType → String
  | simulated => "simulated"
  | python => "python"
  | container => "container"
  | remoteService => "remote-service"
  | composite => "composite"

def anyType : NonEmptyText := ⟨"researchos.any", by decide⟩

structure BlockPort where
  id : Identifier
  valueType : NonEmptyText := anyType
  required : Bool := false

/-- What planning reads of a manifest; its lists are without repetition. -/
structure BlockManifest where
  id : Identifier
  version : SemanticVersion
  runtimeType : RuntimeType
  inputs : List BlockPort
  outputs : List BlockPort
  configSchema : JsonObject
  capabilities : List Identifier
  permissions : List Identifier
  inputs_unique : (inputs.map BlockPort.id).Nodup
  outputs_unique : (outputs.map BlockPort.id).Nodup
  capabilities_unique : capabilities.Nodup
  permissions_unique : permissions.Nodup

/-- `digest` is the one of the manifest's document. -/
structure RegisteredBlock where
  manifest : BlockManifest
  digest : JcsDigest

def RegisteredBlock.key (block : RegisteredBlock) : String × String :=
  (block.manifest.id.val, block.manifest.version.val)

/-- A registry is sealed before it is planned with; no two of its blocks have one key. -/
structure BlockRegistry where
  blocks : List RegisteredBlock
  isSealed : Bool
  keys_unique : (blocks.map RegisteredBlock.key).Nodup

inductive RegistryError where
  /-- `UnknownBlockError` -/
  | unknownBlock (message : String)
  /-- `BlockConfigError` -/
  | blockConfig (message : String)
  /-- A `ValueError` of the canonical encoder. -/
  | raised (message : String)
  deriving DecidableEq, Repr

def maxConfigBytes : ℕ := 262144

def maxConfigDepth : ℕ := 32

def maxConfigNodes : ℕ := 16384

/-- The values directly inside a value. -/
def children : Json → List Json
  | .arr items => items
  | .obj members => members.map Prod.snd
  | _ => []

/-- The stack of `_validate_config_limits`, whose top is the last; `room` is how many nodes may
still be seen. -/
def limitViolation : ℕ → List (Json × ℕ) → Option String
  | room, stack =>
    match stack.getLast?, room with
    | none, _ => none
    | some _, 0 => some "config exceeds the 16384-node M0 limit"
    | some (value, depth), room + 1 =>
      if maxConfigDepth < depth then some "config exceeds the M0 nesting limit of 32"
      else limitViolation room
        (stack.dropLast ++ (children value).map fun child => (child, depth + 1))

namespace BlockRegistry

/-- `resolve` -/
def resolve (registry : BlockRegistry) (blockId version : String) :
    Except RegistryError RegisteredBlock :=
  match registry.blocks.find? fun block => block.key = (blockId, version) with
  | some block => .ok block
  | none => .error (.unknownBlock ("unknown block manifest: " ++ blockId ++ "@" ++ version))

/-- `validate_config`; `violatedRule` is the first rule of a schema that JSON Schema finds
violated. -/
def validateConfig (F : FloatText) (violatedRule : Json.Members → Json.Members → Option String)
    (block : RegisteredBlock) (config : JsonObject) : Except RegistryError Unit :=
  match Jcs.canonicalJson F (.obj config.val) with
  | .error message => .error (.raised message)
  | .ok text =>
    if maxConfigBytes < (String.ofList text).utf8ByteSize then
      .error (.blockConfig "config exceeds the 262144-byte M0 limit")
    else
      match limitViolation maxConfigNodes [(.obj config.val, 0)] with
      | some message => .error (.blockConfig message)
      | none =>
        match violatedRule block.manifest.configSchema.val config.val with
        | some rule => .error (.blockConfig ("config for " ++ block.manifest.id.val ++ "@" ++
            block.manifest.version.val ++ " violates JSON Schema rule '" ++ rule ++ "'"))
        | none => .ok ()

/-- The key of a block as a pair of texts, in the order of such pairs. -/
def sortKey (block : RegisteredBlock) : List (List Char) :=
  [block.key.1.toList, block.key.2.toList]

/-- `digest` -/
def digest (F : FloatText) (registry : BlockRegistry) : Except String String :=
  Jcs.contentDigest F (.arr ((SortBy.sortBy sortKey registry.blocks).map fun block =>
    .obj (Json.ofPairs [("id", .str block.manifest.id.val),
      ("version", .str block.manifest.version.val), ("manifestDigest", .str block.digest.val)])))

end BlockRegistry

end ResearchOs.Blocks
