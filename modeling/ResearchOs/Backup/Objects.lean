import ResearchOs.Data.Sha256
import ResearchOs.Projections.QueryTables

/-! The content objects that a backup copies: those that an event prefix cites. -/
namespace ResearchOs.Backup

open Projections (digestRef digestRefs walkItems walkMembers)
open Storage (Document EventLog)

/-- `RecoveryError` -/
structure RecoveryError where
  code : String
  message : String
  deriving DecidableEq, Repr

/-- `_file_digest` of raw bytes. -/
def fileDigest (bytes : List Nat) : String :=
  "sha256:" ++ String.ofList (Sha256.digest bytes).hex

/-- `LocalArtifactStore`: published contents, each found by the digest of its bytes. -/
structure ArtifactStore where
  objects : List (List Nat)

namespace ArtifactStore

/-- `open` -/
def openObject (store : ArtifactStore) (digest : String) : Option (List Nat) :=
  store.objects.find? fun bytes => fileDigest bytes = digest

/-- `exists` -/
def holds (store : ArtifactStore) (digest : String) : Bool := (store.openObject digest).isSome

/-- `put`: no object is replaced or removed. -/
def put (store : ArtifactStore) (bytes : List Nat) : ArtifactStore :=
  if store.holds (fileDigest bytes) then store else ⟨store.objects ++ [bytes]⟩

end ArtifactStore

/-- The digests with an object, among those that an event references. -/
def objectDigests (event : ResearchEvent) : List String :=
  ((digestRefs event).map fun ref => ref.digest.val).filter isSha256Digest

def textLE (a b : String) : Bool := decide (a.toList ≤ b.toList)

def objectMembers (j : Option Json) : Json.Members := (j.bind Strict.members).getD []

def arrayItems : Option Json → List Json
  | some (.arr items) => items
  | _ => []

/-- The digests with an object that a draft writes into its payload, at any depth, or into its
evidence references. -/
def citedDigests (document : Document) : List String :=
  let data := objectMembers ((objectMembers (some document.val)).lookup "data")
  let refs := walkMembers "payload" (objectMembers (data.lookup "payload")) ++
    walkItems "evidence" (arrayItems (data.lookup "evidenceRefs"))
  (refs.map fun ref => ref.digest.val).filter isSha256Digest

/-- `_prefix_object_state`: the sorted digests of a prefix. -/
def prefixDigests (log : EventLog) : List String :=
  (log.flatMap objectDigests).dedup.mergeSort textLE

structure BackupObject where
  digest : String
  sizeBytes : Nat
  storageKey : String
  deriving DecidableEq, Repr

/-- `storage_key_for` -/
def storageKeyFor (digest : String) : String :=
  let hexDigest := digest.toList.drop "sha256:".length
  "objects/sha256/" ++ String.ofList (hexDigest.take 2) ++ "/" ++ String.ofList (hexDigest.drop 2)

/-- One turn of the loop of `_copy_objects`. -/
def copyObject (store : ArtifactStore) (digest : String) : Except RecoveryError BackupObject :=
  match store.openObject digest with
  | none => .error ⟨"backup-object-missing",
      "the workspace references a content object it does not hold"⟩
  | some bytes =>
    if fileDigest bytes = digest then .ok ⟨digest, bytes.length, storageKeyFor digest⟩
    else .error ⟨"backup-object-mismatch", "a copied object does not match its content digest"⟩

/-- `_copy_objects` -/
def copyObjects (store : ArtifactStore) (digests : List String) :
    Except RecoveryError (List BackupObject) := digests.mapM (copyObject store)

variable {store : ArtifactStore} {digest : String} {bytes : List Nat} {log : EventLog}

theorem holds_iff : store.holds digest = true ↔ ∃ bytes ∈ store.objects, fileDigest bytes = digest := by
  simp [ArtifactStore.holds, ArtifactStore.openObject]

theorem holds_put : (store.put bytes).holds digest = true ↔
    store.holds digest = true ∨ fileDigest bytes = digest := by
  unfold ArtifactStore.put
  split_ifs with hheld
  · constructor
    · exact .inl
    · rintro (hholds | rfl)
      · exact hholds
      · exact hheld
  · simp [holds_iff, or_and_right, exists_or]

theorem copyObject_ok_iff :
    (∃ object, copyObject store digest = .ok object) ↔ store.holds digest = true := by
  unfold copyObject ArtifactStore.holds
  cases hopen : store.openObject digest with
  | none => simp
  | some bytes =>
    have hdigest : fileDigest bytes = digest := by simpa using List.find?_some hopen
    simp [hdigest]

theorem mem_prefixDigests :
    digest ∈ prefixDigests log ↔ ∃ event ∈ log, digest ∈ objectDigests event := by
  simp [prefixDigests]

/-- The objects of a prefix can be copied exactly when the store holds all that its events cite. -/
theorem copyObjects_ok_iff : (∃ objects, copyObjects store (prefixDigests log) = .ok objects) ↔
    ∀ event ∈ log, ∀ digest ∈ objectDigests event, store.holds digest = true := by
  constructor
  · rintro ⟨objects, hobjects⟩ event hevent digest hdigest
    have hmem : digest ∈ prefixDigests log := mem_prefixDigests.mpr ⟨event, hevent, hdigest⟩
    obtain ⟨object, -, hobject⟩ := Fold.exists_of_mem_right (Fold.mapM_eq_ok.mp hobjects).flip hmem
    exact copyObject_ok_iff.mp ⟨object, hobject⟩
  · intro hheld
    refine Fold.exists_mapM_eq_ok fun digest hdigest => ?_
    obtain ⟨event, hevent, hcited⟩ := mem_prefixDigests.mp hdigest
    exact copyObject_ok_iff.mpr (hheld event hevent digest hcited)

/-! An accepted event cites what its draft cites. -/

theorem validate_evidenceRefs {ms : Json.Members} {data : ResearchEventData}
    (h : ResearchEventData.validate (.obj ms) = some data) :
    ms.lookup "evidenceRefs" = some (.arr (data.evidenceRefs.map fun ref => .str ref.val)) := by
  simp only [ResearchEventData.validate, Option.bind_eq_bind, Option.bind_eq_some_iff] at h
  obtain ⟨ms', hms, _, -, actor, -, projectId, -, experimentRevision, -, runId, -, attemptId, -,
    blockId, -, payload, -, evidenceRefs, hevidence, h⟩ := h
  cases Strict.closed_some hms
  split_ifs at h with hunique
  cases h
  obtain ⟨j, hj, hdecode⟩ := Option.bind_eq_some_iff.mp hevidence
  cases j with
  | arr items => rw [hj, Strict.strings_of_mapM hdecode]
  | _ => cases hdecode

theorem walkItems_strings {α : Type} (role : String) (text : α → String) (as : List α) :
    walkItems role (as.map fun a => .str (text a)) = as.flatMap fun a => digestRef role (text a) := by
  induction as with
  | nil => rfl
  | cons a as ih => simp [walkItems, Projections.walkDigests, ih]

theorem mem_citedDigests {document : Document} {expectedHead : Option Nat} {event : ResearchEvent}
    (h : log.append document expectedHead = .ok event) :
    digest ∈ objectDigests event ↔ digest ∈ citedDigests document := by
  obtain ⟨ms, hms, hvalid⟩ := (Storage.EventLog.append_ok h).document
  have hdocument := Storage.draftMembers_ok hms
  obtain ⟨-, -, members, hdata, hmembers⟩ := validateEventDocument_members hvalid
  rw [Storage.lookup_assigned (by decide)] at hdata
  obtain ⟨-, -, -, -, hpayload⟩ := ResearchEventData.validate_members hmembers
  have hevidence := validate_evidenceRefs hmembers
  simp only [objectDigests, citedDigests, digestRefs, hdocument, objectMembers, arrayItems,
    Option.bind_some, Strict.members, Option.getD_some, hdata, hpayload, hevidence,
    walkItems_strings, List.mem_filter, List.mem_map, List.mem_dedup, List.mem_append]

end ResearchOs.Backup
