import ResearchOs.Data.FirstSeen
import ResearchOs.Core.Runs.Cache
import ResearchOs.Core.Runs.Reducer
import ResearchOs.Core.Storage.Control

/-! `projections/sqlite.py`: the query tables of a verified prefix. -/
namespace ResearchOs.Projections

open FirstSeen (Table)
open JsonText (FloatText)
open Runs (RunError RunSnapshot RunStateProjection)
open Storage (EventLog RunProjectionRecord StoreError)

/-- `_PAYLOAD_DIGEST_ROLES` -/
def payloadDigestRoles : List (String × String) :=
  [("specDigest", "spec"), ("registryDigest", "registry"), ("planDigest", "plan"),
    ("decisionDigest", "decision")]

/-- A semantic digest with the role in which an event cites it. -/
structure DigestRef where
  digest : StrictDigest
  role : String
  deriving DecidableEq

def digestRef (role text : String) : List DigestRef :=
  ((Strict.checked isSemanticDigest text).map fun digest => ⟨digest, role⟩).toList

mutual

/-- `_walk_digests` -/
def walkDigests (defaultRole : String) : Json → List DigestRef
  | .obj ms => walkMembers defaultRole ms
  | .arr items => walkItems defaultRole items
  | .str text => digestRef defaultRole text
  | _ => []

def walkItems (defaultRole : String) : List Json → List DigestRef
  | [] => []
  | item :: items => walkDigests defaultRole item ++ walkItems defaultRole items

def walkMembers (defaultRole : String) : Json.Members → List DigestRef
  | [] => []
  | (key, .str text) :: ms =>
    digestRef ((payloadDigestRoles.lookup key).getD defaultRole) text ++ walkMembers defaultRole ms
  | (_, item) :: ms => walkDigests defaultRole item ++ walkMembers defaultRole ms

end

/-- `_digest_refs`: each digest once in each of its roles. -/
def digestRefs (event : ResearchEvent) : List DigestRef :=
  (walkMembers "payload" event.data.payload ++
    event.data.evidenceRefs.flatMap fun ref => digestRef "evidence" ref.val).dedup

structure SpecRevisionRecord where
  projectId : EventIdentifier
  revision : ExperimentRevision
  specDigest : StrictDigest
  firstSeenSequence : SequenceNumber
  deriving DecidableEq

/-- `byte_length` is null where an event only cites a digest. -/
structure ArtifactIndexRecord where
  digest : StrictDigest
  byteLength : Option Nat
  firstSeenSequence : SequenceNumber
  deriving DecidableEq

structure ArtifactLinkRecord where
  digest : StrictDigest
  eventSequence : SequenceNumber
  role : String
  deriving DecidableEq

abbrev SpecKey := EventIdentifier × ExperimentRevision

def SpecRevisionRecord.key (row : SpecRevisionRecord) : SpecKey := (row.projectId, row.revision)

abbrev RunKey := EventIdentifier × EventIdentifier

inductive QueryError where
  | run (error : RunError)
  | store (error : StoreError)
  deriving DecidableEq, Repr

/-- The spec revision that a `run.queued` fact names. -/
def specRevision (event : ResearchEvent) : Option (SpecKey × SpecRevisionRecord) :=
  if event.type.val ≠ Runs.LifecycleType.runQueued.text then none
  else
    match event.data.payload.lookup "specDigest" with
    | some (.str text) =>
      (Strict.checked isSemanticDigest text).map fun specDigest =>
        ((event.data.projectId, event.data.experimentRevision),
          ⟨event.data.projectId, event.data.experimentRevision, specDigest, event.sequence⟩)
    | _ => none

def specConflict (key : SpecKey) : QueryError :=
  .store (.integrity ("spec revision digest conflict for " ++ key.1.val ++ " revision " ++
    toString key.2.val))

/-- `_index_spec_revision` -/
def indexSpecRevision (specs : Table SpecKey SpecRevisionRecord) (event : ResearchEvent) :
    Except QueryError (Table SpecKey SpecRevisionRecord) :=
  match specRevision event with
  | none => .ok specs
  | some entry => FirstSeen.noteAgreeing (·.specDigest) specConflict specs entry

/-- The artifacts that an event cites, each first seen there. -/
def artifactEntries (event : ResearchEvent) : List (StrictDigest × ArtifactIndexRecord) :=
  (digestRefs event).map fun ref => (ref.digest, ⟨ref.digest, none, event.sequence⟩)

def artifactLinks (event : ResearchEvent) : List ArtifactLinkRecord :=
  (digestRefs event).map fun ref => ⟨ref.digest, event.sequence, ref.role⟩

def fromRun {α : Type} : Except RunError α → Except QueryError α
  | .ok a => .ok a
  | .error e => .error (.run e)

/-- The fold of the run that an event names. -/
def foldRun (folds : Table RunKey (Option RunSnapshot)) (event : ResearchEvent) :
    Except QueryError (Table RunKey (Option RunSnapshot)) :=
  match event.data.runId with
  | none => .ok folds
  | some runId => do
    let key : RunKey := (event.data.projectId, runId)
    let projection : RunStateProjection := ⟨event.data.projectId, runId⟩
    let snapshot ← fromRun (projection.apply ((folds.lookup key).getD none) event)
    .ok (folds.insert key snapshot)

/-- What the loop over the prefix has gathered. -/
structure Gathered where
  specs : Table SpecKey SpecRevisionRecord
  artifacts : Table StrictDigest ArtifactIndexRecord
  links : List ArtifactLinkRecord
  folds : Table RunKey (Option RunSnapshot)

def Gathered.empty : Gathered := ⟨∅, ∅, [], ∅⟩

/-- One event of the loop. -/
def gather (gathered : Gathered) (event : ResearchEvent) : Except QueryError Gathered := do
  let specs ← indexSpecRevision gathered.specs event
  let folds ← foldRun gathered.folds event
  .ok {
    specs := specs
    artifacts := (artifactEntries event).foldl FirstSeen.note gathered.artifacts
    links := gathered.links ++ artifactLinks event
    folds := folds }

/-- `replay_events` through the loop: every event stands at its place. -/
def gatherFrom (highWater : Nat) : Nat → Gathered → EventLog → Except QueryError Gathered
  | _, gathered, [] => .ok gathered
  | expected, gathered, event :: rest =>
    if event.sequence.val = expected then do
      let next ← gather gathered event
      gatherFrom highWater (expected + 1) next rest
    else .error (.store (.integrity
      (Storage.misplacedText highWater expected (some event.sequence.val))))

structure QueryTables where
  specRevisions : List SpecRevisionRecord
  artifacts : List ArtifactIndexRecord
  artifactLinks : List ArtifactLinkRecord
  runProjections : List RunProjectionRecord

/-- The primary keys of the tables. -/
structure QueryTables.Keyed (tables : QueryTables) : Prop where
  specRevisions : (tables.specRevisions.map (·.key)).Nodup
  artifacts : (tables.artifacts.map (·.digest)).Nodup
  artifactLinks : tables.artifactLinks.Nodup
  runProjections : (tables.runProjections.map fun row => (row.projectId, row.runId)).Nodup

instance (tables : QueryTables) : Decidable tables.Keyed :=
  decidable_of_iff
    ((tables.specRevisions.map (·.key)).Nodup ∧
      (tables.artifacts.map (·.digest)).Nodup ∧ tables.artifactLinks.Nodup ∧
      (tables.runProjections.map fun row => (row.projectId, row.runId)).Nodup)
    ⟨fun h => ⟨h.1, h.2.1, h.2.2.1, h.2.2.2⟩,
      fun h => ⟨h.specRevisions, h.artifacts, h.artifactLinks, h.runProjections⟩⟩

/-- `replace_query_tables`: no table takes two rows of one primary key. -/
def replaceQueryTables (tables : QueryTables) : Except QueryError QueryTables :=
  if tables.Keyed then .ok tables
  else .error (.store (.store "query tables reject a row"))

/-- `_run_projection_record` -/
def runProjectionRecord (F : FloatText) (lastSequence : Nat) (key : RunKey)
    (snapshot : Option RunSnapshot) : Except QueryError RunProjectionRecord :=
  match Runs.projectionRecord F ⟨key.1, key.2⟩ lastSequence snapshot with
  | some row => .ok row
  | none => .error (.store (.value "snapshot is not JSON"))

/-- The order of texts. -/
def textLE (a b : String) : Bool := decide (a ≤ b)

def specLE (a b : SpecRevisionRecord) : Bool :=
  decide (a.firstSeenSequence.val < b.firstSeenSequence.val) ||
    decide (a.firstSeenSequence.val = b.firstSeenSequence.val) &&
      textLE a.projectId.val b.projectId.val

def artifactLE (a b : ArtifactIndexRecord) : Bool :=
  decide (a.firstSeenSequence.val < b.firstSeenSequence.val) ||
    decide (a.firstSeenSequence.val = b.firstSeenSequence.val) && textLE a.digest.val b.digest.val

def runKeyLE (a b : RunKey) : Bool :=
  decide (a.1.val < b.1.val) || decide (a.1.val = b.1.val) && textLE a.2.val b.2.val

/-- `rebuild_query_tables` of a verified prefix. -/
def rebuildQueryTables (F : FloatText) (log : EventLog) : Except QueryError QueryTables := do
  let gathered ← gatherFrom log.length 1 Gathered.empty log
  let folds := gathered.folds.entries.mergeSort fun a b => runKeyLE a.1 b.1
  let rows ← folds.mapM fun item => runProjectionRecord F log.length item.1 item.2
  replaceQueryTables {
    specRevisions := (FirstSeen.values gathered.specs).mergeSort specLE
    artifacts := (FirstSeen.values gathered.artifacts).mergeSort artifactLE
    artifactLinks := gathered.links
    runProjections := rows }

end ResearchOs.Projections
