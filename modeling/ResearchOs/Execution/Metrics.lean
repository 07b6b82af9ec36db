import ResearchOs.Execution.Simulated
import ResearchOs.Planning.Contract

/-! Seeded synthetic metric facts. -/
namespace ResearchOs.Execution

open Runs
open JsonText (FloatText)
open Storage (Document EventLog assigned draftMembers)

/-- `METRIC_TYPES` -/
inductive MetricType where
  | trainingStep
  | evaluationMetric
  deriving DecidableEq, Repr

def MetricType.text : MetricType → String
  | .trainingStep => "training.step"
  | .evaluationMetric => "evaluation.metric"

def metricTypes : List MetricType := [.trainingStep, .evaluationMetric]

/-- `metric_types_in_request` -/
def metricTypesInRequest (events : List (String × SimulationEventIdentity)) : List MetricType :=
  metricTypes.filter fun type => (events.lookup type.text).isSome

/-- `metric_seed_digest` -/
def metricSeedDigest (F : FloatText) (runId attemptId : String) (type : MetricType) :
    Except String String :=
  Jcs.contentDigest F (.obj (Json.ofPairs [("attemptId", .str attemptId), ("runId", .str runId),
    ("type", .str type.text)]))

/-- `int(text, 16)`, of hexadecimal digits. -/
def hexValue (text : List Char) : Nat :=
  text.foldl (fun value c => 16 * value + "0123456789abcdef".toList.idxOf c) 0

/-- `_ratio_from_digest` -/
def ratioFromDigest (digest : String) (offset : Nat) : String :=
  let hexPart := (digest.toList.reverse.takeWhile (· ≠ ':')).reverse
  let raw := hexValue ((hexPart.drop offset).take 2) % 100
  "0." ++ toString (raw / 10) ++ toString (raw % 10)

/-- `synthetic_training_payload` and `synthetic_evaluation_payload` -/
def syntheticPayload (type : MetricType) (seed : String) : Json.Members :=
  match type with
  | .trainingStep =>
    [("kind", .str "synthetic"), ("step", .int 1), ("loss", .str (ratioFromDigest seed 0)),
      ("seedDigest", .str seed)]
  | .evaluationMetric =>
    [("kind", .str "synthetic"), ("name", .str "accuracy"),
      ("value", .str (ratioFromDigest seed 2)), ("split", .str "synthetic"),
      ("seedDigest", .str seed)]

/-- What a metric draft is filled in with. -/
structure MetricDraft where
  eventId : String
  eventType : MetricType
  time : String
  source : String
  subject : String
  streamId : String
  actorId : String
  run : RunBinding
  attemptId : EventIdentifier
  seed : String

namespace MetricDraft

def actor (draft : MetricDraft) : Json.Members :=
  Json.ofPairs [("id", .str draft.actorId), ("kind", .str ActorKind.system.text)]

def data (draft : MetricDraft) : Json.Members :=
  Json.ofPairs [("schemaVersion", .str "v0alpha1"),
    ("actor", .obj draft.actor),
    ("projectId", .str draft.run.projectId.val),
    ("experimentRevision", .int draft.run.experimentRevision.val),
    ("payload", .obj (Json.ofPairs (syntheticPayload draft.eventType draft.seed))),
    ("evidenceRefs", .arr []),
    ("runId", .str draft.run.runId.val),
    ("attemptId", .str draft.attemptId.val)]

def members (draft : MetricDraft) : Json.Members :=
  Json.ofPairs [("specversion", .str "1.0"),
    ("id", .str draft.eventId),
    ("source", .str draft.source),
    ("type", .str draft.eventType.text),
    ("time", .str draft.time),
    ("subject", .str draft.subject),
    ("dataschema", .str researchEventSchemaId),
    ("datacontenttype", .str "application/json"),
    ("streamid", .str draft.streamId),
    ("data", .obj draft.data)]

theorem canonical_members (draft : MetricDraft) : (Json.obj draft.members).canonical = true := by
  have hactor : (Json.obj draft.actor).canonical = true := by
    apply Json.canonical_ofPairs
    simp only [List.forall_mem_cons]
    exact ⟨rfl, rfl, List.forall_mem_nil _⟩
  have hpayload :
      (Json.obj (Json.ofPairs (syntheticPayload draft.eventType draft.seed))).canonical = true := by
    apply Json.canonical_ofPairs
    cases draft.eventType <;> simp only [syntheticPayload, List.forall_mem_cons]
    · exact ⟨rfl, rfl, rfl, rfl, List.forall_mem_nil _⟩
    · exact ⟨rfl, rfl, rfl, rfl, rfl, List.forall_mem_nil _⟩
  have hdata : (Json.obj draft.data).canonical = true := by
    apply Json.canonical_ofPairs
    simp only [List.forall_mem_cons]
    exact ⟨rfl, hactor, rfl, rfl, hpayload, rfl, rfl, rfl, List.forall_mem_nil _⟩
  apply Json.canonical_ofPairs
  simp only [List.forall_mem_cons]
  exact ⟨rfl, rfl, rfl, rfl, rfl, rfl, rfl, rfl, rfl, hdata, List.forall_mem_nil _⟩

/-- The document of the draft. -/
def document (draft : MetricDraft) : Document := ⟨.obj draft.members, draft.canonical_members⟩

theorem draftMembers_document (draft : MetricDraft) :
    draftMembers draft.document.val = .ok draft.members := by
  have habsent : ∀ key ∈ Storage.storeAssignedFields, draft.members.lookup key = none := by
    intro key hkey
    rw [members, Json.lookup_ofPairs]
    simp only [Storage.storeAssignedFields, List.mem_cons, List.not_mem_nil, or_false] at hkey
    rcases hkey with rfl | rfl | rfl <;> rfl
  have hsupplied :
      (Storage.storeAssignedFields.filter fun key => (draft.members.lookup key).isSome) = [] :=
    List.filter_eq_nil_iff.mpr fun key hkey => by simp [habsent key hkey]
  simp only [document, draftMembers]
  rw [if_pos hsupplied]

/-- A metric draft can be written. -/
theorem isSafe_members (draft : MetricDraft) : Jcs.isSafe (.obj draft.members) = true := by
  have hrevision : Jcs.isSafe (.int draft.run.experimentRevision.val) = true := by
    have hrange := (inRange_iff.mp draft.run.experimentRevision.property).2
    have hmax : cloudEventsIntegerMax ≤ 2 ^ 53 - 1 := by decide
    have hsmall := hrange.trans hmax
    simp only [Jcs.isSafe, Jcs.safeInteger]
    exact decide_eq_true ⟨by omega, by omega⟩
  have hactor : Jcs.isSafe (.obj draft.actor) = true := by
    apply Planning.areSafe_ofPairs
    simp only [List.forall_mem_cons]
    exact ⟨rfl, rfl, List.forall_mem_nil _⟩
  have hpayload :
      Jcs.isSafe (.obj (Json.ofPairs (syntheticPayload draft.eventType draft.seed))) = true := by
    apply Planning.areSafe_ofPairs
    cases draft.eventType <;> simp only [syntheticPayload, List.forall_mem_cons]
    · exact ⟨rfl, by decide, rfl, rfl, List.forall_mem_nil _⟩
    · exact ⟨rfl, rfl, rfl, rfl, rfl, List.forall_mem_nil _⟩
  have hdata : Jcs.isSafe (.obj draft.data) = true := by
    apply Planning.areSafe_ofPairs
    simp only [List.forall_mem_cons]
    exact ⟨rfl, hactor, rfl, hrevision, hpayload, rfl, rfl, rfl, List.forall_mem_nil _⟩
  apply Planning.areSafe_ofPairs
  simp only [List.forall_mem_cons]
  exact ⟨rfl, rfl, rfl, rfl, rfl, rfl, rfl, rfl, rfl, hdata, List.forall_mem_nil _⟩

end MetricDraft

/-! The stored document of an event, without the fields that the store assigned. -/

def actorDump (actor : EventActor) : Json.Members :=
  Json.ofPairs ([("id", .str actor.id.val)] ++
    (actor.kind.map fun kind => ("kind", Json.str kind.text)).toList ++
    (actor.modelId.map fun id => ("modelId", Json.str id.val)).toList)

def dataDump (data : ResearchEventData) : Json.Members :=
  Json.ofPairs ([("schemaVersion", .str "v0alpha1"),
    ("actor", .obj (actorDump data.actor)),
    ("projectId", .str data.projectId.val),
    ("experimentRevision", .int data.experimentRevision.val),
    ("payload", .obj data.payload),
    ("evidenceRefs", .arr (data.evidenceRefs.map fun id => .str id.val))] ++
    (data.runId.map fun id => ("runId", Json.str id.val)).toList ++
    (data.attemptId.map fun id => ("attemptId", Json.str id.val)).toList ++
    (data.blockId.map fun id => ("blockId", Json.str id.val)).toList)

def draftDump (event : ResearchEvent) : Json.Members :=
  Json.ofPairs ([("specversion", .str "1.0"),
    ("id", .str event.id.val),
    ("source", .str event.source.val),
    ("type", .str event.type.val),
    ("time", .str event.time.val),
    ("subject", .str event.subject.val),
    ("dataschema", .str researchEventSchemaId),
    ("datacontenttype", .str "application/json"),
    ("streamid", .str event.streamid.val),
    ("data", .obj (dataDump event.data))] ++
    (event.correlationid.map fun id => ("correlationid", Json.str id.val)).toList ++
    (event.causationid.map fun id => ("causationid", Json.str id.val)).toList)

variable {draft : MetricDraft} {event : ResearchEvent} {sequence : SequenceNumber}
  {streamVersion : StreamVersion}

theorem text_of_lookup {ms : Json.Members} {key text : String} {p : String → Bool} {a : Checked p}
    (h : Strict.required ms key (Strict.text p) = some a)
    (hlookup : ms.lookup key = some (.str text)) : a.val = text := by
  have hfound := Strict.required_text h
  rw [hlookup] at hfound
  injection hfound with hfound
  injection hfound with hfound
  exact hfound.symm

theorem MetricDraft.lookup_actor (draft : MetricDraft) :
    draft.actor.lookup "id" = some (.str draft.actorId) ∧
      draft.actor.lookup "kind" = some (.str ActorKind.system.text) ∧
      draft.actor.lookup "modelId" = none := by
  simp only [MetricDraft.actor, Json.lookup_ofPairs]
  exact ⟨rfl, rfl, rfl⟩

theorem actorDump_of_validate {actor : EventActor}
    (h : EventActor.validate (.obj draft.actor) = some actor) : actorDump actor = draft.actor := by
  simp only [EventActor.validate, Option.bind_eq_bind, Option.bind_eq_some_iff] at h
  obtain ⟨ms, hms, id, hid, kind, hkind, modelId, hmodel, h⟩ := h
  cases Strict.closed_some hms
  split_ifs at h
  cases h
  obtain ⟨hid', hkind', hmodel'⟩ := draft.lookup_actor
  have hid := text_of_lookup hid hid'
  rw [Strict.defaulted, hkind'] at hkind
  rw [Strict.defaulted, hmodel'] at hmodel
  cases hmodel
  cases hkind
  simp only [actorDump, hid, Option.map_some, Option.map_none, Option.toList_some,
    Option.toList_none, List.append_nil, List.cons_append, List.nil_append, MetricDraft.actor]

theorem MetricDraft.lookup_data (draft : MetricDraft) :
    draft.data.lookup "actor" = some (.obj draft.actor) ∧
      draft.data.lookup "projectId" = some (.str draft.run.projectId.val) ∧
      draft.data.lookup "experimentRevision" = some (.int draft.run.experimentRevision.val) ∧
      draft.data.lookup "payload" =
        some (.obj (Json.ofPairs (syntheticPayload draft.eventType draft.seed))) ∧
      draft.data.lookup "evidenceRefs" = some (.arr []) ∧
      draft.data.lookup "runId" = some (.str draft.run.runId.val) ∧
      draft.data.lookup "attemptId" = some (.str draft.attemptId.val) ∧
      draft.data.lookup "blockId" = none := by
  simp only [MetricDraft.data, Json.lookup_ofPairs]
  exact ⟨rfl, rfl, rfl, rfl, rfl, rfl, rfl, rfl⟩

/-- What the event of a metric draft says. -/
structure MetricDraft.Says (draft : MetricDraft) (event : ResearchEvent) : Prop where
  id : event.id.val = draft.eventId
  time : event.time.val = draft.time
  type : event.type.val = draft.eventType.text
  projectId : event.data.projectId = draft.run.projectId
  experimentRevision : event.data.experimentRevision = draft.run.experimentRevision
  runId : event.data.runId = some draft.run.runId
  dump : draftDump event = draft.members

theorem dataDump_of_validate {data : ResearchEventData}
    (h : ResearchEventData.validate (.obj draft.data) = some data) :
    data.projectId = draft.run.projectId ∧ data.experimentRevision = draft.run.experimentRevision ∧
      data.runId = some draft.run.runId ∧ dataDump data = draft.data := by
  simp only [ResearchEventData.validate, Option.bind_eq_bind, Option.bind_eq_some_iff] at h
  obtain ⟨ms, hms, _, -, actor, hactor, projectId, hproject, experimentRevision, hrevision, runId,
    hrun, attemptId, hattempt, blockId, hblock, payload, hpayload, evidenceRefs, hrefs, h⟩ := h
  cases Strict.closed_some hms
  split_ifs at h
  cases h
  obtain ⟨hactor', hproject', hrevision', hpayload', hrefs', hrun', hattempt', hblock'⟩ :=
    draft.lookup_data
  have hproject : projectId = draft.run.projectId := Subtype.ext (text_of_lookup hproject hproject')
  have hrevision : experimentRevision = draft.run.experimentRevision := by
    rw [Strict.required, hrevision', Option.bind_some, Strict.natural_int] at hrevision
    exact (Option.some.inj hrevision).symm
  have hactor : actorDump actor = draft.actor := by
    rw [Strict.required, hactor', Option.bind_some] at hactor
    exact actorDump_of_validate hactor
  have hrun : runId = some draft.run.runId := nullable_identifier hrun' hrun
  have hattempt : attemptId = some draft.attemptId := nullable_identifier hattempt' hattempt
  have hblock : blockId = none := nullable_identifier hblock' hblock
  have hrefs : evidenceRefs = [] := by
    rw [Strict.required, hrefs', Option.bind_some] at hrefs
    exact (Option.some.inj hrefs).symm
  have hpayload : payload = Json.ofPairs (syntheticPayload draft.eventType draft.seed) := by
    rw [Strict.required, hpayload', Option.bind_some, requireEventPayload] at hpayload
    split_ifs at hpayload
    exact (Option.some.inj hpayload).symm
  subst hproject hrevision hrun hattempt hblock hrefs hpayload
  refine ⟨rfl, rfl, rfl, ?_⟩
  simp only [dataDump, hactor, Option.map_some, Option.map_none, Option.toList_some,
    Option.toList_none, List.append_nil, List.cons_append, List.nil_append, List.map_nil,
    MetricDraft.data]

theorem MetricDraft.lookup_members (draft : MetricDraft) :
    draft.members.lookup "id" = some (.str draft.eventId) ∧
      draft.members.lookup "source" = some (.str draft.source) ∧
      draft.members.lookup "type" = some (.str draft.eventType.text) ∧
      draft.members.lookup "time" = some (.str draft.time) ∧
      draft.members.lookup "subject" = some (.str draft.subject) ∧
      draft.members.lookup "streamid" = some (.str draft.streamId) ∧
      draft.members.lookup "data" = some (.obj draft.data) ∧
      draft.members.lookup "correlationid" = none ∧ draft.members.lookup "causationid" = none := by
  simp only [MetricDraft.members, Json.lookup_ofPairs]
  exact ⟨rfl, rfl, rfl, rfl, rfl, rfl, rfl, rfl, rfl⟩

theorem MetricDraft.says_of_validate
    (h : validateEventDocument (.obj (assigned draft.members sequence streamVersion)) =
      some event) : draft.Says event := by
  simp only [validateEventDocument, Option.bind_eq_bind, Option.bind_eq_some_iff] at h
  obtain ⟨ms, hms, _, -, id, hid, source, hsource, type, htype, time, htime, subject, hsubject, _,
    -, _, -, data, hdata, number, -, _, -, streamid, hstream, streamversion, -, correlationid, hcor,
    causationid, hcau, h⟩ := h
  cases Strict.closed_some hms
  cases h
  obtain ⟨hid', hsource', htype', htime', hsubject', hstream', hdata', hcor', hcau'⟩ :=
    draft.lookup_members
  rw [Storage.required_assigned _ (by decide)] at hid hsource htype htime hsubject hstream hdata
  rw [Storage.defaulted_assigned _ _ (by decide)] at hcor hcau
  have hid := text_of_lookup hid hid'
  have hsource := text_of_lookup hsource hsource'
  have htype := text_of_lookup htype htype'
  have htime := text_of_lookup htime htime'
  have hsubject := text_of_lookup hsubject hsubject'
  have hstream := text_of_lookup hstream hstream'
  rw [Strict.required, hdata', Option.bind_some] at hdata
  rw [Strict.defaulted, hcor'] at hcor
  rw [Strict.defaulted, hcau'] at hcau
  cases hcor
  cases hcau
  obtain ⟨hproject, hrevision, hrun, hdump⟩ := dataDump_of_validate hdata
  refine ⟨hid, htime, htype, hproject, hrevision, hrun, ?_⟩
  simp only [draftDump, hid, hsource, htype, htime, hsubject, hstream, hdump, Option.map_none,
    Option.toList_none, List.append_nil, MetricDraft.members]

theorem MetricDraft.Says.placed (h : draft.Says event) (sequence : SequenceNumber)
    (version : StreamVersion) : draft.Says (event.placed sequence version) :=
  ⟨h.id, h.time, h.type, h.projectId, h.experimentRevision, h.runId, h.dump⟩

end ResearchOs.Execution
