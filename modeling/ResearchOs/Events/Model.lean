import ResearchOs.Data.JsonEq
import ResearchOs.Data.JsonText
import ResearchOs.Data.Regex
import ResearchOs.Events.Scalars

/-! The RFC 3986 URI-reference pattern of event sources. -/
namespace ResearchOs.Uri

open Regex

def unreserved : Regex :=
  .chars ⟨[('A', 'Z'), ('a', 'z'), ('0', '9'), ('.', '.'), ('_', '_'), ('~', '~'), ('-', '-')], false⟩

def digit : Regex := range '0' '9'

def hexDigit : Regex := .chars ⟨[('0', '9'), ('A', 'F'), ('a', 'f')], false⟩

def alpha : Regex := .chars ⟨[('A', 'Z'), ('a', 'z')], false⟩

def pctEncoded : Regex := chain [lit "%", hexDigit, hexDigit]

def subDelims : Regex := oneOf "!$&'()*+,;="

def pchar : Regex := choice [unreserved, pctEncoded, subDelims, oneOf ":@"]

def queryOrFragment : Regex := .star (.alt pchar (oneOf "/?"))

def segment : Regex := .star pchar

def segmentNz : Regex := plus pchar

def segmentNzNc : Regex := plus (choice [unreserved, pctEncoded, subDelims, lit "@"])

def pathAbempty : Regex := .star (.seq (lit "/") segment)

def pathAbsolute : Regex := .seq (lit "/") (opt (.seq segmentNz pathAbempty))

def pathNoscheme : Regex := .seq segmentNzNc pathAbempty

def pathRootless : Regex := .seq segmentNz pathAbempty

def decOctet : Regex :=
  choice [digit, .seq (range '1' '9') digit, chain [lit "1", digit, digit],
    chain [lit "2", range '0' '4', digit], chain [lit "25", range '0' '5']]

def ipv4 : Regex := .seq (times (.seq decOctet (lit ".")) 3) decOctet

def h16 : Regex := .seq hexDigit (upTo hexDigit 3)

def ls32 : Regex := .alt (chain [h16, lit ":", h16]) ipv4

def h16Colon : Regex := .seq h16 (lit ":")

/-- `(?:h16(?::h16){0,n})?::` -/
def elided (n : Nat) : Regex := .seq (opt (.seq h16 (upTo (.seq (lit ":") h16) n))) (lit "::")

def ipv6 : Regex :=
  choice [
    .seq (times h16Colon 6) ls32,
    chain [lit "::", times h16Colon 5, ls32],
    chain [elided 0, times h16Colon 4, ls32],
    chain [elided 1, times h16Colon 3, ls32],
    chain [elided 2, times h16Colon 2, ls32],
    chain [elided 3, h16Colon, ls32],
    chain [elided 4, ls32],
    chain [elided 5, h16],
    elided 6]

def ipvFuture : Regex :=
  chain [lit "v", plus hexDigit, lit ".", plus (choice [unreserved, subDelims, lit ":"])]

def ipLiteral : Regex := chain [lit "[", .alt ipv6 ipvFuture, lit "]"]

def regName : Regex := .star (choice [unreserved, pctEncoded, subDelims])

def host : Regex := choice [ipLiteral, ipv4, regName]

def userinfo : Regex := .star (choice [unreserved, pctEncoded, subDelims, lit ":"])

def authority : Regex :=
  chain [opt (.seq userinfo (lit "@")), host, opt (.seq (lit ":") (.star digit))]

def hierPart : Regex :=
  choice [chain [lit "//", authority, pathAbempty], pathAbsolute, pathRootless, .epsilon]

def relativePart : Regex :=
  choice [chain [lit "//", authority, pathAbempty], pathAbsolute, pathNoscheme, .epsilon]

def scheme : Regex :=
  .seq alpha (.star (.chars
    ⟨[('A', 'Z'), ('a', 'z'), ('0', '9'), ('+', '+'), ('.', '.'), ('-', '-')], false⟩))

def query : Regex := opt (.seq (lit "?") queryOrFragment)

def fragment : Regex := opt (.seq (lit "#") queryOrFragment)

def uri : Regex := chain [scheme, lit ":", hierPart, query, fragment]

def relativeRef : Regex := chain [relativePart, query, fragment]

/-- `URI_REFERENCE_PATTERN` -/
def uriReference : Regex := .alt uri relativeRef

example : uriReference.fullmatch "https://example.com/a?b#c" = true := by decide +kernel

end ResearchOs.Uri

/-! ResearchEvent v0alpha1 documents and their validation. -/
namespace ResearchOs

def researchEventSchemaId : String :=
  "https://researchos.dev/schemas/research-event/v0alpha1.schema.json"

def isCloudEventsUriReference (s : String) : Bool :=
  decide (1 ≤ s.length) && decide (s.length ≤ 2048) && isCloudEventsString s &&
    Uri.uriReference.fullmatch s

abbrev CloudEventsUriReference := Checked isCloudEventsUriReference

/-! Payloads: JSON objects without embedded file bodies. -/

def inlineBodyKeys : List String :=
  ["body", "bytes", "content", "fileBytes", "inlineContent", "rawBody"]

mutual

def isEventPayloadValue : Json → Bool
  | .arr items => isEventPayloadItems items
  | .obj ms => isEventPayloadMembers ms
  | j => JsonText.dumpableAtom j

def isEventPayloadItems : List Json → Bool
  | [] => true
  | v :: vs => isEventPayloadValue v && isEventPayloadItems vs

def isEventPayloadMembers : Json.Members → Bool
  | [] => true
  | (key, v) :: ms =>
    !inlineBodyKeys.contains key && isEventPayloadValue v && isEventPayloadMembers ms

end

/-- `_require_event_payload` -/
def requireEventPayload : Json → Option Json.Members
  | .obj ms => if isEventPayloadMembers ms then some ms else none
  | _ => none

inductive ActorKind where
  | human
  | ai
  | system
  | policy
  deriving DecidableEq, Repr

def ActorKind.text : ActorKind → String
  | .human => "human"
  | .ai => "ai"
  | .system => "system"
  | .policy => "policy"

def ActorKind.ofText (s : String) : Option ActorKind :=
  [.human, .ai, .system, .policy].find? fun k => k.text = s

/-- Only an AI actor names a model. -/
structure EventActor where
  id : EventIdentifier
  kind : Option ActorKind
  modelId : Option EventIdentifier
  modelIdRequiresAiKind : modelId.isSome = true → kind = some .ai
  deriving DecidableEq

structure ResearchEventData where
  actor : EventActor
  projectId : EventIdentifier
  experimentRevision : ExperimentRevision
  runId : Option EventIdentifier
  attemptId : Option EventIdentifier
  blockId : Option EventIdentifier
  payload : Json.Members
  evidenceRefs : List EventIdentifier
  evidenceRefsAreUnique : evidenceRefs.Nodup
  deriving DecidableEq

structure ResearchEvent where
  id : CloudEventsString
  source : CloudEventsUriReference
  type : EventIdentifier
  time : Rfc3339Timestamp
  subject : CloudEventsString
  data : ResearchEventData
  sequence : SequenceNumber
  streamid : EventIdentifier
  streamversion : StreamVersion
  correlationid : Option CloudEventsString
  causationid : Option CloudEventsString
  deriving DecidableEq

/-- The event at another place of the log. -/
def ResearchEvent.placed (event : ResearchEvent) (sequence : SequenceNumber)
    (streamversion : StreamVersion) : ResearchEvent :=
  { event with sequence := sequence, streamversion := streamversion }

namespace Strict

def identifier : Json → Option EventIdentifier := Strict.text isEventIdentifier

def cloudEventsString : Json → Option CloudEventsString := Strict.text isCloudEventsString

end Strict

def EventActor.validate (j : Json) : Option EventActor := do
  let ms ← Strict.closed ["id", "kind", "modelId"] j
  let id ← Strict.required ms "id" Strict.identifier
  let kind ← Strict.defaulted ms "kind" none (Strict.nullable (Strict.enumeration ActorKind.ofText))
  let modelId ← Strict.defaulted ms "modelId" none (Strict.nullable Strict.identifier)
  if h : modelId.isSome = true → kind = some .ai then some ⟨id, kind, modelId, h⟩ else none

def ResearchEventData.validate (j : Json) : Option ResearchEventData := do
  let ms ← Strict.closed ["schemaVersion", "actor", "projectId", "experimentRevision", "runId",
    "attemptId", "blockId", "payload", "evidenceRefs"] j
  Strict.required ms "schemaVersion" (Strict.literal "v0alpha1")
  let actor ← Strict.required ms "actor" EventActor.validate
  let projectId ← Strict.required ms "projectId" Strict.identifier
  let experimentRevision ← Strict.required ms "experimentRevision" (Strict.natural _)
  let runId ← Strict.defaulted ms "runId" none (Strict.nullable Strict.identifier)
  let attemptId ← Strict.defaulted ms "attemptId" none (Strict.nullable Strict.identifier)
  let blockId ← Strict.defaulted ms "blockId" none (Strict.nullable Strict.identifier)
  let payload ← Strict.required ms "payload" requireEventPayload
  let evidenceRefs ← Strict.required ms "evidenceRefs" (Strict.array Strict.identifier)
  if h : evidenceRefs.Nodup then
    some ⟨actor, projectId, experimentRevision, runId, attemptId, blockId, payload, evidenceRefs, h⟩
  else none

def validateEventDocument (document : Json) : Option ResearchEvent := do
  let ms ← Strict.closed ["specversion", "id", "source", "type", "time", "subject", "dataschema",
    "datacontenttype", "data", "sequence", "sequencetype", "streamid", "streamversion",
    "correlationid", "causationid"] document
  Strict.required ms "specversion" (Strict.literal "1.0")
  let id ← Strict.required ms "id" Strict.cloudEventsString
  let source ← Strict.required ms "source" (Strict.text _)
  let type ← Strict.required ms "type" Strict.identifier
  let time ← Strict.required ms "time" (Strict.text _)
  let subject ← Strict.required ms "subject" Strict.cloudEventsString
  Strict.required ms "dataschema" (Strict.literal researchEventSchemaId)
  Strict.required ms "datacontenttype" (Strict.literal "application/json")
  let data ← Strict.required ms "data" ResearchEventData.validate
  let sequence ← Strict.required ms "sequence" sequenceInteger
  Strict.required ms "sequencetype" (Strict.literal "Integer")
  let streamid ← Strict.required ms "streamid" Strict.identifier
  let streamversion ← Strict.required ms "streamversion" (Strict.natural _)
  let correlationid ← Strict.defaulted ms "correlationid" none
    (Strict.nullable Strict.cloudEventsString)
  let causationid ← Strict.defaulted ms "causationid" none
    (Strict.nullable Strict.cloudEventsString)
  some ⟨id, source, type, time, subject, data, sequence, streamid, streamversion, correlationid,
    causationid⟩

/-! What an accepted document says. -/

theorem ResearchEventData.validate_members {ms : Json.Members} {data : ResearchEventData}
    (h : ResearchEventData.validate (.obj ms) = some data) :
    ms.lookup "projectId" = some (.str data.projectId.val) ∧
      ms.lookup "experimentRevision" = some (.int data.experimentRevision.val) ∧
      Strict.defaulted ms "runId" none (Strict.nullable Strict.identifier) = some data.runId ∧
      Strict.defaulted ms "attemptId" none (Strict.nullable Strict.identifier) =
        some data.attemptId ∧
      ms.lookup "payload" = some (.obj data.payload) := by
  simp only [ResearchEventData.validate, Option.bind_eq_bind, Option.bind_eq_some_iff] at h
  obtain ⟨ms', hms, _, -, actor, -, projectId, hproject, experimentRevision, hrevision, runId, hrun,
    attemptId, hattempt, blockId, -, payload, hpayload, evidenceRefs, -, h⟩ := h
  cases Strict.closed_some hms
  split_ifs at h with hunique
  cases h
  refine ⟨Strict.required_text hproject, Strict.required_natural hrevision, hrun, hattempt, ?_⟩
  obtain ⟨j, hj, hdecode⟩ := Option.bind_eq_some_iff.mp hpayload
  unfold requireEventPayload at hdecode
  split at hdecode
  · split_ifs at hdecode
    cases hdecode
    exact hj
  · cases hdecode

theorem nullable_identifier {ms : Json.Members} {key : String} {given found : Option EventIdentifier}
    (hlookup : ms.lookup key = given.map fun id => .str id.val)
    (h : Strict.defaulted ms key none (Strict.nullable Strict.identifier) = some found) :
    found = given := by
  cases given with
  | none =>
    simp only [Strict.defaulted, hlookup, Option.map_none, Option.some.injEq] at h
    exact h.symm
  | some id =>
    simp only [Strict.defaulted, hlookup, Option.map_some, Strict.nullable, Strict.identifier,
      Strict.text_str, Option.some.injEq] at h
    exact h.symm

theorem validateEventDocument_members {ms : Json.Members} {event : ResearchEvent}
    (h : validateEventDocument (.obj ms) = some event) :
    ms.lookup "id" = some (.str event.id.val) ∧ ms.lookup "type" = some (.str event.type.val) ∧
      ∃ data, ms.lookup "data" = some (.obj data) ∧
        ResearchEventData.validate (.obj data) = some event.data := by
  simp only [validateEventDocument, Option.bind_eq_bind, Option.bind_eq_some_iff] at h
  obtain ⟨ms', hms, _, -, id, hid, source, -, type, htype, time, -, subject, -, _, -, _, -, data,
    hdata, sequence, -, _, -, streamid, -, streamversion, -, correlationid, -, causationid, -,
    h⟩ := h
  cases Strict.closed_some hms
  cases h
  refine ⟨Strict.required_text hid, Strict.required_text htype, ?_⟩
  obtain ⟨j, hj, hvalid⟩ := Option.bind_eq_some_iff.mp hdata
  cases j with
  | obj members => exact ⟨members, hj, hvalid⟩
  | _ => cases hvalid

end ResearchOs
