import ResearchOs.Budget.Control
import ResearchOs.Core.Storage.Control

/-! `ModelCallControl`: the payloads of `ai.call.*` facts, their fold, and one fact appended at the
head of a rebuilt fold. -/
namespace ResearchOs.Providers

open Storage (Document EventLog StoreError)

/-- What a model call raises. `value` is an exception that is none of the others. -/
inductive CallError where
  | call (message code : String)
  | capability (message code : String)
  | payload (message code : String)
  | transport (message code : String) (dispatched : Bool)
  | store (error : StoreError)
  | budget (error : Budget.BudgetError)
  | value (message : String)
  deriving DecidableEq, Repr

inductive ModelCapability where
  | generate
  | stream
  | jsonSchema
  | tools
  | image
  | embedding
  | logprobs
  | seed
  deriving DecidableEq, Repr

namespace ModelCapability

def text : ModelCapability → String
  | generate => "generate"
  | stream => "stream"
  | jsonSchema => "json-schema"
  | tools => "tools"
  | image => "image"
  | embedding => "embedding"
  | logprobs => "logprobs"
  | seed => "seed"

def ofText (s : String) : Option ModelCapability :=
  [generate, stream, jsonSchema, tools, image, embedding, logprobs, seed].find? fun c => c.text = s

end ModelCapability

def maxCapabilityList : Nat := 8

/-- Some capabilities, each once, in the order of their names. -/
def isCapabilityList (capabilities : List ModelCapability) : Bool :=
  decide (1 ≤ capabilities.length) && decide (capabilities.length ≤ maxCapabilityList) &&
    decide capabilities.Nodup && decide ((capabilities.map ModelCapability.text).Pairwise (· ≤ ·))

abbrev CapabilityList := Checked isCapabilityList

def decodeCapabilities (j : Json) : Option CapabilityList :=
  (Strict.array (Strict.enumeration ModelCapability.ofText) j).bind (Strict.checked isCapabilityList)

abbrev TokenCount := Checked (inRange 1 2147483647)

/-- `AI_CALL_EVENT_TYPES` -/
inductive CallEventType where
  | started
  | completed
  | failed
  deriving DecidableEq, Repr

namespace CallEventType

def text : CallEventType → String
  | started => "ai.call.started"
  | completed => "ai.call.completed"
  | failed => "ai.call.failed"

def ofText (s : String) : Option CallEventType :=
  [started, completed, failed].find? fun t => t.text = s

end CallEventType

structure StartedPayload where
  callId : EventIdentifier
  providerId : EventIdentifier
  modelId : EventIdentifier
  promptDigest : JcsDigest
  requestedCapabilities : CapabilityList
  declaredCapabilities : CapabilityList
  measuredCapabilities : CapabilityList
  allowedCapabilities : CapabilityList
  isLocal : Bool
  costKnown : Bool
  dataLeavesMachine : Bool
  contextTokens : TokenCount
  maxOutputTokens : TokenCount

structure CompletedPayload where
  callId : EventIdentifier
  outputDigest : JcsDigest
  declaredCapabilities : CapabilityList
  measuredCapabilities : CapabilityList
  allowedCapabilities : CapabilityList
  promptArtifact : Option Sha256Digest
  outputArtifact : Option Sha256Digest

structure FailedPayload where
  callId : EventIdentifier
  reasonCode : CloudEventsString

inductive CallPayload where
  | started (payload : StartedPayload)
  | completed (payload : CompletedPayload)
  | failed (payload : FailedPayload)

def validateStarted (j : Json) : Option StartedPayload := do
  let ms ← Strict.closed ["callId", "providerId", "modelId", "promptDigest",
    "requestedCapabilities", "declaredCapabilities", "measuredCapabilities", "allowedCapabilities",
    "local", "costKnown", "dataLeavesMachine", "contextTokens", "maxOutputTokens"] j
  let callId ← Strict.required ms "callId" Strict.identifier
  let providerId ← Strict.required ms "providerId" Strict.identifier
  let modelId ← Strict.required ms "modelId" Strict.identifier
  let promptDigest ← Strict.required ms "promptDigest" (Strict.text _)
  let requested ← Strict.required ms "requestedCapabilities" decodeCapabilities
  let declared ← Strict.required ms "declaredCapabilities" decodeCapabilities
  let measured ← Strict.required ms "measuredCapabilities" decodeCapabilities
  let allowed ← Strict.required ms "allowedCapabilities" decodeCapabilities
  let isLocal ← Strict.required ms "local" Strict.boolean
  let costKnown ← Strict.required ms "costKnown" Strict.boolean
  let dataLeavesMachine ← Strict.required ms "dataLeavesMachine" Strict.boolean
  let contextTokens ← Strict.required ms "contextTokens" (Strict.natural _)
  let maxOutputTokens ← Strict.required ms "maxOutputTokens" (Strict.natural _)
  some ⟨callId, providerId, modelId, promptDigest, requested, declared, measured, allowed, isLocal,
    costKnown, dataLeavesMachine, contextTokens, maxOutputTokens⟩

def validateCompleted (j : Json) : Option CompletedPayload := do
  let ms ← Strict.closed ["callId", "outputDigest", "declaredCapabilities", "measuredCapabilities",
    "allowedCapabilities", "promptArtifact", "outputArtifact"] j
  let callId ← Strict.required ms "callId" Strict.identifier
  let outputDigest ← Strict.required ms "outputDigest" (Strict.text _)
  let declared ← Strict.required ms "declaredCapabilities" decodeCapabilities
  let measured ← Strict.required ms "measuredCapabilities" decodeCapabilities
  let allowed ← Strict.required ms "allowedCapabilities" decodeCapabilities
  let promptArtifact ← Strict.defaulted ms "promptArtifact" none (Strict.nullable (Strict.text _))
  let outputArtifact ← Strict.defaulted ms "outputArtifact" none (Strict.nullable (Strict.text _))
  some ⟨callId, outputDigest, declared, measured, allowed, promptArtifact, outputArtifact⟩

def validateFailed (j : Json) : Option FailedPayload := do
  let ms ← Strict.closed ["callId", "reasonCode"] j
  let callId ← Strict.required ms "callId" Strict.identifier
  let reasonCode ← Strict.required ms "reasonCode" Strict.cloudEventsString
  some ⟨callId, reasonCode⟩

/-- `PAYLOAD_MODELS` -/
def payloadModel (type : CallEventType) (j : Json) : Option CallPayload :=
  match type with
  | .started => (validateStarted j).map .started
  | .completed => (validateCompleted j).map .completed
  | .failed => (validateFailed j).map .failed

def CallPayload.callId : CallPayload → EventIdentifier
  | .started payload => payload.callId
  | .completed payload => payload.callId
  | .failed payload => payload.callId

def inlineModelKeys : List String :=
  ["choices", "completion", "delta", "input", "messages", "output", "prompt", "response"]

mutual

/-- The forbidden keys of the object that the search finds first, the last values before the
others. -/
def blockedKeys : Json → Option (List String)
  | .arr items => blockedItems items
  | .obj ms =>
    let blocked := (ms.map Prod.fst).filter fun key => inlineModelKeys.contains key
    if blocked ≠ [] then some blocked else blockedMembers ms
  | _ => none

def blockedItems : List Json → Option (List String)
  | [] => none
  | v :: vs => (blockedItems vs).or (blockedKeys v)

def blockedMembers : Json.Members → Option (List String)
  | [] => none
  | (_, v) :: ms => (blockedMembers ms).or (blockedKeys v)

end

/-- `parse_ai_call_payload` of an event with an `ai.call` type. -/
def parseAiCallPayload (type : CallEventType) (event : ResearchEvent) :
    Except CallError CallPayload :=
  match blockedKeys (.obj event.data.payload) with
  | some blocked => .error (.payload ("ai.call payload must not embed prompt or output text; " ++
      "forbidden keys: " ++ Storage.namesText blocked) "inline-model-text")
  | none =>
    match payloadModel type (.obj event.data.payload) with
    | some payload => .ok payload
    | none => .error (.payload ("invalid payload for ai.call type " ++ event.type.val ++
        " (event id " ++ event.id.val ++ ", sequence " ++ sequenceText event.sequence ++ ")")
        "invalid-payload")

/-- `require_ai_actor` -/
def requireAiActor (event : ResearchEvent) : Except CallError Unit :=
  let place := event.type.val ++ " (event id " ++ event.id.val ++ ")"
  match event.data.actor.kind with
  | none => .error (.payload ("actor kind is required for " ++ place) "actor-kind-required")
  | some kind =>
    if kind ≠ .ai then
      .error (.payload ("actor kind is not allowed for " ++ place) "actor-kind-forbidden")
    else if event.data.actor.modelId = none then
      .error (.payload ("modelId is required for " ++ place) "model-id-required")
    else .ok ()

/-- Each set lists its members once. -/
structure CallFold where
  openCalls : List EventIdentifier
  closedCalls : List EventIdentifier
  deriving DecidableEq

def CallFold.empty : CallFold := ⟨[], []⟩

def requireCall (condition : Prop) [Decidable condition] (message code : String) :
    Except CallError Unit :=
  if condition then .ok () else .error (.call message code)

/-- `_apply_started` -/
def applyStarted (fold : CallFold) (callId : EventIdentifier) : Except CallError CallFold := do
  requireCall (callId ∉ fold.openCalls ∧ callId ∉ fold.closedCalls) "callId is already recorded"
    "duplicate-call-id"
  .ok { fold with openCalls := fold.openCalls ++ [callId] }

/-- `_apply_terminal` -/
def applyTerminal (fold : CallFold) (callId : EventIdentifier) : Except CallError CallFold := do
  requireCall (callId ∉ fold.closedCalls) "callId is already complete" "duplicate-call-id"
  requireCall (callId ∈ fold.openCalls) "ai.call completion has no matching start" "orphan-call-id"
  .ok ⟨fold.openCalls.filter (· ≠ callId), fold.closedCalls ++ [callId]⟩

def applyPayload (fold : CallFold) : CallPayload → Except CallError CallFold
  | .started payload => applyStarted fold payload.callId
  | .completed payload => applyTerminal fold payload.callId
  | .failed payload => applyTerminal fold payload.callId

/-- `apply_call_fold` -/
def applyCallFold (projectId : EventIdentifier) (fold : CallFold) (event : ResearchEvent) :
    Except CallError CallFold :=
  if event.data.projectId ≠ projectId then .ok fold
  else
    match CallEventType.ofText event.type.val with
    | none => .ok fold
    | some type => do
      requireAiActor event
      let payload ← parseAiCallPayload type event
      applyPayload fold payload

def replayCalls (projectId : EventIdentifier) (log : EventLog) : Except CallError CallFold :=
  log.foldlM (applyCallFold projectId) CallFold.empty

/-- `ModelCallControl.rebuild` -/
def rebuild (projectId : EventIdentifier) (log : EventLog) : Except CallError CallFold :=
  Fold.inOrder (fun event => event.sequence.val)
    (fun expected found =>
      .store (.integrity (Storage.misplacedText log.length expected (some found))))
    (applyCallFold projectId) 1 CallFold.empty log

def preflightEvent (projectId : EventIdentifier) (frozenHead : Nat) (document : Document) :
    Except CallError ResearchEvent :=
  match Storage.preflightDraft frozenHead document with
  | .error .notAnObject => .error (.call "event draft must be a JSON object" "invalid-draft")
  | .error (.storeAssigned names) =>
    .error (.call ("ModelCallControl does not accept store-assigned fields; caller supplied: " ++
      names) "store-assigned-fields")
  | .error .exhausted => .error (.call "global event sequence is exhausted" "sequence-exhausted")
  | .error .invalid =>
    .error (.payload "event draft failed ResearchEvent validation" "invalid-event")
  | .ok event =>
    if event.data.projectId = projectId then .ok event
    else .error (.call "event projectId does not match this ModelCallControl" "project-mismatch")

/-- What happens to a call of a control: what others append before it, and the failures of the
store that it meets as it reads and as it appends. -/
structure Interference where
  arrivals : EventLog
  readFault : Option StoreError
  appendFault : Option StoreError

def raiseFault : Option StoreError → Except CallError Unit
  | none => .ok ()
  | some error => .error (.store error)

def commit (log : EventLog) (document : Document) : Except CallError ResearchEvent :=
  match log.append document (some log.length) with
  | .ok event => .ok event
  | .error e => .error (.store e)

/-- `_append_one` -/
def appendOne (projectId : EventIdentifier) (log : EventLog) (met : Interference)
    (document : Document) : Except CallError ResearchEvent := do
  raiseFault met.readFault
  let fold ← rebuild projectId log
  let event ← preflightEvent projectId log.length document
  let _ ← applyCallFold projectId fold event
  raiseFault met.appendFault
  commit log document

variable {projectId : EventIdentifier} {log : EventLog} {document : Document}
  {event : ResearchEvent} {met : Interference} {fold next : CallFold}

theorem preflightEvent_ok {head : Nat} (h : preflightEvent projectId head document = .ok event) :
    Storage.Preflight head document event ∧ event.data.projectId = projectId := by
  unfold preflightEvent at h
  split at h
  all_goals try cases h
  rename_i found hfound
  split_ifs at h with hproject
  cases h
  exact ⟨Storage.preflightDraft_ok hfound, hproject⟩

theorem commit_ok (h : commit log document = .ok event) :
    log.append document (some log.length) = .ok event := by
  unfold commit at h
  split at h
  · rename_i found hfound
    cases h
    exact hfound
  · cases h

/-- An appended fact folds behind the log it was appended to. -/
theorem appendOne_ok (h : appendOne projectId log met document = .ok event) :
    log.Added document (some log.length) event ∧ event.data.projectId = projectId ∧
      ∃ fold next, replayCalls projectId log = .ok fold ∧
        applyCallFold projectId fold event = .ok next := by
  obtain ⟨_, -, h⟩ := Fold.bind_eq_ok.mp h
  obtain ⟨fold, hfold, h⟩ := Fold.bind_eq_ok.mp h
  obtain ⟨preflight, hpreflight, h⟩ := Fold.bind_eq_ok.mp h
  obtain ⟨next, hnext, h⟩ := Fold.bind_eq_ok.mp h
  obtain ⟨_, -, h⟩ := Fold.bind_eq_ok.mp h
  have hadded := Storage.EventLog.append_ok (commit_ok h)
  obtain ⟨hpreflight, hproject⟩ := preflightEvent_ok hpreflight
  have hevent := hpreflight.added hadded
  refine ⟨hadded, ?_, fold, next, (Fold.inOrder_eq_ok.mp hfold).2, ?_⟩
  · rw [hevent]
    exact hproject
  · rw [hevent]
    exact hnext

theorem requireCall_bind_ok {condition : Prop} [Decidable condition] {message code : String}
    {α : Type} {k : Except CallError α} {a : α} :
    (requireCall condition message code >>= fun _ => k) = .ok a ↔ condition ∧ k = .ok a := by
  unfold requireCall
  by_cases hcondition : condition
  · simp [hcondition, bind, Except.bind]
  · simp [hcondition, bind, Except.bind]

/-- What an accepted fact with an `ai.call` type does to the fold. -/
theorem applyCallFold_ok {type : CallEventType} (hproject : event.data.projectId = projectId)
    (htype : event.type.val = type.text) (h : applyCallFold projectId fold event = .ok next) :
    ∃ payload, payloadModel type (.obj event.data.payload) = some payload ∧
      applyPayload fold payload = .ok next := by
  have hkind : CallEventType.ofText event.type.val = some type := by
    rw [htype]
    cases type <;> decide
  unfold applyCallFold at h
  rw [if_neg (not_not.mpr hproject), hkind] at h
  obtain ⟨_, -, h⟩ := Fold.bind_eq_ok.mp h
  obtain ⟨payload, hpayload, h⟩ := Fold.bind_eq_ok.mp h
  refine ⟨payload, ?_, h⟩
  unfold parseAiCallPayload at hpayload
  split at hpayload
  · cases hpayload
  · split at hpayload
    · rename_i found hfound
      cases hpayload
      exact hfound
    · cases hpayload

theorem callId_of_model {type : CallEventType} {ms : Json.Members} {payload : CallPayload}
    (h : payloadModel type (.obj ms) = some payload) :
    ms.lookup "callId" = some (.str payload.callId.val) := by
  cases type with
  | started =>
    obtain ⟨found, hfound, rfl⟩ := Option.map_eq_some_iff.mp h
    obtain ⟨ms', hms, hfound⟩ := Option.bind_eq_some_iff.mp hfound
    cases Strict.closed_some hms
    obtain ⟨callId, hcall, hfound⟩ := Option.bind_eq_some_iff.mp hfound
    simp only [Option.bind_eq_bind, Option.bind_eq_some_iff] at hfound
    obtain ⟨_, -, _, -, _, -, _, -, _, -, _, -, _, -, _, -, _, -, _, -, _, -, _, -, hfound⟩ := hfound
    cases hfound
    exact Strict.required_text hcall
  | completed =>
    obtain ⟨found, hfound, rfl⟩ := Option.map_eq_some_iff.mp h
    obtain ⟨ms', hms, hfound⟩ := Option.bind_eq_some_iff.mp hfound
    cases Strict.closed_some hms
    obtain ⟨callId, hcall, hfound⟩ := Option.bind_eq_some_iff.mp hfound
    simp only [Option.bind_eq_bind, Option.bind_eq_some_iff] at hfound
    obtain ⟨_, -, _, -, _, -, _, -, _, -, _, -, hfound⟩ := hfound
    cases hfound
    exact Strict.required_text hcall
  | failed =>
    obtain ⟨found, hfound, rfl⟩ := Option.map_eq_some_iff.mp h
    obtain ⟨ms', hms, hfound⟩ := Option.bind_eq_some_iff.mp hfound
    cases Strict.closed_some hms
    obtain ⟨callId, hcall, hfound⟩ := Option.bind_eq_some_iff.mp hfound
    simp only [Option.bind_eq_bind, Option.bind_eq_some_iff] at hfound
    obtain ⟨_, -, hfound⟩ := hfound
    cases hfound
    exact Strict.required_text hcall

/-- A started call is open, an ended one is closed. -/
theorem folded_call {type : CallEventType} {payload : CallPayload}
    (hmodel : payloadModel type (.obj event.data.payload) = some payload)
    (h : applyPayload fold payload = .ok next) :
    (type = .started → payload.callId ∉ fold.openCalls ∧ payload.callId ∈ next.openCalls) ∧
      (type ≠ .started → payload.callId ∈ fold.openCalls ∧ payload.callId ∈ next.closedCalls) := by
  have hterminal : ∀ callId, applyTerminal fold callId = .ok next →
      callId ∈ fold.openCalls ∧ callId ∈ next.closedCalls := by
    intro callId hterminal
    obtain ⟨-, hterminal⟩ := requireCall_bind_ok.mp hterminal
    obtain ⟨hopen, hterminal⟩ := requireCall_bind_ok.mp hterminal
    cases hterminal
    exact ⟨hopen, List.mem_append_right _ (List.mem_singleton.mpr rfl)⟩
  cases type with
  | started =>
    obtain ⟨found, -, rfl⟩ := Option.map_eq_some_iff.mp hmodel
    obtain ⟨⟨hopen, -⟩, h⟩ := requireCall_bind_ok.mp h
    cases h
    exact ⟨fun _ => ⟨hopen, List.mem_append_right _ (List.mem_singleton.mpr rfl)⟩,
      fun hkind => absurd rfl hkind⟩
  | completed =>
    obtain ⟨found, -, rfl⟩ := Option.map_eq_some_iff.mp hmodel
    exact ⟨(nomatch ·), fun _ => hterminal _ h⟩
  | failed =>
    obtain ⟨found, -, rfl⟩ := Option.map_eq_some_iff.mp hmodel
    exact ⟨(nomatch ·), fun _ => hterminal _ h⟩

end ResearchOs.Providers
