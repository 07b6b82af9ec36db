import ResearchOs.Web.EventStream
import ResearchOs.Web.EventPage

/-! `/stream`: the events of the project as server-sent events, resumed by the id of the last one. -/
namespace ResearchOs.Web

open JsonText (FloatText)
open EventStream
open Storage
open Projections (ReadsAs)

def maxStreamEvents : Nat := 200

/-! Where a stream starts. -/

/-- `str.isspace` of one character. -/
def isSpace (c : Char) : Bool :=
  let n := c.toNat
  (9 ≤ n && n ≤ 13) || (28 ≤ n && n ≤ 32) || n = 0x85 || n = 0xA0 || n = 0x1680 ||
    (0x2000 ≤ n && n ≤ 0x200A) || n = 0x2028 || n = 0x2029 || n = 0x202F || n = 0x205F || n = 0x3000

/-- `str.strip` -/
def strip (text : String) : String :=
  String.ofList (((text.toList.dropWhile isSpace).reverse.dropWhile isSpace).reverse)

/-- `encode_cursor` of a sequence alone. -/
def encodeSequence (sequence : Nat) : String :=
  String.ofList (Base64.encode (Text.bytesOf (cursorPrefix ++ toString sequence)))

def outOfBounds : ApiError :=
  .badRequest "parameter-invalid" "The stream sequence is out of bounds."

/-- `_stream_cursor` -/
def streamCursor (raw : Option String) : Except ApiError Nat :=
  match raw with
  | none => decodeCursor none
  | some text =>
    if text ≠ "" ∧ text.toList.all Char.isDigit then
      if 10 < text.length ∨ cloudEventsIntegerMax < intOf text.toList then .error outOfBounds
      else .ok (intOf text.toList)
    else decodeCursor raw

/-- `_resume` -/
def resume (lastEventId cursor : Option String) : Except ApiError Nat :=
  match lastEventId with
  | none => streamCursor cursor
  | some header => if strip header = "" then streamCursor cursor else streamCursor (some (strip header))

/-! What a stream sends. -/

inductive Chunk where
  | opened
  | item (event : EventItem)
  | highWater (mark : Nat)
  | idle (lastSequence : Nat)
  | failed
  deriving DecidableEq, Repr

def optionalText : Option String → Json
  | none => .null
  | some text => .str text

/-- An item as JSON, under sorted keys. -/
def EventItem.document (item : EventItem) : Json :=
  .obj [("attemptId", optionalText item.attemptId), ("eventId", .str item.eventId),
    ("occurredAt", .str item.occurredAt), ("projectId", .str item.projectId),
    ("runId", optionalText item.runId), ("sequence", .int item.sequence), ("type", .str item.type)]

/-- `json_bytes`, before it is encoded. -/
def jsonText (F : FloatText) (document : Json) : List Char := JsonText.compact.render F document

def Chunk.fields (F : FloatText) : Chunk → List FrameLine
  | .opened => [⟨[], "open".toList⟩]
  | .item event =>
    [⟨"id".toList, Nat.toDigits 10 event.sequence⟩, ⟨"data".toList, jsonText F event.document⟩]
  | .highWater mark =>
    [⟨"event".toList, "high-water".toList⟩,
      ⟨"data".toList, jsonText F (.obj [("highWaterMark", .int mark)])⟩]
  | .idle last =>
    [⟨"event".toList, "idle".toList⟩, ⟨"data".toList, jsonText F (.obj [("lastSequence", .int last)])⟩]
  | .failed =>
    [⟨"event".toList, "error".toList⟩,
      ⟨"data".toList, jsonText F (.obj [("code", .str "event-store-unavailable")])⟩]

/-! The generator. -/

structure StreamState where
  cursor : Nat
  emitted : Nat
  closed : Bool
  deriving DecidableEq, Repr

/-- What a pass of the loop finds: whether the deadline has passed, and the store, if it opens. -/
structure Poll where
  late : Bool
  store : Option Database

def projectFilter (projectId : String) : EventFilter := ⟨projectId, none, none⟩

def streamPageSize : Nat := 100

/-- The items of a page, up to the cap. -/
def sendItems : StreamState → List EventItem → StreamState × List Chunk
  | s, [] => (s, [])
  | s, item :: items =>
    if maxStreamEvents ≤ s.emitted then (s, [])
    else
      let rest := sendItems { s with cursor := item.sequence, emitted := s.emitted + 1 } items
      (rest.1, .item item :: rest.2)

/-- One pass of the loop, with what it yields; after a fault only the fixed error is sent. -/
def StreamState.turn (F : FloatText) (projectId : String) (s : StreamState) (o : Poll) :
    StreamState × List Chunk :=
  if s.closed then (s, [])
  else if s.emitted < maxStreamEvents ∧ o.late = false then
    match o.store with
    | none => ({ s with closed := true }, [.failed])
    | some db =>
      match eventPage F (projectFilter projectId) (some (encodeSequence s.cursor))
          (some streamPageSize) db with
      | .error _ => ({ s with closed := true }, [.failed])
      | .ok page =>
        if page.items = [] then (s, [])
        else
          let sent := sendItems s page.items
          (sent.1, sent.2 ++ [.highWater page.highWaterMark])
  else ({ s with closed := true }, [.idle s.cursor])

def StreamState.run (F : FloatText) (projectId : String) :
    StreamState → List Poll → StreamState × List Chunk
  | s, [] => (s, [])
  | s, o :: os =>
    let passed := s.turn F projectId o
    let rest := StreamState.run F projectId passed.1 os
    (rest.1, passed.2 ++ rest.2)

/-- `body()` from a sequence on, with the text that it yields. -/
def streamChunks (F : FloatText) (projectId : String) (after : Nat) (os : List Poll) :
    List Chunk :=
  .opened :: (StreamState.run F projectId ⟨after, 0, false⟩ os).2

def streamText (F : FloatText) (projectId : String) (after : Nat) (os : List Poll) :
    List Char :=
  (streamChunks F projectId after os).flatMap fun chunk => frameText (chunk.fields F)

/-! A viewer, who comes back with the id of the last event that has arrived. -/

/-- One connection: what the server finds during it, and how many characters arrive, unless all do. -/
structure Visit where
  polls : List Poll
  arrived : Option Nat

def Visit.arrives (visit : Visit) (text : List Char) : List Char :=
  match visit.arrived with
  | none => text
  | some n => text.take n

/-- The events that a text hands on. -/
def eventsOf (text : List Char) : List Message :=
  ((Reader.start []).read text).messages.filter fun message => message.type = "message".toList

def lastIdOf (lastId : Option String) (messages : List Message) : Option String :=
  match messages.getLast? with
  | none => lastId
  | some message => some (String.ofList message.id)

/-- All that a viewer is told, visit by visit; a visit whose start is refused tells nothing. -/
def view (F : FloatText) (projectId : String) (cursor : Option String) :
    Option String → List Visit → List Message
  | _, [] => []
  | lastId, visit :: visits =>
    match resume lastId cursor with
    | .error _ => view F projectId cursor lastId visits
    | .ok after =>
      let told := eventsOf (visit.arrives (streamText F projectId after visit.polls))
      told ++ view F projectId cursor (lastIdOf lastId told) visits

/-- An event as a viewer is told of it. -/
def toldOf (F : FloatText) (event : StoredEvent) : Message :=
  ⟨"message".toList, jsonText F (EventItem.of event).document, Nat.toDigits 10 event.sequence⟩

/-! Cursors. -/

variable {F : FloatText} {projectId : String} {filter : EventFilter} {db store : Database}
  {after live : Nat} {events more : List StoredEvent}

theorem rawOf_encodeSequence (sequence : Nat) :
    rawOf (encodeSequence sequence) = some (cursorPrefix ++ toString sequence) := by
  have hascii : (Base64.encode (Text.bytesOf (cursorPrefix ++ toString sequence))).all
      (fun c => decide (c.toNat < 128)) = true :=
    List.all_eq_true.mpr fun c hc => decide_eq_true (Base64.isAscii_encode c hc)
  rw [rawOf, encodeSequence, String.toList_ofList, if_pos hascii,
    Base64.decode_encode Text.lt_of_mem_bytesOf]
  exact Text.textOf_bytesOf _

theorem toList_prefixed (sequence : Nat) : (cursorPrefix ++ toString sequence).toList =
    's' :: 'e' :: 'q' :: ':' :: Nat.toDigits 10 sequence := by
  simp [cursorPrefix, String.toList_append]

theorem encodeSequence_ne_empty (sequence : Nat) : encodeSequence sequence ≠ "" := by
  intro hempty
  have hraw := rawOf_encodeSequence sequence
  have hnone : rawOf "" = some "" := Text.textOf_bytesOf ""
  rw [hempty, hnone] at hraw
  have hlist := congrArg String.toList (Option.some.inj hraw)
  rw [toList_prefixed] at hlist
  cases hlist

theorem partsOf_prefixed (sequence : Nat) :
    partsOf (cursorPrefix ++ toString sequence) = [Nat.toDigits 10 sequence] := by
  have hdigits : ∀ c ∈ Nat.toDigits 10 sequence, decide (c ≠ ':') = true := by
    intro c hc
    refine decide_eq_true ?_
    rintro rfl
    exact colon_not_mem_toDigits sequence hc
  have hdrop : (Nat.toDigits 10 sequence).dropWhile (· ≠ ':') = [] := by
    rw [← List.append_nil (Nat.toDigits 10 sequence), List.dropWhile_append_of_pos hdigits]
    rfl
  rw [partsOf, toList_prefixed, cursorPrefix_length]
  simp only [List.drop_succ_cons, List.drop_zero, splitColons, hdrop]

theorem length_encodeSequence (h : after ≤ cloudEventsIntegerMax) :
    (encodeSequence after).length ≤ maxCursorLength := by
  have hsize := Base64.length_encode (Text.bytesOf (cursorPrefix ++ toString after))
  have hraw : (cursorPrefix ++ toString after).utf8ByteSize ≤ 14 := by
    have hprefix : cursorPrefix.utf8ByteSize = 4 := by decide +kernel
    have hdigits : (toString after).utf8ByteSize ≤ 10 := by
      rw [Text.utf8ByteSize_toString]
      refine (Nat.length_toDigits_le_iff (by decide) (by decide)).mpr ?_
      exact lt_of_le_of_lt h (by decide)
    rw [String.utf8ByteSize_append, hprefix]
    omega
  rw [Text.length_bytesOf] at hsize
  have hlimit : maxCursorLength = 2048 := rfl
  rw [encodeSequence, String.length_ofList, hlimit]
  omega

/-- A sequence alone stands for itself under the mark of the store. -/
theorem bounds_encodeSequence {scope : String} (h : after ≤ cloudEventsIntegerMax) :
    bounds (some (encodeSequence after)) scope live = .ok (after, live) := by
  have hprefix : (cursorPrefix ++ toString after).toList.take cursorPrefix.length =
      cursorPrefix.toList := by
    rw [toList_prefixed, cursorPrefix_length, cursorPrefix_toList]
    rfl
  have hdecode : decodeCursor (some (encodeSequence after)) = .ok after := by
    simp only [decodeCursor, if_neg (encodeSequence_ne_empty after),
      if_neg (not_lt.mpr (length_encodeSequence h)), rawOf_encodeSequence, hprefix, ne_eq,
      not_true_eq_false, if_false, partsOf_prefixed, List.headD_cons, isShortDecimal_toDigits h,
      intOf_toDigits, if_neg (not_lt.mpr h)]
  simp only [bounds, hdecode, bind, Except.bind, pure, Except.pure,
    if_neg (encodeSequence_ne_empty after), rawOf_encodeSequence, Option.map_some,
    partsOf_prefixed]

theorem decodeCursor_le {cursor : Option String} (h : decodeCursor cursor = .ok after) :
    after ≤ cloudEventsIntegerMax := by
  cases cursor with
  | none =>
    cases h
    exact Nat.zero_le _
  | some text =>
    simp only [decodeCursor] at h
    split_ifs at h
    · cases h
      exact Nat.zero_le _
    · cases hraw : rawOf text with
      | none =>
        rw [hraw] at h
        cases h
      | some raw =>
        rw [hraw] at h
        simp only at h
        split_ifs at h with _ _ hbound
        cases h
        exact not_lt.mp hbound

theorem streamCursor_le {raw : Option String} (h : streamCursor raw = .ok after) :
    after ≤ cloudEventsIntegerMax := by
  cases raw with
  | none =>
    have hdecode : decodeCursor none = .ok after := h
    exact decodeCursor_le hdecode
  | some text =>
    simp only [streamCursor] at h
    split_ifs at h with _ hbound
    · cases h
      exact not_lt.mp (not_or.mp hbound).2
    · exact decodeCursor_le h

theorem resume_le {lastId cursor : Option String} (h : resume lastId cursor = .ok after) :
    after ≤ cloudEventsIntegerMax := by
  unfold resume at h
  split at h
  · exact streamCursor_le h
  · split_ifs at h
    · exact streamCursor_le h
    · exact streamCursor_le h

theorem not_isSpace_of_isDigit {c : Char} (h : c.isDigit = true) : isSpace c = false := by
  have hrange : 48 ≤ c.toNat ∧ c.toNat ≤ 57 := by
    simpa [Char.isDigit, UInt32.le_iff_toNat_le] using h
  simp only [isSpace, Bool.or_eq_false_iff, Bool.and_eq_false_iff, decide_eq_false_iff_not]
  omega

theorem strip_digits {n : Nat} :
    strip (String.ofList (Nat.toDigits 10 n)) = String.ofList (Nat.toDigits 10 n) := by
  have hkeeps : ∀ cs : List Char, (∀ c ∈ cs, c.isDigit = true) → cs.dropWhile isSpace = cs := by
    intro cs hcs
    cases cs with
    | nil => rfl
    | cons c cs =>
      have hc := not_isSpace_of_isDigit (hcs c List.mem_cons_self)
      rw [List.dropWhile_cons_of_neg (by simp [hc])]
  have hdigits : ∀ c ∈ Nat.toDigits 10 n, c.isDigit = true :=
    fun c hc => Nat.isDigit_of_mem_toDigits (by decide) (by decide) hc
  rw [strip, String.toList_ofList, hkeeps _ hdigits,
    hkeeps _ (fun c hc => hdigits c (List.mem_reverse.mp hc)), List.reverse_reverse]

/-- The id of an event leads to what follows it. -/
theorem resume_digits {cursor : Option String} (h : after ≤ cloudEventsIntegerMax) :
    resume (some (String.ofList (Nat.toDigits 10 after))) cursor = .ok after := by
  have hne : String.ofList (Nat.toDigits 10 after) ≠ "" := by
    intro hempty
    have hlist := congrArg String.toList hempty
    rw [String.toList_ofList] at hlist
    exact Nat.toDigits_ne_nil hlist
  have hdigits : (Nat.toDigits 10 after).all Char.isDigit = true :=
    List.all_eq_true.mpr fun c hc => Nat.isDigit_of_mem_toDigits (by decide) (by decide) hc
  have hlength : (Nat.toDigits 10 after).length ≤ 10 :=
    (Nat.length_toDigits_le_iff (by decide) (by decide)).mpr (lt_of_le_of_lt h (by decide))
  have hbound : ¬ (10 < (Nat.toDigits 10 after).length ∨ cloudEventsIntegerMax < after) := by
    omega
  simp only [resume, strip_digits, streamCursor, String.toList_ofList,
    String.length_ofList, intOf_toDigits, hdigits, ne_eq, hne, not_false_eq_true, and_self,
    if_true, if_false, if_neg hbound]

/-! The texts of fields have no end of a line. -/

theorem oneLine_digits (n : Nat) : OneLine (Nat.toDigits 10 n) := by
  intro c hc
  have hdigit := Nat.isDigit_of_mem_toDigits (by decide) (by decide) hc
  constructor
  all_goals
    rintro rfl
    exact absurd hdigit (by decide)

theorem oneLine_escapeChar (c : Char) : OneLine (JsonText.escapeChar c) := by
  have hhex : ∀ n : Nat, JsonText.hexDigit n ≠ '\n' ∧ JsonText.hexDigit n ≠ '\r' := by
    intro n
    by_cases hn : n < 16
    · interval_cases n <;> decide
    · rw [JsonText.hexDigit, List.getD_eq_default]
      · decide
      · exact not_lt.mp hn
  have hletter : ∀ l, JsonText.escapeLetter c = some l → l ≠ '\n' ∧ l ≠ '\r' := by
    intro l hl
    have hmem := List.mem_of_find?_eq_some hl
    simp only [List.mem_cons, List.not_mem_nil, or_false] at hmem
    rcases hmem with rfl | rfl | rfl | rfl | rfl | rfl | rfl <;> decide
  unfold JsonText.escapeChar
  split
  · rename_i l hl
    simp only [oneLine_cons, oneLine_nil, and_true]
    exact ⟨by decide, hletter l hl⟩
  · rename_i hnone
    split_ifs with hcontrol
    · simp only [oneLine_cons, oneLine_nil, and_true]
      exact ⟨by decide, by decide, by decide, by decide, hhex _, hhex _⟩
    · simp only [oneLine_cons, oneLine_nil, and_true]
      constructor
      all_goals
        rintro rfl
        exact hcontrol (by decide)

theorem oneLine_quote (text : String) : OneLine (JsonText.compact.quote text) := by
  have hescape : OneLine (JsonText.escape text.toList) := by
    intro c hc
    obtain ⟨d, -, hd⟩ := List.mem_flatMap.mp hc
    exact oneLine_escapeChar d c hd
  simp only [JsonText.Layout.quote, oneLine_cons, oneLine_append, oneLine_nil, and_true]
  exact ⟨by decide, hescape, by decide⟩

theorem oneLine_int (n : Nat) :
    OneLine (JsonText.compact.render F (.int n)) := by
  have hpositive : decide ((n : Int) < 0) = false := decide_eq_false (by omega)
  have htoken : (JsonText.integerToken n).render = Nat.toDigits 10 n := by
    simp [JsonText.integerToken, JsonText.NumberToken.render, JsonText.NumberToken.renderFraction,
      JsonText.NumberToken.renderExponent, hpositive]
  rw [JsonText.Layout.render, htoken]
  exact oneLine_digits n

theorem oneLine_text (text : String) :
    OneLine (JsonText.compact.render F (.str text)) := by
  rw [JsonText.Layout.render]
  exact oneLine_quote text

theorem oneLine_optionalText (value : Option String) :
    OneLine (JsonText.compact.render F (optionalText value)) := by
  cases value with
  | none =>
    rw [optionalText, JsonText.Layout.render]
    decide
  | some text => exact oneLine_text text

/-- An object without breaks in its values has none. -/
theorem oneLine_object {ms : Json.Members}
    (h : ∀ m ∈ ms, OneLine (JsonText.compact.render F m.2)) : OneLine (jsonText F (.obj ms)) := by
  have hgap : JsonText.compact.gap = [] := rfl
  have hmembers : ∀ ms : Json.Members, (∀ m ∈ ms, OneLine (JsonText.compact.render F m.2)) →
      OneLine (JsonText.compact.renderMembers F ms) := by
    intro ms
    induction ms with
    | nil =>
      intro _
      rw [JsonText.Layout.renderMembers]
      decide
    | cons m ms ih =>
      intro h
      rw [JsonText.Layout.renderMembers, hgap]
      simp only [List.nil_append, oneLine_cons, oneLine_append]
      exact ⟨by decide, oneLine_quote m.1, by decide, h m List.mem_cons_self,
        ih fun m' hm' => h m' (List.mem_cons_of_mem m hm')⟩
  cases ms with
  | nil =>
    rw [jsonText, JsonText.Layout.render]
    decide
  | cons m ms =>
    rw [jsonText, JsonText.Layout.render, hgap]
    simp only [List.nil_append, oneLine_cons, oneLine_append]
    exact ⟨by decide, oneLine_quote m.1, by decide, h m List.mem_cons_self,
      hmembers ms fun m' hm' => h m' (List.mem_cons_of_mem m hm')⟩

theorem oneLine_document (item : EventItem) : OneLine (jsonText F item.document) := by
  refine oneLine_object ?_
  simp only [List.forall_mem_cons, List.not_mem_nil, false_implies, implies_true, and_true]
  exact ⟨oneLine_optionalText _, oneLine_text _, oneLine_text _, oneLine_text _,
    oneLine_optionalText _, oneLine_int _, oneLine_text _⟩

theorem clean_fields {name value data : List Char} (hname : name = "id".toList ∨ name = "event".toList)
    (hvalue : OneLine value) (hdata : OneLine data) :
    ∀ f ∈ [FrameLine.mk name value, FrameLine.mk "data".toList data], f.Clean := by
  have hnames : (':' ∉ name ∧ OneLine name) ∧ ':' ∉ "data".toList ∧ OneLine "data".toList := by
    rcases hname with rfl | rfl <;> decide
  simp only [List.forall_mem_cons, List.not_mem_nil, false_implies, implies_true, and_true]
  exact ⟨⟨hnames.1.1, hnames.1.2, hvalue⟩, ⟨hnames.2.1, hnames.2.2, hdata⟩⟩

theorem Chunk.clean (chunk : Chunk) : ∀ f ∈ chunk.fields F, f.Clean := by
  have hsingle : ∀ key value, OneLine (JsonText.compact.render F value) →
      OneLine (jsonText F (.obj [(key, value)])) := by
    intro key value hvalue
    refine oneLine_object fun m hm => ?_
    obtain rfl := List.mem_singleton.mp hm
    exact hvalue
  cases chunk with
  | opened =>
    intro f hf
    obtain rfl := List.mem_singleton.mp hf
    exact ⟨by decide, by decide, by decide⟩
  | item event => exact clean_fields (.inl rfl) (oneLine_digits _) (oneLine_document event)
  | highWater mark => exact clean_fields (.inr rfl) (by decide) (hsingle _ _ (oneLine_int mark))
  | idle last => exact clean_fields (.inr rfl) (by decide) (hsingle _ _ (oneLine_int last))
  | failed => exact clean_fields (.inr rfl) (by decide) (hsingle _ _ (oneLine_text _))

/-! What a viewer is told of chunks. -/

def Chunk.message (F : FloatText) : Chunk → Option Message
  | .item event =>
    some ⟨"message".toList, jsonText F event.document, Nat.toDigits 10 event.sequence⟩
  | _ => none

/-- Between two frames. -/
structure Between (r : Reader) : Prop where
  atLine : r.AtLine
  data : r.data = []
  type : r.type = []

def messagesOf (r : Reader) : List Message :=
  r.messages.filter fun message => message.type = "message".toList

theorem take_chunk {r : Reader} (h : Between r) (chunk : Chunk) :
    Between (r.take (chunk.fields F)) ∧
      messagesOf (r.take (chunk.fields F)) = messagesOf r ++ (chunk.message F).toList := by
  obtain ⟨hline, hdata, htype⟩ := h
  cases chunk with
  | item event =>
    have hnul : Char.ofNat 0 ∉ Nat.toDigits 10 event.sequence := by
      intro hc
      exact absurd (Nat.isDigit_of_mem_toDigits (by decide) (by decide) hc) (by decide)
    refine ⟨⟨hline.take, ?_, ?_⟩, ?_⟩
    all_goals
      simp [Chunk.fields, Reader.take, Reader.field, Reader.dispatch, hdata, htype, hnul, messagesOf,
        Chunk.message]
  | _ =>
    refine ⟨⟨hline.take, ?_, ?_⟩, ?_⟩
    all_goals
      simp [Chunk.fields, Reader.take, Reader.field, Reader.dispatch, hdata, messagesOf,
        Chunk.message]

theorem foldl_take {r : Reader} (h : Between r) (chunks : List Chunk) :
    messagesOf ((chunks.map fun chunk => chunk.fields F).foldl Reader.take r) =
      messagesOf r ++ chunks.filterMap (Chunk.message F) := by
  induction chunks generalizing r with
  | nil => simp
  | cons chunk chunks ih =>
    obtain ⟨hbetween, htold⟩ := take_chunk (F := F) h chunk
    rw [List.map_cons, List.foldl_cons, ih hbetween, htold, List.append_assoc]
    cases hmessage : chunk.message F with
    | none => simp [hmessage]
    | some message => simp [hmessage]

theorem clean_chunks (chunks : List Chunk) :
    ∀ fields ∈ chunks.map fun chunk => chunk.fields F, ∀ f ∈ fields, f.Clean := by
  intro fields hfields
  obtain ⟨chunk, -, rfl⟩ := List.mem_map.mp hfields
  exact chunk.clean

/-- What arrives of a stream is told from its start on, event by event. -/
theorem eventsOf_take (chunks : List Chunk) (n : Nat) :
    ∃ k, eventsOf ((chunks.flatMap fun chunk => frameText (chunk.fields F)).take n) =
      (chunks.take k).filterMap (Chunk.message F) := by
  have hstart : Between (Reader.start []) := ⟨⟨rfl, rfl⟩, rfl, rfl⟩
  obtain ⟨k, hk⟩ := Reader.read_frames_cut n (clean_chunks (F := F) chunks) hstart.atLine
  refine ⟨k, ?_⟩
  have htold := foldl_take (F := F) hstart (chunks.take k)
  rw [List.map_take, messagesOf, ← hk] at htold
  rw [eventsOf, ← List.flatMap_map]
  exact htold

/-- All of a stream is told if all of it arrives. -/
theorem eventsOf_all (chunks : List Chunk) :
    eventsOf (chunks.flatMap fun chunk => frameText (chunk.fields F)) =
      chunks.filterMap (Chunk.message F) := by
  have hstart : Between (Reader.start []) := ⟨⟨rfl, rfl⟩, rfl, rfl⟩
  have hread := Reader.read_frames (clean_chunks (F := F) chunks) hstart.atLine
  have htold := foldl_take (F := F) hstart chunks
  rw [messagesOf, ← hread] at htold
  rw [eventsOf, ← List.flatMap_map]
  exact htold

/-! What a stream shows of a store. -/

def position (after : Nat) (events : List StoredEvent) : Nat :=
  (events.getLast?.map StoredEvent.sequence).getD after

/-- The events are the first ones above a position. -/
def Shown (F : FloatText) (filter : EventFilter) (db : Database) (after : Nat)
    (events : List StoredEvent) : Prop :=
  List.Forall₂ (ReadsAs F) ((filter.above db after).take events.length) events

theorem Shown.nil : Shown F filter db after [] := List.Forall₂.nil

theorem Shown.length_le (h : Shown F filter db after events) :
    events.length ≤ (filter.above db after).length := by
  have hlength := List.Forall₂.length_eq h
  rw [List.length_take] at hlength
  omega

/-- What follows the last event that was shown. -/
theorem Shown.above (h : Shown F filter db after events) :
    filter.above db (position after events) = (filter.above db after).drop events.length := by
  by_cases hempty : events = []
  · subst hempty
    rfl
  · obtain ⟨last, hlast, -, habove⟩ := above_last h hempty
    rw [position, hlast, Option.getD_some, habove]

theorem Shown.position_le (h : Shown F filter db after events) (hafter : after ≤ cloudEventsIntegerMax) :
    position after events ≤ cloudEventsIntegerMax := by
  by_cases hempty : events = []
  · subst hempty
    exact hafter
  · obtain ⟨last, hlast, hle, -⟩ := above_last h hempty
    rw [position, hlast, Option.getD_some]
    exact hle.trans db.lastSequence_le

theorem position_append : position after (events ++ more) = position (position after events) more := by
  by_cases hempty : more = []
  · subst hempty
    rw [List.append_nil]
    rfl
  · rw [position, position, List.getLast?_append, List.getLast?_eq_some_getLast hempty]
    rfl

theorem Shown.append (h : Shown F filter db after events)
    (hmore : Shown F filter db (position after events) more) :
    Shown F filter db after (events ++ more) := by
  rw [Shown, List.length_append, List.take_add]
  refine List.rel_append h ?_
  rw [← h.above]
  exact hmore

theorem Shown.take (h : Shown F filter db after events) (n : Nat) :
    Shown F filter db after (events.take n) := by
  have htake := List.forall₂_take n h
  rw [List.take_take] at htake
  rwa [Shown, List.length_take]

/-- A store shows what it has shown before. -/
theorem Shown.extends (h : Shown F filter store after events) (hextends : Extends F store db) :
    Shown F filter db after events := by
  obtain ⟨rest, hrows, -⟩ := hextends
  have habove : filter.above db after = filter.above store after ++
      (rest.filter filter.admits).filter fun row => after < row.sequence.val := by
    rw [EventFilter.above, EventFilter.rows, hrows, List.filter_append, List.filter_append]
    rfl
  rw [Shown, habove, List.take_append_of_le_length h.length_le]
  exact h

/-! One pass, and all passes. -/

theorem position_cons {event : StoredEvent} :
    position after (event :: events) = position event.sequence events := by
  cases events with
  | nil => rfl
  | cons next events => rw [position, position, List.getLast?_cons_cons, List.getLast?_cons]; rfl

/-- The loop over a page sends its first items, up to the cap. -/
theorem sendItems_eq (s : StreamState) (events : List StoredEvent) :
    sendItems s (events.map EventItem.of) =
      let sent := events.take (maxStreamEvents - s.emitted)
      (⟨position s.cursor sent, s.emitted + sent.length, s.closed⟩,
        sent.map fun event => .item (EventItem.of event)) := by
  induction events generalizing s with
  | nil => simp [sendItems, position]
  | cons event events ih =>
    rw [List.map_cons, sendItems]
    by_cases hcap : maxStreamEvents ≤ s.emitted
    · rw [if_pos hcap, Nat.sub_eq_zero_of_le hcap, List.take_zero]
      rfl
    · have hsub : maxStreamEvents - s.emitted = maxStreamEvents - (s.emitted + 1) + 1 := by omega
      rw [if_neg hcap, ih, hsub]
      simp only [List.take_succ_cons, List.map_cons, List.length_cons, position_cons]
      have hsequence : (EventItem.of event).sequence = event.sequence := rfl
      rw [hsequence, Nat.add_right_comm s.emitted 1, Nat.add_assoc s.emitted]

/-- The stream tells of the first events above its position, and goes on behind them. -/
structure Tells (F : FloatText) (projectId : String) (db : Database) (s t : StreamState)
    (chunks : List Chunk) (events : List StoredEvent) : Prop where
  shown : Shown F (projectFilter projectId) db s.cursor events
  cursor : t.cursor = position s.cursor events
  emitted : t.emitted = s.emitted + events.length
  told : chunks.filterMap (Chunk.message F) = events.map (toldOf F)

theorem Tells.nothing {s t : StreamState} {chunks : List Chunk} (hcursor : t.cursor = s.cursor)
    (hemitted : t.emitted = s.emitted) (htold : chunks.filterMap (Chunk.message F) = []) :
    Tells F projectId db s t chunks [] :=
  ⟨.nil, hcursor, hemitted, htold⟩

theorem Tells.append {s t u : StreamState} {chunks chunks' : List Chunk}
    (h : Tells F projectId db s t chunks events) (h' : Tells F projectId db t u chunks' more) :
    Tells F projectId db s u (chunks ++ chunks') (events ++ more) := by
  refine ⟨h.shown.append (h.cursor ▸ h'.shown), ?_, ?_, ?_⟩
  · rw [h'.cursor, h.cursor, position_append]
  · rw [h'.emitted, h.emitted, List.length_append, Nat.add_assoc]
  · rw [List.filterMap_append, h.told, h'.told, List.map_append]

theorem message_item (event : StoredEvent) :
    (Chunk.item (EventItem.of event)).message F = some (toldOf F event) := rfl

theorem filterMap_items (events : List StoredEvent) :
    (events.map fun event => Chunk.item (EventItem.of event)).filterMap (Chunk.message F) =
      events.map (toldOf F) := by
  rw [List.filterMap_map]
  exact List.filterMap_eq_map_iff_forall_eq_some.mpr fun event _ => message_item event

theorem projectFilter_valid (h : isBoundedIdentifier projectId = true) :
    (projectFilter projectId).Valid :=
  ⟨Nat.zero_le _, List.not_mem_nil, h, rfl⟩

/-- A pass over a store that opens, in time and below the cap. -/
theorem turn_open {s : StreamState} {store : Database} (hproject : isBoundedIdentifier projectId = true)
    (hafter : s.cursor ≤ cloudEventsIntegerMax) (hopen : s.closed = false)
    (hcap : s.emitted < maxStreamEvents) :
    (∃ events, List.Forall₂ (ReadsAs F)
        (((projectFilter projectId).above store s.cursor).take streamPageSize) events ∧
      Tells F projectId store s (s.turn F projectId ⟨false, some store⟩).1
        (s.turn F projectId ⟨false, some store⟩).2 (events.take (maxStreamEvents - s.emitted)) ∧
      (s.turn F projectId ⟨false, some store⟩).1.closed = false) ∨
    s.turn F projectId ⟨false, some store⟩ = ({ s with closed := true }, [.failed]) ∧
      ∃ row ∈ (projectFilter projectId).above store s.cursor, ¬ Readable F row := by
  have hsize : 1 ≤ (some streamPageSize).getD defaultPageLimit ∧
      (some streamPageSize).getD defaultPageLimit ≤ maxReadPageSize := by decide
  have hcursor : bounds (some (encodeSequence s.cursor)) (projectFilter projectId).scope
      store.lastSequence = .ok (s.cursor, store.lastSequence) := bounds_encodeSequence hafter
  have hturn : s.turn F projectId ⟨false, some store⟩ =
      match eventPage F (projectFilter projectId) (some (encodeSequence s.cursor))
          (some streamPageSize) store with
      | .error _ => ({ s with closed := true }, [.failed])
      | .ok page =>
        if page.items = [] then (s, [])
        else
          let sent := sendItems s page.items
          (sent.1, sent.2 ++ [.highWater page.highWaterMark]) := by
    rw [StreamState.turn, if_neg (by simp [hopen]), if_pos ⟨hcap, rfl⟩]
  obtain ⟨events, hreads, hpage⟩ | ⟨hpage, hunreadable⟩ :=
    eventPage_of_bounds hcursor (.refl F store) (projectFilter_valid hproject) hafter hsize
  · left
    refine ⟨events, hreads, ?_⟩
    rw [hturn, hpage]
    have hshown : Shown F (projectFilter projectId) store s.cursor events := by
      have hlength := hreads.length_eq
      rw [Shown, ← hlength, List.length_take, ← List.take_eq_take_min]
      exact hreads
    by_cases hempty : events = []
    · subst hempty
      have hnothing : Tells F projectId store s s [] [] := .nothing rfl rfl rfl
      rw [List.take_nil]
      exact ⟨hnothing, hopen⟩
    · have hitems : ¬ events.map EventItem.of = [] := fun h => hempty (List.map_eq_nil_iff.mp h)
      simp only [if_neg hitems, sendItems_eq]
      refine ⟨⟨hshown.take _, rfl, rfl, ?_⟩, hopen⟩
      rw [List.filterMap_append, filterMap_items]
      exact List.append_nil _
  · right
    rw [hturn, hpage]
    exact ⟨rfl, hunreadable⟩

theorem turn_tells {s : StreamState} {o : Poll}
    (hproject : isBoundedIdentifier projectId = true) (hafter : s.cursor ≤ cloudEventsIntegerMax)
    (hstore : ∀ store, o.store = some store → Extends F store db) :
    ∃ events, Tells F projectId db s (s.turn F projectId o).1 (s.turn F projectId o).2 events := by
  by_cases hclosed : s.closed = true
  · refine ⟨[], ?_⟩
    rw [StreamState.turn, if_pos hclosed]
    exact .nothing rfl rfl rfl
  · by_cases hgoes : s.emitted < maxStreamEvents ∧ o.late = false
    · obtain ⟨late, store⟩ := o
      obtain ⟨hcap, rfl⟩ := hgoes
      cases store with
      | none =>
        refine ⟨[], ?_⟩
        rw [StreamState.turn, if_neg hclosed, if_pos ⟨hcap, rfl⟩]
        exact .nothing rfl rfl rfl
      | some store =>
        rw [Bool.not_eq_true] at hclosed
        obtain ⟨events, -, htells, -⟩ | ⟨hturn, -⟩ := turn_open (F := F) hproject hafter hclosed hcap
        · exact ⟨_, htells.shown.extends (hstore store rfl), htells.cursor, htells.emitted,
            htells.told⟩
        · refine ⟨[], ?_⟩
          rw [hturn]
          exact .nothing rfl rfl rfl
    · refine ⟨[], ?_⟩
      rw [StreamState.turn, if_neg hclosed, if_neg hgoes]
      exact .nothing rfl rfl rfl

theorem run_tells {s : StreamState} {os : List Poll}
    (hproject : isBoundedIdentifier projectId = true) (hafter : s.cursor ≤ cloudEventsIntegerMax)
    (hstores : ∀ o ∈ os, ∀ store, o.store = some store → Extends F store db) :
    ∃ events, Tells F projectId db s (s.run F projectId os).1 (s.run F projectId os).2 events := by
  induction os generalizing s with
  | nil => exact ⟨[], .nothing rfl rfl rfl⟩
  | cons o os ih =>
    obtain ⟨events, htells⟩ := turn_tells hproject hafter (hstores o List.mem_cons_self)
    have hafter' : (s.turn F projectId o).1.cursor ≤ cloudEventsIntegerMax := by
      rw [htells.cursor]
      exact htells.shown.position_le hafter
    obtain ⟨more, hmore⟩ := ih hafter' fun o' ho' => hstores o' (List.mem_cons_of_mem o ho')
    exact ⟨events ++ more, htells.append hmore⟩

/-- A first page and what `k` further pages send make what `k + 1` pages send. -/
theorem page_add_pages (n b page k : Nat) :
    min (min n page) b + min (n - min (min n page) b) (min (b - min (min n page) b) (page * k)) =
      min n (min b (page * (k + 1))) := by
  have hfirst : min (min n page) b = min (min n b) page := by
    rw [Nat.min_assoc, Nat.min_comm page b, ← Nat.min_assoc]
  rw [hfirst, ← Nat.min_assoc, ← Nat.min_assoc, Nat.sub_min_sub_right, Nat.mul_succ]
  by_cases hpage : min n b ≤ page
  · rw [Nat.min_eq_left hpage, Nat.sub_self, Nat.zero_min, Nat.add_zero]
    exact (Nat.min_eq_left (by omega)).symm
  · have hle : page ≤ min n b := by omega
    rw [Nat.min_eq_right hle]
    generalize min n b = m at hle
    omega

/-- While every row reads, passes in time send all that there is, up to a page each and the cap. -/
theorem run_quiet {s : StreamState} (hproject : isBoundedIdentifier projectId = true) (k : Nat)
    (hafter : s.cursor ≤ cloudEventsIntegerMax)
    (hopen : s.closed = false ∨ maxStreamEvents ≤ s.emitted)
    (hreadable : ∀ row ∈ (projectFilter projectId).above db s.cursor, Readable F row) :
    ∃ events, Tells F projectId db s (s.run F projectId (List.replicate k ⟨false, some db⟩)).1
        (s.run F projectId (List.replicate k ⟨false, some db⟩)).2 events ∧
      events.length = min ((projectFilter projectId).above db s.cursor).length
        (min (maxStreamEvents - s.emitted) (streamPageSize * k)) := by
  induction k generalizing s with
  | zero => exact ⟨[], .nothing rfl rfl rfl, by simp⟩
  | succ k ih =>
    have hpass : ∃ sent, Tells F projectId db s (s.turn F projectId ⟨false, some db⟩).1
        (s.turn F projectId ⟨false, some db⟩).2 sent ∧
        sent.length = min (min ((projectFilter projectId).above db s.cursor).length streamPageSize)
          (maxStreamEvents - s.emitted) ∧
        ((s.turn F projectId ⟨false, some db⟩).1.closed = false ∨
          maxStreamEvents ≤ (s.turn F projectId ⟨false, some db⟩).1.emitted) := by
      by_cases hcap : s.emitted < maxStreamEvents
      · have hclosed : s.closed = false := by
          rcases hopen with hclosed | hfull
          · exact hclosed
          · omega
        obtain ⟨events, hreads, htells, hstays⟩ | ⟨-, row, hrow, hunreadable⟩ :=
          turn_open hproject hafter hclosed hcap
        · refine ⟨_, htells, ?_, .inl hstays⟩
          rw [List.length_take, ← hreads.length_eq, List.length_take]
          omega
        · exact absurd (hreadable row hrow) hunreadable
      · refine ⟨[], ?_, ?_, .inr ?_⟩
        · by_cases hclosed : s.closed = true
          · rw [StreamState.turn, if_pos hclosed]
            exact .nothing rfl rfl rfl
          · rw [StreamState.turn, if_neg hclosed, if_neg fun h => hcap h.1]
            exact .nothing rfl rfl rfl
        · rw [List.length_nil]
          omega
        · have hfull : maxStreamEvents ≤ s.emitted := not_lt.mp hcap
          by_cases hclosed : s.closed = true
          · rw [StreamState.turn, if_pos hclosed]
            exact hfull
          · rw [StreamState.turn, if_neg hclosed, if_neg fun h => hcap h.1]
            exact hfull
    obtain ⟨sent, htells, hsent, hnext⟩ := hpass
    have hshown := htells.shown
    have habove := hshown.above
    rw [← htells.cursor] at habove
    have hafter' : (s.turn F projectId ⟨false, some db⟩).1.cursor ≤ cloudEventsIntegerMax := by
      rw [htells.cursor]
      exact hshown.position_le hafter
    obtain ⟨more, hmore, hlength⟩ := ih hafter' hnext fun row hrow => by
      rw [habove] at hrow
      exact hreadable row (List.mem_of_mem_drop hrow)
    refine ⟨sent ++ more, htells.append hmore, ?_⟩
    rw [List.length_append, hlength, habove, List.length_drop, htells.emitted, ← Nat.sub_sub, hsent]
    exact page_add_pages _ _ _ _

/-! From visit to visit. -/

theorem told_take {chunks : List Chunk} (htold : chunks.filterMap (Chunk.message F) =
    events.map (toldOf F)) (k : Nat) :
    ∃ m, (chunks.take k).filterMap (Chunk.message F) = (events.take m).map (toldOf F) := by
  have hprefix : (chunks.take k).filterMap (Chunk.message F) <+: events.map (toldOf F) :=
    htold ▸ (List.take_prefix k chunks).filterMap (Chunk.message F)
  refine ⟨((chunks.take k).filterMap (Chunk.message F)).length, ?_⟩
  rw [List.map_take]
  exact List.prefix_iff_eq_take.mp hprefix

/-- The id of the last event that a viewer was told of leads to what follows it. -/
theorem resume_lastIdOf {lastId cursor : Option String} (hstart : resume lastId cursor = .ok after)
    (h : Shown F filter db after events) :
    resume (lastIdOf lastId (events.map (toldOf F))) cursor = .ok (position after events) := by
  have hle := h.position_le (resume_le hstart)
  unfold lastIdOf
  rw [List.getLast?_map]
  cases hlast : events.getLast? with
  | none =>
    rw [position, hlast]
    exact hstart
  | some event =>
    rw [position, hlast] at hle ⊢
    exact resume_digits hle

/-- What arrives of one connection. -/
theorem visit_tells {visit : Visit} (hproject : isBoundedIdentifier projectId = true)
    (hafter : after ≤ cloudEventsIntegerMax)
    (hstores : ∀ o ∈ visit.polls, ∀ store, o.store = some store → Extends F store db) :
    ∃ events, Shown F (projectFilter projectId) db after events ∧
      eventsOf (visit.arrives (streamText F projectId after visit.polls)) =
        events.map (toldOf F) := by
  obtain ⟨events, htells⟩ := run_tells (s := ⟨after, 0, false⟩) hproject hafter hstores
  have htold : (streamChunks F projectId after visit.polls).filterMap (Chunk.message F) =
      events.map (toldOf F) := htells.told
  obtain ⟨polls, arrived⟩ := visit
  cases arrived with
  | none => exact ⟨events, htells.shown, (eventsOf_all _).trans htold⟩
  | some n =>
    obtain ⟨k, hk⟩ := eventsOf_take (F := F) (streamChunks F projectId after polls) n
    obtain ⟨m, hm⟩ := told_take htold k
    exact ⟨events.take m, htells.shown.take m, hk.trans hm⟩

/-- A connection that is not cut, while every row reads. -/
theorem quiet_visit_tells (hproject : isBoundedIdentifier projectId = true)
    (hafter : after ≤ cloudEventsIntegerMax) (k : Nat)
    (hreadable : ∀ row ∈ (projectFilter projectId).above db after, Readable F row) :
    (eventsOf (streamText F projectId after (List.replicate k ⟨false, some db⟩))).length =
      min ((projectFilter projectId).above db after).length
        (min maxStreamEvents (streamPageSize * k)) := by
  obtain ⟨events, htells, hlength⟩ :=
    run_quiet (s := ⟨after, 0, false⟩) hproject k hafter (.inl rfl) hreadable
  have htold : (streamChunks F projectId after (List.replicate k ⟨false, some db⟩)).filterMap
      (Chunk.message F) = events.map (toldOf F) := htells.told
  rw [streamText, eventsOf_all, htold, List.length_map]
  exact hlength

/-- Visits tell of what follows the start, and leave the viewer behind it. -/
theorem view_append {cursor lastId : Option String} (visits : List Visit)
    (hproject : isBoundedIdentifier projectId = true) (hstart : resume lastId cursor = .ok after)
    (hstores : ∀ visit ∈ visits, ∀ o ∈ visit.polls, ∀ store, o.store = some store →
      Extends F store db) :
    ∃ events lastId', Shown F (projectFilter projectId) db after events ∧
      resume lastId' cursor = .ok (position after events) ∧
      ∀ later, view F projectId cursor lastId (visits ++ later) =
        events.map (toldOf F) ++ view F projectId cursor lastId' later := by
  induction visits generalizing lastId after with
  | nil => exact ⟨[], lastId, .nil, hstart, fun later => rfl⟩
  | cons visit visits ih =>
    obtain ⟨events, hshown, htold⟩ := visit_tells hproject (resume_le hstart)
      (hstores visit List.mem_cons_self)
    obtain ⟨more, lastId', hmore, hend, hview⟩ := ih (resume_lastIdOf hstart hshown)
      fun visit' hvisit' => hstores visit' (List.mem_cons_of_mem visit hvisit')
    refine ⟨events ++ more, lastId', hshown.append hmore, ?_, fun later => ?_⟩
    · rw [position_append]
      exact hend
    · rw [List.cons_append, view, hstart]
      simp only
      rw [htold, hview, List.map_append, List.append_assoc]

def trialVisits : List Visit :=
  [⟨[⟨false, some trialStore⟩, ⟨false, none⟩], some 12⟩, ⟨[⟨true, none⟩], none⟩]

end ResearchOs.Web
