import ResearchOs.Projections.Replay
import ResearchOs.Web.Cursor

/-! `event_page`: bounded pages of one project's events under a frozen high-water mark. -/
namespace ResearchOs.Web

open JsonText (FloatText)
open Storage
open Projections (ReadsAs)

def defaultPageLimit : Nat := 100

/-- What an event page is asked for; the types are a set. -/
structure EventFilter where
  projectId : String
  eventTypes : Option (List String)
  runId : Option String

namespace EventFilter

def scope (filter : EventFilter) : String :=
  filter.projectId ++ "|events|" ++
    ",".intercalate ((filter.eventTypes.getD []).dedup.insertionSort fun a b => a ≤ b) ++ "|" ++
      filter.runId.getD ""

def query (filter : EventFilter) (after limit highWater : Nat) : ReadQuery :=
  ⟨after, limit, some highWater, filter.eventTypes, some filter.projectId, filter.runId, none, false⟩

def admits (filter : EventFilter) (row : EventRow) : Bool :=
  decide (row.projectId = filter.projectId) &&
    filter.runId.all (fun value => decide (row.runId = some value)) &&
    filter.eventTypes.all (fun types => decide (row.eventType ∈ types))

/-- The filter passes the checks of a read. -/
def Valid (filter : EventFilter) : Prop :=
  (filter.eventTypes.getD []).dedup.length ≤ 32 ∧ "" ∉ filter.eventTypes.getD [] ∧
    isBoundedIdentifier filter.projectId = true ∧ filter.runId.all isBoundedIdentifier = true

end EventFilter

structure EventItem where
  sequence : Nat
  eventId : String
  type : String
  occurredAt : String
  projectId : String
  runId : Option String
  attemptId : Option String
  deriving DecidableEq, Repr

def EventItem.of (stored : StoredEvent) : EventItem where
  sequence := stored.sequence
  eventId := stored.event.id.val
  type := stored.event.type.val
  occurredAt := stored.event.time.val
  projectId := stored.event.data.projectId.val
  runId := stored.event.data.runId.map Subtype.val
  attemptId := stored.event.data.attemptId.map Subtype.val

structure Page where
  items : List EventItem
  nextCursor : Option String
  highWaterMark : Nat
  deriving DecidableEq, Repr

/-- `_guarded`; an argument that the store refuses stays a `ValueError`. -/
def guarded {α : Type} : Except StoreError α → Except ApiError α
  | .ok value => .ok value
  | .error (.value message) => .error (.value message)
  | .error _ => .error .unavailable

/-- `event_page` -/
def eventPage (F : FloatText) (filter : EventFilter) (cursor : Option String) (limit : Option Nat)
    (db : Database) : Except ApiError Page := do
  let (after, highWater) ← bounds cursor filter.scope db.lastSequence
  let size := limit.getD defaultPageLimit
  let rows ← guarded (readEvents F (filter.query after size highWater) db.events)
  let last := (rows.getLast?.map StoredEvent.sequence).getD after
  pure ⟨(rows.filter fun stored => stored.event.data.projectId.val = filter.projectId).map
      EventItem.of,
    if rows.length = size then some (encodeCursor last highWater filter.scope) else none, highWater⟩

/-- The pages from a cursor on: the k-th request reads the k-th store. -/
def follow (F : FloatText) (filter : EventFilter) (limits : Nat → Option Nat)
    (stores : Nat → Database) :
    Nat → Nat → Option String → Except ApiError (List EventItem × Option String)
  | 0, _, cursor => .ok ([], cursor)
  | fuel + 1, k, cursor => do
    let page ← eventPage F filter cursor (limits k) (stores k)
    match page.nextCursor with
    | none => pure (page.items, none)
    | some next =>
      let (items, left) ← follow F filter limits stores fuel (k + 1) (some next)
      pure (page.items ++ items, left)

/-- The stores of the requests: each is the one before it after some appends. -/
def requestStores (F : FloatText) (db : Database) (calls : Nat → List AppendCall) : Nat → Database
  | 0 => db
  | k + 1 => (appendStore F).run (requestStores F db calls k) (calls k)

/-! One page. -/

variable {F : FloatText} {filter : EventFilter} {db later : Database} {after size : Nat}

theorem requestStores_extends {calls : Nat → List AppendCall} (k : Nat) :
    Extends F db (requestStores F db calls k) := by
  induction k with
  | zero => exact .refl F db
  | succ k ih => exact ih.trans (run_extends _ (calls k))

/-- The rows of a filter. -/
def EventFilter.rows (filter : EventFilter) (db : Database) : List EventRow :=
  db.events.rows.filter filter.admits

theorem ascending_rows : Ascending.Keyed (fun row : EventRow => row.sequence.val) (filter.rows db) :=
  Ascending.Keyed.filter db.events.ascending _

/-- Under the mark of an earlier store, a later one shows the rows of the earlier one. -/
theorem select_query (h : Extends F db later) :
    (filter.query after size db.lastSequence).select later.events.rows =
      (filter.rows db).filter fun row => after < row.sequence.val := by
  obtain ⟨rest, hrows, -, hover⟩ := h.above
  have hadmits : ∀ row : EventRow, (filter.query after size db.lastSequence).admits row =
      (filter.admits row && decide (row.sequence.val ≤ db.lastSequence)) := by
    intro row
    simp only [ReadQuery.admits, EventFilter.query, EventFilter.admits, Option.all_some,
      Option.all_none, Bool.and_true]
    ac_rfl
  have hold : db.events.rows.filter (filter.query after size db.lastSequence).admits =
      filter.rows db := by
    refine List.filter_congr fun row hrow => ?_
    rw [hadmits, decide_eq_true (Database.le_lastSequence hrow), Bool.and_true]
  have hnew : rest.filter (filter.query after size db.lastSequence).admits = [] := by
    refine List.filter_eq_nil_iff.mpr fun row hrow hadmitted => ?_
    rw [hadmits, Bool.and_eq_true, decide_eq_true_iff] at hadmitted
    have := hover row hrow
    omega
  simp only [ReadQuery.select, hrows, List.filter_append, hold, hnew, List.append_nil]
  rfl

theorem validate_query {highWater : Nat} (hfilter : filter.Valid)
    (hafter : after ≤ cloudEventsIntegerMax) (hhighWater : highWater ≤ cloudEventsIntegerMax)
    (hsize : 1 ≤ size ∧ size ≤ maxReadPageSize) :
    (filter.query after size highWater).validate = .ok () := by
  obtain ⟨hlength, hempty, hproject, hrun⟩ := hfilter
  refine ReadQuery.validate_ok.mpr ⟨hafter, hsize, ?_, hlength, hempty, ?_, hrun, rfl⟩
  · simpa [EventFilter.query] using hhighWater
  · simpa [EventFilter.query] using hproject

/-- A page that was read, or a row of the filter that does not read. -/
theorem read_query (h : Extends F db later) (hfilter : filter.Valid)
    (hafter : after ≤ cloudEventsIntegerMax) (hsize : 1 ≤ size ∧ size ≤ maxReadPageSize) :
    (∃ rows, guarded (readEvents F (filter.query after size db.lastSequence) later.events) =
        .ok rows ∧
      List.Forall₂ (ReadsAs F)
        (((filter.rows db).filter fun row => after < row.sequence.val).take size) rows) ∨
    guarded (readEvents F (filter.query after size db.lastSequence) later.events) =
        .error .unavailable ∧
      ∃ row ∈ filter.rows db, after < row.sequence.val ∧ ¬ Readable F row := by
  have hread : readEvents F (filter.query after size db.lastSequence) later.events =
      (((filter.rows db).filter fun row => after < row.sequence.val).take size).mapM
        (storedEventFromRow F) := by
    rw [readEvents, validate_query hfilter hafter db.lastSequence_le hsize, select_query h]
    rfl
  rw [hread]
  cases hpage : (((filter.rows db).filter fun row => after < row.sequence.val).take size).mapM
      (storedEventFromRow F) with
  | ok rows => exact Or.inl ⟨rows, rfl, Fold.mapM_eq_ok.mp hpage⟩
  | error e =>
    right
    obtain ⟨row, hrow, hfails⟩ := Fold.mapM_eq_error hpage
    obtain ⟨message, rfl⟩ := integrity_of_storedEventFromRow hfails
    obtain ⟨hmem, hlt⟩ := List.mem_filter.mp (List.mem_of_mem_take hrow)
    refine ⟨rfl, row, hmem, of_decide_eq_true hlt, ?_⟩
    rintro ⟨stored, hstored⟩
    rw [hfails] at hstored
    cases hstored

/-- Every event of the page is one of the project. -/
theorem filter_project {rows : List EventRow} {events : List StoredEvent}
    (h : List.Forall₂ (ReadsAs F) rows events) (hrows : ∀ row ∈ rows, filter.admits row = true) :
    (events.filter fun stored => stored.event.data.projectId.val = filter.projectId) = events := by
  refine List.filter_eq_self.mpr fun stored hstored => decide_eq_true ?_
  obtain ⟨row, hrow, hread⟩ := Fold.exists_of_mem_right h hstored
  have hadmits := hrows row hrow
  simp only [EventFilter.admits, Bool.and_eq_true, decide_eq_true_eq] at hadmits
  rw [projectId_of_reads hread, hadmits.1.1]

/-! From page to page. -/

/-- The rows of a filter above a position. -/
def EventFilter.above (filter : EventFilter) (db : Database) (after : Nat) : List EventRow :=
  (filter.rows db).filter fun row => after < row.sequence.val

/-- A page from a position whose cursor stands for it. -/
theorem eventPage_of_bounds {cursor : Option String} {limit : Option Nat}
    (hcursor : bounds cursor filter.scope later.lastSequence = .ok (after, db.lastSequence))
    (h : Extends F db later) (hfilter : filter.Valid) (hafter : after ≤ cloudEventsIntegerMax)
    (hsize : 1 ≤ limit.getD defaultPageLimit ∧ limit.getD defaultPageLimit ≤ maxReadPageSize) :
    (∃ events, List.Forall₂ (ReadsAs F)
        ((filter.above db after).take (limit.getD defaultPageLimit)) events ∧
      eventPage F filter cursor limit later = .ok ⟨events.map EventItem.of,
        if events.length = limit.getD defaultPageLimit then
          some (encodeCursor ((events.getLast?.map StoredEvent.sequence).getD after)
            db.lastSequence filter.scope)
        else none, db.lastSequence⟩) ∨
    eventPage F filter cursor limit later = .error .unavailable ∧
      ∃ row ∈ filter.above db after, ¬ Readable F row := by
  obtain ⟨events, hread, hreads⟩ | ⟨hread, row, hrow, hlt, hunreadable⟩ :=
    read_query h hfilter hafter hsize
  · left
    refine ⟨events, hreads, ?_⟩
    have hproject : (events.filter fun stored =>
        stored.event.data.projectId.val = filter.projectId) = events :=
      filter_project hreads fun row hrow =>
        (List.mem_filter.mp (List.mem_filter.mp (List.mem_of_mem_take hrow)).1).2
    simp only [eventPage, hcursor, bind, Except.bind, hread, hproject, pure, Except.pure]
  · right
    refine ⟨?_, row, List.mem_filter.mpr ⟨hrow, decide_eq_true hlt⟩, hunreadable⟩
    simp only [eventPage, hcursor, bind, Except.bind, hread]

/-- What follows a full page is what lies above its last event. -/
theorem above_last {events : List StoredEvent}
    (hreads : List.Forall₂ (ReadsAs F) ((filter.above db after).take size) events)
    (hnonempty : events ≠ []) : ∃ last,
      events.getLast?.map StoredEvent.sequence = some last ∧ last ≤ db.lastSequence ∧
        filter.above db last = (filter.above db after).drop size := by
  have hmaps : ((filter.above db after).take size).map (fun row => row.sequence.val) =
      events.map StoredEvent.sequence :=
    Fold.map_eq_map_of_forall₂ hreads fun _ _ hread => (sequence_of_reads hread).symm
  cases hlast : ((filter.above db after).take size).getLast? with
  | none =>
    have hlength := hreads.length_eq
    rw [List.getLast?_eq_none_iff.mp hlast, List.length_nil] at hlength
    exact absurd (List.length_eq_zero_iff.mp hlength.symm) hnonempty
  | some row =>
    have hends := congrArg List.getLast? hmaps
    rw [List.getLast?_map, List.getLast?_map, hlast, Option.map_some] at hends
    refine ⟨row.sequence.val, hends.symm, ?_, Ascending.filter_after_page ascending_rows hlast⟩
    have hmem := List.mem_of_mem_take (List.mem_of_getLast? hlast)
    exact Database.le_lastSequence (List.mem_filter.mp (List.mem_filter.mp hmem).1).1

/-- The pages from a position on show the rows above it, each once and in order, and end. -/
theorem follow_pages {limits : Nat → Option Nat} {stores : Nat → Database} {fuel k : Nat}
    {cursor : Option String} (hfilter : filter.Valid)
    (hlimits : ∀ k, 1 ≤ (limits k).getD defaultPageLimit ∧
      (limits k).getD defaultPageLimit ≤ maxReadPageSize)
    (hstores : ∀ k, Extends F db (stores k)) (hafter : after ≤ cloudEventsIntegerMax)
    (hcursor : bounds cursor filter.scope (stores k).lastSequence = .ok (after, db.lastSequence))
    (hfuel : (filter.above db after).length < fuel) :
    (∃ events, List.Forall₂ (ReadsAs F) (filter.above db after) events ∧
      follow F filter limits stores fuel k cursor = .ok (events.map EventItem.of, none)) ∨
    follow F filter limits stores fuel k cursor = .error .unavailable ∧
      ∃ row ∈ filter.above db after, ¬ Readable F row := by
  induction fuel generalizing k cursor after with
  | zero => omega
  | succ fuel ih =>
    obtain ⟨events, hreads, hpage⟩ | ⟨hpage, hunreadable⟩ :=
      eventPage_of_bounds hcursor (hstores k) hfilter hafter (hlimits k)
    · by_cases hfull : events.length = (limits k).getD defaultPageLimit
      · rw [if_pos hfull] at hpage
        have hpositive := (hlimits k).1
        have hnonempty : events ≠ [] := by
          rintro rfl
          rw [List.length_nil] at hfull
          omega
        obtain ⟨last, hlast, hle, habove⟩ := above_last hreads hnonempty
        rw [hlast, Option.getD_some] at hpage
        have hnext : bounds (some (encodeCursor last db.lastSequence filter.scope)) filter.scope
            (stores (k + 1)).lastSequence = .ok (last, db.lastSequence) := by
          rw [bounds_encodeCursor hle (hstores (k + 1)).lastSequence_le db.lastSequence_le,
            if_pos (Or.inr rfl)]
        have hshorter : (filter.above db last).length < fuel := by
          have htake := hreads.length_eq
          rw [List.length_take] at htake
          rw [habove, List.length_drop]
          omega
        obtain ⟨later, hlater, hfollow⟩ | ⟨hfollow, row, hrow, hunreadable⟩ :=
          ih (hle.trans db.lastSequence_le) hnext hshorter
        · left
          refine ⟨events ++ later, ?_, ?_⟩
          · rw [← List.take_append_drop ((limits k).getD defaultPageLimit) (filter.above db after),
              ← habove]
            exact List.rel_append hreads hlater
          · simp only [follow, hpage, bind, Except.bind, hfollow, pure, Except.pure,
              List.map_append]
        · right
          refine ⟨by simp only [follow, hpage, bind, Except.bind, hfollow], row, ?_, hunreadable⟩
          rw [habove] at hrow
          exact List.mem_of_mem_drop hrow
      · left
        rw [if_neg hfull] at hpage
        refine ⟨events, ?_, ?_⟩
        · have htake := hreads.length_eq
          rw [List.length_take] at htake
          rw [List.take_of_length_le (by omega)] at hreads
          exact hreads
        · simp only [follow, hpage, bind, Except.bind, pure, Except.pure]
    · right
      exact ⟨by simp only [follow, hpage, bind, Except.bind], hunreadable⟩

/-! Cursors under other filters. -/

theorem bar_mem_scope (filter : EventFilter) : '|' ∈ filter.scope.toList := by
  simp [EventFilter.scope, String.toList_append]

/-- A cursor that a page hands out stands for a last sequence at most at its mark. -/
theorem nextCursor_issued {cursor : Option String} {limit : Option Nat} {page : Page} {next : String}
    (hpage : eventPage F filter cursor limit db = .ok page) (hnext : page.nextCursor = some next) :
    ∃ last highWater, next = encodeCursor last highWater filter.scope ∧ last ≤ highWater ∧
      highWater ≤ db.lastSequence := by
  obtain ⟨⟨after, highWater⟩, hbounds, hpage⟩ := Fold.bind_eq_ok.mp hpage
  obtain ⟨rows, hrows, hpage⟩ := Fold.bind_eq_ok.mp hpage
  cases hpage
  have hread : readEvents F (filter.query after (limit.getD defaultPageLimit) highWater) db.events =
      .ok rows := by
    unfold guarded at hrows
    split at hrows <;> cases hrows
    assumption
  obtain ⟨_, hvalid, hmap⟩ := Fold.bind_eq_ok.mp hread
  have hsize := (ReadQuery.validate_ok.mp hvalid).2.1.1
  simp only [Option.ite_none_right_eq_some, Option.some.injEq] at hnext
  obtain ⟨hfull, rfl⟩ := hnext
  have hpositive : 1 ≤ rows.length := hfull ▸ hsize
  cases hlast : rows.getLast? with
  | none =>
    rw [List.getLast?_eq_none_iff.mp hlast, List.length_nil] at hpositive
    omega
  | some stored =>
    refine ⟨stored.sequence, highWater, rfl, ?_, bounds_highWater hbounds⟩
    obtain ⟨row, hrow, hstored⟩ :=
      Fold.exists_of_mem_right (Fold.mapM_eq_ok.mp hmap) (List.mem_of_getLast? hlast)
    have hselected := List.mem_of_mem_take hrow
    have hadmits : (filter.query after (limit.getD defaultPageLimit) highWater).admits row = true :=
      (List.mem_filter.mp (List.mem_filter.mp hselected).1).2
    simp only [ReadQuery.admits, EventFilter.query, Option.all_some, Bool.and_eq_true,
      decide_eq_true_eq] at hadmits
    rw [sequence_of_reads hstored]
    exact hadmits.1.2

/-- A cursor is refused under another filter if and only if the digests of the scopes differ. -/
theorem refused_iff {cursor : Option String} {limit limit' : Option Nat} {page : Page}
    {next : String} {other : EventFilter} (hpage : eventPage F filter cursor limit db = .ok page)
    (hnext : page.nextCursor = some next) (h : Extends F db later) :
    eventPage F other (some next) limit' later = .error invalidScope ↔
      Sha256.hexdigest filter.scope ≠ Sha256.hexdigest other.scope := by
  obtain ⟨last, highWater, rfl, hlast, hhighWater⟩ := nextCursor_issued hpage hnext
  have hbounds : bounds (some (encodeCursor last highWater filter.scope)) other.scope
      later.lastSequence = _ :=
    bounds_encodeCursor hlast (hhighWater.trans h.lastSequence_le)
      (hhighWater.trans db.lastSequence_le)
  have hother : Sha256.hexdigest filter.scope ≠ other.scope :=
    hexdigest_ne_of_bar (bar_mem_scope other)
  by_cases hsame : Sha256.hexdigest filter.scope = Sha256.hexdigest other.scope
  · rw [if_pos (Or.inr hsame)] at hbounds
    refine ⟨fun hrefused => ?_, fun hdiffer => absurd hsame hdiffer⟩
    simp only [eventPage, hbounds, bind, Except.bind] at hrefused
    exfalso
    cases hread : readEvents F (other.query last (limit'.getD defaultPageLimit) highWater)
        later.events with
    | ok rows =>
      rw [hread] at hrefused
      cases hrefused
    | error e =>
      rw [hread] at hrefused
      cases e <;> cases hrefused
  · rw [if_neg (not_or.mpr ⟨hother, hsame⟩)] at hbounds
    refine ⟨fun _ => hsame, fun _ => ?_⟩
    simp only [eventPage, hbounds, bind, Except.bind]

theorem above_zero : filter.above db 0 = filter.rows db := by
  refine List.filter_eq_self.mpr fun row _ => decide_eq_true ?_
  exact (inRange_iff.mp row.sequence.property).1

def typesFilter : EventFilter := ⟨"project", some ["note.recorded", "x|y"], none⟩

def runFilter : EventFilter := ⟨"project", some ["note.recorded", "x"], some "y|"⟩

theorem typesFilter_valid : typesFilter.Valid := by
  refine ⟨?_, ?_, ?_, ?_⟩ <;> decide

theorem trial_row {row : EventRow} {stored : StoredEvent} {appended : Database}
    (h : Appended JsonText.scientific (trialCall (.int 0)) trialStore row stored appended) :
    row.eventType = "note.recorded" ∧ row.projectId = "project" ∧ row.runId = none := by
  have hsequence : row.sequence = firstSequence := Subtype.ext h.sequence
  have hversion : row.streamVersion = ⟨0, by decide⟩ := Subtype.ext h.streamVersion
  obtain ⟨ms, hms, hvalid⟩ := h.document
  rw [hsequence, hversion] at hvalid
  have hnames : ((draftMembers trialDraft.val).toOption.bind fun ms =>
      (validateEventDocument (.obj (assigned ms firstSequence ⟨0, by decide⟩))).map fun event =>
        (event.type.val, event.data.projectId.val, event.data.runId.map Subtype.val)) =
      some ("note.recorded", "project", none) := by
    decide +kernel
  have hdraft : draftMembers trialDraft.val = .ok ms := hms
  rw [hdraft, Except.toOption, Option.bind_some, hvalid, Option.map_some, Option.some.injEq,
    Prod.mk.injEq, Prod.mk.injEq] at hnames
  have hcolumns := columns_of_reads h.reads
  simp only [EventRow.indexColumns, expectedColumns, List.cons.injEq, Prod.mk.injEq,
    Column.text.injEq, Option.some.injEq, true_and] at hcolumns
  obtain ⟨-, -, -, -, htype, -, hproject, hrun, -⟩ := hcolumns
  exact ⟨htype.trans hnames.1, hproject.trans hnames.2.1, hrun.trans hnames.2.2⟩

end ResearchOs.Web
