import ResearchOs.Core.Storage.Read
import ResearchOs.Core.Storage.Trust

/-! `replay_events`: pages of a store that others append to, up to a frozen high-water mark. -/
namespace ResearchOs.Projections

open JsonText (FloatText)
open Storage

/-- How an iteration ends; `unfinished` is a bound on its pages that was too small. -/
inductive Ending where
  | complete
  | raised (error : StoreError)
  | unfinished
  deriving DecidableEq, Repr

/-- The events that an iteration yields before it ends. -/
structure Trace where
  events : List StoredEvent
  ending : Ending

inductive PageEnd where
  | more (current : Nat)
  | returned
  | raised (error : StoreError)

def notContiguous (expected : Nat) (found : String) : StoreError :=
  .integrity ("global event sequence is not contiguous: expected " ++ toString expected ++
    ", found " ++ found)

/-- The events of one page; `expected` is always one above `current`. -/
def yieldPage (untilSequence : Option Nat) : Nat → List StoredEvent → List StoredEvent × PageEnd
  | current, [] => ([], .more current)
  | current, stored :: page =>
    if untilSequence.any (· < stored.sequence) then
      if untilSequence.any (current + 1 ≤ ·) then
        ([], .raised (notContiguous (current + 1) (toString stored.sequence)))
      else ([], .returned)
    else if stored.sequence < current + 1 then
      ([], .raised (.integrity ("global event sequence is out of order: expected " ++
        toString (current + 1) ++ ", found " ++ toString stored.sequence)))
    else if current + 1 < stored.sequence then
      ([], .raised (notContiguous (current + 1) (toString stored.sequence)))
    else
      let rest := yieldPage untilSequence stored.sequence page
      (stored :: rest.1, rest.2)

/-- A page, and what the pages after it yield. -/
def yieldAll (later : Nat → Trace) : List StoredEvent × PageEnd → Trace
  | (events, .more next) => ⟨events ++ (later next).events, (later next).ending⟩
  | (events, .returned) => ⟨events, .complete⟩
  | (events, .raised e) => ⟨events, .raised e⟩

def pageQuery (current pageSize : Nat) : ReadQuery :=
  ⟨current, pageSize, none, none, none, none, none, false⟩

/-- `_iter_stored_events`; the k-th page is read from the k-th store. -/
def iterStoredEvents (F : FloatText) (untilSequence : Option Nat) (pageSize : Nat)
    (stores : Nat → Database) : Nat → Nat → Nat → Trace
  | 0, _, _ => ⟨[], .unfinished⟩
  | fuel + 1, k, current =>
    if untilSequence.any (· ≤ current) then ⟨[], .complete⟩
    else
      match readEvents F (pageQuery current pageSize) (stores k).events with
      | .error e => ⟨[], .raised e⟩
      | .ok [] =>
        if untilSequence.any (current + 1 ≤ ·) then
          ⟨[], .raised (notContiguous (current + 1)
            ("none at or below " ++ toString (untilSequence.getD 0)))⟩
        else ⟨[], .complete⟩
      | .ok page =>
        yieldAll (iterStoredEvents F untilSequence pageSize stores fuel (k + 1))
          (yieldPage untilSequence current page)

/-- The stores that the pages see: each is the one before it after some appends. -/
def grown (F : FloatText) (db : Database) (calls : Nat → List AppendCall) : Nat → Database
  | 0 => (appendStore F).run db (calls 0)
  | k + 1 => (appendStore F).run (grown F db calls k) (calls (k + 1))

/-- `_require_replay_bounds` -/
def requireReplayBounds (afterSequence pageSize : Nat) : Except StoreError Unit := do
  requireValue (afterSequence ≤ cloudEventsIntegerMax)
    "after_sequence is outside the supported sequence range"
  requireValue (1 ≤ pageSize ∧ pageSize ≤ maxReadPageSize) "page_size must be an integer in 1..1000"

/-- `replay_events` under a frozen high-water mark; `calls k` is appended before the k-th page. -/
def replayEvents (F : FloatText) (verify : VerifyCall) (db : Database)
    (calls : Nat → List AppendCall) (afterSequence pageSize : Nat) : Trace :=
  match requireReplayBounds afterSequence pageSize with
  | .error e => ⟨[], .raised e⟩
  | .ok () =>
    match (freezeHighWater F verify).exec db with
    | (.error e, _) => ⟨[], .raised e⟩
    | (.ok untilSequence, frozen) =>
      -- Every page moves the position on, so that this many pages are enough.
      iterStoredEvents F (some untilSequence) pageSize (grown F frozen calls) (untilSequence + 1) 0
        afterSequence

/-! One page. -/

/-- Events that follow a position without a gap. -/
def Follows (current : Nat) (events : List StoredEvent) : Prop :=
  events.map StoredEvent.sequence = List.range' (current + 1) events.length

theorem follows_cons {current : Nat} {stored : StoredEvent} {events : List StoredEvent} :
    Follows current (stored :: events) ↔
      stored.sequence = current + 1 ∧ Follows (current + 1) events := by
  simp [Follows, List.range'_succ]

/-- How far a page is yielded, and why no further. -/
structure PageYield (highWater current : Nat) (page : List StoredEvent) (n : Nat)
    (result : List StoredEvent × PageEnd) : Prop where
  events : result.1 = page.take n
  follows : Follows current (page.take n)
  bounded : ∀ stored ∈ page.take n, stored.sequence ≤ highWater
  ending : (n = page.length ∧ result.2 = .more (current + n)) ∨
    ∃ stored, page[n]? = some stored ∧
      ((result.2 = .returned ∧ highWater < stored.sequence ∧ highWater ≤ current + n) ∨
        ∃ message, result.2 = .raised (.integrity message) ∧
          current + n + 1 < stored.sequence ∧ current + n + 1 ≤ highWater)

theorem yieldPage_yield (highWater : Nat) {current : Nat} {page : List StoredEvent}
    (hascending : Ascending.Keyed StoredEvent.sequence page)
    (habove : ∀ stored ∈ page, current < stored.sequence) :
    ∃ n, PageYield highWater current page n (yieldPage (some highWater) current page) := by
  induction page generalizing current with
  | nil => exact ⟨0, rfl, rfl, by simp, Or.inl ⟨rfl, rfl⟩⟩
  | cons stored page ih =>
    obtain ⟨hhead, htail⟩ := List.pairwise_cons.mp hascending
    have hstored := habove stored List.mem_cons_self
    by_cases hover : highWater < stored.sequence
    · refine ⟨0, ?_⟩
      by_cases hmissing : current + 1 ≤ highWater
      · have hresult : yieldPage (some highWater) current (stored :: page) =
            ([], .raised (notContiguous (current + 1) (toString stored.sequence))) := by
          simp [yieldPage, hover]
          omega
        rw [hresult]
        refine ⟨rfl, rfl, by simp, Or.inr ⟨stored, rfl, Or.inr ⟨_, rfl, ?_, hmissing⟩⟩⟩
        omega
      · have hresult : yieldPage (some highWater) current (stored :: page) = ([], .returned) := by
          simp [yieldPage, hover]
          omega
        rw [hresult]
        refine ⟨rfl, rfl, by simp, Or.inr ⟨stored, rfl, Or.inl ⟨rfl, hover, ?_⟩⟩⟩
        omega
    · by_cases hgap : current + 1 < stored.sequence
      · have hresult : yieldPage (some highWater) current (stored :: page) =
            ([], .raised (notContiguous (current + 1) (toString stored.sequence))) := by
          have horder : ¬ stored.sequence < current + 1 := by omega
          simp [yieldPage, hover, hgap, horder]
        rw [hresult]
        refine ⟨0, rfl, rfl, by simp, Or.inr ⟨stored, rfl, Or.inr ⟨_, rfl, hgap, ?_⟩⟩⟩
        omega
      · have hnext : stored.sequence = current + 1 := by omega
        obtain ⟨n, hyield⟩ := ih htail fun later hlater => hhead later hlater
        have hresult : yieldPage (some highWater) current (stored :: page) =
            (stored :: (yieldPage (some highWater) stored.sequence page).1,
              (yieldPage (some highWater) stored.sequence page).2) := by
          have horder : ¬ stored.sequence < current + 1 := by omega
          simp [yieldPage, hover, hgap, horder]
        rw [hresult]
        have hshift : stored.sequence + n = current + (n + 1) := by omega
        refine ⟨n + 1, ?_, ?_, ?_, ?_⟩
        · rw [List.take_succ_cons, ← hyield.events]
        · rw [List.take_succ_cons, follows_cons, ← hnext]
          exact ⟨rfl, hyield.follows⟩
        · intro later hlater
          obtain rfl | hlater := List.mem_cons.mp hlater
          · omega
          · exact hyield.bounded later hlater
        · have hending := hyield.ending
          rw [hshift] at hending
          obtain ⟨hall, hmore⟩ | hstops := hending
          · exact Or.inl ⟨by rw [hall, List.length_cons], hmore⟩
          · exact Or.inr hstops

/-! The pages over the frozen rows. -/

variable {F : FloatText} {rows : List EventRow} {highWater current pageSize : Nat}

def ReadsAs (F : FloatText) (row : EventRow) (stored : StoredEvent) : Prop :=
  storedEventFromRow F row = .ok stored

/-- The rows above a position. -/
def above (current : Nat) (rows : List EventRow) : List EventRow :=
  rows.filter fun row => current < row.sequence.val

/-- The rows above a position up to the high-water mark all read back, without a gap. -/
structure Intact (F : FloatText) (rows : List EventRow) (highWater current : Nat)
    (events : List StoredEvent) : Prop where
  reads : List.Forall₂ (ReadsAs F) (above current rows) events
  follows : Follows current events
  length : events.length = highWater - current

/-- What an iteration over the rows yields, whatever its pages are. -/
structure Broken (F : FloatText) (rows : List EventRow) (highWater current : Nat) (trace : Trace) :
    Prop where
  ending : ∃ message, trace.ending = .raised (.integrity message)
  notIntact : ∀ events, ¬ Intact F rows highWater current events
  reads : ∃ n, List.Forall₂ (ReadsAs F) ((above current rows).take n) trace.events
  follows : Follows current trace.events

def Outcome (F : FloatText) (rows : List EventRow) (highWater current : Nat) (trace : Trace) : Prop :=
  (∃ events, Intact F rows highWater current events ∧ trace = ⟨events, .complete⟩) ∨
    Broken F rows highWater current trace

theorem follows_append {xs ys : List StoredEvent} (h : Follows current xs) :
    Follows current (xs ++ ys) ↔ Follows (current + xs.length) ys := by
  unfold Follows at *
  have hsplit : List.range' (current + 1) (xs ++ ys).length =
      List.range' (current + 1) xs.length ++
        List.range' (current + xs.length + 1) ys.length := by
    rw [List.length_append, ← List.range'_append_1]
    congr 2
    omega
  rw [hsplit, List.map_append, h, List.append_cancel_left_eq]

theorem sequence_of_follows {xs : List StoredEvent} {stored : StoredEvent} {n : Nat}
    (h : Follows current xs) (hn : xs[n]? = some stored) : stored.sequence = current + 1 + n := by
  have hmap : (xs.map StoredEvent.sequence)[n]? = some stored.sequence := by
    rw [List.getElem?_map, hn, Option.map_some]
  rw [h] at hmap
  have hlength : n < xs.length := (List.getElem?_eq_some_iff.mp hn).1
  rw [List.getElem?_range' hlength] at hmap
  have := Option.some.inj hmap
  omega

/-- The frozen rows, what was appended above them, and one page of both that was read. -/
structure PageRead (F : FloatText) (rows rest : List EventRow) (highWater current pageSize : Nat)
    (page : List StoredEvent) : Prop where
  ascending : Ascending.Keyed (fun row => row.sequence.val) rows
  below : ∀ row ∈ rows, row.sequence.val ≤ highWater
  beyond : ∀ row ∈ rest, highWater < row.sequence.val
  reads : List.Forall₂ (ReadsAs F) (((above current rows) ++ rest).take pageSize) page

namespace PageRead

variable {rest : List EventRow} {page : List StoredEvent}

theorem row_of_index (h : PageRead F rows rest highWater current pageSize page) {n : Nat}
    {stored : StoredEvent} (hn : page[n]? = some stored) :
    ∃ row, ((above current rows) ++ rest)[n]? = some row ∧ ReadsAs F row stored := by
  have hlength : n < page.length := (List.getElem?_eq_some_iff.mp hn).1
  have hrows : n < (((above current rows) ++ rest).take pageSize).length := by
    rw [h.reads.length_eq]
    exact hlength
  have hread := List.forall₂_iff_get.mp h.reads |>.2 n hrows hlength
  refine ⟨(((above current rows) ++ rest).take pageSize)[n], ?_, ?_⟩
  · have hsize : n < pageSize := by
      rw [List.length_take] at hrows
      omega
    rw [← List.getElem?_take_of_lt hsize]
    exact List.getElem?_eq_getElem hrows
  · obtain ⟨_, hstored⟩ := List.getElem?_eq_some_iff.mp hn
    rw [← hstored]
    exact hread

/-- Events at most at the high-water mark come from the frozen rows. -/
theorem take_bounded (h : PageRead F rows rest highWater current pageSize page) {n : Nat}
    (hlength : n ≤ page.length) (hbounded : ∀ stored ∈ page.take n, stored.sequence ≤ highWater) :
    n ≤ (above current rows).length ∧
      List.Forall₂ (ReadsAs F) ((above current rows).take n) (page.take n) := by
  have hle : n ≤ (above current rows).length := by
    by_contra hover
    have hindex : (above current rows).length < page.length := by omega
    obtain ⟨row, hrow, hread⟩ := h.row_of_index (List.getElem?_eq_getElem hindex)
    rw [List.getElem?_append_right (le_refl _), Nat.sub_self] at hrow
    have hsequence := h.beyond row (List.mem_of_getElem? hrow)
    rw [← sequence_of_reads hread] at hsequence
    have hmem : page[(above current rows).length] ∈ page.take n := by
      refine List.mem_of_getElem? (i := (above current rows).length) ?_
      rw [List.getElem?_take_of_lt (by omega)]
      exact List.getElem?_eq_getElem hindex
    have := hbounded _ hmem
    omega
  refine ⟨hle, ?_⟩
  have htake := List.forall₂_take n h.reads
  rw [List.take_take] at htake
  have hsize : min n pageSize = n := by
    have hpage := h.reads.length_eq
    rw [List.length_take] at hpage
    omega
  rw [hsize, List.take_append_of_le_length hle] at htake
  exact htake

/-- A page that was yielded whole leaves the rows above its last event. -/
theorem above_of_take (h : PageRead F rows rest highWater current pageSize page) {n : Nat}
    (hn : n ≤ (above current rows).length) (hfollows : Follows current (page.take n))
    (hreads : List.Forall₂ (ReadsAs F) ((above current rows).take n) (page.take n)) :
    above (current + n) rows = (above current rows).drop n := by
  obtain rfl | hpositive := Nat.eq_zero_or_pos n
  · rfl
  · have htaken : ((above current rows).take n).length = n := by
      rw [List.length_take]
      omega
    obtain ⟨last, hlast⟩ : ∃ last, ((above current rows).take n).getLast? = some last := by
      cases hgetLast : ((above current rows).take n).getLast? with
      | none =>
        rw [List.getLast?_eq_none_iff.mp hgetLast, List.length_nil] at htaken
        omega
      | some last => exact ⟨last, rfl⟩
    have hsequence : last.sequence.val = current + n := by
      obtain ⟨m, rfl⟩ : ∃ m, n = m + 1 := ⟨n - 1, by omega⟩
      have hmaps : ((above current rows).take (m + 1)).map (fun row => row.sequence.val) =
          (page.take (m + 1)).map StoredEvent.sequence :=
        Fold.map_eq_map_of_forall₂ hreads fun _ _ hread => (sequence_of_reads hread).symm
      rw [hfollows, ← hreads.length_eq, htaken, List.range'_1_concat] at hmaps
      have hends := congrArg List.getLast? hmaps
      rw [List.getLast?_map, hlast, List.getLast?_concat] at hends
      have hlastSequence : last.sequence.val = current + 1 + m := Option.some.inj hends
      omega
    rw [← hsequence]
    exact Ascending.filter_after_page h.ascending hlast

end PageRead

theorem readsAs_unique {row : EventRow} {stored stored' : StoredEvent} (h : ReadsAs F row stored)
    (h' : ReadsAs F row stored') : stored = stored' := by
  rw [ReadsAs, h] at h'
  exact Except.ok.inj h'

namespace Intact

variable {events : List StoredEvent}

/-- The rows above a later position are intact too. -/
theorem drop (h : Intact F rows highWater current events) {n : Nat}
    (habove : above (current + n) rows = (above current rows).drop n) :
    Intact F rows highWater (current + n) (events.drop n) := by
  refine ⟨?_, ?_, ?_⟩
  · rw [habove]
    exact List.forall₂_drop n h.reads
  · have hfollows := h.follows
    unfold Follows at *
    rw [List.map_drop, hfollows, List.drop_range', List.length_drop]
    congr 1
    omega
  · rw [List.length_drop, h.length]
    omega

/-- The rows of a page before intact rows above it. -/
theorem append {page : List StoredEvent} {n : Nat} (hlength : page.length = n)
    (hreads : List.Forall₂ (ReadsAs F) ((above current rows).take n) page)
    (hfollows : Follows current page) (hle : current + n ≤ highWater)
    (habove : above (current + n) rows = (above current rows).drop n)
    (h : Intact F rows highWater (current + n) events) :
    Intact F rows highWater current (page ++ events) := by
  refine ⟨?_, ?_, ?_⟩
  · rw [← List.take_append_drop n (above current rows), ← habove]
    exact List.rel_append hreads h.reads
  · rw [follows_append hfollows, hlength]
    exact h.follows
  · rw [List.length_append, hlength, h.length]
    omega

end Intact

/-! The whole iteration. -/

/-- The k-th page is read from the frozen rows and readable rows above the mark. -/
def Frozen (F : FloatText) (rows : List EventRow) (highWater : Nat) (stores : Nat → Database) :
    Prop :=
  ∀ k, ∃ rest, (stores k).events.rows = rows ++ rest ∧ (∀ row ∈ rest, Readable F row) ∧
    ∀ row ∈ rest, highWater < row.sequence.val

theorem select_pageQuery {rest : List EventRow} (hover : ∀ row ∈ rest, highWater < row.sequence.val)
    (hcurrent : current ≤ highWater) :
    (pageQuery current pageSize).select (rows ++ rest) = above current rows ++ rest := by
  have hadmits : (pageQuery current pageSize).admits = fun _ => true := rfl
  have hrest : rest.filter (fun row => current < row.sequence.val) = rest := by
    refine List.filter_eq_self.mpr fun row hrow => decide_eq_true ?_
    have := hover row hrow
    omega
  simp only [ReadQuery.select, hadmits, List.filter_true, List.filter_append]
  exact congrArg (above current rows ++ ·) hrest

theorem validate_pageQuery (hcurrent : current ≤ cloudEventsIntegerMax)
    (hsize : 1 ≤ pageSize ∧ pageSize ≤ maxReadPageSize) :
    (pageQuery current pageSize).validate = .ok () := by
  refine ReadQuery.validate_ok.mpr ⟨hcurrent, hsize, rfl, ?_, ?_, rfl, rfl, rfl⟩
  · simp [pageQuery]
  · simp [pageQuery]

theorem Intact.readable {events : List StoredEvent} (h : Intact F rows highWater current events) :
    ∀ row ∈ above current rows, Readable F row := by
  intro row hrow
  obtain ⟨stored, -, hread⟩ := Fold.exists_of_mem_right h.reads.flip hrow
  exact ⟨stored, hread⟩

theorem above_eq_nil (hbelow : ∀ row ∈ rows, row.sequence.val ≤ highWater)
    (hcurrent : highWater ≤ current) : above current rows = [] := by
  refine List.filter_eq_nil_iff.mpr fun row hrow hlt => ?_
  have hle := hbelow row hrow
  have hlt : current < row.sequence.val := of_decide_eq_true hlt
  omega

/-- A page that was read, or a row among the frozen ones that does not read. -/
theorem readEvents_pageQuery {rest : List EventRow} {events : EventsTable}
    (hrows : events.rows = rows ++ rest) (hreadable : ∀ row ∈ rest, Readable F row)
    (hover : ∀ row ∈ rest, highWater < row.sequence.val) (hcurrent : current ≤ highWater)
    (hmax : current ≤ cloudEventsIntegerMax)
    (hsize : 1 ≤ pageSize ∧ pageSize ≤ maxReadPageSize) :
    (∃ page, readEvents F (pageQuery current pageSize) events = .ok page ∧
      List.Forall₂ (ReadsAs F) ((above current rows ++ rest).take pageSize) page) ∨
    (∃ message, readEvents F (pageQuery current pageSize) events = .error (.integrity message)) ∧
      ∃ row ∈ above current rows, ¬ Readable F row := by
  have hread : readEvents F (pageQuery current pageSize) events =
      ((above current rows ++ rest).take pageSize).mapM (storedEventFromRow F) := by
    rw [readEvents, validate_pageQuery hmax hsize, hrows, select_pageQuery hover hcurrent]
    rfl
  rw [hread]
  cases hpage : ((above current rows ++ rest).take pageSize).mapM (storedEventFromRow F) with
  | ok page => exact Or.inl ⟨page, rfl, Fold.mapM_eq_ok.mp hpage⟩
  | error e =>
    right
    obtain ⟨row, hrow, hfails⟩ := Fold.mapM_eq_error hpage
    obtain ⟨message, rfl⟩ := integrity_of_storedEventFromRow hfails
    have hunreadable : ¬ Readable F row := by
      rintro ⟨stored, hstored⟩
      rw [hfails] at hstored
      cases hstored
    refine ⟨⟨message, rfl⟩, row, ?_, hunreadable⟩
    obtain hrow | hrow := List.mem_append.mp (List.mem_of_mem_take hrow)
    · exact hrow
    · exact absurd (hreadable row hrow) hunreadable

namespace PageRead

variable {rest : List EventRow} {page : List StoredEvent} {n : Nat}

theorem ascends (h : PageRead F rows rest highWater current pageSize page)
    (hrows : Ascending.Keyed (fun row : EventRow => row.sequence.val) (above current rows ++ rest)) :
    Ascending.Keyed StoredEvent.sequence page := by
  have hmaps := Fold.map_eq_map_of_forall₂ h.reads (f := fun row => row.sequence.val)
    (g := StoredEvent.sequence) fun _ _ hread => (sequence_of_reads hread).symm
  have htake : Ascending.Keyed (fun row : EventRow => row.sequence.val)
      ((above current rows ++ rest).take pageSize) := List.Pairwise.sublist (List.take_sublist _ _) hrows
  rw [Ascending.Keyed, ← List.pairwise_map, hmaps, List.pairwise_map] at htake
  exact htake

theorem over_current (h : PageRead F rows rest highWater current pageSize page)
    (hcurrent : current ≤ highWater) : ∀ stored ∈ page, current < stored.sequence := by
  intro stored hstored
  obtain ⟨row, hrow, hread⟩ := Fold.exists_of_mem_right h.reads hstored
  rw [sequence_of_reads hread]
  obtain hrow | hrow := List.mem_append.mp (List.mem_of_mem_take hrow)
  · exact of_decide_eq_true (List.mem_filter.mp hrow).2
  · have := h.beyond row hrow
    omega

/-- A page that stops above the mark has yielded the whole of the frozen rows. -/
theorem intact_of_returned (h : PageRead F rows rest highWater current pageSize page)
    {stored : StoredEvent} (hstored : page[n]? = some stored) (hover : highWater < stored.sequence)
    (hn : n ≤ (above current rows).length) (hmark : highWater = current + n)
    (hreads : List.Forall₂ (ReadsAs F) ((above current rows).take n) (page.take n))
    (hfollows : Follows current (page.take n)) :
    Intact F rows highWater current (page.take n) := by
  have hlength : (above current rows).length = n := by
    by_contra hmore
    have hindex : n < (above current rows).length := by omega
    obtain ⟨row, hrow, hread⟩ := h.row_of_index hstored
    rw [List.getElem?_append_left hindex] at hrow
    have hbelow := h.below row (List.mem_filter.mp (List.mem_of_getElem? hrow)).1
    rw [sequence_of_reads hread] at hover
    omega
  refine ⟨?_, hfollows, ?_⟩
  · rw [List.take_of_length_le (le_of_eq hlength)] at hreads
    exact hreads
  · rw [← hreads.length_eq, List.length_take]
    omega

/-- A gap before the mark is a gap of the frozen rows. -/
theorem not_intact_of_gap (h : PageRead F rows rest highWater current pageSize page)
    {stored : StoredEvent} (hstored : page[n]? = some stored)
    (hgap : current + n + 1 < stored.sequence) (hmark : current + n + 1 ≤ highWater)
    (events : List StoredEvent) : ¬ Intact F rows highWater current events := by
  intro hintact
  have hcount := hintact.reads.length_eq
  have hlength := hintact.length
  have hevent : n < events.length := by omega
  have hindex : n < (above current rows).length := by omega
  obtain ⟨row, hrow, hread⟩ := h.row_of_index hstored
  rw [List.getElem?_append_left hindex] at hrow
  have hsame : ReadsAs F row events[n] := by
    have hget := (List.forall₂_iff_get.mp hintact.reads).2 n hindex hevent
    obtain ⟨_, hrow⟩ := List.getElem?_eq_some_iff.mp hrow
    rw [← hrow]
    exact hget
  have hsequence := sequence_of_follows hintact.follows (List.getElem?_eq_getElem hevent)
  rw [readsAs_unique hsame hread] at hsequence
  omega

end PageRead

/-- What follows a page that was yielded as far as `n`. -/
theorem outcome_of_page {rest : List EventRow} {page : List StoredEvent} {n : Nat}
    {result : List StoredEvent × PageEnd} {later : Nat → Trace} (hcurrent : current < highWater)
    (hnonempty : page ≠ []) (hread : PageRead F rows rest highWater current pageSize page)
    (hyield : PageYield highWater current page n result)
    (hlater : ∀ next, current < next → Outcome F rows highWater next (later next)) :
    Outcome F rows highWater current (yieldAll later result) := by
  obtain ⟨events, ending⟩ := result
  obtain ⟨hevents, hfollows, hbounded, hending⟩ := hyield
  cases hevents
  simp only at hfollows hbounded hending
  have hlength : n ≤ page.length := by
    obtain ⟨hall, -⟩ | ⟨stored, hstored, -⟩ := hending
    · exact le_of_eq hall
    · exact le_of_lt (List.getElem?_eq_some_iff.mp hstored).1
  have htaken : (page.take n).length = n := List.length_take_of_le hlength
  obtain ⟨hn, hreads⟩ := hread.take_bounded hlength hbounded
  have hmark : current + n ≤ highWater := by
    obtain rfl | hpositive := Nat.eq_zero_or_pos n
    · omega
    · have hlast : (page.take n)[n - 1]? = some (page.take n)[n - 1] :=
        List.getElem?_eq_getElem (by omega)
      have hsequence := sequence_of_follows hfollows hlast
      have hbound := hbounded _ (List.mem_of_getElem? hlast)
      omega
  obtain ⟨hall, rfl⟩ | ⟨stored, hstored, ⟨rfl, hover, hreached⟩ | ⟨message, rfl, hgap, hbefore⟩⟩ :=
    hending
  · have habove := hread.above_of_take hn hfollows hreads
    have hpositive : 0 < page.length := List.length_pos_iff.mpr hnonempty
    obtain ⟨events, hintact, htrace⟩ | hbroken := hlater (current + n) (by omega)
    · refine Or.inl ⟨page.take n ++ events, ?_, ?_⟩
      · exact hintact.append htaken hreads hfollows hmark habove
      · rw [yieldAll, htrace]
    · obtain ⟨m, hrest⟩ := hbroken.reads
      refine Or.inr ⟨hbroken.ending, fun events hintact => ?_, ⟨n + m, ?_⟩, ?_⟩
      · exact hbroken.notIntact _ (hintact.drop habove)
      · rw [List.take_add, ← habove]
        exact List.rel_append hreads hrest
      · rw [yieldAll, follows_append hfollows, htaken]
        exact hbroken.follows
  · have hhighWater : highWater = current + n := by omega
    exact Or.inl ⟨_, hread.intact_of_returned hstored hover hn hhighWater hreads hfollows, rfl⟩
  · refine Or.inr ⟨⟨message, rfl⟩, ?_, ⟨n, hreads⟩, hfollows⟩
    exact hread.not_intact_of_gap hstored hgap hbefore

/-- One page after another yields the frozen rows, or stops at what is wrong with them. -/
theorem iter_outcome {stores : Nat → Database} {fuel k : Nat}
    (hascending : Ascending.Keyed (fun row => row.sequence.val) rows)
    (hbelow : ∀ row ∈ rows, row.sequence.val ≤ highWater)
    (hmax : highWater ≤ cloudEventsIntegerMax)
    (hsize : 1 ≤ pageSize ∧ pageSize ≤ maxReadPageSize) (hstores : Frozen F rows highWater stores)
    (hfuel : highWater - current < fuel) :
    Outcome F rows highWater current
      (iterStoredEvents F (some highWater) pageSize stores fuel k current) := by
  induction fuel generalizing k current with
  | zero => omega
  | succ fuel ih =>
    by_cases hdone : highWater ≤ current
    · have hresult : iterStoredEvents F (some highWater) pageSize stores (fuel + 1) k current =
          ⟨[], .complete⟩ := by simp [iterStoredEvents, hdone]
      have hnone := above_eq_nil hbelow hdone
      refine Or.inl ⟨[], ⟨?_, rfl, ?_⟩, hresult⟩
      · rw [hnone]
        exact .nil
      · rw [List.length_nil]
        omega
    · obtain ⟨rest, hrows, hreadable, hover⟩ := hstores k
      have hcurrent : current ≤ highWater := by omega
      obtain ⟨page, hpage, hreads⟩ | ⟨⟨message, hpage⟩, row, hrow, hunreadable⟩ :=
        readEvents_pageQuery (F := F) hrows hreadable hover hcurrent (hcurrent.trans hmax) hsize
      · have hread : PageRead F rows rest highWater current pageSize page :=
          ⟨hascending, hbelow, hover, hreads⟩
        have hsorted : Ascending.Keyed (fun row : EventRow => row.sequence.val)
            (above current rows ++ rest) := by
          have hall := (stores k).events.ascending
          rw [hrows] at hall
          exact List.Pairwise.sublist (List.Sublist.append_right List.filter_sublist rest) hall
        rcases hitems : page with _ | ⟨first, later⟩
        · -- Nothing at all is left above the position.
          have hempty : ∀ events, ¬ Intact F rows highWater current events := by
            intro events hintact
            have hlength := hreads.length_eq
            rw [hitems, List.length_nil, List.length_take, List.length_append] at hlength
            have hcount := hintact.reads.length_eq
            have hevents := hintact.length
            omega
          have hmissing : current + 1 ≤ highWater := by omega
          have hresult : iterStoredEvents F (some highWater) pageSize stores (fuel + 1) k current =
              ⟨[], .raised (notContiguous (current + 1) ("none at or below " ++
                toString highWater))⟩ := by
            simp [iterStoredEvents, hdone, hpage, hitems, hmissing]
          rw [hresult]
          exact Or.inr ⟨⟨_, rfl⟩, hempty, ⟨0, .nil⟩, rfl⟩
        · obtain ⟨n, hyield⟩ := yieldPage_yield highWater (hread.ascends hsorted)
            (hread.over_current hcurrent)
          have hresult : iterStoredEvents F (some highWater) pageSize stores (fuel + 1) k current =
              yieldAll (iterStoredEvents F (some highWater) pageSize stores fuel (k + 1))
                (yieldPage (some highWater) current page) := by
            simp [iterStoredEvents, hdone, hpage, hitems]
          rw [hresult]
          refine outcome_of_page (by omega) (by simp [hitems]) hread hyield fun next hnext => ?_
          exact ih (by omega)
      · have hresult : iterStoredEvents F (some highWater) pageSize stores (fuel + 1) k current =
            ⟨[], .raised (.integrity message)⟩ := by simp [iterStoredEvents, hdone, hpage]
        rw [hresult]
        refine Or.inr ⟨⟨message, rfl⟩, fun events hintact => ?_, ⟨0, .nil⟩, rfl⟩
        exact hunreadable (hintact.readable row hrow)

/-! The mark, and the stores that the pages see. -/

variable {db : Database} {verify : VerifyCall} {calls : Nat → List AppendCall}
  {afterSequence : Nat}

theorem grown_extends (k : Nat) : Extends F db (grown F db calls k) := by
  induction k with
  | zero => exact run_extends db (calls 0)
  | succ k ih => exact ih.trans (run_extends _ (calls (k + 1)))

theorem frozen_grown : Frozen F db.events.rows db.lastSequence (grown F db calls) :=
  fun k => (grown_extends (F := F) k).above

theorem integrity_of_scanRows {e : StoreError} {start : Scan}
    (h : rows.foldlM (Scan.step F) start = .error e) : ∃ message, e = .integrity message := by
  induction rows generalizing start with
  | nil => cases h
  | cons row rows ih =>
    rw [List.foldlM_cons, Fold.bind_eq_error] at h
    obtain hstep | ⟨next, -, hrest⟩ := h
    · obtain hread | ⟨stored, -, hcheck⟩ := Fold.bind_eq_error.mp hstep
      · exact integrity_of_storedEventFromRow hread
      · split_ifs at hcheck <;> cases hcheck
        exact ⟨_, rfl⟩
    · exact ih hrest

theorem integrity_of_liveHead {e : StoreError} (h : liveHeadFingerprint db = .error e) :
    ∃ message, e = .integrity message := by
  unfold liveHeadFingerprint at h
  dsimp only at h
  split_ifs at h
  split at h <;> cases h
  exact ⟨_, rfl⟩

theorem freezeHighWater_undisturbed (hverify : verify.Undisturbed) (db : Database) :
    (∃ message frozen, (freezeHighWater F verify).exec db = (.error (.integrity message), frozen)) ∨
      ∃ frozen, (freezeHighWater F verify).exec db = (.ok db.lastSequence, frozen) ∧
        frozen.events = db.events := by
  cases hlive : liveHeadFingerprint db with
  | error e =>
    left
    obtain ⟨message, rfl⟩ := integrity_of_liveHead hlive
    refine ⟨message, db, ?_⟩
    simp [freezeHighWater, Transaction.exec_bind, hverify.faults, raised, readFault, hlive]
  | ok live =>
    by_cases hcached : readCheckpoint db = some live
    · right
      refine ⟨db, freezeHighWater_of_matches hverify.faults ?_, rfl⟩
      exact checkpointMatches_iff.mpr ⟨live, hlive, hcached⟩
    · have hexec : (freezeHighWater F verify).exec db = (verifyIntegrity F verify).exec db := by
        simp [freezeHighWater, Transaction.exec_bind, hverify.faults, raised, readFault, hlive,
          hcached]
      rw [hexec]
      cases hscan : scanRows F db.events.rows with
      | ok scan =>
        right
        have hresult := verifyIntegrity_of_scan hverify hscan
        rcases hfreeze : (verifyIntegrity F verify).exec db with ⟨result, frozen⟩
        rw [hfreeze] at hresult
        cases hresult
        refine ⟨frozen, ?_, (verifyIntegrity_ok hfreeze).2⟩
        rw [Verified.lastSequence hscan]
      | error e =>
        left
        obtain ⟨message, rfl⟩ := integrity_of_scanRows hscan
        refine ⟨message, db, ?_⟩
        simp [verifyIntegrity, Transaction.exec_bind, hverify.faults, raised, hscan]

/-- A frozen mark is the last sequence of the rows, which stay as they are. -/
theorem freezeHighWater_ok {frozen : Database} {untilSequence : Nat}
    (h : (freezeHighWater F verify).exec db = (.ok untilSequence, frozen)) :
    untilSequence = db.lastSequence ∧ frozen.events = db.events := by
  obtain ⟨e, hexec⟩ | ⟨-, hexec⟩ | ⟨-, hexec⟩ := freezeHighWater_cases F verify db
  · rw [hexec] at h
    cases h
  · rw [hexec] at h
    cases h
    exact ⟨rfl, rfl⟩
  · rw [hexec] at h
    obtain ⟨⟨scan, hscan, rfl⟩, hevents⟩ := verifyIntegrity_ok h
    exact ⟨(Verified.lastSequence hscan).symm, hevents⟩

/-- A replay is what its rows make of it, unless the mark itself fails to freeze. -/
theorem replay_outcome (verify : VerifyCall) (db : Database) (afterSequence : Nat) :
    (∃ error, (verify.Undisturbed → ∃ message, error = .integrity message) ∧
      ∀ calls pageSize, requireReplayBounds afterSequence pageSize = .ok () →
        replayEvents F verify db calls afterSequence pageSize = ⟨[], .raised error⟩) ∨
      ∀ calls pageSize, requireReplayBounds afterSequence pageSize = .ok () →
        Outcome F db.events.rows db.lastSequence afterSequence
          (replayEvents F verify db calls afterSequence pageSize) := by
  rcases hfreeze : (freezeHighWater F verify).exec db with ⟨error | untilSequence, frozen⟩
  · refine Or.inl ⟨error, fun hverify => ?_, fun calls pageSize hbounds => ?_⟩
    · obtain ⟨message, _, hexec⟩ | ⟨_, hexec, -⟩ := freezeHighWater_undisturbed (F := F) hverify db
      · rw [hfreeze] at hexec
        cases hexec
        exact ⟨message, rfl⟩
      · rw [hfreeze] at hexec
        cases hexec
    · simp [replayEvents, hbounds, hfreeze]
  · refine Or.inr fun calls pageSize hbounds => ?_
    obtain ⟨rfl, hevents⟩ := freezeHighWater_ok hfreeze
    have hlast : frozen.lastSequence = db.lastSequence := by
      unfold Database.lastSequence
      rw [hevents]
    obtain ⟨_, -, hsize⟩ := Fold.bind_eq_ok.mp hbounds
    have hresult : replayEvents F verify db calls afterSequence pageSize =
        iterStoredEvents F (some db.lastSequence) pageSize (grown F frozen calls)
          (db.lastSequence + 1) 0 afterSequence := by
      simp [replayEvents, hbounds, hfreeze]
    rw [hresult]
    refine iter_outcome db.events.ascending (fun _ => Database.le_lastSequence) db.lastSequence_le
      (requireValue_ok.mp hsize) ?_ (by omega)
    rw [← hevents, ← hlast]
    exact frozen_grown

theorem Intact.unique {events events' : List StoredEvent}
    (h : Intact F rows highWater current events) (h' : Intact F rows highWater current events') :
    events = events' := by
  refine List.ext_getElem (by rw [h.length, h'.length]) fun n hn hn' => ?_
  have hrow : n < (above current rows).length := by
    rw [h.reads.length_eq]
    exact hn
  exact readsAs_unique ((List.forall₂_iff_get.mp h.reads).2 n hrow hn)
    ((List.forall₂_iff_get.mp h'.reads).2 n hrow hn')

def overwrittenRow (row : EventRow) : EventRow :=
  { row with
    sequence := ⟨2, .refl true⟩
    eventId := row.eventId ++ "+"
    streamId := row.streamId ++ "+"
    eventJson := "\x7b\x7d" }

theorem ne_append_plus (text : String) : text ≠ text ++ "+" := by
  intro hsame
  have hlength := congrArg String.length hsame
  rw [String.length_append] at hlength
  have hplus : "+".length = 1 := rfl
  omega

def overwrittenStore (row : EventRow) (h : row.sequence.val = 1) : Database where
  events :=
    ⟨[row, overwrittenRow row],
      List.pairwise_pair.mpr (by change row.sequence.val < 2; omega),
      by simp [overwrittenRow, ne_append_plus], by simp [overwrittenRow, ne_append_plus]⟩
  checkpoint := some ⟨2, some row.eventDigest, schemaDefinitionDigest, 2, trialTime.isoformat⟩
  runProjections := []

def Trace.shape (trace : Trace) : List Nat × Ending :=
  (trace.events.map StoredEvent.sequence, trace.ending)

theorem readEvents_pageQuery_eq {events : EventsTable} (hmax : current ≤ cloudEventsIntegerMax)
    (hsize : 1 ≤ pageSize ∧ pageSize ≤ maxReadPageSize) :
    readEvents F (pageQuery current pageSize) events =
      ((above current events.rows).take pageSize).mapM (storedEventFromRow F) := by
  have hselect : (pageQuery current pageSize).select events.rows = above current events.rows := by
    have hrows : (pageQuery current pageSize).select (events.rows ++ []) =
        above current events.rows ++ [] :=
      select_pageQuery (fun _ hrow => absurd hrow List.not_mem_nil) (le_refl current)
    rwa [List.append_nil, List.append_nil] at hrows
  rw [readEvents, validate_pageQuery hmax hsize, hselect]
  rfl

end ResearchOs.Projections
