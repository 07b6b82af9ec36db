import ResearchOs.Data.SortBy
import ResearchOs.Data.Pages
import ResearchOs.Core.Storage.Log
import ResearchOs.Web.EventPage

/-! What the listings of one project share: a frozen mark, and reads of the facts under it. -/
namespace ResearchOs.Web

open JsonText (FloatText)
open Storage
open Projections (ReadsAs)

/-- One page of a listing. -/
structure ListingPage (α : Type) extends Pages.Page α String where
  highWaterMark : Nat

/-- A read of the one fact at a sequence. -/
def factQuery (projectId : String) (sequence : Nat) : ReadQuery :=
  ⟨sequence - 1, 1, some sequence, none, some projectId, none, none, false⟩

variable {F : FloatText} {db later : Database} {log : EventLog} {row : EventRow}
  {event : ResearchEvent} {projectId : String}

theorem readable_of_recorded (h : Recorded F db log) : ∀ row ∈ db.events.rows, Readable F row := by
  intro row hrow
  obtain ⟨i, hi, rfl⟩ := List.mem_iff_getElem.mp hrow
  have hlog : i < log.length := h.reads.length_eq ▸ hi
  obtain ⟨stored, hstored, -⟩ := (List.forall₂_iff_get.mp h.reads).2 i hi hlog
  exact ⟨stored, hstored⟩

/-- Every row of a store that extends a recorded one reads back. -/
theorem readable_of_extends (h : Recorded F db log) (hlater : Extends F db later) :
    ∀ row ∈ later.events.rows, Readable F row := by
  obtain ⟨rest, hrows, hreads⟩ := hlater
  rw [hrows]
  exact List.forall_mem_append.mpr ⟨readable_of_recorded h, hreads⟩

/-- The rows up to the mark of an earlier store are the rows of that store. -/
theorem filter_until (hlater : Extends F db later) (p : EventRow → Bool) :
    later.events.rows.filter (fun row => p row && decide (row.sequence.val ≤ db.lastSequence)) =
      db.events.rows.filter p := by
  obtain ⟨rest, hrows, -, hover⟩ := hlater.above
  have hold : db.events.rows.filter
      (fun row => p row && decide (row.sequence.val ≤ db.lastSequence)) =
      db.events.rows.filter p := by
    refine List.filter_congr fun row hrow => ?_
    rw [decide_eq_true (Database.le_lastSequence hrow), Bool.and_true]
  have hnew : rest.filter
      (fun row => p row && decide (row.sequence.val ≤ db.lastSequence)) = [] := by
    refine List.filter_eq_nil_iff.mpr fun row hrow hadmitted => ?_
    rw [Bool.and_eq_true, decide_eq_true_iff] at hadmitted
    have := hover row hrow
    omega
  rw [hrows, List.filter_append, hold, hnew, List.append_nil]

/-- The one row at a sequence. -/
theorem filter_sequence {rows : List EventRow} (hrow : row ∈ rows)
    (h : Ascending.Keyed (fun row : EventRow => row.sequence.val) rows) :
    rows.filter (fun other => decide (other.sequence.val = row.sequence.val)) = [row] := by
  induction rows with
  | nil => exact absurd hrow List.not_mem_nil
  | cons first rows ih =>
    obtain ⟨hfirst, hrest⟩ := List.pairwise_cons.mp h
    obtain rfl | hrow := List.mem_cons.mp hrow
    · rw [List.filter_cons, if_pos (decide_eq_true rfl)]
      congr 1
      refine List.filter_eq_nil_iff.mpr fun other hother hsame => ?_
      exact Nat.ne_of_gt (hfirst other hother) (of_decide_eq_true hsame)
    · have hne : ¬ decide (first.sequence.val = row.sequence.val) = true := by
        rw [decide_eq_true_iff]
        exact Nat.ne_of_lt (hfirst row hrow)
      rw [List.filter_cons, if_neg hne]
      exact ih hrow hrest

theorem validate_factQuery {sequence : Nat} (hproject : isBoundedIdentifier projectId = true)
    (hsequence : sequence ≤ cloudEventsIntegerMax) :
    (factQuery projectId sequence).validate = .ok () := by
  refine ReadQuery.validate_ok.mpr ⟨?_, ⟨le_refl _, (by decide : 1 ≤ maxReadPageSize)⟩, ?_,
    Nat.zero_le _,
    List.not_mem_nil, ?_, rfl, rfl⟩
  · exact (Nat.sub_le _ _).trans hsequence
  · simpa [factQuery] using hsequence
  · simpa [factQuery] using hproject

/-- The fact of a readable row is found at its sequence. -/
theorem readEvents_factQuery {events : EventsTable} (hrow : row ∈ events.rows)
    (hread : Readable F row) (hbounded : isBoundedIdentifier projectId = true)
    (hproject : row.projectId = projectId) : ∃ stored, ReadsAs F row stored ∧
      readEvents F (factQuery projectId row.sequence.val) events = .ok [stored] := by
  obtain ⟨hpositive, hmax⟩ := inRange_iff.mp row.sequence.property
  have hselect : (factQuery projectId row.sequence.val).select events.rows = [row] := by
    have hsame : ((events.rows.filter (factQuery projectId row.sequence.val).admits).filter
        fun other => (factQuery projectId row.sequence.val).afterSequence < other.sequence.val) =
        [row] := by
      rw [List.filter_filter, ← filter_sequence hrow events.ascending]
      refine List.filter_congr fun other hother => ?_
      rw [Bool.eq_iff_iff]
      simp only [factQuery, ReadQuery.admits, Option.all_some, Option.all_none, Bool.and_true,
        Bool.and_eq_true, decide_eq_true_eq]
      constructor
      · rintro ⟨hlow, -, hhigh⟩
        have hlow := of_decide_eq_true hlow
        omega
      · intro hsequence
        have hother : other = row := by
          have hmem : other ∈ events.rows.filter
              (fun other => decide (other.sequence.val = row.sequence.val)) :=
            List.mem_filter.mpr ⟨hother, decide_eq_true hsequence⟩
          rw [filter_sequence hrow events.ascending, List.mem_singleton] at hmem
          exact hmem
        subst hother
        exact ⟨decide_eq_true (by omega), hproject, le_refl _⟩
    simpa [ReadQuery.select, factQuery] using hsame
  obtain ⟨stored, hstored⟩ := hread
  refine ⟨stored, hstored, ?_⟩
  rw [readEvents, validate_factQuery hbounded hmax, hselect]
  simp [factQuery, hstored, bind, Except.bind, pure, Except.pure]

/-- A read of readable rows returns. -/
theorem readEvents_ok {query : ReadQuery} {events : EventsTable} (hquery : query.validate = .ok ())
    (h : ∀ row ∈ events.rows, Readable F row) : ∃ stored, readEvents F query events = .ok stored ∧
      List.Forall₂ (ReadsAs F) ((query.select events.rows).take query.limit) stored := by
  have hreadable : ∀ row ∈ (query.select events.rows).take query.limit, Readable F row := by
    intro row hrow
    refine h row ?_
    have hrow := List.mem_of_mem_take hrow
    unfold ReadQuery.select at hrow
    dsimp only at hrow
    split_ifs at hrow
    · exact List.mem_of_mem_filter (List.mem_of_mem_filter (List.mem_reverse.mp hrow))
    · exact List.mem_of_mem_filter (List.mem_of_mem_filter hrow)
  obtain ⟨stored, hstored⟩ := Fold.exists_mapM_eq_ok (f := storedEventFromRow F) hreadable
  refine ⟨stored, ?_, Fold.mapM_eq_ok.mp hstored⟩
  rw [readEvents, hquery]
  exact hstored

/-- The rows that pass a test which their events decide, and these events. -/
theorem forall₂_filter {rows : List EventRow} {p : EventRow → Bool} {q : ResearchEvent → Bool}
    (h : List.Forall₂ (Reads F) rows log) (hsame : ∀ row event, Reads F row event → p row = q event) :
    List.Forall₂ (Reads F) (rows.filter p) (log.filter q) := by
  induction h with
  | nil => exact .nil
  | cons hread _ ih =>
    rw [List.filter_cons, List.filter_cons, hsame _ _ hread]
    split
    · exact .cons hread ih
    · exact ih

theorem ascending_log (h : Recorded F db log) :
    Ascending.Keyed (fun event : ResearchEvent => event.sequence.val) log := by
  have hmaps : db.events.rows.map (fun row => row.sequence.val) =
      log.map (fun event => event.sequence.val) :=
    Fold.map_eq_map_of_forall₂ h.reads fun _ _ hread => congrArg Subtype.val hread.ids.1
  rw [Ascending.Keyed, ← List.pairwise_map (f := fun event : ResearchEvent => event.sequence.val),
    ← hmaps, List.pairwise_map]
  exact db.events.ascending

theorem sequence_nodup (h : Recorded F db log) :
    (log.map fun event => event.sequence.val).Nodup :=
  List.pairwise_map.mpr ((ascending_log h).imp fun hlt => Nat.ne_of_lt hlt)

/-- An event of the log and its row. -/
theorem exists_row (h : Recorded F db log) (hevent : event ∈ log) :
    ∃ row ∈ db.events.rows, Reads F row event := by
  obtain ⟨row, hrow, hread⟩ := Fold.exists_of_mem_right h.reads hevent
  exact ⟨row, hrow, hread⟩

theorem columns_of_row (h : Reads F row event) : row.projectId = event.data.projectId.val ∧
    row.eventType = event.type.val ∧ row.runId = event.data.runId.map Subtype.val := by
  have hcolumns := h.columns
  simp only [EventRow.indexColumns, expectedColumns, List.cons.injEq, Prod.mk.injEq,
    Column.text.injEq, Option.some.injEq, true_and] at hcolumns
  obtain ⟨-, -, -, -, htype, -, hproject, hrun, -⟩ := hcolumns
  exact ⟨hproject, htype, hrun⟩

theorem recorded_of_commits {call : AppendCall} (h : Recorded F db log)
    (hcommits : call.commits F db = true) : ∃ event,
      log.append call.document call.token = .ok event ∧
        Recorded F ((append F call).exec db).2 (log ++ [event]) := by
  rcases hexec : (append F call).exec db with ⟨_ | stored, appended⟩
  · simp [AppendCall.commits, hexec, Except.toOption] at hcommits
  · obtain ⟨hadded, hrecorded⟩ := append_recorded h hexec
    exact ⟨stored.event, hadded, hrecorded⟩

end ResearchOs.Web
