import Mathlib.Data.Finset.Max
import ResearchOs.Core.Runs.Safety
import ResearchOs.Web.Listing

/-! `run_page`: the runs of a project under a frozen mark, the latest first. -/
namespace ResearchOs.Web

open JsonText (FloatText)
open Runs (RunError RunSnapshot RunStateProjection RunStatus)
open Storage
open Projections (ReadsAs)

/-! The digits of a text. -/

/-- The zeros of the decimal digits of Unicode 15; nine more digits follow each. -/
def decimalZeros : List Nat :=
  [48, 1632, 1776, 1984, 2406, 2534, 2662, 2790, 2918, 3046, 3174, 3302, 3430, 3558, 3664, 3792,
    3872, 4160, 4240, 6112, 6160, 6470, 6608, 6784, 6800, 6992, 7088, 7232, 7248, 42528, 43216,
    43264, 43472, 43504, 43600, 44016, 65296, 66720, 68912, 69734, 69872, 69942, 70096, 70384,
    70736, 70864, 71248, 71360, 71472, 71904, 72016, 72784, 73040, 73120, 73552, 92768, 92864,
    93008, 120782, 120792, 120802, 120812, 120822, 123200, 123632, 124144, 125264, 130032]

/-- The first and the last of the digits that have no decimal value. -/
def otherDigits : List (Nat × Nat) :=
  [(178, 179), (185, 185), (4969, 4977), (6618, 6618), (8304, 8304), (8308, 8313), (8320, 8329),
    (9312, 9320), (9332, 9340), (9352, 9360), (9450, 9450), (9461, 9469), (9471, 9471),
    (10102, 10110), (10112, 10120), (10122, 10130), (68160, 68163), (69216, 69224), (69714, 69722),
    (127232, 127242)]

def decimalValue (c : Char) : Option Nat :=
  (decimalZeros.find? fun first => first ≤ c.toNat ∧ c.toNat < first + 10).map fun first =>
    c.toNat - first

def isDigit (c : Char) : Bool :=
  (decimalValue c).isSome || otherDigits.any fun range =>
    decide (range.1 ≤ c.toNat) && decide (c.toNat ≤ range.2)

/-- `text.isdigit()` -/
def isDigits (text : String) : Bool := text.toList ≠ [] && text.toList.all isDigit

/-- A text of more digits is no integer. -/
def maxIntegerDigits : Nat := 4300

/-- `int(text)` of a text of digits. -/
def parseDigits (text : String) : Option Nat :=
  if maxIntegerDigits < text.length then none
  else (text.toList.mapM decimalValue).map fun digits => digits.foldl (fun n d => 10 * n + d) 0

/-! One run of the page. -/

inductive Observation where
  | absent
  | cancelRequested
  | queued
  | running
  | lost
  | unknown
  | succeeded
  | failed
  | observedStop
  deriving DecidableEq, Repr

inductive RunOrigin where
  | absent
  | synthetic
  deriving DecidableEq, Repr

structure RunItem where
  runId : String
  observation : Observation
  origin : RunOrigin
  lastSequence : Nat
  lastEventType : String
  attemptId : Option String
  deriving DecidableEq, Repr

/-- A status of the closed observation set. -/
def observationOf : RunStatus → Observation
  | .queued => .queued
  | .running => .running
  | .retryPending => .running
  | .lost => .lost
  | .unknown => .unknown
  | .completed => .succeeded
  | .failed => .failed
  | .cancelled => .observedStop

def observed : Option RunSnapshot → Observation
  | none => .absent
  | some snapshot =>
    if snapshot.cancellationRequested = true ∧
        snapshot.status ∉ [RunStatus.completed, RunStatus.failed, RunStatus.cancelled]
    then .cancelRequested
    else observationOf snapshot.status

def observationPageSize : Nat := 500

def runEvents (projection : RunStateProjection) : EventFilter :=
  ⟨projection.projectId.val, none, some projection.runId.val⟩

def queuedEvents (projection : RunStateProjection) : EventFilter :=
  ⟨projection.projectId.val, some [Runs.LifecycleType.runQueued.text], some projection.runId.val⟩

/-- The pages of one run from a position on, folded over a snapshot. -/
def observePages (F : FloatText) (projection : RunStateProjection) (highWater : Nat)
    (events : EventsTable) : Nat → Nat → Option RunSnapshot → Except ApiError Observation
  | 0, _, _ => .error .unavailable
  | fuel + 1, after, snapshot => do
    let rows ← guarded (readEvents F
      ((runEvents projection).query after observationPageSize highWater) events)
    let last := (rows.getLast?.map StoredEvent.sequence).getD after
    match rows.foldlM (fun snapshot row => projection.apply snapshot row.event) snapshot with
    | .error (.validation message) => .error (.value message)
    | .error _ => .ok .absent
    | .ok snapshot =>
      if rows.length < observationPageSize then .ok (observed snapshot)
      else observePages F projection highWater events fuel last snapshot

/-- `_observation`; every page but the last moves the position on. -/
def observation (F : FloatText) (projection : RunStateProjection) (highWater : Nat)
    (events : EventsTable) : Except ApiError Observation :=
  observePages F projection highWater events (events.rows.length + 1) 0 none

/-- The sequence that a queued run cites for its authorization. -/
def authorizationSequence : Option Json → Except ApiError (Option Int)
  | some (.int n) => .ok (some n)
  | some (.str text) =>
    if isDigits text then
      match parseDigits text with
      | some n => .ok (some n)
      | none => .error (.value "invalid literal for int()")
    else .ok none
  | _ => .ok none

def isText (text : String) : Option Json → Bool
  | some (.str found) => found = text
  | _ => false

/-- `_origin` -/
def originOf (F : FloatText) (projectId : EventIdentifier) (events : EventsTable) :
    Option Json.Members → Except ApiError RunOrigin
  | none => .ok .absent
  | some queued => do
    match ← authorizationSequence (queued.lookup "authorizationSequence") with
    | none => .ok .absent
    | some sequence =>
      if sequence < 1 then .ok .absent
      else
        let found ← guarded (readEvents F (Projections.pageQuery (sequence - 1).toNat 1) events)
        match found with
        | [] => .ok .absent
        | stored :: _ =>
          if stored.event.data.projectId ≠ projectId then .ok .absent
          else if isText "audit-only" (stored.event.data.payload.lookup "authority") ||
              isText "not-executed" (stored.event.data.payload.lookup "execution")
          then .ok .synthetic
          else .ok .absent

/-- `_run_origin` -/
def runOrigin (F : FloatText) (projection : RunStateProjection) (highWater : Nat)
    (events : EventsTable) : Except ApiError RunOrigin := do
  let rows ← guarded (readEvents F ((queuedEvents projection).query 0 1 highWater) events)
  originOf F projection.projectId events (rows.head?.map fun row => row.event.data.payload)

/-- `str(event.data.run_id)` -/
def runIdOf (event : ResearchEvent) : EventIdentifier := event.data.runId.getD ⟨"None", .refl true⟩

def runItem (F : FloatText) (projectId : EventIdentifier) (highWater : Nat) (events : EventsTable)
    (row : StoredEvent) : Except ApiError RunItem := do
  let projection : RunStateProjection := ⟨projectId, runIdOf row.event⟩
  let observation ← observation F projection highWater events
  let origin ← runOrigin F projection highWater events
  pure {
    runId := (runIdOf row.event).val
    observation := observation
    origin := origin
    lastSequence := row.sequence
    lastEventType := row.event.type.val
    attemptId := row.event.data.attemptId.map Subtype.val }

/-! The page. -/

def isRunRow (projectId : String) (row : EventRow) : Bool :=
  decide (row.projectId = projectId) && row.runId.isSome

/-- The latest sequence of each run, in descending order. -/
def runHeads (projectId : String) (untilSequence : Nat) (rows : List EventRow) :
    List (Option String × Nat) :=
  (SortBy.sortBy Prod.snd (Groups.groups (fun row : EventRow => row.runId)
    (fun row => row.sequence.val) List.max?
    (rows.filter fun row => isRunRow projectId row && decide (row.sequence.val ≤ untilSequence)))).reverse

/-- The position that a page stays below. -/
def belowOf (before untilSequence : Nat) : Nat := if before = 0 then untilSequence + 1 else before

/-- `list_run_heads_page` -/
def listRunHeadsPage (F : FloatText) (projectId : String) (before untilSequence limit : Nat)
    (events : EventsTable) : Except StoreError (List StoredEvent) := do
  requireValue (1 ≤ limit ∧ limit ≤ maxReadPageSize) "invalid run page bounds"
  let heads := ((runHeads projectId untilSequence events.rows).filter fun head =>
    head.2 < belowOf before untilSequence).take limit
  let facts ← heads.mapM fun head => readEvents F (factQuery projectId head.2) events
  pure facts.flatten

def runScope (projectId : String) : String := projectId ++ "|runs"

/-- `run_page` -/
def runPage (F : FloatText) (projectId : EventIdentifier) (limit : Option Nat) (db : Database)
    (cursor : Option String) : Except ApiError (ListingPage RunItem) := do
  let (after, highWater) ← bounds cursor (runScope projectId.val) db.lastSequence
  let size := limit.getD defaultPageLimit
  let rows ← guarded (listRunHeadsPage F projectId.val after highWater size db.events)
  let items ← rows.mapM (runItem F projectId highWater db.events)
  pure {
    items := items
    nextCursor := if rows.length = size then
      some (encodeCursor ((rows.getLast?.map StoredEvent.sequence).getD 0) highWater
        (runScope projectId.val)) else none
    highWaterMark := highWater }

/-- The pages of the runs: the k-th request reads the k-th store. -/
def followRuns (F : FloatText) (projectId : EventIdentifier) (limits : Nat → Option Nat)
    (stores : Nat → Database) : Nat → Nat → Option String →
      Except ApiError (List RunItem × Option String) :=
  Pages.follow fun k cursor =>
    (runPage F projectId (limits k) (stores k) cursor).map ListingPage.toPage

/-! What a run is shown as. -/

variable {F : FloatText} {db later : Database} {log : EventLog} {projection : RunStateProjection}
  {projectId : EventIdentifier} {limits : Nat → Option Nat} {stores : Nat → Database}

/-- A cited sequence that a read takes. -/
def Citable : Option Json → Prop
  | some (.int n) => n ≤ (cloudEventsIntegerMax + 1 : Nat)
  | some (.str text) => isDigits text = true →
      (parseDigits text).any (fun n => decide (n ≤ cloudEventsIntegerMax + 1)) = true
  | _ => True

instance : DecidablePred Citable
  | some (.int _) => inferInstanceAs (Decidable (_ ≤ _))
  | some (.str _) => inferInstanceAs (Decidable (_ → _))
  | none => inferInstanceAs (Decidable True)
  | some .null => inferInstanceAs (Decidable True)
  | some (.bool _) => inferInstanceAs (Decidable True)
  | some (.float _) => inferInstanceAs (Decidable True)
  | some (.arr _) => inferInstanceAs (Decidable True)
  | some (.obj _) => inferInstanceAs (Decidable True)

theorem isBoundedIdentifier_val (identifier : EventIdentifier) :
    isBoundedIdentifier identifier.val = true := by
  have hidentifier := identifier.property
  unfold isEventIdentifier at hidentifier
  unfold isBoundedIdentifier
  rw [Bool.and_eq_true, decide_eq_true_iff, decide_eq_true_iff, ← String.length_toList]
  split at hidentifier
  · cases hidentifier
  · rename_i c cs hchars
    rw [hchars, List.length_cons]
    simp only [Bool.and_eq_true, decide_eq_true_eq] at hidentifier
    omega

theorem runEvents_valid : (runEvents projection).Valid :=
  ⟨Nat.zero_le _, List.not_mem_nil, isBoundedIdentifier_val _, isBoundedIdentifier_val _⟩

theorem queuedEvents_valid : (queuedEvents projection).Valid := by
  have htypes : [Runs.LifecycleType.runQueued.text].dedup.length ≤ 32 ∧
      "" ∉ [Runs.LifecycleType.runQueued.text] := by decide
  exact ⟨htypes.1, htypes.2, isBoundedIdentifier_val _, isBoundedIdentifier_val _⟩

/-- A cited sequence within reach, or one that no read takes. -/
theorem authorizationSequence_cases (value : Option Json) :
    (∃ cited, authorizationSequence value = .ok cited ∧
      ((∀ n ∈ cited, n ≤ (cloudEventsIntegerMax + 1 : Nat)) ↔ Citable value)) ∨
    (∃ message, authorizationSequence value = .error (.value message)) ∧ ¬ Citable value := by
  unfold authorizationSequence
  split
  · exact Or.inl ⟨_, rfl, by simp [Citable]⟩
  · rename_i text
    by_cases hdigits : isDigits text = true
    · rw [if_pos hdigits]
      cases hparse : parseDigits text with
      | none => exact Or.inr ⟨⟨_, rfl⟩, by simp [Citable, hdigits, hparse]⟩
      | some n =>
        refine Or.inl ⟨_, rfl, ?_⟩
        simp only [Option.mem_some_iff, Citable, hdigits, hparse, forall_const, Option.any_some,
          decide_eq_true_eq, forall_eq']
        exact Int.ofNat_le
    · rw [if_neg hdigits]
      exact Or.inl ⟨none, rfl, by simp [Citable, hdigits]⟩
  · refine Or.inl ⟨none, rfl, ?_⟩
    rename_i hint htext
    rcases value with _ | (_ | _ | n | _ | text | _ | _)
    all_goals first
      | exact absurd rfl (hint _)
      | exact absurd rfl (htext _)
      | simp [Citable]

/-- No read starts beyond the sequences. -/
theorem readEvents_beyond {events : EventsTable} {after limit : Nat}
    (h : ¬ after ≤ cloudEventsIntegerMax) :
    readEvents F (Projections.pageQuery after limit) events =
      .error (.value "after_sequence is outside the supported sequence range") := by
  have hrefused : requireValue (after ≤ cloudEventsIntegerMax)
      "after_sequence is outside the supported sequence range" =
        .error (.value "after_sequence is outside the supported sequence range") := if_neg h
  rw [readEvents, ReadQuery.validate, Projections.pageQuery, hrefused]
  rfl

theorem originOf_cases {events : EventsTable} (hread : ∀ row ∈ events.rows, Readable F row)
    (queued : Json.Members) :
    (∃ origin, originOf F projectId events (some queued) = .ok origin) ∧
        Citable (queued.lookup "authorizationSequence") ∨
      (∃ e, originOf F projectId events (some queued) = .error e) ∧
        ¬ Citable (queued.lookup "authorizationSequence") := by
  unfold originOf
  obtain ⟨cited, hcited, hiff⟩ | ⟨⟨message, hcited⟩, hbad⟩ :=
    authorizationSequence_cases (queued.lookup "authorizationSequence")
  · simp only [hcited, bind, Except.bind]
    rw [← hiff]
    cases cited with
    | none => exact Or.inl ⟨⟨_, rfl⟩, by simp⟩
    | some sequence =>
      simp only [Option.mem_some_iff, forall_eq']
      by_cases hsmall : sequence < 1
      · rw [if_pos hsmall]
        exact Or.inl ⟨⟨_, rfl⟩, by omega⟩
      · rw [if_neg hsmall]
        by_cases hreach : sequence ≤ (cloudEventsIntegerMax + 1 : Nat)
        · left
          refine ⟨?_, hreach⟩
          have hafter : (sequence - 1).toNat ≤ cloudEventsIntegerMax := by omega
          have hsize : 1 ≤ 1 ∧ 1 ≤ maxReadPageSize := ⟨le_refl _, by decide⟩
          obtain ⟨stored, hstored, -⟩ :=
            readEvents_ok (Projections.validate_pageQuery hafter hsize) hread
          simp only [hstored, guarded]
          split
          · exact ⟨_, rfl⟩
          · split_ifs <;> exact ⟨_, rfl⟩
        · right
          refine ⟨⟨.value "after_sequence is outside the supported sequence range", ?_⟩, hreach⟩
          have hafter : ¬ (sequence - 1).toNat ≤ cloudEventsIntegerMax := by omega
          simp only [readEvents_beyond hafter, guarded]
  · right
    exact ⟨⟨_, by simp only [hcited, bind, Except.bind]; rfl⟩, hbad⟩

/-- A fold of a run goes on or is refused; it never fails on a model of its own. -/
theorem foldlM_apply_cases {rows : List StoredEvent} {snapshot : Option RunSnapshot}
    (h : ∀ s ∈ snapshot, s.Invariant) :
    (∃ next, rows.foldlM (fun snapshot row => projection.apply snapshot row.event) snapshot =
        .ok next ∧ ∀ s ∈ next, s.Invariant) ∨
      ∃ e, rows.foldlM (fun snapshot row => projection.apply snapshot row.event) snapshot =
        .error e ∧ ∀ message, e ≠ .validation message := by
  induction rows generalizing snapshot with
  | nil => exact Or.inl ⟨snapshot, rfl, h⟩
  | cons row rows ih =>
    rw [List.foldlM_cons]
    have hreply := Runs.apply_reply (p := projection) (e := row.event) h
    cases happly : projection.apply snapshot row.event with
    | ok next =>
      rw [happly] at hreply
      exact ih (hreply.invariant h)
    | error e =>
      rw [happly] at hreply
      refine Or.inr ⟨e, rfl, fun message hsame => ?_⟩
      subst hsame
      cases hreply

/-- Over readable rows the observation returns. -/
theorem observePages_ok {fuel after : Nat} {snapshot : Option RunSnapshot} (h : Recorded F db log)
    (hlater : Extends F db later) (hafter : after ≤ cloudEventsIntegerMax)
    (hsnapshot : ∀ s ∈ snapshot, s.Invariant)
    (hfuel : ((runEvents projection).above db after).length < fuel) : ∃ label,
      observePages F projection db.lastSequence later.events fuel after snapshot = .ok label := by
  induction fuel generalizing after snapshot with
  | zero => omega
  | succ fuel ih =>
    have hsize : 1 ≤ observationPageSize ∧ observationPageSize ≤ maxReadPageSize := by decide
    obtain ⟨rows, hrows, hreads⟩ | ⟨-, row, hrow, -, hbad⟩ :=
      read_query hlater (show (runEvents projection).Valid from runEvents_valid) hafter hsize
    · simp only [observePages, hrows, bind, Except.bind]
      obtain ⟨next, hnext, hinvariant⟩ | ⟨e, hfails, hvalid⟩ :=
        @foldlM_apply_cases projection rows snapshot hsnapshot
      · rw [hnext]
        dsimp only
        by_cases hshort : rows.length < observationPageSize
        · rw [if_pos hshort]
          exact ⟨_, rfl⟩
        · rw [if_neg hshort]
          have hnonempty : rows ≠ [] := by
            rintro rfl
            exact hshort (by decide)
          obtain ⟨last, hlast, hle, habove⟩ := above_last hreads hnonempty
          rw [hlast, Option.getD_some]
          refine ih (hle.trans db.lastSequence_le) hinvariant ?_
          have hlength := hreads.length_eq
          rw [List.length_take] at hlength
          rw [habove, List.length_drop]
          change min _ ((runEvents projection).above db after).length = _ at hlength
          omega
      · rw [hfails]
        cases e with
        | validation message => exact absurd rfl (hvalid message)
        | payload message => exact ⟨_, rfl⟩
        | transition message => exact ⟨_, rfl⟩
        | revalidation message => exact ⟨_, rfl⟩
    · exact absurd (readable_of_recorded h row (List.mem_of_mem_filter hrow)) hbad

theorem observation_ok (h : Recorded F db log) (hlater : Extends F db later) : ∃ label,
    observation F projection db.lastSequence later.events = .ok label := by
  refine observePages_ok h hlater (Nat.zero_le _) (fun _ hnone => by cases hnone) ?_
  obtain ⟨rest, hrows, -⟩ := hlater
  refine Nat.lt_succ_of_le ?_
  rw [hrows, List.length_append]
  refine Nat.le_trans ?_ (Nat.le_add_right _ _)
  exact (List.length_filter_le _ _).trans (List.length_filter_le _ _)

/-- The first queued fact of a run. -/
def firstQueued (projectId : EventIdentifier) (runId : Option String) (log : EventLog) :
    Option ResearchEvent :=
  log.find? fun event => event.data.projectId.val = projectId.val ∧
    event.data.runId.map Subtype.val = runId ∧ event.type.val = Runs.LifecycleType.runQueued.text

/-- What the first queued fact of a run cites can be read. -/
def Sourced (projectId : EventIdentifier) (log : EventLog) (runId : Option String) : Prop :=
  ∀ queued ∈ firstQueued projectId runId log,
    Citable (queued.data.payload.lookup "authorizationSequence")

instance (projectId : EventIdentifier) (log : EventLog) (runId : Option String) :
    Decidable (Sourced projectId log runId) :=
  inferInstanceAs (Decidable (∀ queued ∈ firstQueued projectId runId log, _))

theorem head?_reads {rows : List EventRow} {events : EventLog} {stored : List StoredEvent}
    (h : List.Forall₂ (Reads F) rows events)
    (hstored : List.Forall₂ (ReadsAs F) (rows.take 1) stored) :
    stored.head?.map StoredEvent.event = events.head? := by
  cases h with
  | nil =>
    cases hstored
    rfl
  | cons hread _ =>
    obtain ⟨found, rest, hfound, -, rfl⟩ := List.forall₂_cons_left_iff.mp hstored
    obtain ⟨other, hother, rfl⟩ := hread
    rw [List.head?_cons, Option.map_some, Projections.readsAs_unique hfound hother]
    rfl

/-- The queued fact that the origin is read from. -/
theorem read_queued (h : Recorded F db log) (hlater : Extends F db later) : ∃ rows,
    guarded (readEvents F ((queuedEvents projection).query 0 1 db.lastSequence) later.events) =
        .ok rows ∧
      rows.head?.map StoredEvent.event =
        firstQueued projection.projectId (some projection.runId.val) log := by
  have hsize : 1 ≤ 1 ∧ 1 ≤ maxReadPageSize := by decide
  obtain ⟨rows, hrows, hreads⟩ | ⟨-, row, hrow, -, hbad⟩ :=
    read_query hlater (show (queuedEvents projection).Valid from queuedEvents_valid) (Nat.zero_le _) hsize
  · refine ⟨rows, hrows, ?_⟩
    have hfiltered : List.Forall₂ (Reads F) ((queuedEvents projection).rows db)
        (log.filter fun event => event.data.projectId.val = projection.projectId.val ∧
          event.data.runId.map Subtype.val = some projection.runId.val ∧
          event.type.val = Runs.LifecycleType.runQueued.text) := by
      refine forall₂_filter h.reads fun row event hread => ?_
      obtain ⟨hproject, htype, hrun⟩ := columns_of_row hread
      rw [Bool.eq_iff_iff]
      simp only [queuedEvents, EventFilter.admits, hproject, htype, hrun, Option.all_some,
        List.mem_singleton, Bool.and_eq_true, decide_eq_true_eq, and_assoc]
    have habove : ((queuedEvents projection).rows db).filter
        (fun row => (0 : Nat) < row.sequence.val) = (queuedEvents projection).rows db :=
      above_zero
    rw [habove] at hreads
    rw [head?_reads hfiltered hreads, firstQueued, List.head?_filter]
  · exact absurd (readable_of_recorded h row (List.mem_of_mem_filter hrow)) hbad

theorem runOrigin_cases (h : Recorded F db log) (hlater : Extends F db later) :
    (∃ origin, runOrigin F projection db.lastSequence later.events = .ok origin) ∧
        Sourced projection.projectId log (some projection.runId.val) ∨
      (∃ e, runOrigin F projection db.lastSequence later.events = .error e) ∧
        ¬ Sourced projection.projectId log (some projection.runId.val) := by
  obtain ⟨rows, hrows, hqueued⟩ := @read_queued F db later log projection h hlater
  simp only [runOrigin, hrows, bind, Except.bind, Sourced, ← hqueued]
  cases rows with
  | nil => exact Or.inl ⟨⟨.absent, rfl⟩, fun _ hnone => by cases hnone⟩
  | cons row rows =>
    simp only [List.head?_cons, Option.map_some, Option.mem_some_iff, forall_eq']
    exact originOf_cases (readable_of_extends h hlater) row.event.data.payload

/-! The runs of a log. -/

def isRunFact (projectId : EventIdentifier) (event : ResearchEvent) : Bool :=
  decide (event.data.projectId.val = projectId.val) && event.data.runId.isSome

/-- The latest sequence of each run of the log, in descending order. -/
def logHeads (projectId : EventIdentifier) (log : EventLog) : List (Option String × Nat) :=
  (SortBy.sortBy Prod.snd (Groups.groups
    (fun event : ResearchEvent => event.data.runId.map Subtype.val)
    (fun event => event.sequence.val) List.max? (log.filter (isRunFact projectId)))).reverse

theorem forall₂_groups {rows : List EventRow} {events : EventLog}
    (h : List.Forall₂ (Reads F) rows events) {aggregate : List Nat → Option Nat} :
    Groups.groups (fun row : EventRow => row.runId) (fun row => row.sequence.val) aggregate rows =
      Groups.groups (fun event : ResearchEvent => event.data.runId.map Subtype.val)
        (fun event => event.sequence.val) aggregate events := by
  have hpairs : rows.map (fun row => (row.runId, row.sequence.val)) =
      events.map fun event => (event.data.runId.map Subtype.val, event.sequence.val) :=
    Fold.map_eq_map_of_forall₂ h fun row event hread =>
      Prod.ext (columns_of_row hread).2.2 (congrArg Subtype.val hread.ids.1)
  have hgroups := congrArg (Groups.groups Prod.fst Prod.snd aggregate) hpairs
  rw [Groups.groups_map, Groups.groups_map] at hgroups
  exact hgroups

theorem runHeads_of_recorded (h : Recorded F db log) (hlater : Extends F db later) :
    runHeads projectId.val db.lastSequence later.events.rows = logHeads projectId log := by
  have hreads : List.Forall₂ (Reads F) (db.events.rows.filter (isRunRow projectId.val))
      (log.filter (isRunFact projectId)) := by
    refine forall₂_filter h.reads fun row event hread => ?_
    obtain ⟨hproject, -, hrun⟩ := columns_of_row hread
    rw [isRunRow, isRunFact, hproject, hrun, Option.isSome_map]
  rw [runHeads, filter_until hlater, forall₂_groups hreads, logHeads]

theorem mem_logHeads {head : Option String × Nat} : head ∈ logHeads projectId log ↔
    (∃ event ∈ log, isRunFact projectId event = true ∧
      event.data.runId.map Subtype.val = head.1 ∧ event.sequence.val = head.2) ∧
    ∀ event ∈ log, isRunFact projectId event = true →
      event.data.runId.map Subtype.val = head.1 → event.sequence.val ≤ head.2 := by
  obtain ⟨runId, latest⟩ := head
  rw [logHeads, List.mem_reverse, SortBy.mem_sortBy, Groups.mem_groups_max]
  simp only [List.mem_filter, and_assoc, and_imp]

theorem logHeads_descending (h : Recorded F db log) :
    (logHeads projectId log).Pairwise fun a b => b.2 < a.2 := by
  rw [logHeads, List.pairwise_reverse]
  refine Groups.sorted_values (Groups.nodup_values ?_ fun k n hgroup =>
    (Groups.mem_groups_max.mp hgroup).1)
  exact (sequence_nodup h).sublist (List.filter_sublist.map _)

theorem logHeads_le (h : Recorded F db log) {head : Option String × Nat}
    (hhead : head ∈ logHeads projectId log) : head.2 ≤ db.lastSequence := by
  obtain ⟨⟨event, hevent, -, -, hsequence⟩, -⟩ := mem_logHeads.mp hhead
  obtain ⟨row, hrow, hread⟩ := exists_row h hevent
  rw [← hsequence, ← hread.ids.1]
  exact Database.le_lastSequence hrow

theorem nodup_runs : ((logHeads projectId log).map Prod.fst).Nodup := by
  rw [logHeads, List.map_reverse, List.nodup_reverse]
  exact ((SortBy.sortBy_perm Prod.snd _).map Prod.fst).nodup_iff.mpr Groups.nodup_keys

theorem length_logHeads_le : (logHeads projectId log).length ≤ log.length := by
  rw [logHeads, List.length_reverse, (SortBy.sortBy_perm _ _).length_eq]
  exact Groups.length_groups_le.trans (List.length_filter_le _ _)

/-- The entries that follow a page are those below its last. -/
theorem filter_below_page {heads : List (Option String × Nat)} {bound below size : Nat}
    {last : Option String × Nat} (hdescending : heads.Pairwise fun a b => b.2 < a.2)
    (hbound : ∀ head ∈ heads, head.2 ≤ bound) (hbelow : below ≤ bound + 1)
    (hlast : ((heads.filter fun head => head.2 < below).take size).getLast? = some last) :
    heads.filter (fun head => head.2 < last.2) =
      (heads.filter fun head => head.2 < below).drop size := by
  -- What descends from the bound ascends in the distance to it.
  have hkeyed : Ascending.Keyed (fun head : Option String × Nat => bound + 1 - head.2) heads := by
    refine hdescending.imp_of_mem fun {a b} ha hb hlt => ?_
    have := hbound a ha
    change bound + 1 - a.2 < bound + 1 - b.2
    omega
  have hdistance : ∀ position, position ≤ bound + 1 →
      heads.filter (fun head => head.2 < position) =
        heads.filter fun head => bound + 1 - position < bound + 1 - head.2 := by
    intro position hposition
    refine List.filter_congr fun head hhead => ?_
    have := hbound head hhead
    rw [Bool.eq_iff_iff, decide_eq_true_iff, decide_eq_true_iff]
    omega
  have hmem := List.mem_of_mem_filter (List.mem_of_mem_take (List.mem_of_getLast? hlast))
  have hposition := hbound last hmem
  rw [hdistance below hbelow] at hlast ⊢
  rw [hdistance last.2 (by omega)]
  exact Ascending.filter_after_page hkeyed hlast

theorem exists_latest {p : ResearchEvent → Prop} (log : EventLog) (h : ∃ event ∈ log, p event) :
    ∃ last ∈ log, p last ∧ ∀ other ∈ log, p other → other.sequence.val ≤ last.sequence.val := by
  classical
  obtain ⟨event, hevent, hp⟩ := h
  obtain ⟨last, hlast, hgreatest⟩ := (log.filter fun event => decide (p event)).toFinset.exists_max_image
    (fun event => event.sequence.val) ⟨event, by simp [hevent, hp]⟩
  rw [List.mem_toFinset, List.mem_filter, decide_eq_true_iff] at hlast
  refine ⟨last, hlast.1, hlast.2, fun other hother hpother => hgreatest other ?_⟩
  rw [List.mem_toFinset, List.mem_filter, decide_eq_true_iff]
  exact ⟨hother, hpother⟩

/-! One page. -/

/-- The fact of a head, as it is read. -/
def IsHead (projectId : EventIdentifier) (head : Option String × Nat) (stored : StoredEvent) : Prop :=
  stored.event.data.projectId.val = projectId.val ∧ stored.event.data.runId.isSome = true ∧
    stored.event.data.runId.map Subtype.val = head.1 ∧ stored.sequence = head.2

theorem mapM_heads (h : Recorded F db log) (hlater : Extends F db later)
    {heads : List (Option String × Nat)} (hheads : ∀ head ∈ heads, head ∈ logHeads projectId log) :
    ∃ facts, heads.mapM (fun head => readEvents F (factQuery projectId.val head.2) later.events) =
        .ok facts ∧ List.Forall₂ (IsHead projectId) heads facts.flatten := by
  induction heads with
  | nil => exact ⟨[], rfl, .nil⟩
  | cons head heads ih =>
    obtain ⟨hhead, hheads⟩ := List.forall_mem_cons.mp hheads
    obtain ⟨facts, hfacts, hothers⟩ := ih hheads
    obtain ⟨⟨event, hevent, hrun, hid, hsequence⟩, -⟩ := mem_logHeads.mp hhead
    rw [isRunFact, Bool.and_eq_true, decide_eq_true_iff] at hrun
    obtain ⟨row, hrow, hread⟩ := exists_row h hevent
    have hmem : row ∈ later.events.rows := by
      obtain ⟨rest, hrows, -⟩ := hlater
      rw [hrows]
      exact List.mem_append_left _ hrow
    obtain ⟨stored, hstored, hfact⟩ := readEvents_factQuery hmem
      (readable_of_extends h hlater row hmem) (isBoundedIdentifier_val projectId)
      ((columns_of_row hread).1.trans hrun.1)
    have hrowSequence := hread.ids.1
    obtain ⟨found, hfound, rfl⟩ := hread
    obtain rfl := Projections.readsAs_unique hstored hfound
    rw [hrowSequence, hsequence] at hfact
    refine ⟨[stored] :: facts, ?_, ?_⟩
    · rw [List.mapM_cons, hfact, hfacts]
      rfl
    · exact .cons ⟨hrun.1, hrun.2, hid, hsequence⟩ hothers

def RunItem.head (item : RunItem) : Option String × Nat := (some item.runId, item.lastSequence)

theorem runItem_cases (h : Recorded F db log) (hlater : Extends F db later)
    {head : Option String × Nat} {stored : StoredEvent} (hhead : IsHead projectId head stored) :
    (∃ item, runItem F projectId db.lastSequence later.events stored = .ok item ∧
        item.head = head) ∧ Sourced projectId log head.1 ∨
      (∃ e, runItem F projectId db.lastSequence later.events stored = .error e) ∧
        ¬ Sourced projectId log head.1 := by
  obtain ⟨-, hsome, hrun, hsequence⟩ := hhead
  obtain ⟨runId, hrunId⟩ := Option.isSome_iff_exists.mp hsome
  have hid : runIdOf stored.event = runId := by rw [runIdOf, hrunId, Option.getD_some]
  have hkey : some runId.val = head.1 := by rw [← hrun, hrunId, Option.map_some]
  obtain ⟨label, hlabel⟩ := @observation_ok F db later log ⟨projectId, runId⟩ h hlater
  rw [← hkey]
  obtain ⟨⟨origin, horigin⟩, hsourced⟩ | ⟨⟨e, hfails⟩, hunsourced⟩ :=
    @runOrigin_cases F db later log ⟨projectId, runId⟩ h hlater
  · refine Or.inl ⟨⟨⟨runId.val, label, origin, stored.sequence, stored.event.type.val,
      stored.event.data.attemptId.map Subtype.val⟩, ?_, Prod.ext hkey hsequence⟩, hsourced⟩
    simp only [runItem, hid, hlabel, horigin, bind, Except.bind, pure, Except.pure]
  · refine Or.inr ⟨⟨e, ?_⟩, hunsourced⟩
    simp only [runItem, hid, hlabel, hfails, bind, Except.bind]

theorem mapM_runItem (h : Recorded F db log) (hlater : Extends F db later)
    {heads : List (Option String × Nat)} {rows : List StoredEvent}
    (hrows : List.Forall₂ (IsHead projectId) heads rows) :
    (∃ items, rows.mapM (runItem F projectId db.lastSequence later.events) = .ok items ∧
        items.map RunItem.head = heads ∧ ∀ head ∈ heads, Sourced projectId log head.1) ∨
      ∃ e, rows.mapM (runItem F projectId db.lastSequence later.events) = .error e ∧
        ∃ head ∈ heads, ¬ Sourced projectId log head.1 := by
  induction hrows with
  | nil => exact Or.inl ⟨[], rfl, rfl, fun _ hmem => absurd hmem List.not_mem_nil⟩
  | @cons head row heads rows hhead _ ih =>
    rw [List.mapM_cons]
    obtain ⟨⟨item, hitem, hview⟩, hsourced⟩ | ⟨⟨e, hfails⟩, hunsourced⟩ :=
      runItem_cases h hlater hhead
    · rw [hitem]
      obtain ⟨items, hitems, hviews, hothers⟩ | ⟨e, hfails, bad, hbad, hunsourced⟩ := ih
      · refine Or.inl ⟨item :: items, by rw [hitems]; rfl, ?_,
          List.forall_mem_cons.mpr ⟨hsourced, hothers⟩⟩
        rw [List.map_cons, hview, hviews]
      · exact Or.inr ⟨e, by rw [hfails]; rfl, bad, List.mem_cons_of_mem _ hbad, hunsourced⟩
    · exact Or.inr ⟨e, by rw [hfails]; rfl, head, List.mem_cons_self, hunsourced⟩

/-- A cursor stands for the runs below a position under the mark of the first page. -/
def StandsBelow (projectId : EventIdentifier) (db : Database) (log : EventLog)
    (stores : Nat → Database) (k : Nat) (cursor : Option String)
    (rest : List (Option String × Nat)) : Prop :=
  ∃ before, bounds cursor (runScope projectId.val) (stores k).lastSequence =
      .ok (before, db.lastSequence) ∧ before ≤ db.lastSequence ∧
    rest = (logHeads projectId log).filter fun head => head.2 < belowOf before db.lastSequence

theorem runPage_shows (h : Recorded F db log) (hstores : ∀ k, Extends F db (stores k))
    (hlimits : ∀ k, 1 ≤ (limits k).getD defaultPageLimit ∧
      (limits k).getD defaultPageLimit ≤ maxReadPageSize) :
    Pages.Shows (fun k cursor =>
        (runPage F projectId (limits k) (stores k) cursor).map ListingPage.toPage)
      (StandsBelow projectId db log stores) (fun k => (limits k).getD defaultPageLimit)
      RunItem.head (fun head => Sourced projectId log head.1) := by
  rintro k cursor rest ⟨before, hbounds, hbefore, rfl⟩
  set size := (limits k).getD defaultPageLimit with hsize
  set below := belowOf before db.lastSequence with hbelow
  set rest := (logHeads projectId log).filter fun head => head.2 < below with hrest
  have hmem : ∀ head ∈ rest.take size, head ∈ logHeads projectId log :=
    fun head hhead => List.mem_of_mem_filter (List.mem_of_mem_take hhead)
  obtain ⟨facts, hfacts, hheads⟩ := mapM_heads h (hstores k) hmem
  have hlist : listRunHeadsPage F projectId.val before db.lastSequence size (stores k).events =
      .ok facts.flatten := by
    rw [listRunHeadsPage, requireValue, if_pos (hlimits k), runHeads_of_recorded h (hstores k)]
    simp only [bind, Except.bind, ← hbelow, ← hrest, hfacts, pure, Except.pure]
  set rows := facts.flatten with hrows
  have hlength : rows.length = min size rest.length := by
    rw [← hheads.length_eq, List.length_take]
  obtain ⟨items, hitems, hviews, hsourced⟩ | ⟨e, hfails, hunsourced⟩ :=
    mapM_runItem h (hstores k) hheads
  · left
    refine ⟨⟨items, if rows.length = size then
      some (encodeCursor ((rows.getLast?.map StoredEvent.sequence).getD 0) db.lastSequence
        (runScope projectId.val)) else none⟩, ?_, hviews, hsourced, ?_⟩
    · simp only [runPage, hbounds, bind, Except.bind, guarded, ← hsize, hlist, hitems, pure,
        Except.pure, Except.map]
    · by_cases hshort : rest.length < size
      · rw [if_pos hshort]
        exact if_neg (by omega)
      · rw [if_neg hshort]
        refine ⟨_, if_pos (by omega), ?_⟩
        have hpositive : 1 ≤ size := (hlimits k).1
        obtain ⟨last, hlast⟩ : ∃ last, (rest.take size).getLast? = some last := by
          cases hgetLast : (rest.take size).getLast? with
          | some last => exact ⟨last, rfl⟩
          | none =>
            have htake := congrArg List.length (List.getLast?_eq_none_iff.mp hgetLast)
            rw [List.length_take, List.length_nil] at htake
            omega
        have hlastMem := hmem last (List.mem_of_getLast? hlast)
        have hle := logHeads_le h hlastMem
        have hends : rows.getLast?.map StoredEvent.sequence = some last.2 := by
          have hmaps : (rest.take size).map Prod.snd = rows.map StoredEvent.sequence :=
            Fold.map_eq_map_of_forall₂ hheads fun _ _ hhead => hhead.2.2.2.symm
          rw [← List.getLast?_map, ← hmaps, List.getLast?_map, hlast, Option.map_some]
        have hlastPositive : last.2 ≠ 0 := by
          obtain ⟨⟨event, -, -, -, hsequence⟩, -⟩ := mem_logHeads.mp hlastMem
          have := (inRange_iff.mp event.sequence.property).1
          omega
        rw [hends, Option.getD_some]
        refine ⟨last.2, ?_, hle, ?_⟩
        · rw [bounds_encodeCursor hle (hstores (k + 1)).lastSequence_le db.lastSequence_le,
            if_pos (Or.inr rfl)]
        · have hmax : below ≤ db.lastSequence + 1 := by
            rw [hbelow, belowOf]
            split_ifs <;> omega
          rw [belowOf, if_neg hlastPositive]
          exact (filter_below_page (logHeads_descending h) (fun _ => logHeads_le h) hmax hlast).symm
  · right
    refine ⟨e, ?_, hunsourced⟩
    simp only [runPage, hbounds, bind, Except.bind, guarded, ← hsize, hlist, hfails, Except.map]

/-! The listing. -/

/-- Every run of the project with a fact in the log, once, with its latest sequence, the latest
first. -/
structure ListsRuns (projectId : EventIdentifier) (log : EventLog) (items : List RunItem) : Prop where
  runs : ∀ runId, runId ∈ items.map RunItem.runId ↔ ∃ event ∈ log,
    event.data.projectId.val = projectId.val ∧ event.data.runId.map Subtype.val = some runId
  once : (items.map RunItem.runId).Nodup
  latest : ∀ item ∈ items, IsGreatest {n | ∃ event ∈ log,
    event.data.projectId.val = projectId.val ∧
      event.data.runId.map Subtype.val = some item.runId ∧ event.sequence.val = n} item.lastSequence
  descending : items.Pairwise fun a b => b.lastSequence < a.lastSequence

theorem isRunFact_of_some {event : ResearchEvent} {runId : String}
    (h : event.data.runId.map Subtype.val = some runId) :
    isRunFact projectId event = true ↔ event.data.projectId.val = projectId.val := by
  obtain ⟨found, hfound, -⟩ := Option.map_eq_some_iff.mp h
  simp [isRunFact, hfound]

theorem listsRuns_of_heads {items : List RunItem} (h : Recorded F db log)
    (hitems : items.map RunItem.head = logHeads projectId log) : ListsRuns projectId log items := by
  have hmem : ∀ item ∈ items, item.head ∈ logHeads projectId log := by
    intro item hitem
    rw [← hitems]
    exact List.mem_map_of_mem hitem
  constructor
  · intro runId
    rw [List.mem_map]
    constructor
    · rintro ⟨item, hitem, rfl⟩
      obtain ⟨⟨event, hevent, hrun, hid, -⟩, -⟩ := mem_logHeads.mp (hmem item hitem)
      exact ⟨event, hevent, (isRunFact_of_some hid).mp hrun, hid⟩
    · rintro ⟨event, hevent, hproject, hid⟩
      obtain ⟨last, hlast, ⟨hlastRun, hlastId⟩, hgreatest⟩ :=
        exists_latest (p := fun other => isRunFact projectId other = true ∧
          other.data.runId.map Subtype.val = some runId) log
          ⟨event, hevent, (isRunFact_of_some hid).mpr hproject, hid⟩
      have hhead : (some runId, last.sequence.val) ∈ logHeads projectId log :=
        mem_logHeads.mpr ⟨⟨last, hlast, hlastRun, hlastId, rfl⟩,
          fun other hother hrun hsame => hgreatest other hother ⟨hrun, hsame⟩⟩
      rw [← hitems, List.mem_map] at hhead
      obtain ⟨item, hitem, hview⟩ := hhead
      exact ⟨item, hitem, Option.some.inj (congrArg Prod.fst hview)⟩
  · have hnodup : ((items.map RunItem.head).map Prod.fst).Nodup := by
      rw [hitems]
      exact nodup_runs
    rw [List.map_map] at hnodup
    refine List.Nodup.of_map some ?_
    rw [List.map_map]
    exact hnodup
  · intro item hitem
    obtain ⟨⟨event, hevent, hrun, hid, hsequence⟩, hgreatest⟩ := mem_logHeads.mp (hmem item hitem)
    refine ⟨⟨event, hevent, (isRunFact_of_some hid).mp hrun, hid, hsequence⟩, ?_⟩
    rintro n ⟨other, hother, hproject, hsame, rfl⟩
    exact hgreatest other hother ((isRunFact_of_some hsame).mpr hproject) hsame
  · have hdescending := @logHeads_descending F db log projectId h
    rw [← hitems, List.pairwise_map] at hdescending
    exact hdescending

/-- Every run of the project cites, if anything, what a read takes. -/
def CitationsRead (projectId : EventIdentifier) (log : EventLog) : Prop :=
  ∀ event ∈ log, isRunFact projectId event = true →
    Sourced projectId log (event.data.runId.map Subtype.val)

instance (projectId : EventIdentifier) (log : EventLog) : Decidable (CitationsRead projectId log) :=
  inferInstanceAs (Decidable (∀ event ∈ log, _))

theorem citationsRead_iff : CitationsRead projectId log ↔
    ∀ head ∈ logHeads projectId log, Sourced projectId log head.1 := by
  constructor
  · intro h head hhead
    obtain ⟨⟨event, hevent, hrun, hid, -⟩, -⟩ := mem_logHeads.mp hhead
    exact hid ▸ h event hevent hrun
  · intro h event hevent hrun
    obtain ⟨last, hlast, ⟨hlastRun, hlastId⟩, hgreatest⟩ :=
      exists_latest (p := fun other => isRunFact projectId other = true ∧
        other.data.runId.map Subtype.val = event.data.runId.map Subtype.val) log
        ⟨event, hevent, hrun, rfl⟩
    exact h (event.data.runId.map Subtype.val, last.sequence.val)
      (mem_logHeads.mpr ⟨⟨last, hlast, hlastRun, hlastId, rfl⟩,
        fun other hother hotherRun hsame => hgreatest other hother ⟨hotherRun, hsame⟩⟩)

theorem standsBelow_first (h : Recorded F db log) (calls : Nat → List AppendCall) :
    StandsBelow projectId db log (requestStores F db calls) 0 none (logHeads projectId log) := by
  refine ⟨0, rfl, Nat.zero_le _, (List.filter_eq_self.mpr fun head hhead => decide_eq_true ?_).symm⟩
  exact Nat.lt_succ_of_le (logHeads_le h hhead)

/-- The pages show the runs of the frozen prefix, or fail on one. -/
theorem runs_followed (h : Recorded F db log) (calls : Nat → List AppendCall)
    (hlimits : ∀ k, 1 ≤ (limits k).getD defaultPageLimit ∧
      (limits k).getD defaultPageLimit ≤ maxReadPageSize) {fuel : Nat} (hfuel : log.length < fuel) :
    (∃ items, followRuns F projectId limits (requestStores F db calls) fuel 0 none =
        .ok (items, none) ∧ ListsRuns projectId log items) ∧ CitationsRead projectId log ∨
      (∃ e, followRuns F projectId limits (requestStores F db calls) fuel 0 none = .error e) ∧
        ¬ CitationsRead projectId log := by
  have hshows := @runPage_shows F db log projectId limits (requestStores F db calls) h
    requestStores_extends hlimits
  rw [citationsRead_iff]
  obtain ⟨items, hfollow, hviews, hsourced⟩ | ⟨e, hfails, head, hhead, hunsourced⟩ :=
    Pages.follow_shows hshows (fun k => (hlimits k).1) (standsBelow_first h calls)
      (length_logHeads_le.trans_lt hfuel)
  · exact Or.inl ⟨⟨items, hfollow, listsRuns_of_heads h hviews⟩, hsourced⟩
  · exact Or.inr ⟨⟨e, hfails⟩, fun hall => hunsourced (hall head hhead)⟩

def listedProject : EventIdentifier := ⟨"project", .refl true⟩

def runFields (payload : Json.Members) : Json :=
  .obj [("data", .obj [("actor", .obj [("id", .str "operator")]), ("evidenceRefs", .arr []),
    ("experimentRevision", .int 1), ("payload", .obj payload), ("projectId", .str "project"),
    ("runId", .str "run-1"), ("schemaVersion", .str "v0alpha1")]),
    ("datacontenttype", .str "application/json"),
    ("dataschema", .str researchEventSchemaId), ("id", .str "event-1"),
    ("source", .str "urn:trial"), ("specversion", .str "1.0"), ("streamid", .str "stream"),
    ("subject", .str "subject"), ("time", .str "2026-01-01T00:00:00Z"),
    ("type", .str "run.queued")]

def uncitedRun : AppendCall := ⟨⟨runFields [], by decide⟩, .null, .aware trialTime, fun _ => none⟩

def distantRun : AppendCall :=
  ⟨⟨runFields [("authorizationSequence", .int 4294967296)], by decide⟩, .null, .aware trialTime,
    fun _ => none⟩

theorem recorded_run {call : AppendCall} (h : call.commits JsonText.scientific trialStore = true) :
    ∃ db event, EventLog.append [] call.document call.token = .ok event ∧
      Recorded JsonText.scientific db [event] := by
  have hcreated : createSchema (.aware trialTime) = .ok trialStore := rfl
  obtain ⟨event, hadded, hrecorded⟩ := recorded_of_commits (createSchema_recorded hcreated) h
  exact ⟨_, event, hadded, hrecorded⟩

theorem citations_of_append {call : AppendCall} {event : ResearchEvent} {reads : Bool}
    (h : (EventLog.append [] call.document call.token).toOption.map
      (fun event => decide (CitationsRead listedProject [event])) = some reads)
    (hadded : EventLog.append [] call.document call.token = .ok event) :
    CitationsRead listedProject [event] ↔ reads = true := by
  rw [hadded, Except.toOption, Option.map_some, Option.some.injEq] at h
  rw [← h, decide_eq_true_iff]

end ResearchOs.Web
