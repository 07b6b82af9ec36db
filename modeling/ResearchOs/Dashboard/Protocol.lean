import Mathlib.Data.List.Nodup
import ResearchOs.Dashboard.Store

/-! Every run of writes: revisions, request identities and the revisions that stay readable. -/
namespace ResearchOs.Dashboard

open Retention (Numbered latest)

/-- A write that was applied, and the document it stored. -/
structure Commit (V : View) where
  request : DashboardWrite V
  document : DashboardDocument V

variable {V : View}

def Commit.row (projectId : String) (commit : Commit V) : Row V :=
  ⟨projectId, commit.document.revision, commit.request.requestId,
    Sha256.hexdigest commit.request.encoded, commit.document⟩

/-- The table, with every write that was ever applied to it. -/
structure Tracked (V : View) where
  table : Option (List (Row V))
  commits : List (Commit V)

namespace Tracked

def rows (s : Tracked V) : List (Row V) := s.table.getD []

def start (V : View) : Tracked V := ⟨none, []⟩

def after (projectId : String) (s : Tracked V) (call : WriteCall V) : Tracked V :=
  match write projectId call s.table with
  | .error _ => s
  | .ok (document, rows) =>
    match replayOf projectId call.request.requestId s.rows with
    | some _ => ⟨some rows, s.commits⟩
    | none => ⟨some rows, s.commits ++ [⟨call.request, document⟩]⟩

def run (projectId : String) (calls : List (WriteCall V)) : Tracked V :=
  calls.foldl (after projectId) (start V)

end Tracked

variable {projectId : String} {call : WriteCall V} {rows rows' : List (Row V)}
  {document : DashboardDocument V}

/-! What a write that returns has done. -/

theorem refuseIf_ok {condition : Prop} [Decidable condition] {message : String} {u : Unit} :
    refuseIf condition message = .ok u ↔ ¬ condition := by
  by_cases h : condition <;> simp [refuseIf, h]

theorem execute_ok {statement : Statement} {u : Unit} :
    call.execute statement = .ok u ↔ call.fails statement = false := by
  cases h : call.fails statement <;> simp [WriteCall.execute, h]

theorem decode_ok {body : DashboardDocument V} : decode projectId body = .ok document ↔
    body.encoded.utf8ByteSize ≤ maxBytes ∧ body.projectId = projectId ∧ document = body := by
  simp only [decode, Fold.bind_eq_ok, refuseIf_ok, exists_and_left, exists_const, not_lt, not_not]
  constructor
  · rintro ⟨hsize, hproject, hbody⟩
    cases hbody
    exact ⟨hsize, hproject, rfl⟩
  · rintro ⟨hsize, hproject, rfl⟩
    exact ⟨hsize, hproject, rfl⟩

/-- The row that a write inserts. -/
def insertedRow (projectId : String) (call : WriteCall V) (document : DashboardDocument V) : Row V :=
  ⟨projectId, document.revision, call.request.requestId, Sha256.hexdigest call.request.encoded,
    document⟩

/-- What a write makes of its request on a revision. -/
def written (projectId : String) (call : WriteCall V) (revision : Nat) : DashboardDocument V :=
  ⟨projectId, revision + 1, call.request.state, call.request.author, call.request.authorKind,
    some call.now⟩

structure Applied (projectId : String) (call : WriteCall V) (rows : List (Row V))
    (document : DashboardDocument V) (rows' : List (Row V)) : Prop where
  fresh : replayOf projectId call.request.requestId rows = none
  current : ∃ current, currentDocument projectId rows = .ok current ∧
    call.request.expectedRevision = current.revision ∧
    document = written projectId call current.revision
  rows : rows' = (rows ++ [insertedRow projectId call document]).filter fun row =>
    ¬ (row.project = projectId ∧ row.revision + keptRevisions ≤ document.revision)

structure Replayed (projectId : String) (call : WriteCall V) (rows : List (Row V))
    (document : DashboardDocument V) (rows' : List (Row V)) : Prop where
  found : ∃ replay, replayOf projectId call.request.requestId rows = some replay ∧
    replay.digest = Sha256.hexdigest call.request.encoded ∧
    decode projectId replay.body = .ok document
  rows : rows' = rows

theorem insertRow_ok {row : Row V} (h : insertRow row rows = .ok rows') : rows' = rows ++ [row] := by
  unfold insertRow at h
  split_ifs at h
  cases h
  rfl

theorem writeRows_cases (h : writeRows projectId call rows = .ok (document, rows')) :
    Replayed projectId call rows document rows' ∨ Applied projectId call rows document rows' := by
  obtain ⟨_, _, h⟩ := Fold.bind_eq_ok.mp h
  obtain ⟨_, _, h⟩ := Fold.bind_eq_ok.mp h
  obtain ⟨_, _, h⟩ := Fold.bind_eq_ok.mp h
  cases hreplay : replayOf projectId call.request.requestId rows with
  | some replay =>
    left
    rw [hreplay] at h
    obtain ⟨_, hdigest, h⟩ := Fold.bind_eq_ok.mp h
    obtain ⟨_, hdecode, h⟩ := Fold.bind_eq_ok.mp h
    obtain ⟨_, _, h⟩ := Fold.bind_eq_ok.mp h
    cases h
    exact ⟨⟨replay, hreplay, not_not.mp (refuseIf_ok.mp hdigest), hdecode⟩, rfl⟩
  | none =>
    right
    rw [hreplay] at h
    obtain ⟨_, _, h⟩ := Fold.bind_eq_ok.mp h
    obtain ⟨current, hcurrent, h⟩ := Fold.bind_eq_ok.mp h
    obtain ⟨_, hexpected, h⟩ := Fold.bind_eq_ok.mp h
    obtain ⟨_, _, h⟩ := Fold.bind_eq_ok.mp h
    obtain ⟨_, _, h⟩ := Fold.bind_eq_ok.mp h
    obtain ⟨inserted, hinserted, h⟩ := Fold.bind_eq_ok.mp h
    obtain ⟨_, _, h⟩ := Fold.bind_eq_ok.mp h
    obtain ⟨_, _, h⟩ := Fold.bind_eq_ok.mp h
    cases h
    refine ⟨hreplay, ⟨current, hcurrent, not_not.mp (refuseIf_ok.mp hexpected), rfl⟩, ?_⟩
    rw [insertRow_ok hinserted]
    rfl

theorem write_cases {table : Option (List (Row V))}
    (h : write projectId call table = .ok (document, rows')) :
    call.request.projectId = projectId ∧
      call.request.encoded.utf8ByteSize ≤ maxBytes - 1024 ∧
      (Replayed projectId call (table.getD []) document rows' ∨
        Applied projectId call (table.getD []) document rows') := by
  obtain ⟨_, hproject, h⟩ := Fold.bind_eq_ok.mp h
  obtain ⟨_, hsize, h⟩ := Fold.bind_eq_ok.mp h
  obtain ⟨_, _, h⟩ := Fold.bind_eq_ok.mp h
  exact ⟨not_not.mp (refuseIf_ok.mp hproject), not_lt.mp (refuseIf_ok.mp hsize), writeRows_cases h⟩

/-! What the table holds of the writes that were applied to it. -/

structure Held (projectId : String) (s : Tracked V) : Prop where
  numbered : Numbered (fun commit : Commit V => commit.document.revision) s.commits
  expected : ∀ commit ∈ s.commits,
    commit.request.expectedRevision + 1 = commit.document.revision
  accepted : ∀ commit ∈ s.commits, commit.request.projectId = projectId ∧
    commit.request.encoded.utf8ByteSize ≤ maxBytes - 1024
  decodes : ∀ commit ∈ s.commits, decode projectId commit.document = .ok commit.document
  rows : s.rows = latest keptRevisions (s.commits.map (Commit.row projectId))
  identities : ((latest keptRevisions s.commits).map fun commit =>
    commit.request.requestId).Nodup

theorem of_replayOf {requestId : String} {row : Row V}
    (h : replayOf projectId requestId rows = some row) :
    row ∈ rows ∧ row.project = projectId ∧ row.request = requestId := by
  unfold replayOf at h
  exact ⟨List.mem_of_find?_eq_some h, by simpa using List.find?_some h⟩

theorem latest_map {α β : Type} (f : α → β) (n : Nat) (xs : List α) :
    latest n (xs.map f) = (latest n xs).map f := by
  rw [latest, latest, List.length_map, List.map_drop]

variable {s : Tracked V}

namespace Held

theorem numberedRows (h : Held projectId s) :
    Numbered Row.revision (s.commits.map (Commit.row projectId)) := by
  unfold Numbered
  rw [List.map_map, List.length_map]
  exact h.numbered

theorem project_of_mem (h : Held projectId s) {row : Row V} (hrow : row ∈ s.rows) :
    row.project = projectId := by
  rw [h.rows, latest_map] at hrow
  obtain ⟨commit, -, rfl⟩ := List.mem_map.mp hrow
  rfl

theorem newest (h : Held projectId s) :
    newest projectId s.rows = (s.commits.getLast?).map (Commit.row projectId) := by
  have hall : s.rows.filter (fun row => row.project = projectId) = s.rows :=
    List.filter_eq_self.mpr fun row hrow => decide_eq_true (h.project_of_mem hrow)
  rw [Dashboard.newest, hall, h.rows, h.numberedRows.argmax_latest (by decide), List.getLast?_map]

theorem current (h : Held projectId s) : ∃ current,
    currentDocument projectId s.rows = .ok current ∧ current.revision = s.commits.length ∧
      (s.commits.getLast?.map Commit.document).getD (.initial V projectId) = current := by
  unfold currentDocument
  rw [h.newest]
  cases hlast : s.commits.getLast? with
  | none =>
    rw [List.getLast?_eq_none_iff.mp hlast]
    exact ⟨_, rfl, rfl, rfl⟩
  | some commit =>
    refine ⟨commit.document, h.decodes commit (List.mem_of_getLast? hlast), ?_, rfl⟩
    obtain ⟨front, hfront⟩ := List.getLast?_eq_some_iff.mp hlast
    have hnumbered := h.numbered
    rw [hfront, Retention.numbered_concat] at hnumbered
    rw [hfront, hnumbered.2, List.length_append, List.length_singleton]

/-- The row of a request identity is that of the one retained write that bears it. -/
theorem replayOf_eq (h : Held projectId s) {requestId : String} {row : Row V} :
    replayOf projectId requestId s.rows = some row ↔
      ∃ commit ∈ latest keptRevisions s.commits,
        commit.request.requestId = requestId ∧ commit.row projectId = row := by
  have hrows : s.rows = (latest keptRevisions s.commits).map (Commit.row projectId) := by
    rw [h.rows, latest_map]
  constructor
  · intro hfound
    obtain ⟨hmem, -, hsame⟩ := of_replayOf hfound
    rw [hrows] at hmem
    obtain ⟨commit, hcommit, rfl⟩ := List.mem_map.mp hmem
    exact ⟨commit, hcommit, hsame, rfl⟩
  · rintro ⟨commit, hcommit, rfl, rfl⟩
    cases hfound : replayOf projectId commit.request.requestId s.rows with
    | none =>
      have hmem : commit.row projectId ∈ s.rows := by
        rw [hrows]
        exact List.mem_map_of_mem hcommit
      have hnone := List.find?_eq_none.mp hfound _ hmem
      exact absurd (decide_eq_true ⟨rfl, rfl⟩) hnone
    | some row =>
      obtain ⟨hmem, -, hsame⟩ := of_replayOf hfound
      rw [hrows] at hmem
      obtain ⟨other, hother, rfl⟩ := List.mem_map.mp hmem
      rw [List.inj_on_of_nodup_map h.identities hother hcommit hsame]

end Held

/-- A replay leaves everything as it is. -/
theorem after_of_replayed (hwrite : write projectId call s.table = .ok (document, rows'))
    (h : Replayed projectId call s.rows document rows') : s.after projectId call = s := by
  obtain ⟨replay, hfound, -, -⟩ := h.found
  have htable : s.table = some rows' := by
    rw [h.rows]
    cases htable : s.table with
    | none =>
      rw [Tracked.rows, htable] at hfound
      cases hfound
    | some rows => rw [Tracked.rows, htable, Option.getD_some]
  rw [Tracked.after, hwrite]
  simp only [hfound]
  rw [← htable]

theorem after_of_applied (hwrite : write projectId call s.table = .ok (document, rows'))
    (h : Applied projectId call s.rows document rows') :
    s.after projectId call = ⟨some rows', s.commits ++ [⟨call.request, document⟩]⟩ := by
  rw [Tracked.after, hwrite]
  simp only [h.fresh]

theorem held_applied (h : Held projectId s)
    (hproject : call.request.projectId = projectId)
    (hsize : call.request.encoded.utf8ByteSize ≤ maxBytes - 1024)
    (happlied : Applied projectId call s.rows document rows') :
    Held projectId ⟨some rows', s.commits ++ [⟨call.request, document⟩]⟩ := by
  obtain ⟨current, hcurrent, hrevision, -⟩ := h.current
  obtain ⟨current', hcurrent', hexpected, rfl⟩ := happlied.current
  rw [hcurrent] at hcurrent'
  cases hcurrent'
  have hnumbered : Numbered (fun commit : Commit V => commit.document.revision)
      (s.commits ++ [⟨call.request, written projectId call current.revision⟩]) :=
    Retention.numbered_concat.mpr ⟨h.numbered, by rw [← hrevision]; rfl⟩
  have hfits : (written projectId call current.revision).encoded.utf8ByteSize ≤ maxBytes := by
    have hle := encoded_le projectId call.request call.now hproject
    rw [hexpected] at hle
    have hmax : maxBytes - 1024 + 1024 = maxBytes := by decide
    unfold written
    omega
  refine ⟨hnumbered, ?_, ?_, ?_, ?_, ?_⟩
  · intro commit hcommit
    obtain hcommit | hcommit := List.mem_append.mp hcommit
    · exact h.expected commit hcommit
    · rw [List.mem_singleton.mp hcommit]
      exact congrArg Nat.succ hexpected
  · intro commit hcommit
    obtain hcommit | hcommit := List.mem_append.mp hcommit
    · exact h.accepted commit hcommit
    · rw [List.mem_singleton.mp hcommit]
      exact ⟨hproject, hsize⟩
  · intro commit hcommit
    obtain hcommit | hcommit := List.mem_append.mp hcommit
    · exact h.decodes commit hcommit
    · rw [List.mem_singleton.mp hcommit]
      exact decode_ok.mpr ⟨hfits, rfl, rfl⟩
  · have hall : ∀ row ∈ s.rows ++ [insertedRow projectId call (written projectId call
        current.revision)], row.project = projectId := by
      intro row hrow
      obtain hrow | hrow := List.mem_append.mp hrow
      · exact h.project_of_mem hrow
      · rw [List.mem_singleton.mp hrow]
        rfl
    have hrowNumbers : Numbered Row.revision (s.commits.map (Commit.row projectId) ++
        [insertedRow projectId call (written projectId call current.revision)]) := by
      refine Retention.numbered_concat.mpr ⟨h.numberedRows, ?_⟩
      rw [List.length_map, ← hrevision]
      rfl
    have hcut : rows' = (s.rows ++ [insertedRow projectId call (written projectId call
        current.revision)]).filter fun row => (insertedRow projectId call (written projectId call
          current.revision)).revision < row.revision + keptRevisions := by
      rw [happlied.rows]
      refine List.filter_congr fun row hrow => ?_
      have hrowProject := hall row hrow
      refine decide_eq_decide.mpr ⟨fun hkept => ?_, fun hkept hgone => ?_⟩
      · exact not_le.mp fun hle => hkept ⟨hrowProject, hle⟩
      · exact absurd hgone.2 (not_le.mpr hkept)
    change rows' = _
    rw [hcut, h.rows, hrowNumbers.latest_concat (by decide), List.map_append]
    rfl
  · have hsub : (latest keptRevisions (s.commits ++
        [⟨call.request, written projectId call current.revision⟩])).Sublist
          (latest keptRevisions s.commits ++
            [⟨call.request, written projectId call current.revision⟩]) := by
      rw [← hnumbered.latest_concat (n := keptRevisions) (by decide)]
      exact List.filter_sublist
    refine List.Nodup.sublist (hsub.map fun commit => commit.request.requestId) ?_
    rw [List.map_append, List.nodup_append]
    refine ⟨h.identities, List.nodup_singleton _, fun id hid id' hid' => ?_⟩
    obtain ⟨commit, hcommit, rfl⟩ := List.mem_map.mp hid
    rw [List.mem_singleton.mp hid']
    intro hsame
    have hfound := h.replayOf_eq.mpr ⟨commit, hcommit, hsame, rfl⟩
    rw [happlied.fresh] at hfound
    cases hfound

/-- A write leaves the table alone, or adds one revision to it. -/
theorem after_cases (h : Held projectId s) (call : WriteCall V) :
    s.after projectId call = s ∨
      (∃ document, (s.after projectId call).commits = s.commits ++ [⟨call.request, document⟩]) ∧
        call.request.expectedRevision = s.commits.length ∧
        (∀ commit ∈ latest keptRevisions s.commits,
          commit.request.requestId ≠ call.request.requestId) ∧
        Held projectId (s.after projectId call) := by
  cases hwrite : write projectId call s.table with
  | error e =>
    left
    rw [Tracked.after, hwrite]
  | ok result =>
    obtain ⟨document, rows'⟩ := result
    obtain ⟨hproject, hsize, hreplayed | happlied⟩ := write_cases hwrite
    · exact Or.inl (after_of_replayed hwrite hreplayed)
    · right
      rw [after_of_applied hwrite happlied]
      obtain ⟨current, hcurrent, hrevision, -⟩ := h.current
      obtain ⟨current', hcurrent', hexpected, -⟩ := happlied.current
      have hsame : current = current' := Except.ok.inj (hcurrent.symm.trans hcurrent')
      refine ⟨⟨document, rfl⟩, ?_, ?_, held_applied h hproject hsize happlied⟩
      · rw [hexpected, ← hsame, hrevision]
      · intro commit hcommit hid
        have hfound := h.replayOf_eq.mpr ⟨commit, hcommit, hid, rfl⟩
        have hfresh : replayOf projectId call.request.requestId s.rows = none := happlied.fresh
        rw [hfresh] at hfound
        cases hfound

theorem held_run (projectId : String) (calls : List (WriteCall V)) :
    Held projectId (Tracked.run projectId calls) := by
  induction calls using List.reverseRecOn with
  | nil =>
    have hnone : ∀ commit ∈ (Tracked.run (V := V) projectId []).commits, False :=
      fun commit hcommit => absurd hcommit List.not_mem_nil
    exact ⟨rfl, fun commit hcommit => (hnone commit hcommit).elim,
      fun commit hcommit => (hnone commit hcommit).elim,
      fun commit hcommit => (hnone commit hcommit).elim, rfl, List.nodup_nil⟩
  | append_singleton calls call ih =>
    have hlast : Tracked.run projectId (calls ++ [call]) =
        (Tracked.run projectId calls).after projectId call := by
      rw [Tracked.run, List.foldl_append]
      rfl
    rw [hlast]
    obtain hsame | ⟨-, -, -, hheld⟩ := after_cases ih call
    · rw [hsame]
      exact ih
    · exact hheld

/-! The protocol. -/

/-- The write would name a retained write of another content. -/
def reusesIdentity (s : Tracked V) (request : DashboardWrite V) : Prop :=
  ∃ commit ∈ latest keptRevisions s.commits, commit.request.requestId = request.requestId ∧
    Sha256.hexdigest commit.request.encoded ≠ Sha256.hexdigest request.encoded

structure Protocol (projectId : String) (s : Tracked V) : Prop where
  revisions : s.commits.map (fun commit => commit.document.revision) =
    List.range' 1 s.commits.length
  advances : ∀ call, s.after projectId call = s ∨
    (∃ document, (s.after projectId call).commits = s.commits ++ [⟨call.request, document⟩]) ∧
      call.request.expectedRevision = s.commits.length
  stale : ∀ call : WriteCall V, call.request.expectedRevision ≠ s.commits.length →
    s.after projectId call = s
  identities : ((latest keptRevisions s.commits).map fun commit =>
    commit.request.requestId).Nodup
  reused : ∀ call : WriteCall V, reusesIdentity s call.request →
    (∃ e, write projectId call s.table = .error e) ∧ s.after projectId call = s
  retried : ∀ commit ∈ s.commits, ∀ call : WriteCall V, call.request = commit.request →
    s.after projectId call = s
  replayed : ∀ commit ∈ latest keptRevisions s.commits, ∀ call : WriteCall V,
    call.request = commit.request → (∀ statement, call.fails statement = false) →
      write projectId call s.table = .ok (commit.document, s.rows)
  readable : ∀ commit ∈ s.commits, s.commits.length < commit.document.revision + keptRevisions →
    read projectId (some commit.document.revision) s.table = .ok commit.document
  pruned : ∀ revision, revision ≠ 0 →
    revision + keptRevisions ≤ s.commits.length ∨ s.commits.length < revision →
      read projectId (some revision) s.table = .error (.refused "revision unavailable")
  newest : read projectId none s.table =
    .ok ((s.commits.getLast?.map Commit.document).getD (.initial V projectId))

theorem Held.retried (h : Held projectId s) {commit : Commit V} (hcommit : commit ∈ s.commits)
    (hsame : call.request = commit.request) : s.after projectId call = s := by
  obtain hafter | ⟨-, hexpected, hfresh, -⟩ := after_cases h call
  · exact hafter
  · -- The request expects the revision before its own, which only the newest write leaves current.
    have hrevision := h.expected commit hcommit
    have hle := h.numbered.le_length hcommit
    rw [hsame] at hexpected
    omega

theorem Held.replayed (h : Held projectId s) {commit : Commit V}
    (hcommit : commit ∈ latest keptRevisions s.commits) (hsame : call.request = commit.request)
    (hfails : ∀ statement, call.fails statement = false) :
    write projectId call s.table = .ok (commit.document, s.rows) := by
  obtain ⟨hproject, hsize⟩ := h.accepted commit (Retention.mem_latest hcommit)
  have hfound : replayOf projectId call.request.requestId (s.table.getD []) =
      some (commit.row projectId) := by
    refine h.replayOf_eq.mpr ⟨commit, hcommit, ?_, rfl⟩
    rw [hsame]
  have hexecute : ∀ statement, call.execute statement = .ok () :=
    fun statement => execute_ok.mpr (hfails statement)
  have hmatch : (refuseIf ((commit.row projectId).digest ≠ Sha256.hexdigest call.request.encoded)
      "request identity reused") = .ok () := by
    rw [hsame]
    exact refuseIf_ok.mpr (not_not.mpr rfl)
  have hdecode : decode projectId (commit.row projectId).body = .ok commit.document :=
    h.decodes commit (Retention.mem_latest hcommit)
  have hforeign : refuseIf (call.request.projectId ≠ projectId) "foreign project" = .ok () := by
    rw [hsame]
    exact refuseIf_ok.mpr (not_not.mpr hproject)
  have hlimit : refuseIf (maxBytes - 1024 < call.request.encoded.utf8ByteSize)
      "view document exceeds limit" = .ok () := by
    rw [hsame]
    exact refuseIf_ok.mpr (not_lt.mpr hsize)
  simp only [write, hforeign, hlimit, hexecute, writeRows, hfound, hmatch, hdecode]
  rfl

theorem Held.reused (h : Held projectId s) (hreused : reusesIdentity s call.request) :
    ∃ e, write projectId call s.table = .error e := by
  obtain ⟨commit, hcommit, hid, hdigest⟩ := hreused
  have hfound := h.replayOf_eq.mpr ⟨commit, hcommit, hid, rfl⟩
  cases hwrite : write projectId call s.table with
  | error e => exact ⟨e, rfl⟩
  | ok result =>
    obtain ⟨document, rows'⟩ := result
    obtain ⟨-, -, hreplayed | happlied⟩ := write_cases hwrite
    · obtain ⟨replay, hreplay, hsame, -⟩ := hreplayed.found
      have hrow : commit.row projectId = replay := Option.some.inj (hfound.symm.trans hreplay)
      rw [← hrow] at hsame
      exact absurd hsame hdigest
    · have hfresh : replayOf projectId call.request.requestId s.rows = none := happlied.fresh
      rw [hfresh] at hfound
      cases hfound

/-- A revision is found if it was written and is among the latest. -/
theorem Held.read_some (h : Held projectId s) {revision : Nat} (hrevision : revision ≠ 0) :
    (∃ commit ∈ latest keptRevisions s.commits, commit.document.revision = revision ∧
        read projectId (some revision) s.table = .ok commit.document) ∨
      (∀ commit ∈ latest keptRevisions s.commits, commit.document.revision ≠ revision) ∧
        read projectId (some revision) s.table = .error (.refused "revision unavailable") := by
  obtain ⟨before, rfl⟩ := Nat.exists_eq_succ_of_ne_zero hrevision
  have hrows : s.rows = (latest keptRevisions s.commits).map (Commit.row projectId) := by
    rw [h.rows, latest_map]
  cases hfound : s.rows.find? fun row => row.project = projectId ∧ row.revision = before + 1 with
  | none =>
    right
    refine ⟨fun commit hcommit hsame => ?_, ?_⟩
    · have hmem : commit.row projectId ∈ s.rows := by
        rw [hrows]
        exact List.mem_map_of_mem hcommit
      exact absurd (decide_eq_true ⟨rfl, hsame⟩) (List.find?_eq_none.mp hfound _ hmem)
    · cases htable : s.table with
      | none => rfl
      | some rows =>
        rw [Tracked.rows, htable] at hfound
        simp only [Option.getD_some] at hfound
        simp only [read, hfound]
  | some row =>
    left
    have hmem := List.mem_of_find?_eq_some hfound
    have hsame : row.project = projectId ∧ row.revision = before + 1 := by
      simpa using List.find?_some hfound
    rw [hrows] at hmem
    obtain ⟨commit, hcommit, rfl⟩ := List.mem_map.mp hmem
    refine ⟨commit, hcommit, hsame.2, ?_⟩
    cases htable : s.table with
    | none =>
      rw [Tracked.rows, htable] at hfound
      cases hfound
    | some rows =>
      rw [Tracked.rows, htable] at hfound
      simp only [Option.getD_some] at hfound
      simp only [read, hfound]
      exact h.decodes commit (Retention.mem_latest hcommit)

theorem Held.protocol (h : Held projectId s) : Protocol projectId s := by
  refine ⟨h.numbered, ?_, ?_, h.identities, ?_, fun commit hcommit call => h.retried hcommit,
    fun commit hcommit call => h.replayed hcommit, ?_, ?_, ?_⟩
  · intro call
    obtain hsame | ⟨hcommits, hexpected, -, -⟩ := after_cases h call
    · exact Or.inl hsame
    · exact Or.inr ⟨hcommits, hexpected⟩
  · intro call hstale
    obtain hsame | ⟨-, hexpected, -, -⟩ := after_cases h call
    · exact hsame
    · exact absurd hexpected hstale
  · intro call hreused
    obtain ⟨e, hwrite⟩ := h.reused hreused
    refine ⟨⟨e, hwrite⟩, ?_⟩
    rw [Tracked.after, hwrite]
  · intro commit hcommit hkept
    have hlatest := h.numbered.mem_latest_iff.mpr ⟨hcommit, hkept⟩
    have hpositive : commit.document.revision ≠ 0 := by
      have := h.expected commit hcommit
      omega
    obtain ⟨other, hother, hsame, hread⟩ | ⟨hnone, -⟩ := h.read_some hpositive
    · have hnodup : (s.commits.map fun commit => commit.document.revision).Nodup := by
        rw [h.numbered]
        exact List.nodup_range'
      have hdocument : other.document = commit.document :=
        congrArg Commit.document
          (List.inj_on_of_nodup_map hnodup (Retention.mem_latest hother) hcommit hsame)
      rw [← hdocument]
      exact hsame ▸ hread
    · exact absurd rfl (hnone commit hlatest)
  · intro revision hrevision hgone
    obtain ⟨commit, hcommit, rfl, -⟩ | ⟨-, hread⟩ := h.read_some hrevision
    · have hkept := h.numbered.mem_latest_iff.mp hcommit
      have hle := h.numbered.le_length hkept.1
      omega
    · exact hread
  · obtain ⟨current, hcurrent, -, hnewest⟩ := h.current
    rw [hnewest]
    cases htable : s.table with
    | none =>
      rw [Tracked.rows, htable] at hcurrent
      exact hcurrent
    | some rows =>
      rw [Tracked.rows, htable] at hcurrent
      exact hcurrent

/-- The write protocol, after any interleaving of writes. -/
theorem write_protocol (projectId : String) (calls : List (WriteCall V)) :
    Protocol projectId (Tracked.run projectId calls) :=
  (held_run projectId calls).protocol

def plainView : View := ⟨Unit, (), fun _ _ _ => .ok (), fun _ => "\x7b\x7d", fun text => text⟩

def trialWrite (requestId : String) (expectedRevision : Nat) : WriteCall plainView :=
  ⟨⟨"project", requestId, expectedRevision, "operator", true, (), none⟩,
    ⟨"2026-01-01T00:00:00+00:00", by decide +kernel⟩, fun _ => false⟩

example : (Tracked.run "project" [trialWrite "a" 0, trialWrite "b" 0, trialWrite "c" 1,
    trialWrite "a" 0]).commits.map (fun commit => commit.request.requestId) = ["a", "c"] := by
  decide +kernel

end ResearchOs.Dashboard
