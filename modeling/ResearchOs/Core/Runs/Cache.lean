import ResearchOs.Canonical
import ResearchOs.Core.Runs.Document
import ResearchOs.Core.Storage.Model

/-! The run snapshot cache: the rows that run control writes and what it reads back from them. -/
namespace ResearchOs.Runs

open JsonText (FloatText)
open Storage (RunProjectionRecord)

/-- The row that `_persist_projection` writes; nothing is written when the JSON cannot be. -/
def projectionRecord (F : FloatText) (p : RunStateProjection) (lastSequence : Nat)
    (snapshot : Option RunSnapshot) : Option RunProjectionRecord :=
  match snapshot with
  | none => some ⟨p.projectId, p.runId, lastSequence, none, none⟩
  | some snapshot => do
    let payload := runSnapshotDocument snapshot
    let text ← legacyCanonicalJson F payload
    let digest ← legacyContentDigest F payload
    some ⟨p.projectId, p.runId, lastSequence, some text, some digest⟩

/-- `_require_cached_snapshot`; `none` where it raises. -/
def requireCachedSnapshot (F : FloatText) (cached : RunProjectionRecord) :
    Option (Option RunSnapshot) :=
  match cached.snapshotJson, cached.snapshotDigest with
  | none, some _ => none
  | none, none => some none
  | some _, none => none
  | some text, some digest =>
    match JsonText.loads F text with
    | some (.obj ms) =>
      if legacyCanonicalJson F (.obj ms) = some text then
        if legacyContentDigest F (.obj ms) = some digest then
          (validateRunSnapshotDocument (.obj ms)).map some
        else none
      else none
    | _ => none

/-- `_cache_row_is_plausible` -/
def cacheRowIsPlausible (F : FloatText) (p : RunStateProjection) (cached : RunProjectionRecord)
    (highWater : Nat) : Bool :=
  if cached.projectId ≠ p.projectId ∨ cached.runId ≠ p.runId then false
  else if cached.lastSequence > highWater ∨ cached.lastSequence < 1 then false
  else
    match requireCachedSnapshot F cached with
    | none => false
    | some none => true
    | some (some snapshot) =>
      if snapshot.projectId ≠ p.projectId ∨ snapshot.runId ≠ p.runId then false
      else decide (snapshot.lastSequence.val ≤ cached.lastSequence ∧
        snapshot.lastSequence.val ≤ highWater)

theorem writable_textDocument {p : String → Bool} (s : Checked p) : Writable (textDocument s) :=
  writable_str s.val

theorem writable_naturalDocument {low high : Nat} (hh : high ≤ cloudEventsIntegerMax)
    (n : Checked (inRange low high)) : Writable (naturalDocument n) :=
  writable_nat (le_trans (inRange_iff.mp n.property).2 hh)

theorem writable_attemptDocument (attempt : AttemptSnapshot) : Writable attempt.document := by
  have hkeys : ["attemptId", "cancellationRequested", "lastEventId", "lastHeartbeatSequence",
      "lastSequence", "ordinal", "retryDecisionId", "retryHint", "retryOf",
      "status"].Pairwise (· < ·) := by decide
  have hn := fun n : SequenceNumber => writable_naturalDocument (le_refl _) n
  refine writable_obj hkeys ?_
  simp only [List.mem_cons, List.not_mem_nil, or_false, forall_eq_or_imp, forall_eq]
  exact ⟨writable_textDocument _, writable_bool _, writable_textDocument _,
    writable_ofOption hn _, hn _, writable_naturalDocument (by decide) _,
    writable_ofOption writable_textDocument _, writable_ofOption (fun _ => writable_str _) _,
    writable_ofOption writable_textDocument _, writable_str _⟩

theorem writable_digestsDocument (digests : RunDigests) : Writable digests.document := by
  have hkeys : ["decisionDigest", "plan", "registry", "spec"].Pairwise (· < ·) := by decide
  obtain ⟨spec, registry, plan, decisionDigest⟩ := digests
  cases decisionDigest with
  | none =>
    refine writable_obj hkeys.tail ?_
    simp [omitted, writable_textDocument]
  | some digest =>
    refine writable_obj hkeys ?_
    simp [omitted, writable_textDocument]

theorem writable_authorizationDocument (authorization : ConsumedAuthorization) :
    Writable authorization.document := by
  have hkeys : ["eventId", "sequence"].Pairwise (· < ·) := by decide
  refine writable_obj hkeys ?_
  simp [writable_textDocument, writable_naturalDocument (le_refl _)]

theorem writable_reviewDocument (review : RunReview) : Writable review.document := by
  have hkeys : ["decisionId", "eventId", "reviewed", "sequence"].Pairwise (· < ·) := by decide
  refine writable_obj hkeys ?_
  simp [writable_bool, writable_ofOption writable_textDocument,
    writable_ofOption (writable_naturalDocument (le_refl cloudEventsIntegerMax))]

theorem writable_attempts (attempts : List AttemptSnapshot) :
    Writable (.arr (attempts.map AttemptSnapshot.document)) := by
  apply writable_arr
  intro v hv
  obtain ⟨attempt, _, rfl⟩ := List.mem_map.mp hv
  exact writable_attemptDocument attempt

theorem omitted_sublist {α : Type} {key : String} {encode : α → Json} (o : Option α) :
    ((omitted key encode o).map Prod.fst).Sublist [key] := by
  cases o with
  | none => exact List.nil_sublist _
  | some a => exact List.Sublist.refl _

theorem writable_runSnapshotDocument (s : RunSnapshot) : Writable (runSnapshotDocument s) := by
  have hkeys : (["activeAttemptId", "apiVersion", "attempts", "cancellationRequested"] ++
      ["consumedAuthorization"] ++ ["digests", "experimentRevision", "kind", "lastEventId",
      "lastSequence", "maxAttempts", "projectId", "review", "runId", "status",
      "workflowId"]).Pairwise (· < ·) := by decide
  have hn := fun n : SequenceNumber => writable_naturalDocument (le_refl _) n
  apply writable_obj
  · refine hkeys.sublist ?_
    simp only [List.map_append]
    exact (List.Sublist.append_left (omitted_sublist s.consumedAuthorization) _).append_right _
  · refine List.forall_mem_append.mpr ⟨List.forall_mem_append.mpr ⟨?_, ?_⟩, ?_⟩
    · simp [writable_str, writable_bool, writable_attempts, writable_ofOption writable_textDocument]
    · cases s.consumedAuthorization with
      | none => simp [omitted]
      | some authorization => simp [omitted, writable_authorizationDocument]
    · simp [writable_str, writable_textDocument, writable_digestsDocument, writable_reviewDocument,
        hn, writable_naturalDocument (show maxAttemptsLimit ≤ cloudEventsIntegerMax by decide)]

/-- The row written for a snapshot decodes to what its document reads back as. -/
theorem requireCachedSnapshot_projectionRecord (F : FloatText) (p : RunStateProjection) (n : Nat)
    (s : RunSnapshot) :
    ∃ row, projectionRecord F p n (some s) = some row ∧ row.projectId = p.projectId ∧
      row.runId = p.runId ∧ row.lastSequence = n ∧
      requireCachedSnapshot F row =
        (validateRunSnapshotDocument (runSnapshotDocument s)).map some := by
  obtain ⟨text, htext, hloads⟩ := (writable_runSnapshotDocument s).legacyCanonicalJson (F := F)
  have hdigest : legacyContentDigest F (runSnapshotDocument s) = some (digestOfText text) := by
    simp [legacyContentDigest, htext]
  refine ⟨⟨p.projectId, p.runId, n, some text, some (digestOfText text)⟩, ?_, rfl, rfl, rfl, ?_⟩
  · simp [projectionRecord, htext, hdigest]
  · unfold requireCachedSnapshot
    simp only [hloads]
    exact (if_pos htext).trans (if_pos hdigest)

/-- What the cache owes to a snapshot reached by folding `events`: its document and its row read
back as the same snapshot, the row is kept, and a resumed fold is the complete fold. -/
structure RoundTrips (F : FloatText) (p : RunStateProjection) (events : List ResearchEvent)
    (s : RunSnapshot) : Prop where
  document : validateRunSnapshotDocument (runSnapshotDocument s) = some s
  resumes : ∀ later : List ResearchEvent, ∃ t,
    validateRunSnapshotDocument (runSnapshotDocument s) = some t ∧
      later.foldlM p.apply (some t) = p.fold (events ++ later)
  kept : ∀ n highWater : Nat, s.lastSequence.val ≤ n → n ≤ highWater →
    ∃ row, projectionRecord F p n (some s) = some row ∧
      requireCachedSnapshot F row = some (some s) ∧
      cacheRowIsPlausible F p row highWater = true

/-- A reached snapshot round trips through the cache exactly when no attempt carries the retry
hint `unknown`. -/
theorem cache_round_trips_iff (F : FloatText) (p : RunStateProjection) (events : List ResearchEvent)
    (s : RunSnapshot) (h : p.fold events = .ok (some s)) :
    RoundTrips F p events s ↔ ∀ a ∈ s.attempts, a.retryHint ≠ some .unknown := by
  have hinvariant := fold_invariant h s rfl
  have hbound := fold_bound h s rfl
  have hvalidate := validate_runSnapshotDocument hinvariant
  constructor
  · intro hround
    by_contra hhints
    have := hround.document
    rw [hvalidate, if_neg hhints] at this
    exact absurd this (by simp)
  · intro hhints
    rw [if_pos hhints] at hvalidate
    refine ⟨hvalidate, ?_, ?_⟩
    · intro later
      refine ⟨s, hvalidate, ?_⟩
      rw [RunStateProjection.fold, List.foldlM_append]
      simp only [RunStateProjection.fold] at h
      rw [h]
      rfl
    · intro n highWater hn hhigh
      obtain ⟨row, hrow, hproject, hrun, hsequence, hread⟩ :=
        requireCachedSnapshot_projectionRecord F p n s
      rw [hvalidate, Option.map_some] at hread
      refine ⟨row, hrow, hread, ?_⟩
      have hpositive := s.lastSequence.pos
      have hrange : row.lastSequence ≤ highWater ∧ row.lastSequence ≠ 0 := by omega
      have hcursor : s.lastSequence.val ≤ row.lastSequence ∧ s.lastSequence.val ≤ highWater := by
        omega
      simp [cacheRowIsPlausible, hproject, hrun, hrange, hread, hbound.1, hbound.2, hcursor]

/-! An attempt that failed with the hint `unknown`. -/

def unknownHintEvents : List ResearchEvent :=
  [trialQueued, trialStarted, trialAttemptQueued,
    lifecycleEvent trialRun ⟨4, .refl true⟩ .attemptFailed (some trialAttemptId)
      [("reasonCode", .str "crash"), ("retryHint", .str "unknown")]]

theorem cache_round_trip_fails :
    ∃ s, trialProjection.fold unknownHintEvents = .ok (some s) ∧
      validateRunSnapshotDocument (runSnapshotDocument s) = none :=
  ⟨_, rfl, rfl⟩

theorem cache_round_trips_iff_trial :
    ∃ s, trialProjection.fold trialEvents = .ok (some s) ∧
      RoundTrips JsonText.scientific trialProjection trialEvents s := by
  refine ⟨_, rfl, ?_⟩
  rw [cache_round_trips_iff JsonText.scientific trialProjection trialEvents _ rfl]
  decide

end ResearchOs.Runs
