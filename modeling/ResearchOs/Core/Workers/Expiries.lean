import ResearchOs.Core.Workers.Timestamps

/-! When the expiry of a lease or a grant can be read back, and how two of them compare. -/
namespace ResearchOs.Workers

open JsonText (FloatText)
open Storage (EventLog)

/-! The instants that timestamps denote, with all their digits. -/

/-- In microseconds; no digit of the fraction is cut off. -/
def denotedFields (t : Rfc3339) : ℚ :=
  ((microsecondsPerDay * dayOrdinal t.year t.month t.day +
    1000000 * (60 * (60 * t.hour + t.minute - t.offset) + t.second) : Int) : ℚ) +
    (1000000 * Nat.ofDigitChars 10 t.fraction 0 : Nat) / (10 ^ t.fraction.length : Nat)

def denoted (value : Rfc3339Timestamp) : ℚ :=
  match parseRfc3339Fields value.val with
  | some t => denotedFields t
  | none => 0

/-- A UTC datetime can hold the instant: it lies in the years 1 to 9999. -/
def UtcHolds (value : Rfc3339Timestamp) : Prop :=
  (microsecondsPerDay : ℚ) ≤ denoted value ∧ denoted value < (microsecondsPerDay * 3652060 : Int)

instance (value : Rfc3339Timestamp) : Decidable (UtcHolds value) :=
  inferInstanceAs (Decidable (_ ∧ _))

variable {a b value : Rfc3339Timestamp} {fraction : List Char} {F : FloatText}
  {projectId : EventIdentifier} {fold next : WorkerFold} {event : ResearchEvent}
  {log : List ResearchEvent} {taskId attemptId : EventIdentifier} {now : Instant}
  {leases : List LeaseRecord} {lease : LeaseRecord}

theorem fractionMicroseconds_eq (h : ∀ c ∈ fraction, c.isDigit = true) :
    fractionMicroseconds fraction =
      1000000 * Nat.ofDigitChars 10 fraction 0 / 10 ^ fraction.length := by
  set padded := fraction ++ List.replicate 6 '0' with hpadded
  have hvalue : Nat.ofDigitChars 10 padded 0 = 1000000 * Nat.ofDigitChars 10 fraction 0 := by
    rw [hpadded, Nat.ofDigitChars_append, Nat.ofDigitChars_replicate_zero]
  have hdigits : ∀ c ∈ padded.drop 6, c.isDigit = true := by
    intro c hc
    rcases List.mem_append.mp (List.mem_of_mem_drop hc) with hc | hc
    · exact h c hc
    · rw [List.eq_of_mem_replicate hc]
      decide
  have hlength : (padded.drop 6).length = fraction.length := by simp [hpadded]
  have hlow := Text.ofDigitChars_lt hdigits 0
  rw [hlength, Nat.zero_add, Nat.one_mul] at hlow
  have hsplit : Nat.ofDigitChars 10 padded 0 = 10 ^ fraction.length *
      Nat.ofDigitChars 10 (padded.take 6) 0 + Nat.ofDigitChars 10 (padded.drop 6) 0 := by
    rw [← hlength, ← Nat.ofDigitChars_eq_ofDigitChars_zero, ← Nat.ofDigitChars_append,
      List.take_append_drop]
  rw [fractionMicroseconds, ← hvalue, hsplit, Nat.mul_add_div (Nat.pow_pos (by decide)),
    Nat.div_eq_of_lt hlow, Nat.add_zero]

/-- The datetime that is read is the whole microsecond below the instant. -/
theorem floor_denotedFields (t : Rfc3339) (h : ∀ c ∈ t.fraction, c.isDigit = true) :
    ⌊denotedFields t⌋ = t.instant := by
  rw [denotedFields, Int.floor_intCast_add, Rat.floor_natCast_div_natCast, ← Int.natCast_ediv,
    ← fractionMicroseconds_eq h]
  rfl

theorem digits_of_takeFraction {cs rest : List Char} (h : takeFraction cs = some (fraction, rest)) :
    ∀ c ∈ fraction, c.isDigit = true := by
  unfold takeFraction at h
  split at h
  · split_ifs at h
    cases h
    exact fun c hc => List.mem_takeWhile_imp hc
  · cases h
    exact fun c hc => absurd hc List.not_mem_nil

theorem floor_denoted : ⌊denoted value⌋ = value.instant := by
  rw [denoted, Rfc3339Timestamp.instant]
  cases hfields : parseRfc3339Fields value.val with
  | none => rfl
  | some t =>
    refine floor_denotedFields t ?_
    obtain ⟨_, _, _, _, _, _, _, -, -, -, -, -, -, hfraction, -, -⟩ := parseRfc3339Fields_some hfields
    exact digits_of_takeFraction hfraction

theorem utcHolds_iff : UtcHolds value ↔ isUtcInstant value.instant = true := by
  rw [isUtcInstant, decide_eq_true_iff, ← floor_denoted, UtcHolds, Int.le_floor, Int.floor_lt]

theorem parseRfc3339Text_ok {i : Instant} :
    parseRfc3339Text value.val = .ok i ↔ UtcHolds value ∧ i = ⌊denoted value⌋ := by
  rw [parseRfc3339Text_val, parseRfc3339, utcHolds_iff, floor_denoted]
  split_ifs with h
  · simp [h, eq_comm]
  · simp [h]

/-- Both timestamps are read, and the values order as the instants they denote. -/
def Agree (a b : Rfc3339Timestamp) : Prop :=
  ∃ i j, parseRfc3339Text a.val = .ok i ∧ parseRfc3339Text b.val = .ok j ∧
    (i < j ↔ denoted a < denoted b) ∧ (j < i ↔ denoted b < denoted a)

theorem floor_order {x y : ℚ} : ((⌊x⌋ < ⌊y⌋ ↔ x < y) ∧ (⌊y⌋ < ⌊x⌋ ↔ y < x)) ↔
    (x = y ∨ ⌊x⌋ ≠ ⌊y⌋) := by
  constructor
  · rintro ⟨hlt, hgt⟩
    rw [or_iff_not_imp_left]
    intro hne hsame
    rcases lt_or_gt_of_ne hne with h | h
    · exact absurd (hlt.mpr h) (by rw [hsame]; exact lt_irrefl _)
    · exact absurd (hgt.mpr h) (by rw [hsame]; exact lt_irrefl _)
  · rintro (rfl | hne)
    · simp
    · have hmono : ∀ {x y : ℚ}, ⌊x⌋ ≠ ⌊y⌋ → (⌊x⌋ < ⌊y⌋ ↔ x < y) := by
        intro x y hne
        refine ⟨fun h => ?_, fun h => lt_of_le_of_ne (Int.floor_le_floor h.le) hne⟩
        by_contra hle
        exact absurd (Int.floor_le_floor (not_lt.mp hle)) (not_le.mpr h)
      exact ⟨hmono hne, hmono hne.symm⟩

theorem agree_iff : Agree a b ↔ UtcHolds a ∧ UtcHolds b ∧
    (denoted a = denoted b ∨ ⌊denoted a⌋ ≠ ⌊denoted b⌋) := by
  rw [← floor_order, Agree]
  simp only [parseRfc3339Text_ok]
  constructor
  · rintro ⟨i, j, ⟨ha, rfl⟩, ⟨hb, rfl⟩, horder⟩
    exact ⟨ha, hb, horder⟩
  · rintro ⟨ha, hb, horder⟩
    exact ⟨_, _, ⟨ha, rfl⟩, ⟨hb, rfl⟩, horder⟩

/-! The lookup of a live lease. -/

theorem parseRfc3339_of_utcHolds (h : UtcHolds value) : parseRfc3339 value = .ok value.instant :=
  if_pos (utcHolds_iff.mp h)

theorem parseRfc3339_overflow (h : ¬ UtcHolds value) : parseRfc3339 value = .error .overflow :=
  if_neg fun hutc => h (utcHolds_iff.mpr hutc)

theorem activeLease_ok (h : ∀ lease ∈ leases, lease.unsettled → UtcHolds lease.expiresAt) :
    ∃ active, activeLease taskId attemptId now leases = .ok active := by
  induction leases with
  | nil => exact ⟨none, rfl⟩
  | cons item leases ih =>
    obtain ⟨hitem, hrest⟩ := List.forall_mem_cons.mp h
    obtain ⟨active, hactive⟩ := ih hrest
    rw [activeLease]
    split_ifs with hother hsettled
    · exact ⟨active, hactive⟩
    · exact ⟨active, hactive⟩
    · rw [parseRfc3339_of_utcHolds (hitem hsettled)]
      simp only [bind, Except.bind]
      split_ifs
      · exact ⟨active, hactive⟩
      · exact ⟨some item, rfl⟩

/-- From the year 10000 on, the lookup reads every expiry of the work. -/
theorem activeLease_overflow (hlease : lease ∈ leases) (hopen : lease.unsettled)
    (hexpiry : ¬ UtcHolds lease.expiresAt) : activeLease lease.taskId lease.attemptId
      (microsecondsPerDay * 3652060) leases = .error .overflow := by
  induction leases with
  | nil => exact absurd hlease List.not_mem_nil
  | cons item leases ih =>
    rw [activeLease]
    by_cases hsame : item = lease
    · subst hsame
      rw [if_neg (by simp), if_neg hopen, parseRfc3339_overflow hexpiry]
      rfl
    · have hrest := ih ((List.mem_cons.mp hlease).resolve_left (Ne.symm hsame))
      split_ifs with hother hsettled
      · exact hrest
      · exact hrest
      · by_cases hholds : UtcHolds item.expiresAt
        · rw [parseRfc3339_of_utcHolds hholds]
          have hpast : item.expiresAt.instant ≤ microsecondsPerDay * 3652060 := by
            have hutc := utcHolds_iff.mp hholds
            rw [isUtcInstant, decide_eq_true_iff] at hutc
            exact hutc.2.le
          simp only [bind, Except.bind, if_pos hpast, hrest]
        · rw [parseRfc3339_overflow hholds]
          rfl

theorem activeLeaseFor_total : (∀ taskId attemptId now, ∃ active,
    fold.activeLeaseFor taskId attemptId now = .ok active) ↔
      ∀ lease ∈ fold.leases, lease.unsettled → UtcHolds lease.expiresAt := by
  refine ⟨fun h lease hlease hopen => ?_, fun h taskId attemptId now => activeLease_ok h⟩
  by_contra hexpiry
  obtain ⟨active, hactive⟩ := h lease.taskId lease.attemptId (microsecondsPerDay * 3652060)
  rw [WorkerFold.activeLeaseFor, activeLease_overflow hlease hopen hexpiry] at hactive
  cases hactive

/-! The expiries of a log. -/

def WorkerPayload.expiry : WorkerPayload → Option Rfc3339Timestamp
  | .workLeased payload => some payload.expiresAt
  | .grantRecorded payload => some payload.expiresAt
  | _ => none

/-- The expiry of every lease and grant fact can be read back. -/
def ExpiriesHold (F : FloatText) (projectId : EventIdentifier) (log : List ResearchEvent) : Prop :=
  ∀ event ∈ log, ∀ payload, workerPayload F projectId event = some payload →
    ∀ value, payload.expiry = some value → UtcHolds value

structure FoldHolds (fold : WorkerFold) : Prop where
  leases : ∀ lease ∈ fold.leases, UtcHolds lease.expiresAt
  grants : ∀ grant ∈ fold.grants, UtcHolds grant.expiresAt

theorem FoldHolds.replaceLease {leaseId : EventIdentifier} {current updated : LeaseRecord}
    (h : FoldHolds fold) (hcurrent : fold.lease leaseId = some current)
    (hid : updated.leaseId = current.leaseId) (hsame : updated.expiresAt = current.expiresAt) :
    ∀ lease ∈ Workers.replaceLease fold.leases updated, UtcHolds lease.expiresAt := by
  intro lease hlease
  obtain ⟨hcurrentId, hmem⟩ := leaseId_of_lease hcurrent
  rw [← hcurrentId, ← hid] at hcurrent
  rcases mem_replaceLease hcurrent hlease with ⟨hold, -⟩ | rfl
  · exact h.leases lease hold
  · rw [hsame]
    exact h.leases current hmem

theorem FoldHolds.replaceGrant {updated current : GrantRecord} (h : FoldHolds fold)
    (hcurrent : current ∈ fold.grants) (hsame : updated.expiresAt = current.expiresAt) :
    ∀ grant ∈ Workers.replaceGrant fold.grants updated, UtcHolds grant.expiresAt := by
  intro grant hgrant
  obtain ⟨old, hold, rfl⟩ := List.mem_map.mp hgrant
  split_ifs
  · rw [hsame]
    exact h.grants current hcurrent
  · exact h.grants old hold

theorem FoldHolds.apply (h : FoldHolds fold)
    (hexpiry : ∀ payload, workerPayload F projectId event = some payload →
      ∀ value, payload.expiry = some value → UtcHolds value)
    (happly : applyWorkerFold F projectId fold event = .ok next) : FoldHolds next := by
  cases foldStep happly with
  | leased hpayload =>
    refine ⟨List.forall_mem_append.mpr ⟨h.leases, ?_⟩, h.grants⟩
    rw [List.forall_mem_singleton]
    exact hexpiry _ hpayload _ rfl
  | grantRecorded hpayload =>
    refine ⟨h.leases, List.forall_mem_append.mpr ⟨h.grants, ?_⟩⟩
    rw [List.forall_mem_singleton]
    exact hexpiry _ hpayload _ rfl
  | claimed _ hcurrent => exact ⟨h.replaceLease hcurrent rfl rfl, h.grants⟩
  | completed _ hcurrent => exact ⟨h.replaceLease hcurrent rfl rfl, h.grants⟩
  | failed _ hcurrent => exact ⟨h.replaceLease hcurrent rfl rfl, h.grants⟩
  | expired _ hcurrent => exact ⟨h.replaceLease hcurrent rfl rfl, h.grants⟩
  | grantRevoked _ hcurrent =>
    exact ⟨h.leases, h.replaceGrant (List.mem_of_find?_eq_some hcurrent) rfl⟩
  | grantConsumed _ hcurrent =>
    exact ⟨h.leases, h.replaceGrant (List.mem_of_find?_eq_some hcurrent) rfl⟩
  | foreign _ => exact h
  | registered _ => exact ⟨h.leases, h.grants⟩
  | queued _ => exact ⟨h.leases, h.grants⟩
  | completedAgain _ _ => exact h
  | failedAgain _ _ => exact h
  | claimedAgain _ => exact h
  | consumedAgain _ => exact h
  | expiredAgain _ => exact h

/-- In a run whose facts can all be read back, so can every lease and grant of the fold. -/
theorem foldHolds_replay (h : ExpiriesHold F projectId log)
    (hreplay : replayWorkers F projectId log = .ok fold) : FoldHolds fold :=
  Fold.foldlM_invariant_of (fun _ _ _ hexpiry hholds => hholds.apply hexpiry) h
    ⟨fun _ hmem => absurd hmem List.not_mem_nil, fun _ hmem => absurd hmem List.not_mem_nil⟩ hreplay

/-! A poll. -/

/-- A datetime that UTC cannot hold. -/
def planeOverflow : PlaneError := .worker .overflow

theorem bind_ne_error {ε α β : Type} {x : Except ε α} {k : α → Except ε β} {e : ε}
    (hx : x ≠ .error e) (hk : ∀ a, x = .ok a → k a ≠ .error e) : x >>= k ≠ .error e := by
  intro h
  rcases Fold.bind_eq_error.mp h with h | ⟨a, ha, h⟩
  · exact hx h
  · exact hk a ha h

theorem fromWorker_ne_overflow {α : Type} {r : Except WorkerError α} (h : r ≠ .error .overflow) :
    fromWorker r ≠ .error planeOverflow := by
  cases r with
  | ok a => exact fun hok => by cases hok
  | error e =>
    intro he
    cases he
    exact h rfl

theorem requireGrant_ne_overflow {condition : Prop} [Decidable condition] {message code : String} :
    requireGrant condition message code ≠ .error .overflow := by
  unfold requireGrant
  split_ifs <;> exact fun h => by cases h

theorem requireCall_ne_overflow {condition : Prop} [Decidable condition] {message code : String} :
    requireCall condition message code ≠ .error .overflow := by
  unfold requireCall
  split_ifs <;> exact fun h => by cases h

theorem presentGrant_ne_overflow {α : Type} {found : Option α} {message code : String} :
    presentGrant found message code ≠ .error .overflow := by
  unfold presentGrant
  split <;> exact fun h => by cases h

theorem requireExecutionMatch_ne_overflow {contentDigest : Json → Option String}
    {plane : WorkerPlane} {grant : GrantRecord} {work : QueuedWork} {claims : GrantClaims} :
    requireExecutionMatch contentDigest plane grant work claims ≠ .error planeOverflow := by
  refine bind_ne_error ?_ fun _ _ => ?_
  · unfold brickExecutionDigest
    dsimp only
    split_ifs
    · split
      · split
        · split_ifs
          · split <;> exact fun h => by cases h
          · exact fun h => by cases h
        · exact fun h => by cases h
      · exact fun h => by cases h
    · split <;> exact fun h => by cases h
    · exact fun h => by cases h
  · refine bind_ne_error (fromWorker_ne_overflow requireCall_ne_overflow) fun _ _ => ?_
    refine bind_ne_error (fromWorker_ne_overflow requireCall_ne_overflow) fun _ _ => ?_
    exact fromWorker_ne_overflow requireGrant_ne_overflow

theorem requireLiveGrant_ne_overflow {plane : WorkerPlane} {grant : GrantRecord}
    {claims : GrantClaims} (h : UtcHolds grant.expiresAt) :
    requireLiveGrant plane grant claims now ≠ .error .overflow := by
  refine bind_ne_error requireGrant_ne_overflow fun _ _ => ?_
  refine bind_ne_error requireGrant_ne_overflow fun _ _ => ?_
  refine bind_ne_error requireGrant_ne_overflow fun _ _ => ?_
  refine bind_ne_error requireGrant_ne_overflow fun _ _ => ?_
  refine bind_ne_error requireGrant_ne_overflow fun _ _ => ?_
  refine bind_ne_error requireGrant_ne_overflow fun _ _ => ?_
  refine bind_ne_error requireCall_ne_overflow fun _ _ => ?_
  refine bind_ne_error ?_ fun _ _ => requireGrant_ne_overflow
  rw [parseRfc3339_of_utcHolds h]
  exact fun hok => by cases hok

theorem resumeOrReject_ne_overflow {work : QueuedWork} {grant : GrantRecord} {clock : PollClock}
    (h : UtcHolds lease.expiresAt) :
    resumeOrReject lease work grant clock ≠ .error planeOverflow := by
  unfold resumeOrReject
  split_ifs
  · exact fun h => by cases h
  · exact fun h => by cases h
  · rw [parseRfc3339_of_utcHolds h]
    simp only [fromWorker, bind, Except.bind]
    split_ifs <;> exact fun h => by cases h

theorem mem_of_leaseForWorker {workerId : String}
    (h : leaseForWorker fold taskId attemptId workerId = some lease) : lease ∈ fold.leases :=
  List.mem_of_mem_filter (List.mem_of_getLast? h)

/-- Where every expiry can be read back, a poll with readable claims never overflows. -/
theorem poll_ne_overflow {contentDigest : Json → Option String} {poller : Poller} {reads : PollReads}
    (h : ExpiriesHold F poller.plane.projectId log)
    (hreplay : replayWorkers F poller.plane.projectId log = .ok fold)
    (hclaims : poller.call.claims ≠ .error .overflow) :
    poller.poll F contentDigest reads log ≠ .error planeOverflow := by
  have hholds := foldHolds_replay h hreplay
  refine bind_ne_error (fromWorker_ne_overflow hclaims) fun claims _ => ?_
  refine bind_ne_error (fromWorker_ne_overflow requireGrant_ne_overflow) fun _ _ => ?_
  refine bind_ne_error ?_ fun head hhead => ?_
  · simp [rebuild, hreplay, fromWorker, bind, Except.bind]
  obtain ⟨hfold, -⟩ := rebuild_ok hhead
  rw [hreplay] at hfold
  cases hfold
  refine bind_ne_error (fromWorker_ne_overflow presentGrant_ne_overflow) fun grant hgrant => ?_
  have hgrantMem : grant ∈ head.fold.grants := by
    have hgrant := fromWorker_eq_ok.mp hgrant
    unfold presentGrant at hgrant
    split at hgrant
    · rename_i found hfound
      cases hgrant
      exact List.mem_of_find?_eq_some hfound
    · cases hgrant
  refine bind_ne_error (fromWorker_ne_overflow
    (requireLiveGrant_ne_overflow (hholds.grants grant hgrantMem))) fun _ _ => ?_
  unfold pollWork
  split
  · exact fun h => by cases h
  · refine bind_ne_error requireExecutionMatch_ne_overflow fun _ _ => ?_
    split
    · rename_i existing hexisting
      exact resumeOrReject_ne_overflow (hholds.leases existing (mem_of_leaseForWorker hexisting))
    · exact fun h => by cases h

/-- Two accepted timestamps are read back and order as their instants exactly when UTC can hold both
and they do not fall into one microsecond, unless they are the same instant. A lookup of a live lease
never raises exactly when every unsettled lease can be read back, and in a run whose lease and grant
facts can, neither a lookup nor a poll overflows. -/
theorem timestamps_agree (F : FloatText) (projectId : EventIdentifier) :
    (∀ a b : Rfc3339Timestamp, Agree a b ↔ UtcHolds a ∧ UtcHolds b ∧
      (denoted a = denoted b ∨ ⌊denoted a⌋ ≠ ⌊denoted b⌋)) ∧
    (∀ fold : WorkerFold, (∀ taskId attemptId now, ∃ active,
      fold.activeLeaseFor taskId attemptId now = .ok active) ↔
        ∀ lease ∈ fold.leases, lease.unsettled → UtcHolds lease.expiresAt) ∧
    ∀ log fold, replayWorkers F projectId log = .ok fold → ExpiriesHold F projectId log →
      (∀ taskId attemptId now, ∃ active,
        fold.activeLeaseFor taskId attemptId now = .ok active) ∧
      ∀ contentDigest (poller : Poller) reads, poller.plane.projectId = projectId →
        poller.call.claims ≠ .error .overflow →
          poller.poll F contentDigest reads log ≠ .error planeOverflow := by
  refine ⟨fun a b => agree_iff, fun fold => activeLeaseFor_total, fun log fold hreplay h => ?_⟩
  refine ⟨fun taskId attemptId now => ?_, fun contentDigest poller reads hproject hclaims => ?_⟩
  · exact activeLease_ok fun lease hlease _ => (foldHolds_replay h hreplay).leases lease hlease
  · subst hproject
    exact poll_ne_overflow h hreplay hclaims

/-- An accepted timestamp of the last hours before year 1 in UTC, and two in one microsecond. -/
theorem timestamps_disagree :
    (∃ a : Rfc3339Timestamp, a.val = "0001-01-01T00:00:00+01:00" ∧
      parseRfc3339Text a.val = .error .overflow ∧ ¬ Agree a a) ∧
    ∃ a b : Rfc3339Timestamp, denoted a < denoted b ∧
      parseRfc3339Text a.val = parseRfc3339Text b.val ∧ ¬ Agree a b := by
  refine ⟨⟨⟨"0001-01-01T00:00:00+01:00", by decide +kernel⟩, rfl, by decide +kernel, ?_⟩,
    ⟨"2026-01-01T00:00:00.0000001Z", by decide +kernel⟩,
    ⟨"2026-01-01T00:00:00.0000002Z", by decide +kernel⟩, by decide +kernel, by decide +kernel, ?_⟩
  · rw [agree_iff]
    exact fun h => absurd h.1 (by decide +kernel)
  · rw [agree_iff]
    rintro ⟨-, -, hsame | hfloor⟩
    · exact absurd hsame (by decide +kernel)
    · exact absurd hfloor (by decide +kernel)

end ResearchOs.Workers
