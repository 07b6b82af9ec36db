import ResearchOs.Budget.Control

/-! A reservation of nothing under a cap of nothing, as a loopback request makes it. -/
namespace ResearchOs.Budget

open Storage (Document EventLog)

/-- A call of `reserve_or_exceed` that nobody interrupts. -/
def reserveAlone (log : EventLog) (projectId : EventIdentifier)
    (reservedDocument exceededDocument : Document) : Except ControlError ResearchEvent := do
  let fold ← fromBudget (replayBudget projectId log)
  let drafted ← draft projectId (.reserveOrExceed reservedDocument exceededDocument none) log.length
    fold
  let event ← commit log drafted log.length
  finish drafted event

/-- A well-formed draft behind a log that reserves zero under a zero cap with a fresh id. -/
structure FreeReservation (projectId : EventIdentifier) (log : EventLog) (fold : BudgetFold)
    (document : Document) (event : ResearchEvent) (payload : ReservationPayload) : Prop where
  replayed : replayBudget projectId log = .ok fold
  preflight : preflightEvent projectId log.length document = .ok event
  type : BudgetEventType.ofText event.type.val = some .reserved
  actor : requireBudgetActor .reserved event = .ok ()
  parsed : parseBudgetPayload .reserved event = .ok (.reserved payload)
  amount : parseMoney payload.amount = 0
  cap : parseMoney payload.cap = 0
  freshBudget : payload.budgetId ∉ fold.knownIds
  freshEvent : ∀ earlier ∈ log, earlier.id ≠ event.id
  room : log.nextStreamVersion event.streamid.val ≤ cloudEventsIntegerMax

/-- The fold accepts the reservation, and so does `reserve_or_exceed`. -/
structure Admitted (projectId : EventIdentifier) (log : EventLog) (fold : BudgetFold)
    (reservedDocument exceededDocument : Document) (event : ResearchEvent) : Prop where
  folds : ∃ next, applyBudgetFold projectId fold event = .ok next
  reserves : ∃ stored, reserveAlone log projectId reservedDocument exceededDocument = .ok stored

namespace FreeReservation

variable {projectId : EventIdentifier} {log : EventLog} {fold : BudgetFold} {document : Document}
  {event : ResearchEvent} {payload : ReservationPayload}
  (h : FreeReservation projectId log fold document event payload)
include h

theorem limit_ok : requireReservationWithinApprovedLimit fold (parseMoney payload.amount)
    (parseMoney payload.cap) = .ok () :=
  requireReservationWithinApprovedLimit_ok.mpr (.inl ⟨h.cap, h.amount⟩)

theorem exceeds_iff : reservationWouldExceed fold (parseMoney payload.amount)
    (parseMoney payload.cap) = true ↔ fold.consumed + fold.outstanding ≠ 0 := by
  have hconserved := replayBudget_conserved h.replayed
  have hamount := parseMoney_bounds payload.amount
  have hconsumed := hconserved.consumed
  have hsum := hconserved.sum_nonneg
  rw [hconserved.reservationWouldExceed_iff hamount.1 hamount.2, hconserved.outstanding_eq, h.amount,
    h.cap]
  omega

theorem folds_eq : applyBudgetFold projectId fold event = applyReserved fold payload := by
  obtain ⟨-, hproject⟩ := preflightEvent_ok h.preflight
  simp only [applyBudgetFold, hproject, ne_eq, not_true_eq_false, if_false, h.type, h.actor,
    h.parsed, bind, Except.bind, applyPayload]

theorem folds_iff : (∃ next, applyBudgetFold projectId fold event = .ok next) ↔
    reservationWouldExceed fold (parseMoney payload.amount) (parseMoney payload.cap) = false := by
  rw [h.folds_eq]
  constructor
  · rintro ⟨next, hnext⟩
    simp only [applyReserved, requireCall_bind_ok] at hnext
    obtain ⟨-, hnext⟩ := hnext
    obtain ⟨_, -, hnext⟩ := Fold.bind_eq_ok.mp hnext
    exact (requireCall_bind_ok.mp hnext).1
  · intro hwithin
    refine ⟨{ fold with reservations := fold.reservations ++ [payload.opened] }, ?_⟩
    simp only [applyReserved, requireCall_bind_ok]
    refine ⟨h.freshBudget, Fold.bind_eq_ok.mpr ⟨(), h.limit_ok, ?_⟩⟩
    exact requireCall_bind_ok.mpr ⟨hwithin, rfl⟩

/-- `reserve_or_exceed` comes to the cap check. -/
theorem reserveOrExceed_eq (exceededDocument : Document) :
    reserveOrExceed projectId log.length fold document exceededDocument =
      chooseDraft projectId log.length fold (reservationWouldExceed fold (parseMoney payload.amount)
        (parseMoney payload.cap)) document exceededDocument := by
  have hparsed : parsePayload event = .ok (.reserved payload) := by
    rw [parsePayload, h.type]
    exact h.parsed
  simp only [reserveOrExceed, h.preflight, hparsed, requireReserved, h.limit_ok, bind, Except.bind]

theorem reserveAlone_of_within (exceededDocument : Document)
    (hwithin : reservationWouldExceed fold (parseMoney payload.amount)
      (parseMoney payload.cap) = false) :
    ∃ stored, reserveAlone log projectId document exceededDocument = .ok stored := by
  obtain ⟨next, hnext⟩ := h.folds_iff.mpr hwithin
  obtain ⟨hpreflight, -⟩ := preflightEvent_ok h.preflight
  have hchecked : checkAppend projectId log.length fold document = .ok next :=
    Fold.bind_eq_ok.mpr ⟨event, h.preflight, hnext⟩
  have hdrafted : reserveOrExceed projectId log.length fold document exceededDocument =
      .ok ⟨document, false⟩ := by
    rw [h.reserveOrExceed_eq, hwithin]
    exact Fold.bind_eq_ok.mpr ⟨next, hchecked, rfl⟩
  have happend := hpreflight.append h.freshEvent h.room
  have hcall : draft projectId (.reserveOrExceed document exceededDocument none) log.length fold =
      .ok ⟨document, false⟩ :=
    Fold.bind_eq_ok.mpr ⟨(), rfl, fromBudget_eq_ok.mpr hdrafted⟩
  exact ⟨_, by simp only [reserveAlone, h.replayed, fromBudget, hcall, commit, happend, finish, bind,
    Except.bind, Bool.false_eq_true, if_false]; rfl⟩

theorem not_reserveAlone_of_exceeds (exceededDocument : Document)
    (hexceeds : reservationWouldExceed fold (parseMoney payload.amount)
      (parseMoney payload.cap) = true) (stored : ResearchEvent) :
    reserveAlone log projectId document exceededDocument ≠ .ok stored := by
  intro hstored
  obtain ⟨fold', hfold, hstored⟩ := Fold.bind_eq_ok.mp hstored
  rw [fromBudget_eq_ok, h.replayed] at hfold
  cases hfold
  obtain ⟨drafted, hdrafted, hstored⟩ := Fold.bind_eq_ok.mp hstored
  obtain ⟨_, -, hdrafted⟩ := Fold.bind_eq_ok.mp hdrafted
  rw [fromBudget_eq_ok, h.reserveOrExceed_eq, hexceeds] at hdrafted
  obtain ⟨event', -, hstored⟩ := Fold.bind_eq_ok.mp hstored
  rw [finish, (chooseDraft_ok hdrafted).1] at hstored
  cases hstored

end FreeReservation

/-- A free reservation is admitted exactly while the project has no exposure at all. -/
theorem free_reservation_admitted_iff {projectId : EventIdentifier} {log : EventLog}
    {fold : BudgetFold} {document : Document} {event : ResearchEvent}
    {payload : ReservationPayload}
    (h : FreeReservation projectId log fold document event payload) (exceededDocument : Document) :
    Admitted projectId log fold document exceededDocument event ↔
      fold.consumed + fold.outstanding = 0 := by
  have hexceeds := h.exceeds_iff
  constructor
  · intro hadmitted
    have hwithin := h.folds_iff.mp hadmitted.folds
    rw [hwithin] at hexceeds
    by_contra hne
    exact Bool.false_ne_true (hexceeds.mpr hne)
  · intro hzero
    have hwithin : reservationWouldExceed fold (parseMoney payload.amount)
        (parseMoney payload.cap) = false := by
      rw [← Bool.not_eq_true, hexceeds]
      exact not_not.mpr hzero
    exact ⟨h.folds_iff.mpr hwithin, h.reserveAlone_of_within exceededDocument hwithin⟩

/-! One project with a limit, with and without a paid reservation before the free one. -/

def trialProject : EventIdentifier := ⟨"project", .refl true⟩

def trialMembers (id : String) (type : BudgetEventType) (kind : ActorKind)
    (payload : Json.Members) : Json :=
  .obj [("data", .obj [("actor", .obj [("id", .str "operator"), ("kind", .str kind.text)]),
      ("evidenceRefs", .arr []), ("experimentRevision", .int 1), ("payload", .obj payload),
      ("projectId", .str "project"), ("schemaVersion", .str "v0alpha1")]),
    ("datacontenttype", .str "application/json"),
    ("dataschema", .str researchEventSchemaId), ("id", .str id),
    ("source", .str "urn:trial"), ("specversion", .str "1.0"), ("streamid", .str "stream"),
    ("subject", .str "subject"), ("time", .str "2026-01-01T00:00:00Z"), ("type", .str type.text)]

def trialReservation (budgetId amount cap : String) : Json.Members :=
  [("amount", .str amount), ("budgetId", .str budgetId), ("callId", .str "call"), ("cap", .str cap)]

def trialLimit : Document :=
  ⟨trialMembers "event-1" .limitRecorded .human [("cap", .str "1.00")], by decide⟩

def trialPaid : Document :=
  ⟨trialMembers "event-2" .reserved .system (trialReservation "paid" "0.60" "1.00"), by decide⟩

def trialFree : Document :=
  ⟨trialMembers "event-3" .reserved .system (trialReservation "free" "0.00" "0.00"), by decide⟩

def trialExceeded : Document :=
  ⟨trialMembers "event-4" .exceeded .system
    [("attempted", .str "0.00"), ("budgetId", .str "free"), ("callId", .str "call"),
      ("cap", .str "0.00")], by decide⟩

/-- The log that accepts the documents one after the other. -/
def trialLog (documents : List Document) : EventLog :=
  documents.foldl (fun log document => log ++ (log.append document none).toOption.toList) []

/-- The exposure of a project behind whose log a draft is a free reservation. -/
def freeExposure (projectId : EventIdentifier) (log : EventLog) (document : Document) : Option Int := do
  let fold ← (replayBudget projectId log).toOption
  let event ← (preflightEvent projectId log.length document).toOption
  let parsed ← (parseBudgetPayload .reserved event).toOption
  let payload ← (requireReserved parsed).toOption
  if BudgetEventType.ofText event.type.val = some .reserved ∧
      requireBudgetActor .reserved event = .ok () ∧ parseMoney payload.amount = 0 ∧
      parseMoney payload.cap = 0 ∧ payload.budgetId ∉ fold.knownIds ∧
      (∀ earlier ∈ log, earlier.id ≠ event.id) ∧
      log.nextStreamVersion event.streamid.val ≤ cloudEventsIntegerMax then
    some (fold.consumed + fold.outstanding)
  else none

theorem toOption_eq_some {α ε : Type} {x : Except ε α} {a : α} : x.toOption = some a ↔ x = .ok a := by
  cases x <;> simp [Except.toOption]

theorem freeExposure_some {projectId : EventIdentifier} {log : EventLog} {document : Document}
    {exposure : Int} (h : freeExposure projectId log document = some exposure) :
    ∃ fold event payload, FreeReservation projectId log fold document event payload ∧
      fold.consumed + fold.outstanding = exposure := by
  simp only [freeExposure, Option.bind_eq_bind, Option.bind_eq_some_iff, toOption_eq_some] at h
  obtain ⟨fold, hfold, event, hevent, parsed, hparsed, payload, hpayload, h⟩ := h
  split_ifs at h with hfree
  obtain ⟨htype, hactor, hamount, hcap, hbudget, hid, hroom⟩ := hfree
  have hreserved : parsed = .reserved payload := by
    cases parsed <;> cases hpayload
    rfl
  rw [hreserved] at hparsed
  exact ⟨fold, event, payload,
    ⟨hfold, hevent, htype, hactor, hparsed, hamount, hcap, hbudget, hid, hroom⟩, Option.some.inj h⟩

/-- After a paid reservation of 0.60 the free one is refused. -/
theorem paid_reservation_blocks_free :
    ∃ fold event payload, FreeReservation trialProject (trialLog [trialLimit, trialPaid]) fold
        trialFree event payload ∧
      ¬ Admitted trialProject (trialLog [trialLimit, trialPaid]) fold trialFree trialExceeded
        event := by
  have hevaluated : freeExposure trialProject (trialLog [trialLimit, trialPaid]) trialFree =
      some 60 := by decide +kernel
  obtain ⟨fold, event, payload, hfree, hexposure⟩ := freeExposure_some hevaluated
  refine ⟨fold, event, payload, hfree, fun hadmitted => ?_⟩
  have hwithin := hfree.folds_iff.mp hadmitted.folds
  have hexceeds := hfree.exceeds_iff.mpr (by omega)
  rw [hwithin] at hexceeds
  cases hexceeds

theorem free_reservation_admitted_trial :
    ∃ fold event payload, FreeReservation trialProject (trialLog [trialLimit]) fold trialFree event
        payload ∧
      Admitted trialProject (trialLog [trialLimit]) fold trialFree trialExceeded event := by
  have hevaluated : freeExposure trialProject (trialLog [trialLimit]) trialFree = some 0 := by
    decide +kernel
  obtain ⟨fold, event, payload, hfree, hexposure⟩ := freeExposure_some hevaluated
  exact ⟨fold, event, payload, hfree,
    (free_reservation_admitted_iff hfree trialExceeded).mpr hexposure⟩

end ResearchOs.Budget

/-! An open reservation stays closable, whatever is recorded after it. -/
namespace ResearchOs.Budget

open Storage (Document)

variable {projectId : EventIdentifier} {fold next : BudgetFold} {event : ResearchEvent}
  {reservation : OpenReservation}

/-- Every open reservation was opened by a payload, so that its amount and its cap can be written. -/
def Written (fold : BudgetFold) : Prop :=
  ∀ item ∈ fold.reservations, ∃ payload : ReservationPayload, payload.opened = item

theorem written_step (hstep : BudgetStep projectId fold event next) (h : Written fold) :
    Written next := by
  intro item hitem
  cases hstep with
  | reserved hpayload =>
    obtain hold | hnew := List.mem_append.mp hitem
    · exact h item hold
    · exact ⟨_, (List.mem_singleton.mp hnew).symm⟩
  | consumed hpayload => exact h item (List.mem_filter.mp hitem).1
  | released hpayload => exact h item (List.mem_filter.mp hitem).1
  | foreign hpayload => exact h item hitem
  | exceeded hpayload => exact h item hitem
  | limit hpayload => exact h item hitem

theorem written_run {events : List ResearchEvent}
    (h : events.foldlM (applyBudgetFold projectId) fold = .ok next) (hfold : Written fold) :
    Written next :=
  Fold.foldlM_invariant (fun _ _ _ hwritten happly => written_step (budgetStep happly) hwritten)
    hfold h

/-- Only its own closing fact removes an open reservation. -/
theorem open_step (hstep : BudgetStep projectId fold event next)
    (hopen : reservation ∈ fold.reservations)
    (hother : (budgetPayload projectId event).bind BudgetPayload.closes ≠
      some reservation.budgetId) : reservation ∈ next.reservations := by
  cases hstep with
  | reserved hpayload => exact List.mem_append_left _ hopen
  | consumed hpayload =>
    refine List.mem_filter.mpr ⟨hopen, decide_eq_true fun hid => hother ?_⟩
    rw [hpayload, hid]
    rfl
  | released hpayload =>
    refine List.mem_filter.mpr ⟨hopen, decide_eq_true fun hid => hother ?_⟩
    rw [hpayload, hid]
    rfl
  | foreign hpayload => exact hopen
  | exceeded hpayload => exact hopen
  | limit hpayload => exact hopen

theorem open_run {later : List ResearchEvent}
    (h : later.foldlM (applyBudgetFold projectId) fold = .ok next)
    (hopen : reservation ∈ fold.reservations)
    (hunclosed : reservation.budgetId ∉ closingIds projectId later) :
    reservation ∈ next.reservations := by
  induction later generalizing fold with
  | nil =>
    cases h
    exact hopen
  | cons event later ih =>
    obtain ⟨after, happly, h⟩ := Fold.foldlM_cons_eq_ok.mp h
    have hsplit : closingIds projectId (event :: later) =
        ((budgetPayload projectId event).bind BudgetPayload.closes).toList ++
          closingIds projectId later := by
      rw [closingIds, selected, List.filterMap_cons]
      cases (budgetPayload projectId event).bind BudgetPayload.closes <;> rfl
    rw [hsplit, List.mem_append, not_or] at hunclosed
    have hother : (budgetPayload projectId event).bind BudgetPayload.closes ≠
        some reservation.budgetId := by
      intro hcloses
      exact hunclosed.1 (by simp [hcloses])
    exact ih h (open_step (budgetStep happly) hopen hother) hunclosed.2

/-- The payload names the reservation: its call, its currency and its cap. -/
structure Names (payload : ReservationPayload) (reservation : OpenReservation) : Prop where
  budgetId : payload.budgetId = reservation.budgetId
  callId : payload.callId = reservation.callId
  currency : payload.currency = reservation.currency
  cap : parseMoney payload.cap = reservation.cap

/-- Each amount up to the reserved one can be written in a payload that names the reservation. -/
theorem names_of_written (hwritten : Written fold) (hopen : reservation ∈ fold.reservations)
    {amount : Int} (hlow : 0 ≤ amount) (hhigh : amount ≤ reservation.amount) :
    ∃ payload, Names payload reservation ∧ parseMoney payload.amount = amount := by
  obtain ⟨payload, rfl⟩ := hwritten reservation hopen
  have hbounds := parseMoney_bounds payload.amount
  have hmax : amount ≤ maxMoney := hhigh.trans hbounds.2
  obtain ⟨text, -, htext⟩ := formatMoney_ok hlow hmax
  exact ⟨{ payload with amount := text }, ⟨rfl, rfl, rfl, rfl⟩, htext⟩

/-- A fact of the system goes through the handler of its payload, unless it records a limit. -/
theorem applyBudgetFold_payload {payload : BudgetPayload}
    (hpayload : budgetPayload projectId event = some payload)
    (hactor : event.data.actor.kind = some .system) (hlimit : payload.approves = none) :
    applyBudgetFold projectId fold event = applyPayload fold payload := by
  unfold budgetPayload at hpayload
  split_ifs at hpayload with hproject
  obtain ⟨type, htype, hmodel⟩ := Option.bind_eq_some_iff.mp hpayload
  have hkind : type ≠ .limitRecorded := by
    rintro rfl
    obtain ⟨limit, -, rfl⟩ := Option.map_eq_some_iff.mp hmodel
    cases hlimit
  have hallowed : requireBudgetActor type event = .ok () := by
    simp [requireBudgetActor, hactor, hkind]
  have hparsed : parseBudgetPayload type event = .ok payload := by
    simp only [parseBudgetPayload, hmodel]
  simp only [applyBudgetFold, hproject, if_false, htype, hallowed, hparsed, bind, Except.bind]

theorem find?_reservation (hnodup : fold.openIds.Nodup) (hopen : reservation ∈ fold.reservations) :
    fold.reservations.find? (fun item => item.budgetId = reservation.budgetId) =
      some reservation := by
  cases hfind : fold.reservations.find? (fun item => item.budgetId = reservation.budgetId) with
  | none =>
    have hnone := List.find?_eq_none.mp hfind reservation hopen
    simp at hnone
  | some found =>
    have hid : found.budgetId = reservation.budgetId := by simpa using List.find?_some hfind
    rw [List.inj_on_of_nodup_map hnodup (List.mem_of_find?_eq_some hfind) hopen hid]

/-- The close handler checks nothing but the reservation itself. -/
theorem closeReservation_names {payload : ReservationPayload} {addConsumed : Bool}
    {consumed : Int} (hnodup : fold.openIds.Nodup)
    (hdisjoint : reservation.budgetId ∉ fold.closedIds) (hopen : reservation ∈ fold.reservations)
    (hnames : Names payload reservation)
    (hconsumed : closedConsumed fold reservation (parseMoney payload.amount) addConsumed =
      .ok consumed) :
    closeReservation fold payload addConsumed = .ok (fold.close reservation.budgetId consumed) := by
  have hfind := find?_reservation hnodup hopen
  simp only [closeReservation, hnames.budgetId, hfind, hnames.callId, hnames.currency, hnames.cap,
    requireCall, hdisjoint, not_false_eq_true, if_true, hconsumed, bind, Except.bind]
  rfl

/-- A fact that consumes or releases the reservation under its own terms. -/
structure Closing (projectId : EventIdentifier) (reservation : OpenReservation)
    (payload : ReservationPayload) (closing : BudgetPayload) (event : ResearchEvent) : Prop where
  fact : budgetPayload projectId event = some closing
  system : event.data.actor.kind = some .system
  names : Names payload reservation

theorem open_reservation_closable {projectId : EventIdentifier} {events later : List ResearchEvent}
    {fold after : BudgetFold} {reservation : OpenReservation}
    (hfold : replayBudget projectId events = .ok fold) (hopen : reservation ∈ fold.reservations)
    (hlater : later.foldlM (applyBudgetFold projectId) fold = .ok after)
    (hunclosed : reservation.budgetId ∉ closingIds projectId later) :
    reservation ∈ after.reservations ∧
      (∀ amount, 0 ≤ amount → amount ≤ reservation.amount →
        ∃ payload, Names payload reservation ∧ parseMoney payload.amount = amount) ∧
      (∀ event payload, Closing projectId reservation payload (.consumed payload) event →
        parseMoney payload.amount ≤ reservation.amount →
          applyBudgetFold projectId after event = .ok (after.close reservation.budgetId
            (after.consumed + parseMoney payload.amount))) ∧
      ∀ event payload reasonCode,
        Closing projectId reservation payload (.released payload reasonCode) event →
          parseMoney payload.amount = reservation.amount →
            applyBudgetFold projectId after event =
              .ok (after.close reservation.budgetId after.consumed) := by
  have hreplay : replayBudget projectId (events ++ later) = .ok after :=
    Fold.foldlM_append_eq_ok.mpr ⟨fold, hfold, hlater⟩
  have hconserved := replayBudget_conserved hreplay
  have hafter := open_run hlater hopen hunclosed
  have hnodup := hconserved.openIds_nodup
  have hdisjoint := hconserved.disjoint (List.mem_map_of_mem hafter)
  have hwritten : Written after := written_run hreplay fun item hitem => by cases hitem
  refine ⟨hafter, fun amount => names_of_written hwritten hafter, ?_, ?_⟩
  · intro event payload hclosing hamount
    rw [applyBudgetFold_payload hclosing.fact hclosing.system rfl]
    refine closeReservation_names hnodup hdisjoint hafter hclosing.names ?_
    have hpaid := parseMoney_bounds payload.amount
    have hwithin := hconserved.within
    have htotal := hconserved.sum_nonneg
    have hbounded := hconserved.bounded
    have hconsumed := hconserved.consumed
    have hexact : Hundredths.add after.consumed (parseMoney payload.amount) =
        after.consumed + parseMoney payload.amount := by
      apply Hundredths.add_eq
      unfold maxMoney at hpaid hbounded
      unfold Hundredths.precision
      omega
    simp only [closedConsumed, if_true, requireCall, hamount, hexact, bind, Except.bind]
  · intro event payload reasonCode hclosing hamount
    rw [applyBudgetFold_payload hclosing.fact hclosing.system rfl]
    refine closeReservation_names hnodup hdisjoint hafter hclosing.names ?_
    simp only [closedConsumed, Bool.false_eq_true, if_false, requireCall, hamount, if_true, bind,
      Except.bind]

/-! A reservation of 0.60 under a limit of 1.00 that is lowered to 0.10 afterwards. -/

def trialLowered : Document :=
  ⟨trialMembers "event-5" .limitRecorded .human [("cap", .str "0.10")], by decide⟩

def trialOpen : OpenReservation :=
  ⟨⟨"paid", by decide⟩, ⟨"call", by decide⟩, .cny, 60, 100⟩

theorem open_reservation_closable_trial : ∃ after,
    ((trialLog [trialLimit, trialPaid, trialLowered]).drop 2).foldlM
        (applyBudgetFold trialProject) ⟨[trialOpen], [], 0, some 100⟩ = .ok after ∧
      after.approvedCap = some 10 ∧ trialOpen ∈ after.reservations ∧
      (∀ amount, 0 ≤ amount → amount ≤ 60 →
        ∃ payload, Names payload trialOpen ∧ parseMoney payload.amount = amount) ∧
      ∀ event payload, Closing trialProject trialOpen payload (.consumed payload) event →
        parseMoney payload.amount ≤ 60 →
          applyBudgetFold trialProject after event = .ok (after.close trialOpen.budgetId
            (after.consumed + parseMoney payload.amount)) := by
  have hfold : replayBudget trialProject (trialLog [trialLimit, trialPaid]) =
      .ok ⟨[trialOpen], [], 0, some 100⟩ := toOption_eq_some.mp (by decide +kernel)
  have hlater : ((trialLog [trialLimit, trialPaid, trialLowered]).drop 2).foldlM
      (applyBudgetFold trialProject) ⟨[trialOpen], [], 0, some 100⟩ =
        .ok ⟨[trialOpen], [], 0, some 10⟩ := toOption_eq_some.mp (by decide +kernel)
  obtain ⟨hopen, hamounts, hconsumed, -⟩ := open_reservation_closable hfold
    (List.mem_singleton.mpr rfl) hlater (by decide +kernel)
  exact ⟨_, hlater, rfl, hopen, hamounts, hconsumed⟩

end ResearchOs.Budget
