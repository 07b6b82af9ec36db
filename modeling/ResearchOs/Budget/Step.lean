import ResearchOs.Budget.Model
import ResearchOs.Data.Fold

/-! What an accepted budget fact does to the fold. -/
namespace ResearchOs.Budget

@[simp] theorem requireCall_bind_ok {condition : Prop} [Decidable condition] {message code : String}
    {α : Type} {k : Unit → Except BudgetError α} {r : α} :
    requireCall condition message code >>= k = .ok r ↔ condition ∧ k () = .ok r := by
  by_cases h : condition <;> simp [requireCall, h, bind, Except.bind]

@[simp] theorem requireCall_ok {condition : Prop} [Decidable condition] {message code : String} :
    requireCall condition message code = .ok () ↔ condition := by
  simp [requireCall]

/-- The limit check passes the free reservation and those under the recorded limit. -/
theorem requireReservationWithinApprovedLimit_ok {fold : BudgetFold} {requested cap : Int} :
    requireReservationWithinApprovedLimit fold requested cap = .ok () ↔
      (cap = 0 ∧ requested = 0) ∨ fold.approvedCap = some cap := by
  unfold requireReservationWithinApprovedLimit
  by_cases hfree : cap = 0 ∧ requested = 0
  · simp [hfree]
  · cases hcap : fold.approvedCap with
    | none => simp [hfree]
    | some approved =>
      simp only [hfree, if_false, requireCall_ok, false_or, Option.some.injEq]
      exact eq_comm

/-- The payload of a budget fact of the project. -/
def budgetPayload (projectId : EventIdentifier) (event : ResearchEvent) : Option BudgetPayload :=
  if event.data.projectId ≠ projectId then none
  else (BudgetEventType.ofText event.type.val).bind fun type =>
    payloadModel type (.obj event.data.payload)

variable {projectId : EventIdentifier} {fold next : BudgetFold} {event : ResearchEvent}

theorem applyBudgetFold_ok (h : applyBudgetFold projectId fold event = .ok next) :
    (budgetPayload projectId event = none ∧ next = fold) ∨
      ∃ payload, budgetPayload projectId event = some payload ∧
        applyPayload fold payload = .ok next := by
  unfold applyBudgetFold at h
  split at h
  · rename_i hproject
    cases h
    exact .inl ⟨if_pos hproject, rfl⟩
  · rename_i hproject
    cases htype : BudgetEventType.ofText event.type.val with
    | none =>
      rw [htype] at h
      cases h
      refine .inl ⟨?_, rfl⟩
      simp [budgetPayload, htype]
    | some type =>
      rw [htype] at h
      obtain ⟨_, -, h⟩ := Fold.bind_eq_ok.mp h
      obtain ⟨payload, hparse, h⟩ := Fold.bind_eq_ok.mp h
      refine .inr ⟨payload, ?_, h⟩
      unfold parseBudgetPayload at hparse
      split at hparse
      · rename_i parsed hmodel
        cases hparse
        simp [budgetPayload, hproject, htype, hmodel]
      · cases hparse

/-- The reservation that a payload opens. -/
def ReservationPayload.opened (payload : ReservationPayload) : OpenReservation where
  budgetId := payload.budgetId
  callId := payload.callId
  currency := payload.currency
  amount := parseMoney payload.amount
  cap := parseMoney payload.cap

/-- The fold without a reservation that closes with a new consumed total. -/
def BudgetFold.close (fold : BudgetFold) (budgetId : EventIdentifier) (consumed : Int) :
    BudgetFold :=
  { fold with
    reservations := fold.reservations.filter fun item => item.budgetId ≠ budgetId
    closedIds := fold.closedIds ++ [budgetId]
    consumed := consumed }

/-- One accepted fact, with what its handler has checked. -/
inductive BudgetStep (projectId : EventIdentifier) (fold : BudgetFold) (event : ResearchEvent) :
    BudgetFold → Prop
  | foreign (hpayload : budgetPayload projectId event = none) :
      BudgetStep projectId fold event fold
  | reserved {payload : ReservationPayload}
      (hpayload : budgetPayload projectId event = some (.reserved payload))
      (hfresh : payload.budgetId ∉ fold.knownIds)
      (hlimit : (parseMoney payload.cap = 0 ∧ parseMoney payload.amount = 0) ∨
        fold.approvedCap = some (parseMoney payload.cap))
      (hwithin : reservationWouldExceed fold (parseMoney payload.amount)
        (parseMoney payload.cap) = false) :
      BudgetStep projectId fold event { fold with
        reservations := fold.reservations ++ [payload.opened] }
  | consumed {payload : ReservationPayload} {current : OpenReservation}
      (hpayload : budgetPayload projectId event = some (.consumed payload))
      (hopen : payload.budgetId ∉ fold.closedIds) (hcurrent : current ∈ fold.reservations)
      (hid : current.budgetId = payload.budgetId)
      (hamount : parseMoney payload.amount ≤ current.amount) :
      BudgetStep projectId fold event
        (fold.close payload.budgetId (Hundredths.add fold.consumed (parseMoney payload.amount)))
  | released {payload : ReservationPayload} {reasonCode : CloudEventsString}
      {current : OpenReservation}
      (hpayload : budgetPayload projectId event = some (.released payload reasonCode))
      (hopen : payload.budgetId ∉ fold.closedIds) (hcurrent : current ∈ fold.reservations)
      (hid : current.budgetId = payload.budgetId) :
      BudgetStep projectId fold event (fold.close payload.budgetId fold.consumed)
  | exceeded {payload : BudgetExceededPayload}
      (hpayload : budgetPayload projectId event = some (.exceeded payload))
      (hfresh : payload.budgetId ∉ fold.knownIds) :
      BudgetStep projectId fold event { fold with
        closedIds := fold.closedIds ++ [payload.budgetId] }
  | limit {payload : BudgetLimitPayload}
      (hpayload : budgetPayload projectId event = some (.limit payload)) :
      BudgetStep projectId fold event { fold with approvedCap := some (parseMoney payload.cap) }

theorem closeReservation_ok {payload : ReservationPayload} {addConsumed : Bool}
    (h : closeReservation fold payload addConsumed = .ok next) :
    payload.budgetId ∉ fold.closedIds ∧ ∃ current consumed, current ∈ fold.reservations ∧
      current.budgetId = payload.budgetId ∧
      closedConsumed fold current (parseMoney payload.amount) addConsumed = .ok consumed ∧
      next = fold.close payload.budgetId consumed := by
  simp only [closeReservation, requireCall_bind_ok] at h
  obtain ⟨hopen, h⟩ := h
  split at h
  · cases h
  · rename_i current hcurrent
    simp only [requireCall_bind_ok] at h
    obtain ⟨-, -, -, h⟩ := h
    obtain ⟨consumed, hconsumed, h⟩ := Fold.bind_eq_ok.mp h
    cases h
    refine ⟨hopen, current, consumed, List.mem_of_find?_eq_some hcurrent, ?_, hconsumed, rfl⟩
    simpa using List.find?_some hcurrent

theorem budgetStep (h : applyBudgetFold projectId fold event = .ok next) :
    BudgetStep projectId fold event next := by
  rcases applyBudgetFold_ok h with ⟨hpayload, rfl⟩ | ⟨payload, hpayload, happly⟩
  · exact .foreign hpayload
  cases payload with
  | reserved payload =>
    simp only [applyPayload, applyReserved, requireCall_bind_ok] at happly
    obtain ⟨hfresh, happly⟩ := happly
    obtain ⟨_, hlimit, happly⟩ := Fold.bind_eq_ok.mp happly
    simp only [requireCall_bind_ok] at happly
    obtain ⟨hwithin, happly⟩ := happly
    cases happly
    exact .reserved hpayload hfresh (requireReservationWithinApprovedLimit_ok.mp hlimit) hwithin
  | consumed payload =>
    obtain ⟨hopen, current, consumed, hcurrent, hid, hconsumed, rfl⟩ := closeReservation_ok happly
    simp only [closedConsumed, if_true, requireCall_bind_ok] at hconsumed
    obtain ⟨hamount, hconsumed⟩ := hconsumed
    cases hconsumed
    exact .consumed hpayload hopen hcurrent hid hamount
  | released payload reasonCode =>
    obtain ⟨hopen, current, consumed, hcurrent, hid, hconsumed, rfl⟩ := closeReservation_ok happly
    simp only [closedConsumed, Bool.false_eq_true, if_false, requireCall_bind_ok] at hconsumed
    obtain ⟨-, hconsumed⟩ := hconsumed
    cases hconsumed
    exact .released hpayload hopen hcurrent hid
  | exceeded payload =>
    simp only [applyPayload, applyExceeded, requireCall_bind_ok] at happly
    obtain ⟨hfresh, happly⟩ := happly
    obtain ⟨_, -, happly⟩ := Fold.bind_eq_ok.mp happly
    cases happly
    exact .exceeded hpayload hfresh
  | limit payload =>
    cases happly
    exact .limit hpayload

end ResearchOs.Budget
