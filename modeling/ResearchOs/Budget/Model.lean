import Mathlib.Data.List.TakeWhile
import ResearchOs.Data.Decimal
import ResearchOs.Data.Text
import ResearchOs.Events.Model
import ResearchOs.Events.Scalars

/-! CNY amounts as decimal strings with two fraction digits; values are in hundredths. -/
namespace ResearchOs.Budget

/-- A message and its code. -/
inductive BudgetError where
  | budget (message code : String)
  | exceeded (message code : String)
  | call (message code : String)
  | payload (message code : String)
  deriving DecidableEq, Repr

def unitDigits (s : String) : List Char := s.toList.takeWhile Char.isDigit

def units (s : String) : Nat := Nat.ofDigitChars 10 (unitDigits s) 0

/-- `MONEY_PATTERN`: at most seven unit digits without leading zeros, a point, two digits. -/
def isMoneyAmount (s : String) : Bool :=
  match s.toList.dropWhile Char.isDigit with
  | ['.', tenth, hundredth] =>
    tenth.isDigit && hundredth.isDigit && decide (Nat.toDigits 10 (units s) = unitDigits s) &&
      decide ((unitDigits s).length ≤ 7)
  | _ => false

abbrev MoneyAmount := Checked isMoneyAmount

def moneyValue (s : String) : Int :=
  100 * units s + Nat.ofDigitChars 10 ((s.toList.dropWhile Char.isDigit).drop 1) 0

/-- `parse_money` of an amount that its model has checked. -/
def parseMoney (amount : MoneyAmount) : Int := moneyValue amount.val

def maxMoney : Int := 999999999

/-- `f"{value:.2f}"` of a value that is not negative. -/
def renderMoney (value : Nat) : String :=
  String.ofList (Nat.toDigits 10 (value / 100) ++
    ['.', Nat.digitChar (value / 10 % 10), Nat.digitChar (value % 10)])

/-- `format_money` -/
def formatMoney (value : Int) : Except BudgetError String :=
  if value < 0 ∨ maxMoney < value then
    .error (.budget "money amount is outside the supported range" "invalid-money")
  else if isMoneyAmount (renderMoney value.toNat) then .ok (renderMoney value.toNat)
  else .error (.budget "money amount must be a two-decimal CNY string" "invalid-money")

/-- An amount lies in the range that `format_money` admits. -/
theorem parseMoney_bounds (amount : MoneyAmount) :
    0 ≤ parseMoney amount ∧ parseMoney amount ≤ maxMoney := by
  have hmoney := amount.property
  unfold isMoneyAmount at hmoney
  split at hmoney
  · rename_i tenth hundredth hfraction
    simp only [Bool.and_eq_true, decide_eq_true_eq] at hmoney
    obtain ⟨⟨⟨htenth, hhundredth⟩, -⟩, hlength⟩ := hmoney
    have hdigits : ∀ c ∈ unitDigits amount.val, c.isDigit = true :=
      fun c hc => List.mem_takeWhile_imp hc
    have hunits : units amount.val < (0 + 1) * 10 ^ (unitDigits amount.val).length :=
      Text.ofDigitChars_lt hdigits 0
    have hpow : 10 ^ (unitDigits amount.val).length ≤ 10 ^ 7 :=
      Nat.pow_le_pow_right (by decide) hlength
    have hpair : ∀ c ∈ [tenth, hundredth], c.isDigit = true := by simp [htenth, hhundredth]
    have hcents := Text.ofDigitChars_lt hpair 0
    simp only [parseMoney, moneyValue, maxMoney, hfraction, List.drop_one, List.tail_cons]
    simp only [List.length_cons, List.length_nil] at hcents
    constructor
    · omega
    · have : units amount.val < 10000000 := by omega
      omega
  · cases hmoney

theorem isDigit_digitChar {n : Nat} (h : n < 10) : (Nat.digitChar n).isDigit = true :=
  Nat.isDigit_of_mem_toDigits (b := 10) (by decide) (by decide)
    (by rw [Nat.toDigits_of_lt_base h]; exact List.mem_singleton.mpr rfl)

/-- The digits of the units end at the point. -/
theorem renderMoney_split (value : Nat) :
    unitDigits (renderMoney value) = Nat.toDigits 10 (value / 100) ∧
      (renderMoney value).toList.dropWhile Char.isDigit =
        ['.', Nat.digitChar (value / 10 % 10), Nat.digitChar (value % 10)] := by
  have hdigits : ∀ c ∈ Nat.toDigits 10 (value / 100), c.isDigit = true :=
    fun c hc => Nat.isDigit_of_mem_toDigits (by decide) (by decide) hc
  have hpoint : ('.' : Char).isDigit = false := by decide
  constructor
  · rw [unitDigits, renderMoney, String.toList_ofList, List.takeWhile_append_of_pos hdigits,
      List.takeWhile_cons_of_neg (by simp [hpoint]), List.append_nil]
  · rw [renderMoney, String.toList_ofList, List.dropWhile_append_of_pos hdigits,
      List.dropWhile_cons_of_neg (by simp [hpoint])]

theorem ofDigitChars_digitChars {n : Nat} :
    Nat.ofDigitChars 10 [Nat.digitChar (n / 10 % 10), Nat.digitChar (n % 10)] 0 = n % 100 := by
  have hvalue : ∀ d, d < 10 → (Nat.digitChar d).toNat - '0'.toNat = d := by decide
  rw [Nat.ofDigitChars_cons, Nat.ofDigitChars_cons, Nat.ofDigitChars_nil,
    hvalue _ (Nat.mod_lt _ (by decide)), hvalue _ (Nat.mod_lt _ (by decide))]
  omega

theorem renderMoney_isMoneyAmount {value : Nat} (h : value ≤ 999999999) :
    isMoneyAmount (renderMoney value) = true := by
  obtain ⟨hunits, hfraction⟩ := renderMoney_split value
  have hvalue : units (renderMoney value) = value / 100 := by
    rw [units, hunits, Nat.ofDigitChars_ten_toDigits]
  have hlength : (Nat.toDigits 10 (value / 100)).length ≤ 7 :=
    (Nat.length_toDigits_le_iff (by decide) (by decide)).mpr (by omega)
  have htenth := isDigit_digitChar (Nat.mod_lt (value / 10) (by decide : 0 < 10))
  have hhundredth := isDigit_digitChar (Nat.mod_lt value (by decide : 0 < 10))
  simp [isMoneyAmount, hfraction, hvalue, hunits, hlength, htenth, hhundredth]

/-- A value in the range is written as an amount that reads back equal. -/
theorem formatMoney_ok {value : Int} (hlow : 0 ≤ value) (hhigh : value ≤ maxMoney) :
    ∃ amount : MoneyAmount, formatMoney value = .ok amount.val ∧ parseMoney amount = value := by
  have hbound : value.toNat ≤ 999999999 := by
    unfold maxMoney at hhigh
    omega
  have hmoney := renderMoney_isMoneyAmount hbound
  refine ⟨⟨renderMoney value.toNat, hmoney⟩, ?_, ?_⟩
  · rw [formatMoney, if_neg (by omega), if_pos hmoney]
  · obtain ⟨hunits, hfraction⟩ := renderMoney_split value.toNat
    simp only [parseMoney, moneyValue, units, hunits, Nat.ofDigitChars_ten_toDigits, hfraction,
      List.drop_one, List.tail_cons, ofDigitChars_digitChars]
    omega

end ResearchOs.Budget

/-! Budget payloads and the replayable fold of one project. -/
namespace ResearchOs.Budget

/-- `BUDGET_EVENT_TYPES` -/
inductive BudgetEventType where
  | reserved
  | consumed
  | exceeded
  | released
  | limitRecorded
  deriving DecidableEq, Repr

namespace BudgetEventType

def text : BudgetEventType → String
  | reserved => "budget.reserved"
  | consumed => "budget.consumed"
  | exceeded => "budget.exceeded"
  | released => "budget.released"
  | limitRecorded => "budget.limit.recorded"

def ofText (s : String) : Option BudgetEventType :=
  [reserved, consumed, exceeded, released, limitRecorded].find? fun t => t.text = s

end BudgetEventType

inductive Currency where
  | cny
  deriving DecidableEq, Repr

/-- `BudgetReservedPayload` and `BudgetConsumedPayload`; a `BudgetReleasedPayload` adds a reason. -/
structure ReservationPayload where
  budgetId : EventIdentifier
  callId : EventIdentifier
  currency : Currency
  amount : MoneyAmount
  cap : MoneyAmount

structure BudgetExceededPayload where
  budgetId : EventIdentifier
  callId : EventIdentifier
  currency : Currency
  attempted : MoneyAmount
  cap : MoneyAmount

structure BudgetLimitPayload where
  currency : Currency
  cap : MoneyAmount

inductive BudgetPayload where
  | reserved (payload : ReservationPayload)
  | consumed (payload : ReservationPayload)
  | exceeded (payload : BudgetExceededPayload)
  | released (payload : ReservationPayload) (reasonCode : CloudEventsString)
  | limit (payload : BudgetLimitPayload)

def currencyField (ms : Json.Members) : Option Currency :=
  (Strict.defaulted ms "currency" () (Strict.literal "CNY")).map fun _ => .cny

def reservationMembers (ms : Json.Members) : Option ReservationPayload := do
  let budgetId ← Strict.required ms "budgetId" Strict.identifier
  let callId ← Strict.required ms "callId" Strict.identifier
  let currency ← currencyField ms
  let amount ← Strict.required ms "amount" (Strict.text _)
  let cap ← Strict.required ms "cap" (Strict.text _)
  some ⟨budgetId, callId, currency, amount, cap⟩

def validateReservation (j : Json) : Option ReservationPayload := do
  let ms ← Strict.closed ["budgetId", "callId", "currency", "amount", "cap"] j
  reservationMembers ms

def validateReleased (j : Json) : Option BudgetPayload := do
  let ms ← Strict.closed ["budgetId", "callId", "currency", "amount", "cap", "reasonCode"] j
  let payload ← reservationMembers ms
  let reasonCode ← Strict.required ms "reasonCode" Strict.cloudEventsString
  some (.released payload reasonCode)

def validateExceeded (j : Json) : Option BudgetExceededPayload := do
  let ms ← Strict.closed ["budgetId", "callId", "currency", "attempted", "cap"] j
  let budgetId ← Strict.required ms "budgetId" Strict.identifier
  let callId ← Strict.required ms "callId" Strict.identifier
  let currency ← currencyField ms
  let attempted ← Strict.required ms "attempted" (Strict.text _)
  let cap ← Strict.required ms "cap" (Strict.text _)
  some ⟨budgetId, callId, currency, attempted, cap⟩

def validateLimit (j : Json) : Option BudgetLimitPayload := do
  let ms ← Strict.closed ["currency", "cap"] j
  let currency ← currencyField ms
  let cap ← Strict.required ms "cap" (Strict.text _)
  some ⟨currency, cap⟩

/-- `PAYLOAD_MODELS` -/
def payloadModel (type : BudgetEventType) (j : Json) : Option BudgetPayload :=
  match type with
  | .reserved => (validateReservation j).map .reserved
  | .consumed => (validateReservation j).map .consumed
  | .exceeded => (validateExceeded j).map .exceeded
  | .released => validateReleased j
  | .limitRecorded => (validateLimit j).map .limit

/-- `parse_budget_payload` of an event with a budget type. -/
def parseBudgetPayload (type : BudgetEventType) (event : ResearchEvent) :
    Except BudgetError BudgetPayload :=
  match payloadModel type (.obj event.data.payload) with
  | some payload => .ok payload
  | none => .error (.payload ("invalid payload for budget type " ++ event.type.val ++
      " (event id " ++ event.id.val ++ ", sequence " ++ sequenceText event.sequence ++ ")")
      "invalid-payload")

/-- `require_budget_actor` -/
def requireBudgetActor (type : BudgetEventType) (event : ResearchEvent) : Except BudgetError Unit :=
  match event.data.actor.kind with
  | none => .error (.payload ("actor kind is required for " ++ event.type.val ++ " (event id " ++
      event.id.val ++ ")") "actor-kind-required")
  | some kind =>
    let allowed := if type = .limitRecorded then ActorKind.human else ActorKind.system
    if kind = allowed then .ok ()
    else .error (.payload ("actor kind is not allowed for " ++ event.type.val ++ " (event id " ++
      event.id.val ++ ")") "actor-kind-forbidden")

structure OpenReservation where
  budgetId : EventIdentifier
  callId : EventIdentifier
  currency : Currency
  amount : Int
  cap : Int
  deriving DecidableEq

/-- `open` is `reservations`; `closed_ids` lists each member once. -/
structure BudgetFold where
  reservations : List OpenReservation
  closedIds : List EventIdentifier
  consumed : Int
  approvedCap : Option Int
  deriving DecidableEq

namespace BudgetFold

def empty : BudgetFold := ⟨[], [], 0, none⟩

def outstanding (fold : BudgetFold) : Int :=
  (fold.reservations.map (·.amount)).foldl Hundredths.add 0

def openIds (fold : BudgetFold) : List EventIdentifier := fold.reservations.map (·.budgetId)

/-- `_known_ids` -/
def knownIds (fold : BudgetFold) : List EventIdentifier := fold.openIds ++ fold.closedIds

end BudgetFold

/-- Raise a `BudgetCallError` unless the condition holds. -/
def requireCall (condition : Prop) [Decidable condition] (message code : String) :
    Except BudgetError Unit :=
  if condition then .ok () else .error (.call message code)

/-- `reservation_would_exceed` -/
def reservationWouldExceed (fold : BudgetFold) (requested cap : Int) : Bool :=
  decide (cap < Hundredths.add (Hundredths.add fold.consumed fold.outstanding) requested)

/-- `_require_reservation_within_approved_limit` -/
def requireReservationWithinApprovedLimit (fold : BudgetFold) (requested cap : Int) :
    Except BudgetError Unit :=
  if cap = 0 ∧ requested = 0 then .ok ()
  else
    match fold.approvedCap with
    | none => .error (.call "positive budget requires a recorded project limit"
        "budget-limit-missing")
    | some approved => requireCall (cap = approved)
        "request budgetCap does not match the recorded project limit" "budget-limit-mismatch"

/-- `_apply_reserved` -/
def applyReserved (fold : BudgetFold) (payload : ReservationPayload) :
    Except BudgetError BudgetFold := do
  requireCall (payload.budgetId ∉ fold.knownIds) "budgetId is already recorded"
    "duplicate-budget-id"
  let amount := parseMoney payload.amount
  let cap := parseMoney payload.cap
  requireReservationWithinApprovedLimit fold amount cap
  requireCall (reservationWouldExceed fold amount cap = false)
    "reservation would exceed the declared cap" "reservation-exceeds-cap"
  .ok { fold with
    reservations := fold.reservations ++
      [⟨payload.budgetId, payload.callId, payload.currency, amount, cap⟩] }

/-- The consumed total after a reservation closes. -/
def closedConsumed (fold : BudgetFold) (current : OpenReservation) (amount : Int)
    (addConsumed : Bool) : Except BudgetError Int :=
  if addConsumed then do
    requireCall (amount ≤ current.amount) "budget consume amount exceeds the reservation"
      "consume-exceeds-reserve"
    .ok (Hundredths.add fold.consumed amount)
  else do
    requireCall (amount = current.amount) "budget release amount must equal the reservation"
      "reservation-mismatch"
    .ok fold.consumed

/-- `_close_reservation` -/
def closeReservation (fold : BudgetFold) (payload : ReservationPayload) (addConsumed : Bool) :
    Except BudgetError BudgetFold := do
  requireCall (payload.budgetId ∉ fold.closedIds) "budgetId is already complete"
    "duplicate-budget-id"
  match fold.reservations.find? fun item => item.budgetId = payload.budgetId with
  | none => .error (.call "budget consumption has no matching reserve" "orphan-budget-id")
  | some current =>
    requireCall (payload.callId = current.callId) "budget callId does not match the reservation"
      "reservation-mismatch"
    requireCall (payload.currency = current.currency)
      "budget currency does not match the reservation" "reservation-mismatch"
    requireCall (parseMoney payload.cap = current.cap)
      "budget cap does not match the reservation" "reservation-mismatch"
    let consumed ← closedConsumed fold current (parseMoney payload.amount) addConsumed
    .ok { fold with
      reservations := fold.reservations.filter fun item => item.budgetId ≠ payload.budgetId
      closedIds := fold.closedIds ++ [payload.budgetId]
      consumed := consumed }

/-- `_apply_exceeded` -/
def applyExceeded (fold : BudgetFold) (payload : BudgetExceededPayload) :
    Except BudgetError BudgetFold := do
  requireCall (payload.budgetId ∉ fold.knownIds) "budgetId is already recorded"
    "duplicate-budget-id"
  requireReservationWithinApprovedLimit fold (parseMoney payload.attempted) (parseMoney payload.cap)
  .ok { fold with closedIds := fold.closedIds ++ [payload.budgetId] }

/-- `_apply_limit` -/
def applyLimit (fold : BudgetFold) (payload : BudgetLimitPayload) : BudgetFold :=
  { fold with approvedCap := some (parseMoney payload.cap) }

def applyPayload (fold : BudgetFold) : BudgetPayload → Except BudgetError BudgetFold
  | .reserved payload => applyReserved fold payload
  | .consumed payload => closeReservation fold payload true
  | .released payload _ => closeReservation fold payload false
  | .exceeded payload => applyExceeded fold payload
  | .limit payload => .ok (applyLimit fold payload)

/-- `apply_budget_fold` -/
def applyBudgetFold (projectId : EventIdentifier) (fold : BudgetFold) (event : ResearchEvent) :
    Except BudgetError BudgetFold :=
  if event.data.projectId ≠ projectId then .ok fold
  else
    match BudgetEventType.ofText event.type.val with
    | none => .ok fold
    | some type => do
      requireBudgetActor type event
      let payload ← parseBudgetPayload type event
      applyPayload fold payload

end ResearchOs.Budget
