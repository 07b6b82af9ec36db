import ResearchOs.Budget.Step

/-! What the fold of an accepted log conserves. -/
namespace ResearchOs.Budget

/-- The id that a fact opens. -/
def BudgetPayload.opens : BudgetPayload → Option EventIdentifier
  | .reserved payload => some payload.budgetId
  | _ => none

/-- The id that a fact closes, by consumption, release or excess. -/
def BudgetPayload.closes : BudgetPayload → Option EventIdentifier
  | .consumed payload => some payload.budgetId
  | .released payload _ => some payload.budgetId
  | .exceeded payload => some payload.budgetId
  | _ => none

/-- The cap that a human approves. -/
def BudgetPayload.approves : BudgetPayload → Option Int
  | .limit payload => some (parseMoney payload.cap)
  | _ => none

def selected {α : Type} (select : BudgetPayload → Option α) (projectId : EventIdentifier)
    (events : List ResearchEvent) : List α :=
  events.filterMap fun event => (budgetPayload projectId event).bind select

/-- The ids of the reservations of a log, in order. -/
def openedIds (projectId : EventIdentifier) (events : List ResearchEvent) : List EventIdentifier :=
  selected BudgetPayload.opens projectId events

def closingIds (projectId : EventIdentifier) (events : List ResearchEvent) : List EventIdentifier :=
  selected BudgetPayload.closes projectId events

/-- The largest cap that a log has recorded, 0 if none. -/
def largestCap (projectId : EventIdentifier) (events : List ResearchEvent) : Int :=
  (selected BudgetPayload.approves projectId events).foldl max 0

def exactSum (reservations : List OpenReservation) : Int := (reservations.map (·.amount)).sum

structure Conserved (projectId : EventIdentifier) (events : List ResearchEvent)
    (fold : BudgetFold) : Prop where
  openedOnce : (openedIds projectId events).Nodup
  closedOnce : (closingIds projectId events).Nodup
  closed : fold.closedIds = closingIds projectId events
  opened : fold.openIds = (openedIds projectId events).filter fun id => id ∉ fold.closedIds
  amounts : ∀ item ∈ fold.reservations, 0 ≤ item.amount
  consumed : 0 ≤ fold.consumed
  approved : ∀ cap ∈ fold.approvedCap, cap ≤ largestCap projectId events
  bounded : 0 ≤ largestCap projectId events ∧ largestCap projectId events ≤ maxMoney
  within : fold.consumed + exactSum fold.reservations ≤ largestCap projectId events

variable {projectId : EventIdentifier} {events : List ResearchEvent} {fold next : BudgetFold}
  {event : ResearchEvent}

theorem selected_concat {α : Type} (select : BudgetPayload → Option α) :
    selected select projectId (events ++ [event]) =
      selected select projectId events ++
        ((budgetPayload projectId event).bind select).toList := by
  rw [selected, selected, List.filterMap_append, List.filterMap_cons]
  cases (budgetPayload projectId event).bind select <;> rfl

theorem nodup_concat {α : Type} {items : List α} {a : α} (h : items.Nodup) (ha : a ∉ items) :
    (items ++ [a]).Nodup := by
  rw [← List.concat_eq_append]
  exact h.concat ha

/-- A sum over keyed items loses the item of the key that is filtered out. -/
theorem sum_filter_ne {α β : Type} [DecidableEq β] (key : α → β) (f : α → Int) {items : List α}
    {a : α} (hkeys : (items.map key).Nodup) (ha : a ∈ items) :
    (items.map f).sum = f a + ((items.filter fun item => key item ≠ key a).map f).sum := by
  induction items with
  | nil => cases ha
  | cons b items ih =>
    obtain ⟨hb, hkeys⟩ := List.nodup_cons.mp hkeys
    rcases List.mem_cons.mp ha with rfl | ha
    · have hrest : (items.filter fun item => key item ≠ key a) = items := by
        apply List.filter_eq_self.mpr
        intro item hitem
        have hne : key item ≠ key a := fun heq => hb (heq ▸ List.mem_map_of_mem hitem)
        simpa using hne
      rw [List.filter_cons_of_neg (by simp), hrest]
      rfl
    · have hne : key b ≠ key a := fun heq => hb (heq ▸ List.mem_map_of_mem ha)
      have hrest := ih hkeys ha
      rw [List.filter_cons_of_pos (by simpa using hne), List.map_cons, List.map_cons, List.sum_cons,
        List.sum_cons]
      omega

namespace Conserved

theorem empty : Conserved projectId [] BudgetFold.empty where
  openedOnce := List.nodup_nil
  closedOnce := List.nodup_nil
  closed := rfl
  opened := rfl
  amounts := by simp [BudgetFold.empty]
  consumed := Int.le_refl 0
  approved := by simp [BudgetFold.empty]
  bounded := ⟨Int.le_refl 0, (by decide : (0 : Int) ≤ maxMoney)⟩
  within := Int.le_refl 0

variable (h : Conserved projectId events fold)
include h

theorem sum_nonneg : 0 ≤ exactSum fold.reservations := by
  apply List.sum_nonneg
  intro amount hamount
  obtain ⟨item, hitem, rfl⟩ := List.mem_map.mp hamount
  exact h.amounts item hitem

theorem outstanding_eq : fold.outstanding = exactSum fold.reservations := by
  have hsum := h.sum_nonneg
  have hwithin := h.within
  have hconsumed := h.consumed
  have hbounded := h.bounded
  have hamounts : ∀ a ∈ fold.reservations.map (·.amount), 0 ≤ a := by
    intro a ha
    obtain ⟨item, hitem, rfl⟩ := List.mem_map.mp ha
    exact h.amounts item hitem
  have hexact := Hundredths.foldl_add hamounts (Int.le_refl 0) (by
    unfold exactSum at hsum hwithin
    unfold maxMoney at hbounded
    unfold Hundredths.precision
    omega)
  rw [BudgetFold.outstanding, hexact, exactSum]
  omega

/-- The guard compares the exact exposure, because no sum of the fold is rounded. -/
theorem reservationWouldExceed_iff {requested cap : Int} (hrequested : 0 ≤ requested)
    (hmax : requested ≤ maxMoney) :
    reservationWouldExceed fold requested cap = true ↔
      cap < fold.consumed + exactSum fold.reservations + requested := by
  have hsum := h.sum_nonneg
  have hwithin := h.within
  have hconsumed := h.consumed
  have hbounded := h.bounded
  unfold maxMoney at hbounded hmax
  have hexposure : Hundredths.add fold.consumed fold.outstanding =
      fold.consumed + exactSum fold.reservations := by
    rw [h.outstanding_eq]
    apply Hundredths.add_eq
    unfold Hundredths.precision
    omega
  have htotal : Hundredths.add (fold.consumed + exactSum fold.reservations) requested =
      fold.consumed + exactSum fold.reservations + requested := by
    apply Hundredths.add_eq
    unfold Hundredths.precision
    omega
  rw [reservationWouldExceed, hexposure, htotal, decide_eq_true_eq]

theorem openIds_nodup : fold.openIds.Nodup := by
  rw [h.opened]
  exact h.openedOnce.filter _

theorem disjoint {id : EventIdentifier} (hid : id ∈ fold.openIds) : id ∉ fold.closedIds := by
  rw [h.opened] at hid
  simpa using (List.mem_filter.mp hid).2

/-- An id that the fold does not know was never opened or closed. -/
theorem fresh {id : EventIdentifier} (hid : id ∉ fold.knownIds) :
    id ∉ openedIds projectId events ∧ id ∉ fold.openIds ∧ id ∉ fold.closedIds := by
  rw [BudgetFold.knownIds, List.mem_append, not_or] at hid
  refine ⟨?_, hid⟩
  intro hopened
  apply hid.1
  rw [h.opened]
  exact List.mem_filter.mpr ⟨hopened, by simpa using hid.2⟩

theorem foreign (hpayload : budgetPayload projectId event = none) :
    Conserved projectId (events ++ [event]) fold := by
  have hsame {α : Type} (select : BudgetPayload → Option α) :
      selected select projectId (events ++ [event]) = selected select projectId events := by
    rw [selected_concat, hpayload]
    simp
  have hopened : openedIds projectId (events ++ [event]) = openedIds projectId events := hsame _
  have hclosing : closingIds projectId (events ++ [event]) = closingIds projectId events := hsame _
  have hcap : largestCap projectId (events ++ [event]) = largestCap projectId events :=
    congrArg (List.foldl max 0) (hsame _)
  refine ⟨?_, ?_, ?_, ?_, h.amounts, h.consumed, ?_, ?_, ?_⟩
  · rw [hopened]
    exact h.openedOnce
  · rw [hclosing]
    exact h.closedOnce
  · rw [hclosing]
    exact h.closed
  · rw [hopened]
    exact h.opened
  · rw [hcap]
    exact h.approved
  · rw [hcap]
    exact h.bounded
  · rw [hcap]
    exact h.within

theorem reserved {payload : ReservationPayload}
    (hpayload : budgetPayload projectId event = some (.reserved payload))
    (hfresh : payload.budgetId ∉ fold.knownIds)
    (hlimit : (parseMoney payload.cap = 0 ∧ parseMoney payload.amount = 0) ∨
      fold.approvedCap = some (parseMoney payload.cap))
    (hwithin : reservationWouldExceed fold (parseMoney payload.amount)
      (parseMoney payload.cap) = false) :
    Conserved projectId (events ++ [event]) { fold with
      reservations := fold.reservations ++ [payload.opened] } := by
  obtain ⟨hnew, -, hnotclosed⟩ := h.fresh hfresh
  have hamount := parseMoney_bounds payload.amount
  have hopened : openedIds projectId (events ++ [event]) =
      openedIds projectId events ++ [payload.budgetId] := by
    rw [openedIds, selected_concat, hpayload]
    rfl
  have hclosing : closingIds projectId (events ++ [event]) = closingIds projectId events := by
    rw [closingIds, selected_concat, hpayload]
    exact List.append_nil _
  have hcap : largestCap projectId (events ++ [event]) = largestCap projectId events := by
    rw [largestCap, selected_concat, hpayload]
    exact congrArg (List.foldl max 0) (List.append_nil _)
  have hexposure : fold.consumed + exactSum fold.reservations + parseMoney payload.amount ≤
      largestCap projectId events := by
    have hguard : ¬ parseMoney payload.cap <
        fold.consumed + exactSum fold.reservations + parseMoney payload.amount := by
      rw [← h.reservationWouldExceed_iff hamount.1 hamount.2, hwithin]
      exact Bool.false_ne_true
    rcases hlimit with ⟨-, hfree⟩ | happroved
    · have := h.within
      omega
    · have := h.approved _ happroved
      omega
  refine ⟨?_, ?_, ?_, ?_, ?_, h.consumed, ?_, ?_, ?_⟩
  · rw [hopened]
    exact nodup_concat h.openedOnce hnew
  · rw [hclosing]
    exact h.closedOnce
  · rw [hclosing]
    exact h.closed
  · have hkept : decide (payload.budgetId ∉ fold.closedIds) = true := by simpa using hnotclosed
    rw [hopened, List.filter_append, ← h.opened, List.filter_singleton, hkept]
    simp [BudgetFold.openIds, ReservationPayload.opened]
  · intro item hitem
    rcases List.mem_append.mp hitem with hitem | hitem
    · exact h.amounts item hitem
    · rw [List.mem_singleton.mp hitem]
      exact hamount.1
  · rw [hcap]
    exact h.approved
  · rw [hcap]
    exact h.bounded
  · have hsum : exactSum (fold.reservations ++ [payload.opened]) =
        exactSum fold.reservations + parseMoney payload.amount := by
      simp [exactSum, ReservationPayload.opened]
    simp only [hcap, hsum]
    omega

/-- A reservation closes with a consumed total between the old one and the old one plus its
amount. -/
theorem close {payload : BudgetPayload} {current : OpenReservation} {consumed : Int}
    (hpayload : budgetPayload projectId event = some payload)
    (hopens : payload.opens = none) (hcloses : payload.closes = some current.budgetId)
    (happroves : payload.approves = none) (hcurrent : current ∈ fold.reservations)
    (hlow : fold.consumed ≤ consumed) (hhigh : consumed ≤ fold.consumed + current.amount) :
    Conserved projectId (events ++ [event]) (fold.close current.budgetId consumed) := by
  have hid : current.budgetId ∈ fold.openIds := List.mem_map_of_mem hcurrent
  have hnotclosed := h.disjoint hid
  have hopened : openedIds projectId (events ++ [event]) = openedIds projectId events := by
    simp [openedIds, selected_concat, hpayload, hopens]
  have hclosing : closingIds projectId (events ++ [event]) =
      closingIds projectId events ++ [current.budgetId] := by
    simp [closingIds, selected_concat, hpayload, hcloses]
  have hcap : largestCap projectId (events ++ [event]) = largestCap projectId events := by
    simp [largestCap, selected_concat, hpayload, happroves]
  have hsum : exactSum fold.reservations = current.amount +
      exactSum (fold.reservations.filter fun item => item.budgetId ≠ current.budgetId) :=
    sum_filter_ne OpenReservation.budgetId OpenReservation.amount h.openIds_nodup hcurrent
  refine ⟨?_, ?_, ?_, ?_, ?_, ?_, ?_, ?_, ?_⟩
  · rw [hopened]
    exact h.openedOnce
  · rw [hclosing]
    refine nodup_concat h.closedOnce ?_
    rw [← h.closed]
    exact hnotclosed
  · rw [hclosing, ← h.closed]
    rfl
  · rw [hopened]
    have hkept : (fold.close current.budgetId consumed).openIds =
        fold.openIds.filter fun id => id ≠ current.budgetId := by
      simp only [BudgetFold.close, BudgetFold.openIds, List.filter_map]
      rfl
    rw [hkept, h.opened, List.filter_filter]
    apply List.filter_congr
    intro id _
    simp [BudgetFold.close, and_comm]
  · intro item hitem
    exact h.amounts item (List.mem_of_mem_filter hitem)
  · have := h.consumed
    simp only [BudgetFold.close]
    omega
  · rw [hcap]
    exact h.approved
  · rw [hcap]
    exact h.bounded
  · have := h.within
    simp only [hcap, BudgetFold.close]
    omega

theorem exceeded {payload : BudgetExceededPayload}
    (hpayload : budgetPayload projectId event = some (.exceeded payload))
    (hfresh : payload.budgetId ∉ fold.knownIds) :
    Conserved projectId (events ++ [event]) { fold with
      closedIds := fold.closedIds ++ [payload.budgetId] } := by
  obtain ⟨hnew, -, hnotclosed⟩ := h.fresh hfresh
  have hopened : openedIds projectId (events ++ [event]) = openedIds projectId events := by
    simp [openedIds, selected_concat, hpayload, BudgetPayload.opens]
  have hclosing : closingIds projectId (events ++ [event]) =
      closingIds projectId events ++ [payload.budgetId] := by
    simp [closingIds, selected_concat, hpayload, BudgetPayload.closes]
  have hcap : largestCap projectId (events ++ [event]) = largestCap projectId events := by
    simp [largestCap, selected_concat, hpayload, BudgetPayload.approves]
  refine ⟨?_, ?_, ?_, ?_, h.amounts, h.consumed, ?_, ?_, ?_⟩
  · rw [hopened]
    exact h.openedOnce
  · rw [hclosing]
    refine nodup_concat h.closedOnce ?_
    rw [← h.closed]
    exact hnotclosed
  · rw [hclosing, ← h.closed]
  · rw [hopened]
    change fold.openIds = _
    rw [h.opened]
    apply List.filter_congr
    intro id hid
    have hne : id ≠ payload.budgetId := by
      rintro rfl
      exact hnew hid
    simp [hne]
  · rw [hcap]
    exact h.approved
  · rw [hcap]
    exact h.bounded
  · rw [hcap]
    exact h.within

theorem limit {payload : BudgetLimitPayload}
    (hpayload : budgetPayload projectId event = some (.limit payload)) :
    Conserved projectId (events ++ [event]) { fold with
      approvedCap := some (parseMoney payload.cap) } := by
  have hpaid := parseMoney_bounds payload.cap
  have hopened : openedIds projectId (events ++ [event]) = openedIds projectId events := by
    simp [openedIds, selected_concat, hpayload, BudgetPayload.opens]
  have hclosing : closingIds projectId (events ++ [event]) = closingIds projectId events := by
    simp [closingIds, selected_concat, hpayload, BudgetPayload.closes]
  have hcap : largestCap projectId (events ++ [event]) =
      max (largestCap projectId events) (parseMoney payload.cap) := by
    simp [largestCap, selected_concat, hpayload, BudgetPayload.approves, List.foldl_append]
  have hbounded := h.bounded
  have hwithin := h.within
  refine ⟨?_, ?_, ?_, ?_, h.amounts, h.consumed, ?_, ?_, ?_⟩
  · rw [hopened]
    exact h.openedOnce
  · rw [hclosing]
    exact h.closedOnce
  · rw [hclosing]
    exact h.closed
  · rw [hopened]
    exact h.opened
  · intro cap happroved
    obtain rfl := Option.some.inj happroved
    rw [hcap]
    omega
  · rw [hcap]
    omega
  · rw [hcap]
    dsimp only
    omega

theorem step (hstep : BudgetStep projectId fold event next) :
    Conserved projectId (events ++ [event]) next := by
  cases hstep with
  | foreign hpayload => exact h.foreign hpayload
  | reserved hpayload hfresh hlimit hwithin => exact h.reserved hpayload hfresh hlimit hwithin
  | @consumed payload current hpayload hopen hcurrent hid hamount =>
    have hpaid := parseMoney_bounds payload.amount
    have hsum := h.within
    have htotal := h.sum_nonneg
    have hbounded := h.bounded
    have hconsumed := h.consumed
    have hexact : Hundredths.add fold.consumed (parseMoney payload.amount) =
        fold.consumed + parseMoney payload.amount := by
      apply Hundredths.add_eq
      unfold maxMoney at hpaid hbounded
      unfold Hundredths.precision
      omega
    rw [hexact, ← hid]
    exact h.close hpayload rfl (by rw [hid]; rfl) rfl hcurrent (by omega) (by omega)
  | @released payload reasonCode current hpayload hopen hcurrent hid =>
    have hamount := h.amounts current hcurrent
    rw [← hid]
    exact h.close hpayload rfl (by rw [hid]; rfl) rfl hcurrent (by omega) (by omega)
  | exceeded hpayload hfresh => exact h.exceeded hpayload hfresh
  | limit hpayload => exact h.limit hpayload

end Conserved

/-- The fold of a log from its start. -/
def replayBudget (projectId : EventIdentifier) (events : List ResearchEvent) :
    Except BudgetError BudgetFold :=
  events.foldlM (applyBudgetFold projectId) BudgetFold.empty

theorem replayBudget_conserved {events : List ResearchEvent} {fold : BudgetFold}
    (h : replayBudget projectId events = .ok fold) : Conserved projectId events fold := by
  induction events using List.reverseRecOn generalizing fold with
  | nil =>
    cases h
    exact .empty
  | append_singleton events event ih =>
    obtain ⟨before, hbefore, hstep⟩ := Fold.foldlM_concat_eq_ok.mp h
    exact (ih hbefore).step (budgetStep hstep)

end ResearchOs.Budget
