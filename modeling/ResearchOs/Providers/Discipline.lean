import ResearchOs.Budget.Control
import ResearchOs.Providers.Compat

/-! What a recorded call leaves: its reservation, its course, and the failures that leak. -/
namespace ResearchOs.Providers

open Storage (EventLog)
open Budget (BudgetEventType BudgetFold BudgetPayload BudgetStep applyBudgetFold replayBudget)

/-! The budget facts of a call in the fold. -/

section BudgetFacts

variable {projectId budgetId : EventIdentifier} {fold next : BudgetFold} {event : ResearchEvent}
  {type : BudgetEventType} {payload : BudgetPayload}

def kind : BudgetPayload → BudgetEventType
  | .reserved _ => .reserved
  | .consumed _ => .consumed
  | .exceeded _ => .exceeded
  | .released _ _ => .released
  | .limit _ => .limitRecorded

def subject : BudgetPayload → Option EventIdentifier
  | .reserved payload => some payload.budgetId
  | .consumed payload => some payload.budgetId
  | .exceeded payload => some payload.budgetId
  | .released payload _ => some payload.budgetId
  | .limit _ => none

theorem budgetId_of_members {ms : Json.Members} {found : Budget.ReservationPayload}
    (h : Budget.reservationMembers ms = some found) :
    ms.lookup "budgetId" = some (.str found.budgetId.val) := by
  obtain ⟨budgetId, hid, h⟩ := Option.bind_eq_some_iff.mp h
  simp only [Option.bind_eq_bind, Option.bind_eq_some_iff] at h
  obtain ⟨_, -, _, -, _, -, _, -, h⟩ := h
  cases h
  exact Strict.required_text hid

/-- A payload is of the kind of its type, and about the budget that it names. -/
theorem payload_of_model {ms : Json.Members}
    (h : Budget.payloadModel type (.obj ms) = some payload) :
    kind payload = type ∧
      ∀ id ∈ subject payload, ms.lookup "budgetId" = some (.str id.val) := by
  have hreservation : ∀ found, Budget.validateReservation (.obj ms) = some found →
      ms.lookup "budgetId" = some (.str found.budgetId.val) := by
    intro found hfound
    obtain ⟨ms', hms, hfound⟩ := Option.bind_eq_some_iff.mp hfound
    cases Strict.closed_some hms
    exact budgetId_of_members hfound
  cases type with
  | reserved =>
    obtain ⟨found, hfound, rfl⟩ := Option.map_eq_some_iff.mp h
    refine ⟨rfl, ?_⟩
    rintro id ⟨rfl⟩
    exact hreservation found hfound
  | consumed =>
    obtain ⟨found, hfound, rfl⟩ := Option.map_eq_some_iff.mp h
    refine ⟨rfl, ?_⟩
    rintro id ⟨rfl⟩
    exact hreservation found hfound
  | exceeded =>
    obtain ⟨found, hfound, rfl⟩ := Option.map_eq_some_iff.mp h
    refine ⟨rfl, ?_⟩
    rintro id ⟨rfl⟩
    obtain ⟨ms', hms, hfound⟩ := Option.bind_eq_some_iff.mp hfound
    cases Strict.closed_some hms
    obtain ⟨budgetId, hid, hfound⟩ := Option.bind_eq_some_iff.mp hfound
    simp only [Option.bind_eq_bind, Option.bind_eq_some_iff] at hfound
    obtain ⟨_, -, _, -, _, -, _, -, hfound⟩ := hfound
    cases hfound
    exact Strict.required_text hid
  | released =>
    obtain ⟨ms', hms, hfound⟩ := Option.bind_eq_some_iff.mp h
    cases Strict.closed_some hms
    obtain ⟨found, hmembers, hfound⟩ := Option.bind_eq_some_iff.mp hfound
    obtain ⟨reasonCode, -, hfound⟩ := Option.bind_eq_some_iff.mp hfound
    cases hfound
    refine ⟨rfl, ?_⟩
    rintro id ⟨rfl⟩
    exact budgetId_of_members hmembers
  | limitRecorded =>
    obtain ⟨found, hfound, rfl⟩ := Option.map_eq_some_iff.mp h
    exact ⟨rfl, fun id hid => by cases hid⟩

/-- An accepted fact with a budget type has a payload. -/
theorem budgetPayload_of_type (hproject : event.data.projectId = projectId)
    (htype : BudgetEventType.ofText event.type.val = some type)
    (h : applyBudgetFold projectId fold event = .ok next) :
    ∃ payload, Budget.budgetPayload projectId event = some payload ∧
      Budget.payloadModel type (.obj event.data.payload) = some payload := by
  unfold applyBudgetFold at h
  rw [if_neg (not_not.mpr hproject), htype] at h
  obtain ⟨_, -, h⟩ := Fold.bind_eq_ok.mp h
  obtain ⟨payload, hparsed, -⟩ := Fold.bind_eq_ok.mp h
  have hmodel : Budget.payloadModel type (.obj event.data.payload) = some payload := by
    unfold Budget.parseBudgetPayload at hparsed
    split at hparsed
    · rename_i found hfound
      cases hparsed
      exact hfound
    · cases hparsed
  refine ⟨payload, ?_, hmodel⟩
  rw [Budget.budgetPayload, if_neg (not_not.mpr hproject), htype]
  exact hmodel

theorem folded_reserved (hproject : event.data.projectId = projectId)
    (htype : BudgetEventType.ofText event.type.val = some .reserved)
    (hid : event.data.payload.lookup "budgetId" = some (.str budgetId.val))
    (h : applyBudgetFold projectId fold event = .ok next) :
    budgetId ∉ fold.openIds ∧ budgetId ∈ next.openIds := by
  obtain ⟨payload, hpayload, hmodel⟩ := budgetPayload_of_type hproject htype h
  obtain ⟨hkind, hsubject⟩ := payload_of_model hmodel
  cases Budget.budgetStep h with
  | reserved hfound hfresh =>
    cases hpayload.symm.trans hfound
    have hsame := hsubject _ rfl
    rw [hid] at hsame
    have hbudget : budgetId = _ := Subtype.ext (Json.str.inj (Option.some.inj hsame))
    rw [hbudget]
    refine ⟨fun hopen => hfresh (List.mem_append_left _ hopen), ?_⟩
    refine List.mem_map.mpr ⟨_, List.mem_append_right _ (List.mem_singleton.mpr rfl), rfl⟩
  | foreign hfound => cases hpayload.symm.trans hfound
  | consumed hfound => cases hpayload.symm.trans hfound; cases hkind
  | released hfound => cases hpayload.symm.trans hfound; cases hkind
  | exceeded hfound => cases hpayload.symm.trans hfound; cases hkind
  | limit hfound => cases hpayload.symm.trans hfound; cases hkind

theorem closed_of_close {consumed : Int} :
    budgetId ∈ (fold.close budgetId consumed).closedIds ∧
      budgetId ∉ (fold.close budgetId consumed).openIds := by
  refine ⟨List.mem_append_right _ (List.mem_singleton.mpr rfl), fun hopen => ?_⟩
  obtain ⟨item, hitem, hid⟩ := List.mem_map.mp hopen
  exact absurd hid (of_decide_eq_true (List.mem_filter.mp hitem).2)

theorem folded_closed (hproject : event.data.projectId = projectId)
    (htype : BudgetEventType.ofText event.type.val = some type)
    (hcloses : type = .consumed ∨ type = .released)
    (hid : event.data.payload.lookup "budgetId" = some (.str budgetId.val))
    (h : applyBudgetFold projectId fold event = .ok next) :
    budgetId ∈ fold.openIds ∧ budgetId ∈ next.closedIds ∧ budgetId ∉ next.openIds := by
  obtain ⟨payload, hpayload, hmodel⟩ := budgetPayload_of_type hproject htype h
  obtain ⟨hkind, hsubject⟩ := payload_of_model hmodel
  have hother : ∀ other, kind other = type → kind other ≠ .consumed → kind other ≠ .released →
      False := by
    intro other hsame hconsumed hreleased
    rw [hsame] at hconsumed hreleased
    exact hcloses.elim hconsumed hreleased
  cases Budget.budgetStep h with
  | foreign hfound => cases hpayload.symm.trans hfound
  | reserved hfound =>
    cases hpayload.symm.trans hfound
    exact (hother _ hkind (by simp [kind]) (by simp [kind])).elim
  | consumed hfound _ hcurrent hsame =>
    cases hpayload.symm.trans hfound
    have hbudget := hsubject _ rfl
    rw [hid] at hbudget
    have hbudget : budgetId = _ := Subtype.ext (Json.str.inj (Option.some.inj hbudget))
    subst hbudget
    exact ⟨List.mem_map.mpr ⟨_, hcurrent, hsame⟩, closed_of_close⟩
  | released hfound _ hcurrent hsame =>
    cases hpayload.symm.trans hfound
    have hbudget := hsubject _ rfl
    rw [hid] at hbudget
    have hbudget : budgetId = _ := Subtype.ext (Json.str.inj (Option.some.inj hbudget))
    subst hbudget
    exact ⟨List.mem_map.mpr ⟨_, hcurrent, hsame⟩, closed_of_close⟩
  | exceeded hfound =>
    cases hpayload.symm.trans hfound
    exact (hother _ hkind (by simp [kind]) (by simp [kind])).elim
  | limit hfound =>
    cases hpayload.symm.trans hfound
    exact (hother _ hkind (by simp [kind]) (by simp [kind])).elim

end BudgetFacts

/-! What one append of the call comes to. -/

/-- What the fold of its family has made of a fact of the call. -/
structure Folds (c : CompatCall) (entry : Entry) : Prop where
  opened : entry.event.type.val = CompatEventType.reserved.text → ∃ fold next,
    replayBudget c.projectId entry.log = .ok fold ∧
      applyBudgetFold c.projectId fold entry.event = .ok next ∧
      c.request.budgetId ∉ fold.openIds ∧ c.request.budgetId ∈ next.openIds
  closed : entry.event.type.val = CompatEventType.consumed.text ∨
      entry.event.type.val = CompatEventType.released.text → ∃ fold next,
    replayBudget c.projectId entry.log = .ok fold ∧
      applyBudgetFold c.projectId fold entry.event = .ok next ∧
      c.request.budgetId ∈ fold.openIds ∧ c.request.budgetId ∈ next.closedIds ∧
      c.request.budgetId ∉ next.openIds
  started : entry.event.type.val = CallEventType.started.text → ∃ fold next,
    replayCalls c.projectId entry.log = .ok fold ∧
      applyCallFold c.projectId fold entry.event = .ok next ∧
      c.request.callId ∉ fold.openCalls ∧ c.request.callId ∈ next.openCalls
  ended : entry.event.type.val = CallEventType.completed.text ∨
      entry.event.type.val = CallEventType.failed.text → ∃ fold next,
    replayCalls c.projectId entry.log = .ok fold ∧
      applyCallFold c.projectId fold entry.event = .ok next ∧
      c.request.callId ∈ fold.openCalls ∧ c.request.callId ∈ next.closedCalls

variable {c : CompatCall} {s : Session} {met : Interference} {draft : EventDraft}
  {event : ResearchEvent} {log : EventLog}

/-- A budget fact that was appended from a draft of the call. -/
structure AppendedBudget (c : CompatCall) (log : EventLog) (draft : EventDraft)
    (event : ResearchEvent) : Prop where
  drafted : draft.Says event
  projectId : event.data.projectId = c.projectId
  folds : ∃ fold next, replayBudget c.projectId log = .ok fold ∧
    applyBudgetFold c.projectId fold event = .ok next

theorem fromControl_eq_ok {α : Type} {r : Except Budget.ControlError α} {a : α} :
    fromControl r = .ok a ↔ r = .ok a := by
  cases r with
  | ok found => simp [fromControl]
  | error error => cases error <;> simp [fromControl]

theorem rebuild_ok {head : Budget.BudgetHead} (h : Budget.rebuild c.projectId log = .ok head) :
    head.lastSequence = log.length ∧ replayBudget c.projectId log = .ok head.fold := by
  obtain ⟨fold, hfold, h⟩ := Fold.bind_eq_ok.mp h
  cases h
  exact ⟨rfl, Budget.replay_eq_ok.mp (FrozenReplay.visit_ok hfold)⟩

theorem commitBudget_ok {call : Budget.BudgetCall} {drafted : Budget.BudgetDraft}
    (h : commitBudget c.projectId log met call = .ok (drafted, event)) :
    log.Added drafted.document (some log.length) event ∧ event.data.projectId = c.projectId ∧
      ∃ fold, replayBudget c.projectId log = .ok fold ∧
        Budget.draft c.projectId call log.length fold = .ok drafted ∧
        ∃ next, applyBudgetFold c.projectId fold event = .ok next := by
  obtain ⟨_, -, h⟩ := Fold.bind_eq_ok.mp h
  obtain ⟨head, hhead, h⟩ := Fold.bind_eq_ok.mp h
  obtain ⟨hlast, hfold⟩ := rebuild_ok (fromControl_eq_ok.mp hhead)
  obtain ⟨found, hdraft, h⟩ := Fold.bind_eq_ok.mp h
  obtain ⟨_, -, h⟩ := Fold.bind_eq_ok.mp h
  obtain ⟨stored, hcommit, h⟩ := Fold.bind_eq_ok.mp h
  cases h
  rw [fromControl_eq_ok, hlast] at hdraft hcommit
  obtain ⟨hproject, hnext⟩ := Budget.committed_folds hdraft hcommit
  exact ⟨Storage.EventLog.append_ok (Budget.commit_ok hcommit), hproject, _, hfold, hdraft, hnext⟩

/-- An append of a budget draft fails and leaves the session, or appends the fact. -/
theorem callBudget_cases (draft : EventDraft) :
    (∃ error, s.callBudget c.projectId met (.append draft.document) =
      (s.arrive met, .error error)) ∨
      ∃ event, s.callBudget c.projectId met (.append draft.document) =
        ((s.arrive met).record event, .ok event) ∧
          AppendedBudget c (s.arrive met).log draft event := by
  cases hcommit : commitBudget c.projectId (s.arrive met).log met (.append draft.document) with
  | error error =>
    left
    exact ⟨error, by simp only [Session.callBudget, hcommit]⟩
  | ok committed =>
    obtain ⟨drafted, event⟩ := committed
    obtain ⟨hadded, hproject, fold, hfold, hdraft, next, hnext⟩ := commitBudget_ok hcommit
    obtain ⟨_, -, hdraft⟩ := Fold.bind_eq_ok.mp hdraft
    cases hdraft
    right
    refine ⟨event, ?_, EventDraft.says_of_added hadded, hproject, fold, next, hfold, hnext⟩
    simp only [Session.callBudget, hcommit]
    rfl

/-- What `reserve_or_exceed` appends. -/
theorem drafted_reserve {reserved exceeded : Storage.Document} {expected : Option Nat} {head : Nat}
    {fold : BudgetFold} {drafted : Budget.BudgetDraft}
    (h : Budget.draft c.projectId (.reserveOrExceed reserved exceeded expected) head fold =
      .ok drafted) : drafted = ⟨exceeded, true⟩ ∨ drafted = ⟨reserved, false⟩ := by
  obtain ⟨_, -, h⟩ := Fold.bind_eq_ok.mp h
  obtain ⟨_, -, h⟩ := Fold.bind_eq_ok.mp (Budget.fromBudget_eq_ok.mp h)
  obtain ⟨_, -, h⟩ := Fold.bind_eq_ok.mp h
  obtain ⟨_, -, h⟩ := Fold.bind_eq_ok.mp h
  obtain ⟨_, -, h⟩ := Fold.bind_eq_ok.mp h
  unfold Budget.chooseDraft at h
  split_ifs at h with hexceeds
  · left
    obtain ⟨_, -, h⟩ := Fold.bind_eq_ok.mp h
    obtain ⟨_, -, h⟩ := Fold.bind_eq_ok.mp h
    obtain ⟨_, -, h⟩ := Fold.bind_eq_ok.mp h
    cases h
    rfl
  · right
    obtain ⟨_, -, h⟩ := Fold.bind_eq_ok.mp h
    cases h
    rfl

theorem reserve_cases :
    (∃ error, c.reserve s = (s.arrive c.reserving, .error error)) ∨
      (∃ event error, c.reserve s = ((s.arrive c.reserving).record event, .error error) ∧
        AppendedBudget c (s.arrive c.reserving).log c.exceededDraft event) ∨
      ∃ event, c.reserve s = ((s.arrive c.reserving).record event, .ok event) ∧
        AppendedBudget c (s.arrive c.reserving).log c.reservedDraft event := by
  unfold CompatCall.reserve
  cases hcommit : commitBudget c.projectId (s.arrive c.reserving).log c.reserving
      (.reserveOrExceed c.reservedDraft.document c.exceededDraft.document
        c.expectedLastSequence) with
  | error error =>
    left
    exact ⟨error, by simp only [Session.callBudget, hcommit]⟩
  | ok committed =>
    right
    obtain ⟨drafted, event⟩ := committed
    obtain ⟨hadded, hproject, fold, hfold, hdraft, next, hnext⟩ := commitBudget_ok hcommit
    obtain rfl | rfl := drafted_reserve hdraft
    · left
      refine ⟨event, .budget (.exceeded "budget cap exceeded" "budget-exceeded"), ?_,
        EventDraft.says_of_added hadded, hproject, fold, next, hfold, hnext⟩
      simp only [Session.callBudget, hcommit]
      rfl
    · right
      refine ⟨event, ?_, EventDraft.says_of_added hadded, hproject, fold, next, hfold, hnext⟩
      simp only [Session.callBudget, hcommit]
      rfl

/-- A fact about the course of the call that was appended from a draft. -/
structure AppendedCall (c : CompatCall) (log : EventLog) (draft : EventDraft)
    (event : ResearchEvent) : Prop where
  drafted : draft.Says event
  projectId : event.data.projectId = c.projectId
  folds : ∃ fold next, replayCalls c.projectId log = .ok fold ∧
    applyCallFold c.projectId fold event = .ok next

theorem appendCall_cases (draft : EventDraft) :
    (∃ error, s.appendCall c.projectId met draft.document = (s.arrive met, .error error)) ∨
      ∃ event, s.appendCall c.projectId met draft.document =
        ((s.arrive met).record event, .ok event) ∧
          AppendedCall c (s.arrive met).log draft event := by
  cases happend : appendOne c.projectId (s.arrive met).log met draft.document with
  | error error =>
    left
    exact ⟨error, by simp only [Session.appendCall, happend]⟩
  | ok event =>
    right
    obtain ⟨hadded, hproject, hfolds⟩ := appendOne_ok happend
    exact ⟨event, by simp only [Session.appendCall, happend], EventDraft.says_of_added hadded,
      hproject, hfolds⟩

theorem AppendedBudget.folded (h : AppendedBudget c log draft event)
    (hbudget : ∀ type, draft.type ≠ .call type)
    (hid : draft.payload.reverse.lookup "budgetId" = some (.str c.request.budgetId.val)) :
    Folds c ⟨log, event⟩ := by
  obtain ⟨fold, next, hfold, hnext⟩ := h.folds
  have hlookup : event.data.payload.lookup "budgetId" = some (.str c.request.budgetId.val) := by
    rw [h.drafted.payload, Json.lookup_ofPairs, hid]
  have hcall : ∀ type : CallEventType, event.type.val ≠ type.text := by
    intro type htype
    rw [h.drafted.type] at htype
    cases hdraft : draft.type with
    | call other => exact hbudget other hdraft
    | _ => rw [hdraft] at htype; cases type <;> exact absurd htype (by decide)
  refine ⟨?_, ?_, ?_, ?_⟩
  · intro htype
    have htype' : BudgetEventType.ofText event.type.val = some .reserved := by
      rw [htype]
      decide
    exact ⟨fold, next, hfold, hnext, folded_reserved h.projectId htype' hlookup hnext⟩
  · rintro (htype | htype)
    · have htype' : BudgetEventType.ofText event.type.val = some .consumed := by
        rw [htype]
        decide
      exact ⟨fold, next, hfold, hnext,
        folded_closed h.projectId htype' (Or.inl rfl) hlookup hnext⟩
    · have htype' : BudgetEventType.ofText event.type.val = some .released := by
        rw [htype]
        decide
      exact ⟨fold, next, hfold, hnext,
        folded_closed h.projectId htype' (Or.inr rfl) hlookup hnext⟩
  · intro htype
    exact absurd htype (hcall _)
  · rintro (htype | htype)
    · exact absurd htype (hcall _)
    · exact absurd htype (hcall _)

theorem AppendedCall.folded {type : CallEventType} (h : AppendedCall c log draft event)
    (hcall : draft.type = .call type)
    (hid : draft.payload.reverse.lookup "callId" = some (.str c.request.callId.val)) :
    Folds c ⟨log, event⟩ := by
  obtain ⟨fold, next, hfold, hnext⟩ := h.folds
  have htype : event.type.val = type.text := by
    rw [h.drafted.type, hcall]
    rfl
  obtain ⟨payload, hmodel, happly⟩ := applyCallFold_ok h.projectId htype hnext
  have hlookup := callId_of_model hmodel
  rw [h.drafted.payload, Json.lookup_ofPairs, hid] at hlookup
  have hsame : c.request.callId = payload.callId :=
    Subtype.ext (Json.str.inj (Option.some.inj hlookup))
  obtain ⟨hstarted, hended⟩ := folded_call hmodel happly
  rw [← hsame] at hstarted hended
  have hbudget : ∀ other : CompatEventType, (∀ t, other ≠ .call t) →
      event.type.val ≠ other.text := by
    intro other hother hsame
    rw [htype] at hsame
    cases other with
    | call t => exact hother t rfl
    | _ => cases type <;> exact absurd hsame (by decide)
  refine ⟨?_, ?_, ?_, ?_⟩
  · intro hreserved
    exact absurd hreserved (hbudget _ (fun t => by simp))
  · rintro (hconsumed | hreleased)
    · exact absurd hconsumed (hbudget _ (fun t => by simp))
    · exact absurd hreleased (hbudget _ (fun t => by simp))
  · intro hkind
    rw [htype] at hkind
    have hstart : type = .started := by
      cases type with
      | started => rfl
      | _ => exact absurd hkind (by decide)
    exact ⟨fold, next, hfold, hnext, hstarted hstart⟩
  · intro hkind
    rw [htype] at hkind
    have hend : type ≠ .started := by
      rintro rfl
      revert hkind
      decide
    exact ⟨fold, next, hfold, hnext, hended hend⟩

/-! The course of a whole call. -/

/-- How many facts of a type the call has appended. -/
def Session.count (s : Session) (type : CompatEventType) : Nat :=
  s.own.countP fun entry => entry.event.type.val = type.text

/-- The budget and the call keep their discipline: the reservation is released exactly when the
call fails and the failure is known to precede dispatch, it is consumed only at a known cost and
with a validated output, and the call starts once and ends at most once. -/
structure Disciplined (c : CompatCall) (s : Session) (result : Except CallError CompatCall.Recorded) :
    Prop where
  released : 0 < s.count .released ↔
    0 < s.count .reserved ∧ (∃ error, result = .error error) ∧ s.dispatch ≠ .possible
  consumed : 0 < s.count .consumed → c.provider.identity.costKnown = true ∧
    ∃ answer output, c.generate.2 = .ok answer ∧ c.validate answer = .ok output
  once : ∀ type, s.count type ≤ 1
  ended : s.count (.call .completed) + s.count (.call .failed) ≤ s.count (.call .started)
  folds : ∀ entry ∈ s.own, Folds c entry

theorem text_injective : Function.Injective CompatEventType.text := by
  have hcall : ∀ a b : CallEventType, a.text = b.text → a = b := by
    intro a b
    cases a <;> cases b <;> decide
  have hother : ∀ (a : CallEventType) (b : CompatEventType), (∀ t, b ≠ .call t) →
      a.text ≠ b.text := by
    intro a b hb
    cases b with
    | call t => exact absurd rfl (hb t)
    | _ => cases a <;> decide
  intro a b h
  cases a with
  | call a =>
    cases b with
    | call b => exact congrArg _ (hcall a b h)
    | _ => exact absurd h (hother a _ (fun t => by simp))
  | _ =>
    cases b with
    | call b => exact absurd h.symm (hother b _ (fun t => by simp))
    | _ => first | rfl | exact absurd h (by decide)

/-- The facts of the call so far, by their types. -/
structure Stands (c : CompatCall) (s : Session) (types : List CompatEventType)
    (dispatch : CompatHttpProvider.Dispatch) : Prop where
  types : s.own.map (fun entry => entry.event.type.val) = types.map CompatEventType.text
  folds : ∀ entry ∈ s.own, Folds c entry
  dispatch : s.dispatch = dispatch

namespace Stands

variable {types : List CompatEventType} {dispatch : CompatHttpProvider.Dispatch}
  {result : Except CallError CompatCall.Recorded}

theorem arrive (h : Stands c s types dispatch) (met : Interference) :
    Stands c (s.arrive met) types dispatch := ⟨h.types, h.folds, h.dispatch⟩

theorem record (h : Stands c s types dispatch) {type : CompatEventType}
    (htype : event.type.val = type.text) (hfolds : Folds c ⟨s.log, event⟩) :
    Stands c (s.record event) (types ++ [type]) dispatch := by
  refine ⟨?_, ?_, h.dispatch⟩
  · rw [Session.record, List.map_append, List.map_append, h.types]
    exact congrArg _ (congrArg (fun text => [text]) htype)
  · intro entry hentry
    obtain hold | hnew := List.mem_append.mp hentry
    · exact h.folds entry hold
    · rw [List.mem_singleton.mp hnew]
      exact hfolds

theorem count (h : Stands c s types dispatch) (type : CompatEventType) :
    s.count type = types.count type := by
  have hmap : s.count type =
      (s.own.map fun entry => entry.event.type.val).countP fun text => text = type.text := by
    rw [List.countP_map]
    rfl
  rw [hmap, h.types, List.countP_map, List.count]
  refine List.countP_congr fun other _ => ?_
  simp only [Function.comp_apply, decide_eq_true_eq, beq_iff_eq]
  exact text_injective.eq_iff

/-- The discipline of a course comes to the release of its reservation. -/
theorem disciplined (h : Stands c s types dispatch) (honce : types.Nodup)
    (hended : types.count (.call .completed) + types.count (.call .failed) ≤
      types.count (.call .started))
    (hconsumed : .consumed ∈ types → c.provider.identity.costKnown = true ∧
      ∃ answer output, c.generate.2 = .ok answer ∧ c.validate answer = .ok output) :
    Disciplined c s result ↔ (.released ∈ types ↔
      .reserved ∈ types ∧ (∃ error, result = .error error) ∧ dispatch ≠ .possible) := by
  constructor
  · intro hdisciplined
    have hreleased := hdisciplined.released
    rwa [h.count, h.count, h.dispatch, List.count_pos_iff, List.count_pos_iff] at hreleased
  · intro hreleased
    refine ⟨?_, ?_, ?_, ?_, h.folds⟩
    · rwa [h.count, h.count, h.dispatch, List.count_pos_iff, List.count_pos_iff]
    · rw [h.count, List.count_pos_iff]
      exact hconsumed
    · intro type
      rw [h.count]
      exact List.nodup_iff_count_le_one.mp honce type
    · rw [h.count, h.count, h.count]
      exact hended

end Stands

/-- An append of the call fails, or adds its fact to the course. -/
def Appends (c : CompatCall) (outcome : Outcome ResearchEvent) (types : List CompatEventType)
    (type : CompatEventType) (dispatch : CompatHttpProvider.Dispatch) : Prop :=
  (∃ s error, outcome = (s, .error error) ∧ Stands c s types dispatch) ∨
    ∃ s event, outcome = (s, .ok event) ∧ Stands c s (types ++ [type]) dispatch

section Stages

variable {types : List CompatEventType} {dispatch : CompatHttpProvider.Dispatch}

theorem appends_budget (h : Stands c s types dispatch) (met : Interference) (draft : EventDraft)
    (hbudget : ∀ type, draft.type ≠ .call type)
    (hid : draft.payload.reverse.lookup "budgetId" = some (.str c.request.budgetId.val)) :
    Appends c (s.callBudget c.projectId met (.append draft.document)) types draft.type dispatch := by
  obtain ⟨error, happend⟩ | ⟨event, happend, happended⟩ := callBudget_cases (c := c) (s := s) draft
  · exact Or.inl ⟨_, error, happend, h.arrive met⟩
  · exact Or.inr ⟨_, event, happend, (h.arrive met).record happended.drafted.type
      (happended.folded hbudget hid)⟩

theorem appends_call (h : Stands c s types dispatch) (met : Interference) (draft : EventDraft)
    {type : CallEventType} (hcall : draft.type = .call type)
    (hid : draft.payload.reverse.lookup "callId" = some (.str c.request.callId.val)) :
    Appends c (s.appendCall c.projectId met draft.document) types draft.type dispatch := by
  obtain ⟨error, happend⟩ | ⟨event, happend, happended⟩ := appendCall_cases (c := c) (s := s) draft
  · exact Or.inl ⟨_, error, happend, h.arrive met⟩
  · exact Or.inr ⟨_, event, happend, (h.arrive met).record happended.drafted.type
      (happended.folded hcall hid)⟩

theorem appends_release (h : Stands c s types dispatch) (reasonCode : String) :
    Appends c (c.release s reasonCode) types .released dispatch :=
  appends_budget h c.releasing (c.releaseDraft reasonCode) (fun type => by simp [CompatCall.releaseDraft])
    rfl

theorem appends_consume (h : Stands c s types dispatch) :
    Appends c (s.callBudget c.projectId c.consuming (.append c.consumedDraft.document)) types
      .consumed dispatch :=
  appends_budget h c.consuming c.consumedDraft (fun type => by simp [CompatCall.consumedDraft]) rfl

theorem appends_failed (h : Stands c s types dispatch) (reasonCode : String) :
    Appends c (s.appendCall c.projectId c.failing (c.failedDraft reasonCode).document) types
      (.call .failed) dispatch :=
  appends_call h c.failing (c.failedDraft reasonCode) rfl rfl

theorem lookup_report {key : String} {value : Json} {ms : Json.Members}
    (h : (ms.reverse).lookup key = some value) (hkey : CompatCall.report.reverse.lookup key = none) :
    (ms ++ CompatCall.report).reverse.lookup key = some value := by
  rw [List.reverse_append, List.lookup_append, hkey, h]
  rfl

theorem appends_started (h : Stands c s types dispatch) (promptDigest : JcsDigest) :
    Appends c (s.appendCall c.projectId c.starting (c.startedDraft promptDigest).document) types
      (.call .started) dispatch :=
  appends_call h c.starting (c.startedDraft promptDigest) rfl (lookup_report rfl rfl)

theorem appends_completed (h : Stands c s types dispatch) (outputDigest : JcsDigest)
    (artifacts : Option Sha256Digest × Option Sha256Digest) :
    Appends c (s.appendCall c.projectId c.completing
      (c.completedDraft outputDigest artifacts).document) types (.call .completed) dispatch := by
  refine appends_call h c.completing (c.completedDraft outputDigest artifacts) rfl ?_
  obtain ⟨prompt, output⟩ := artifacts
  cases prompt <;> cases output <;> rfl

end Stages

/-! The failures that leak. -/

/-- From the reservation on: a refused start is of the two caught kinds, what is sent can be
encoded, and each release that is due is accepted. -/
structure Guarded (c : CompatCall) (s : Session) : Prop where
  start : ∀ error, (c.start s).2 = .error error → error.isStartRefusal = true ∧
    ∃ event, (c.release (c.start s).1 "call-start-failed").2 = .ok event
  encoded : ∀ started, (c.start s).2 = .ok started →
    ∃ sent, c.provider.encode c.canonicalJson c.contentDigest c.fixture = .ok sent
  undispatched : ∀ started message code, (c.start s).2 = .ok started →
    c.generate.2 = .error (.transport message code false) →
      ∃ event, (c.release { (c.start s).1 with dispatch := c.generate.1 } code).2 = .ok event

/-- How far `generate_fixture` comes. -/
inductive Generates (c : CompatCall) : Prop
  | unsent (message : String) (hgenerate : c.generate = (.notCalled, .error (.value message)))
      (hencode : ∀ sent, c.provider.encode c.canonicalJson c.contentDigest c.fixture ≠ .ok sent)
  | proven (message code : String)
      (hgenerate : c.generate = (.proven, .error (.transport message code false)))
      (hencode : ∃ sent, c.provider.encode c.canonicalJson c.contentDigest c.fixture = .ok sent)
  | possible (error : CallError) (hgenerate : c.generate = (.possible, .error error))
      (hkind : ∀ message code, error ≠ .transport message code false)
      (hencode : ∃ sent, c.provider.encode c.canonicalJson c.contentDigest c.fixture = .ok sent)
  | answered (answer : GenerateResult) (hgenerate : c.generate = (.possible, .ok answer))
      (hencode : ∃ sent, c.provider.encode c.canonicalJson c.contentDigest c.fixture = .ok sent)

theorem orValueError_error {α : Type} {r : Except String α} {error : CallError}
    (h : CompatHttpProvider.orValueError r = .error error) : ∃ message, error = .value message := by
  cases r with
  | ok a => cases h
  | error message =>
    cases h
    exact ⟨message, rfl⟩

theorem encode_error {error : CallError}
    (h : c.provider.encode c.canonicalJson c.contentDigest c.fixture = .error error) :
    ∃ message, error = .value message := by
  obtain herror | ⟨promptDigest, -, h⟩ := Fold.bind_eq_error.mp h
  · exact orValueError_error herror
  obtain herror | ⟨prompt, -, h⟩ := Fold.bind_eq_error.mp h
  · exact orValueError_error herror
  obtain herror | ⟨text, -, h⟩ := Fold.bind_eq_error.mp h
  · exact orValueError_error herror
  · cases h

theorem decode_error {digest : Json → Except String JcsDigest} {promptDigest : JcsDigest}
    {parsed : Json.Members} {error : CallError}
    (h : CompatHttpProvider.decode digest promptDigest parsed = .error error) :
    ∀ message code, error ≠ .transport message code false := by
  obtain herror | ⟨text, -, h⟩ := Fold.bind_eq_error.mp h
  · have hinvalid : ∃ text, error = CompatHttpProvider.invalidResponse text := by
      unfold CompatHttpProvider.completionText at herror
      repeat' split at herror
      all_goals first | exact ⟨_, (Except.error.inj herror).symm⟩ | cases herror
    obtain ⟨text, rfl⟩ := hinvalid
    intro message code hsame
    injection hsame with _ _ hdispatched
    revert hdispatched
    decide
  obtain herror | ⟨outputDigest, -, h⟩ := Fold.bind_eq_error.mp h
  · obtain ⟨text, rfl⟩ := orValueError_error herror
    intro message code hsame
    cases hsame
  · cases h

theorem withoutSecret_proven (provider : CompatHttpProvider) (error : CallError)
    (h : ∀ message code, error ≠ .transport message code false) :
    ∀ message code, provider.withoutSecret error ≠ .transport message code false := by
  intro message code hsame
  cases error with
  | transport text cause dispatched =>
    injection hsame with _ _ hdispatched
    rw [hdispatched] at h
    exact h text cause rfl
  | _ => cases hsame

theorem generates (c : CompatCall) : Generates c := by
  cases hencode : c.provider.encode c.canonicalJson c.contentDigest c.fixture with
  | error error =>
    obtain ⟨message, rfl⟩ := encode_error hencode
    refine .unsent message ?_ (fun sent hsent => by rw [hencode] at hsent; cases hsent)
    simp only [CompatCall.generate, CompatHttpProvider.generateFixture, hencode]
  | ok sent =>
    obtain ⟨promptDigest, payload⟩ := sent
    cases htransport : c.provider.transport
        (CompatHttpProvider.chatCompletionsUrl c.provider.endpoint) payload c.provider.headers with
    | error error =>
      have hgenerate : c.generate = (.of error, .error (c.provider.withoutSecret error)) := by
        simp only [CompatCall.generate, CompatHttpProvider.generateFixture, hencode, htransport]
      by_cases hproven : ∃ message code, error = .transport message code false
      · obtain ⟨message, code, rfl⟩ := hproven
        exact .proven _ code hgenerate ⟨_, hencode⟩
      · have hkind : ∀ message code, error ≠ .transport message code false :=
          fun message code hsame => hproven ⟨message, code, hsame⟩
        have hpossible : CompatHttpProvider.Dispatch.of error = .possible := by
          unfold CompatHttpProvider.Dispatch.of
          split
          · exact absurd rfl (hkind _ _)
          · rfl
        rw [hpossible] at hgenerate
        exact .possible _ hgenerate (withoutSecret_proven _ error hkind) ⟨_, hencode⟩
    | ok parsed =>
      cases hdecode : CompatHttpProvider.decode c.contentDigest promptDigest parsed with
      | error error =>
        refine .possible (c.provider.withoutSecret error) ?_
          (withoutSecret_proven _ error (decode_error hdecode)) ⟨_, hencode⟩
        simp only [CompatCall.generate, CompatHttpProvider.generateFixture, hencode, htransport,
          hdecode]
      | ok answer =>
        refine .answered answer ?_ ⟨_, hencode⟩
        simp only [CompatCall.generate, CompatHttpProvider.generateFixture, hencode, htransport,
          hdecode]

/-! The discipline of each stage. -/

variable {types : List CompatEventType} {reserved started : ResearchEvent}

/-- Once the request may have left, nothing is released. -/
theorem Stands.kept {result : Except CallError CompatCall.Recorded}
    (h : Stands c s types .possible) (honce : types.Nodup)
    (hended : types.count (.call .completed) + types.count (.call .failed) ≤
      types.count (.call .started))
    (hconsumed : .consumed ∈ types → c.provider.identity.costKnown = true ∧
      ∃ answer output, c.generate.2 = .ok answer ∧ c.validate answer = .ok output)
    (hreleased : .released ∉ types) : Disciplined c s result := by
  rw [h.disciplined honce hended hconsumed]
  refine ⟨fun hmem => absurd hmem hreleased, ?_⟩
  rintro ⟨-, -, hdispatch⟩
  exact absurd rfl hdispatch

/-- The last fact of an answered call. -/
theorem completes (h : Stands c s types .possible) (honce : types.Nodup)
    (hopen : types.count (.call .completed) = 0 ∧ types.count (.call .failed) = 0 ∧
      types.count (.call .started) = 1)
    (hconsumed : .consumed ∈ types → c.provider.identity.costKnown = true ∧
      ∃ answer output, c.generate.2 = .ok answer ∧ c.validate answer = .ok output)
    (hreleased : .released ∉ types) (outputDigest : JcsDigest)
    (artifacts : Option Sha256Digest × Option Sha256Digest) (consumed : Option ResearchEvent) :
    Disciplined c (c.finish s reserved started outputDigest artifacts consumed).1
      (c.finish s reserved started outputDigest artifacts consumed).2 := by
  unfold CompatCall.finish
  obtain ⟨s', error, happend, hs⟩ | ⟨s', event, happend, hs⟩ :=
    appends_completed h outputDigest artifacts
  · simp only [happend, Outcome.andThen]
    exact hs.kept honce (by omega) hconsumed hreleased
  · simp only [happend, Outcome.andThen]
    have hfresh : CompatEventType.call .completed ∉ types := List.count_eq_zero.mp hopen.1
    refine hs.kept ?_ ?_ ?_ ?_
    · exact List.nodup_append.mpr ⟨honce, List.nodup_singleton _, by
        intro a ha b hb hsame
        rw [List.mem_singleton.mp hb] at hsame
        exact hfresh (hsame ▸ ha)⟩
    · simp only [List.count_append, hopen.1, hopen.2.1, hopen.2.2]
      decide
    · intro hmem
      obtain hmem | hmem := List.mem_append.mp hmem
      · exact hconsumed hmem
      · cases List.mem_singleton.mp hmem
    · intro hmem
      obtain hmem | hmem := List.mem_append.mp hmem
      · exact hreleased hmem
      · cases List.mem_singleton.mp hmem

theorem consume_cases (h : Stands c s [.reserved, .call .started] .possible) :
    (∃ s' error, c.consume s = (s', .error error) ∧
      Stands c s' [.reserved, .call .started] .possible) ∨
    (∃ s', c.consume s = (s', .ok none) ∧ Stands c s' [.reserved, .call .started] .possible) ∨
      ∃ s' event, c.consume s = (s', .ok (some event)) ∧
        c.provider.identity.costKnown = true ∧
        Stands c s' [.reserved, .call .started, .consumed] .possible := by
  unfold CompatCall.consume
  by_cases hcost : c.provider.identity.costKnown = true
  · rw [if_pos hcost]
    obtain ⟨s', error, happend, hs⟩ | ⟨s', event, happend, hs⟩ := appends_consume h
    · exact Or.inl ⟨s', error, by rw [happend]; rfl, hs⟩
    · exact Or.inr (Or.inr ⟨s', event, by rw [happend]; rfl, hcost, hs⟩)
  · rw [if_neg hcost]
    exact Or.inr (Or.inl ⟨s, rfl, h⟩)

theorem complete_disciplined (h : Stands c s [.reserved, .call .started] .possible)
    {answer : GenerateResult} (hanswer : c.generate.2 = .ok answer) :
    Disciplined c (c.complete s reserved started answer).1
      (c.complete s reserved started answer).2 := by
  have hnone : .consumed ∈ [CompatEventType.reserved, .call .started] →
      c.provider.identity.costKnown = true ∧
        ∃ answer output, c.generate.2 = .ok answer ∧ c.validate answer = .ok output :=
    fun hmem => absurd hmem (by decide)
  unfold CompatCall.complete
  cases hvalid : c.validate answer with
  | error error => exact h.kept (by decide) (by decide) hnone (by decide)
  | ok output =>
    dsimp only
    cases c.putArtifacts output with
    | error error => exact h.kept (by decide) (by decide) hnone (by decide)
    | ok artifacts =>
      dsimp only
      obtain ⟨s', error, hconsume, hs⟩ | ⟨s', hconsume, hs⟩ | ⟨s', event, hconsume, hcost, hs⟩ :=
        consume_cases h
      · rw [hconsume]
        exact hs.kept (by decide) (by decide) hnone (by decide)
      · rw [hconsume]
        exact completes hs (by decide) (by decide) hnone (by decide) _ _ _
      · rw [hconsume]
        exact completes hs (by decide) (by decide)
          (fun _ => ⟨hcost, answer, output, hanswer, hvalid⟩) (by decide) _ _ _

theorem fail_dispatched (h : Stands c s [.reserved, .call .started] .possible)
    (message code : String) :
    Disciplined c (c.fail s message code true).1 (c.fail s message code true).2 := by
  unfold CompatCall.fail
  obtain ⟨s', error, happend, hs⟩ | ⟨s', event, happend, hs⟩ := appends_failed h code
  · simp only [if_true, happend, Outcome.andThen]
    exact hs.kept (by decide) (by decide) (fun hmem => absurd hmem (by decide)) (by decide)
  · simp only [if_true, happend, Outcome.andThen]
    exact hs.kept (by decide) (by decide) (fun hmem => absurd hmem (by decide)) (by decide)

/-- An undispatched failure is released if the release is accepted, whatever becomes of the fact
that records the failure. -/
theorem fail_undispatched (h : Stands c s [.reserved, .call .started] .proven)
    (message code : String) :
    Disciplined c (c.fail s message code false).1 (c.fail s message code false).2 ↔
      ∃ event, (c.release s code).2 = .ok event := by
  unfold CompatCall.fail
  obtain ⟨s', error, hrelease, hs⟩ | ⟨s', event, hrelease, hs⟩ := appends_release h code
  · simp only [Bool.false_eq_true, if_false, hrelease, Outcome.andThen]
    rw [hs.disciplined (by decide) (by decide) fun hmem => absurd hmem (by decide)]
    simp
  · simp only [Bool.false_eq_true, if_false, hrelease, Outcome.andThen]
    obtain ⟨s'', error, hfailed, hs'⟩ | ⟨s'', failed, hfailed, hs'⟩ := appends_failed hs code
    · simp only [hfailed]
      rw [hs'.disciplined (by decide) (by decide) fun hmem => absurd hmem (by decide)]
      simp
    · simp only [hfailed]
      rw [hs'.disciplined (by decide) (by decide) fun hmem => absurd hmem (by decide)]
      simp

theorem Stands.dispatched {dispatch : CompatHttpProvider.Dispatch} (h : Stands c s types dispatch)
    (dispatch' : CompatHttpProvider.Dispatch) :
    Stands c { s with dispatch := dispatch' } types dispatch' := ⟨h.types, h.folds, rfl⟩

theorem afterStart_disciplined (h : Stands c s [.reserved, .call .started] .notCalled) :
    Disciplined c (c.afterStart s reserved started).1 (c.afterStart s reserved started).2 ↔
      (∃ sent, c.provider.encode c.canonicalJson c.contentDigest c.fixture = .ok sent) ∧
        ∀ message code, c.generate.2 = .error (.transport message code false) →
          ∃ event, (c.release { s with dispatch := c.generate.1 } code).2 = .ok event := by
  unfold CompatCall.afterStart
  cases generates c with
  | unsent message hgenerate hencode =>
    have hs := h.dispatched .notCalled
    simp only [hgenerate]
    rw [hs.disciplined (by decide) (by decide) fun hmem => absurd hmem (by decide)]
    simp [hencode]
  | proven message code hgenerate hencode =>
    have hs := h.dispatched .proven
    simp only [hgenerate]
    rw [fail_undispatched hs]
    constructor
    · intro hreleased
      refine ⟨hencode, fun message' code' hsame => ?_⟩
      cases hsame
      exact hreleased
    · rintro ⟨-, hreleased⟩
      exact hreleased message code rfl
  | possible error hgenerate hkind hencode =>
    have hs := h.dispatched .possible
    simp only [hgenerate]
    refine iff_of_true ?_ ⟨hencode, fun message code hsame => ?_⟩
    · cases error with
      | transport message code dispatched =>
        cases dispatched with
        | false => exact absurd rfl (hkind message code)
        | true => exact fail_dispatched hs message code
      | _ => exact hs.kept (by decide) (by decide) (fun hmem => absurd hmem (by decide)) (by decide)
    · exact absurd (Except.error.inj hsame) (hkind message code)
  | answered answer hgenerate hencode =>
    have hs := h.dispatched .possible
    have hanswer : c.generate.2 = .ok answer := by rw [hgenerate]
    simp only [hgenerate]
    refine iff_of_true (complete_disciplined hs hanswer) ⟨hencode, fun message code hsame => ?_⟩
    cases hsame

theorem start_appends {dispatch : CompatHttpProvider.Dispatch} (h : Stands c s types dispatch) :
    Appends c (c.start s) types (.call .started) dispatch := by
  unfold CompatCall.start
  cases hdigest : CompatHttpProvider.orValueError (c.contentDigest (.obj c.fixture.prompt)) with
  | error error => exact Or.inl ⟨s, error, rfl, h⟩
  | ok promptDigest => exact appends_started h promptDigest

theorem afterReserve_disciplined (h : Stands c s [.reserved] .notCalled) :
    Disciplined c (c.afterReserve s reserved).1 (c.afterReserve s reserved).2 ↔ Guarded c s := by
  unfold CompatCall.afterReserve
  obtain ⟨s', error, hstart, hs⟩ | ⟨s', started, hstart, hs⟩ := start_appends h
  · have hguarded : Guarded c s ↔ error.isStartRefusal = true ∧
        ∃ event, (c.release s' "call-start-failed").2 = .ok event := by
      constructor
      · intro hguarded
        have hfirst := hguarded.start
        rw [hstart] at hfirst
        exact hfirst error rfl
      · intro hrefused
        refine ⟨?_, ?_, ?_⟩
        · rw [hstart]
          rintro found ⟨rfl⟩
          exact hrefused
        · rw [hstart]
          rintro started ⟨⟩
        · rw [hstart]
          rintro started message code ⟨⟩
    rw [hguarded, hstart]
    dsimp only
    by_cases hkind : error.isStartRefusal = true
    · rw [if_pos hkind]
      obtain ⟨s'', failure, hrelease, hs'⟩ | ⟨s'', event, hrelease, hs'⟩ :=
        appends_release hs "call-start-failed"
      · simp only [hrelease, Outcome.andThen]
        rw [hs'.disciplined (by decide) (by decide) fun hmem => absurd hmem (by decide)]
        simp
      · simp only [hrelease, Outcome.andThen]
        rw [hs'.disciplined (by decide) (by decide) fun hmem => absurd hmem (by decide)]
        simp [hkind]
    · rw [if_neg hkind]
      rw [hs.disciplined (by decide) (by decide) fun hmem => absurd hmem (by decide)]
      simp [hkind]
  · have hguarded : Guarded c s ↔
        (∃ sent, c.provider.encode c.canonicalJson c.contentDigest c.fixture = .ok sent) ∧
          ∀ message code, c.generate.2 = .error (.transport message code false) →
            ∃ event, (c.release { s' with dispatch := c.generate.1 } code).2 = .ok event := by
      constructor
      · intro hguarded
        have hencoded := hguarded.encoded
        have hundispatched := hguarded.undispatched
        rw [hstart] at hencoded hundispatched
        exact ⟨hencoded started rfl, fun message code => hundispatched started message code rfl⟩
      · rintro ⟨hencoded, hundispatched⟩
        refine ⟨?_, ?_, ?_⟩
        · rw [hstart]
          rintro error ⟨⟩
        · intro _ _
          exact hencoded
        · rw [hstart]
          intro _ message code _
          exact hundispatched message code
    rw [hguarded, hstart]
    exact afterStart_disciplined hs

/-- The discipline holds of a call exactly when no failure of it is of the kinds that leak. -/
theorem call_budget_discipline (c : CompatCall) (log : EventLog) :
    Disciplined c (c.recordCompatGenerate log).1 (c.recordCompatGenerate log).2 ↔
      (c.require = .ok () → ∀ s reserved, c.reserve ⟨log, [], .notCalled⟩ = (s, .ok reserved) →
        Guarded c s) := by
  have hstart : Stands c ⟨log, [], .notCalled⟩ [] .notCalled :=
    ⟨rfl, fun entry hentry => absurd hentry List.not_mem_nil, rfl⟩
  have hnone : .consumed ∈ ([] : List CompatEventType) →
      c.provider.identity.costKnown = true ∧
        ∃ answer output, c.generate.2 = .ok answer ∧ c.validate answer = .ok output :=
    fun hmem => absurd hmem List.not_mem_nil
  unfold CompatCall.recordCompatGenerate
  cases hrequire : c.require with
  | error error =>
    rw [hstart.disciplined (by decide) (by decide) hnone]
    simp
  | ok checked =>
    dsimp only
    have hs := hstart.arrive c.reserving
    obtain ⟨error, hreserve⟩ | ⟨event, error, hreserve, happended⟩ |
        ⟨reserved, hreserve, happended⟩ := reserve_cases (c := c) (s := ⟨log, [], .notCalled⟩)
    · rw [hreserve]
      simp only [Outcome.andThen]
      rw [hs.disciplined (by decide) (by decide) hnone]
      simp
    · have hrecorded : Stands c _ [.exceeded] .notCalled :=
        hs.record happended.drafted.type (happended.folded (fun type => by
          simp [CompatCall.exceededDraft]) rfl)
      rw [hreserve]
      simp only [Outcome.andThen]
      rw [hrecorded.disciplined (by decide) (by decide) fun hmem => absurd hmem (by decide)]
      simp
    · have hrecorded : Stands c _ [.reserved] .notCalled :=
        hs.record happended.drafted.type (happended.folded (fun type => by
          simp [CompatCall.reservedDraft]) rfl)
      rw [hreserve]
      simp only [Outcome.andThen]
      rw [afterReserve_disciplined hrecorded]
      constructor
      · rintro hguarded - s' reserved' ⟨rfl, rfl⟩
        exact hguarded
      · intro hguarded
        exact hguarded trivial _ _ rfl

/-! A loopback call whose prompt holds an integer that has no canonical form. -/

def trialRequest : CompatRequest where
  projectId := ⟨"project", .refl true⟩
  experimentRevision := ⟨1, .refl true⟩
  source := ⟨"/compat", .refl true⟩
  subject := ⟨"call", .refl true⟩
  streamId := ⟨"calls", .refl true⟩
  actorId := ⟨"model", .refl true⟩
  actorModelId := ⟨"local-model", .refl true⟩
  callId := ⟨"call-1", .refl true⟩
  fixtureId := ⟨"fixture", .refl true⟩
  endpoint := ⟨"http://127.0.0.1:8080/v1", .refl true⟩
  budgetId := ⟨"budget-1", .refl true⟩
  budgetCap := ⟨"0.00", .refl true⟩
  reserveAmount := ⟨"0.00", .refl true⟩
  consumeAmount := ⟨"0.00", .refl true⟩
  requestedCapabilities := [.generate]
  events type :=
    ⟨match type with
      | .call .started => ⟨"event-started", .refl true⟩
      | .call .completed => ⟨"event-completed", .refl true⟩
      | .call .failed => ⟨"event-failed", .refl true⟩
      | .reserved => ⟨"event-reserved", .refl true⟩
      | .consumed => ⟨"event-consumed", .refl true⟩
      | .exceeded => ⟨"event-exceeded", .refl true⟩
      | .released => ⟨"event-released", .refl true⟩, ⟨"2026-01-01T00:00:00Z", .refl true⟩⟩
  evidenceRefs := []
  reserveWithinCap := le_refl _
  consumeWithinReserve := le_refl _

def refusedInteger : String := "JCS integers must be exactly representable as IEEE 754 binary64"

def trialLeak : CompatCall where
  projectId := ⟨"project", .refl true⟩
  request := trialRequest
  fixture := ⟨⟨"fixture", .refl true⟩, [("n", .int 9007199254740993)]⟩
  provider := ⟨"http://127.0.0.1:8080/v1", "local-model", none, true, fun _ _ _ => .ok [], rfl⟩
  artifacts := none
  expectedLastSequence := none
  canonicalJson _ := .error refusedInteger
  contentDigest _ := .error refusedInteger
  reserving := ⟨[], none, none⟩
  starting := ⟨[], none, none⟩
  releasing := ⟨[], none, none⟩
  failing := ⟨[], none, none⟩
  consuming := ⟨[], none, none⟩
  completing := ⟨[], none, none⟩

/-- The call fails before it has started, and its reservation stays open. -/
theorem reservation_leaks :
    (trialLeak.recordCompatGenerate []).1.count .reserved = 1 ∧
      (trialLeak.recordCompatGenerate []).1.count .released = 0 ∧
      (trialLeak.recordCompatGenerate []).1.dispatch = .notCalled ∧
      (∃ error, (trialLeak.recordCompatGenerate []).2 = .error error) ∧
      ¬ Disciplined trialLeak (trialLeak.recordCompatGenerate []).1
        (trialLeak.recordCompatGenerate []).2 := by
  have hreserved : (trialLeak.recordCompatGenerate []).1.count .reserved = 1 := by decide +kernel
  have hreleased : (trialLeak.recordCompatGenerate []).1.count .released = 0 := by decide +kernel
  have hdispatch : (trialLeak.recordCompatGenerate []).1.dispatch = .notCalled := by
    decide +kernel
  have hraised : ((trialLeak.recordCompatGenerate []).2.toOption).isNone = true := by
    decide +kernel
  have herror : ∃ error, (trialLeak.recordCompatGenerate []).2 = .error error := by
    cases hresult : (trialLeak.recordCompatGenerate []).2 with
    | ok recorded =>
      rw [hresult] at hraised
      cases hraised
    | error error => exact ⟨error, rfl⟩
  refine ⟨hreserved, hreleased, hdispatch, herror, fun hdisciplined => ?_⟩
  have hmust := hdisciplined.released.mpr ⟨by omega, herror, by
    rw [hdispatch]
    decide⟩
  omega

end ResearchOs.Providers
