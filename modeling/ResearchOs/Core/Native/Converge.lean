import ResearchOs.Data.Retry
import ResearchOs.Core.Native.Turns

/-! A report that is repeated closes its run. -/
namespace ResearchOs.Native

open JsonText (FloatText)
open Resume (Advanced InTurn)
open Runs (RunSnapshot AttemptSnapshot Ending)
open Storage (EventLog)
open Workers

section

variable {F : FloatText} {contentDigest : Json → Option String} {context : NativeContext}
  {plane : WorkerPlane} {call : OutcomeCall} {grant : GrantRecord} {request : NativeRequest}
  {lease : LeaseRecord} {ending : Ending} {visit whole : Visit} {store : NativeStore}
  {visits : List Visit} {n : Nat}

/-- The binding that the journal of a report keeps. -/
def outcomeBinding (call : OutcomeCall) (grant : GrantRecord) : OutcomeBinding :=
  ⟨call.workerId, grant.grantId, call.document⟩

/-- What the checks of a report find at every stage. -/
def Found (F : FloatText) (contentDigest : Json → Option String) (context : NativeContext)
    (plane : WorkerPlane) (call : OutcomeCall) (grant : GrantRecord) (request : NativeRequest)
    (ending : Ending) (log : EventLog) (lease : LeaseRecord) (s : RunSnapshot)
    (attempt : AttemptSnapshot) : Prop :=
  Report F contentDigest context plane call log ⟨lease, grant, request⟩ s attempt ∧
    (ending = .succeeded → lease.status = .completed)

theorem Tail.found {log : EventLog}
    (h : Tail F contentDigest context plane call grant request ending n log) :
    ∃ lease s attempt, Found F contentDigest context plane call grant request ending log lease s
      attempt := by
  have hcompleted : ∀ {lease : LeaseRecord} {s : RunSnapshot},
      Settled context request ending log lease s →
        ending = .succeeded → lease.status = .completed := by
    rintro lease s hsettled rfl
    exact hsettled.1
  cases h with
  | opened h hsettled => exact ⟨_, _, _, h.report, hcompleted hsettled⟩
  | ended h hsettled => exact ⟨_, _, _, h.report, hcompleted hsettled⟩
  | closed h hsettled => exact ⟨_, _, _, h.report, hcompleted hsettled⟩

theorem Stage.found {log : EventLog}
    (h : Stage F contentDigest context plane call grant request lease ending n log) :
    ∃ lease s attempt, Found F contentDigest context plane call grant request ending log lease s
      attempt := by
  rcases h with ⟨-, hhead⟩ | ⟨k, -, htail⟩
  · cases hhead with
    | settled h => exact h.found
    | asking h => exact ⟨_, _, _, h.report, fun hending => by cases hending⟩
    | asked h => exact ⟨_, _, _, h.report, fun hending => by cases hending⟩
  · exact htail.found

theorem journalOutcome_ok (bound : Bound) (s : RunSnapshot) {journals : List OutcomeBinding}
    (houtcome : call.document.outcome = outcomeOf ending)
    (hfits : context.fits (outcomeBinding call bound.grant) = true)
    (hlease : ending = .succeeded → bound.lease.status = .completed)
    (hopen : outcomeBinding call bound.grant ∈ journals ∨ s.status ∈ reportable) :
    ∃ later, journalOutcome context call bound s journals = .ok later ∧
      outcomeBinding call bound.grant ∈ later ∧
      (outcomeBinding call bound.grant ∈ journals → later = journals) := by
  have hterminal : call.document.outcome ≠ .unknown := by
    rw [houtcome]
    cases ending <;> decide
  have hcompleted : call.document.outcome = .completed → bound.lease.status = .completed := by
    intro hcompleted
    apply hlease
    rw [houtcome] at hcompleted
    cases ending with
    | succeeded => rfl
    | failed => exact absurd hcompleted (by decide)
    | cancelled => exact absurd hcompleted (by decide)
  unfold journalOutcome
  simp only
  rw [if_neg hterminal]
  by_cases hmem : outcomeBinding call bound.grant ∈ journals
  · refine ⟨journals, ?_, hmem, fun _ => rfl⟩
    refine requireNative_bind_ok.mpr ⟨hfits, requireNative_bind_ok.mpr ⟨hcompleted, ?_⟩⟩
    exact if_pos hmem
  · refine ⟨journals ++ [outcomeBinding call bound.grant], ?_, by simp,
      fun hmember => absurd hmember hmem⟩
    refine requireNative_bind_ok.mpr ⟨hfits, requireNative_bind_ok.mpr ⟨hcompleted, ?_⟩⟩
    refine (if_neg hmem).trans ?_
    exact requireNative_bind_ok.mpr ⟨hopen.resolve_left hmem, rfl⟩

theorem reconcile_eq {bound : Bound} {s : RunSnapshot} {attempt : AttemptSnapshot}
    {journals : List OutcomeBinding}
    (hreport : Report F contentDigest context plane call store.log bound s attempt)
    (hjournals : journalOutcome context call bound s store.journals = .ok journals) :
    reconcileNativeOutcome F contentDigest context plane call visit store =
      let after := Resume.resume (performStep F context plane call bound.request visit)
        NativeError.interrupted (outcomeSteps call.document) visit.budget store.log
      (⟨after.1, journals⟩, finishReport call bound after.1 after.2) := by
  unfold reconcileNativeOutcome
  rw [checkReport_eq_ok.mpr hreport]
  dsimp only
  rw [hjournals]

/-- The report is journaled, or it may be. -/
def Accepted (F : FloatText) (contentDigest : Json → Option String) (context : NativeContext)
    (plane : WorkerPlane) (call : OutcomeCall) (grant : GrantRecord) (store : NativeStore) : Prop :=
  outcomeBinding call grant ∈ store.journals ∨ ∀ bound s attempt,
    Report F contentDigest context plane call store.log bound s attempt → s.status ∈ reportable

/-- A call takes a report from stage to stage. -/
theorem reconcile_stage (houtcome : call.document.outcome = outcomeOf ending)
    (hfits : context.fits (outcomeBinding call grant) = true)
    (hfacts : FactsValid request ending visit) (hfailure : FailureValid plane call lease visit)
    (haccepted : Accepted F contentDigest context plane call grant store)
    (hn : n ≤ (headSteps ending).length + 2)
    (h : Stage F contentDigest context plane call grant request lease ending n store.log) :
    ∃ result journals found, outcomeBinding call grant ∈ journals ∧
      reconcileNativeOutcome F contentDigest context plane call visit store =
        (⟨result.1, journals⟩, finishReport call ⟨found, grant, request⟩ result.1 result.2) ∧
      Advanced (Stage F contentDigest context plane call grant request lease ending)
        NativeError.interrupted n ((headSteps ending).length + 2) visit.budget result := by
  obtain ⟨found, s, attempt, hreport, hcompleted⟩ := h.found
  have hopen : outcomeBinding call grant ∈ store.journals ∨ s.status ∈ reportable :=
    haccepted.imp_right fun hopen => hopen _ s attempt hreport
  obtain ⟨journals, hjournals, hmem, -⟩ :=
    journalOutcome_ok ⟨found, grant, request⟩ s houtcome hfits hcompleted hopen
  have hturn := @stage_inTurn F contentDigest context plane call grant request lease ending visit
    hfacts hfailure
  have hadvanced := hturn.resume NativeError.interrupted
    (by rw [List.length_append]; exact hn) h visit.budget
  rw [← outcomeSteps_eq houtcome] at hadvanced
  refine ⟨_, journals, found, hmem, reconcile_eq hreport hjournals, ?_⟩
  rw [outcomeSteps_eq houtcome] at hadvanced ⊢
  rw [List.length_append] at hadvanced
  exact hadvanced

theorem receiptOf_recorded (bound : Bound) {log : EventLog}
    (houtcome : call.document.outcome = outcomeOf ending)
    (hrun : Has bound.request log (runFact ending)) :
    ∃ receipt, receiptOf call bound log = .ok receipt := by
  obtain ⟨stored, hstored, -⟩ := hrun
  have hfinal : finalType call.document = (runFact ending).type := by
    unfold finalType
    rw [houtcome]
    cases ending <;> rfl
  rw [← hfinal] at hstored
  exact ⟨_, Fold.bind_eq_ok.mpr ⟨stored, presentNative_eq_ok.mpr hstored, rfl⟩⟩

/-- When all is recorded, the report is answered. -/
theorem reconcile_closed (houtcome : call.document.outcome = outcomeOf ending)
    (hfits : context.fits (outcomeBinding call grant) = true)
    (hfacts : FactsValid request ending visit) (hfailure : FailureValid plane call lease visit)
    (hjournal : outcomeBinding call grant ∈ store.journals)
    (h : Stage F contentDigest context plane call grant request lease ending
      ((headSteps ending).length + 2) store.log) :
    (∃ s, request.projection.fold store.log = .ok (some s) ∧ s.status = ending.runStatus) ∧
      ∃ receipt, reconcileNativeOutcome F contentDigest context plane call visit store =
        (store, .ok receipt) := by
  have hturn := @stage_inTurn F contentDigest context plane call grant request lease ending visit
    hfacts hfailure
  have hdone := hturn.finished NativeError.interrupted
    (by rw [List.length_append]; exact h) visit.budget
  rcases h with ⟨hlt, -⟩ | ⟨k, hk, htail⟩
  · omega
  · obtain rfl : k = 2 := by omega
    cases htail with
    | closed hat hsettled hattempt hrun hclosed =>
      rename_i lease' s attempt
      refine ⟨⟨s, hat.report.folds, hclosed⟩, ?_⟩
      have hcompleted : ending = .succeeded → lease'.status = .completed := by
        rintro rfl
        exact hsettled.1
      obtain ⟨journals, hjournals, -, hkept⟩ := journalOutcome_ok
        ⟨lease', grant, request⟩ s houtcome hfits hcompleted (.inl hjournal)
      obtain rfl := hkept hjournal
      obtain ⟨receipt, hreceipt⟩ :=
        receiptOf_recorded ⟨lease', grant, request⟩ houtcome hrun
      refine ⟨receipt, (reconcile_eq hat.report hjournals).trans ?_⟩
      simp only [outcomeSteps_eq houtcome, hdone, finishReport, hreceipt]

/-- The run of the request has ended as the document says. -/
def Closed (request : NativeRequest) (ending : Ending) (store : NativeStore) : Prop :=
  ∃ s, request.projection.fold store.log = .ok (some s) ∧ s.status = ending.runStatus

/-- A stage that the report is accepted at. -/
def Underway (F : FloatText) (contentDigest : Json → Option String) (context : NativeContext)
    (plane : WorkerPlane) (call : OutcomeCall) (grant : GrantRecord) (request : NativeRequest)
    (lease : LeaseRecord) (ending : Ending) (store : NativeStore) : Prop :=
  Accepted F contentDigest context plane call grant store ∧
    ∃ n ≤ (headSteps ending).length + 2,
      Stage F contentDigest context plane call grant request lease ending n store.log

theorem Underway.reconcile (houtcome : call.document.outcome = outcomeOf ending)
    (hfits : context.fits (outcomeBinding call grant) = true)
    (hfacts : FactsValid request ending visit) (hfailure : FailureValid plane call lease visit)
    (h : Underway F contentDigest context plane call grant request lease ending store) :
    Underway F contentDigest context plane call grant request lease ending
      (reconcileNativeOutcome F contentDigest context plane call visit store).1 := by
  obtain ⟨haccepted, n, hn, hstage⟩ := h
  obtain ⟨result, journals, found, hmem, hresult, hadvanced⟩ :=
    reconcile_stage houtcome hfits hfacts hfailure haccepted hn hstage
  rw [hresult]
  refine ⟨.inl hmem, ?_⟩
  rcases hadvanced with ⟨hdone, -⟩ | ⟨m, -, hlt, hready, -⟩
  · exact ⟨_, Nat.le_refl _, hdone⟩
  · exact ⟨m, Nat.le_of_lt hlt, hready⟩

theorem headSteps_length (ending : Ending) : (headSteps ending).length ≤ 2 := by
  cases ending <;> decide

/-- From a stage on, the report is answered and its run is closed. -/
theorem settles_of_underway (houtcome : call.document.outcome = outcomeOf ending)
    (hfits : context.fits (outcomeBinding call grant) = true)
    (hvalid : ∀ visit ∈ whole :: visits,
      FactsValid request ending visit ∧ FailureValid plane call lease visit)
    (hbudget : 4 ≤ whole.budget)
    (h : Underway F contentDigest context plane call grant request lease ending
      (Retry.after (reconcileNativeOutcome F contentDigest context plane call) store visits)) :
    Retry.Settles (reconcileNativeOutcome F contentDigest context plane call) whole
      (Closed request ending) store visits := by
  obtain ⟨haccepted, n, hn, hstage⟩ := h
  obtain ⟨hfacts, hfailure⟩ := hvalid whole List.mem_cons_self
  obtain ⟨result, journals, found, hmem, hresult, hadvanced⟩ :=
    reconcile_stage houtcome hfits hfacts hfailure haccepted hn hstage
  have hlength := headSteps_length ending
  rcases hadvanced with ⟨hdone, -⟩ | ⟨m, hle, hlt, -⟩
  · have hstored : outcomeBinding call grant ∈ (⟨result.1, journals⟩ : NativeStore).journals := hmem
    obtain ⟨hclosed, receipt, hanswer⟩ :=
      reconcile_closed houtcome hfits hfacts hfailure hstored hdone
    exact Retry.Settles.of_answered (by rw [hresult]) hanswer hclosed
  · omega

/-! A lease whose failure is still to be recorded. -/

/-- The report of a failure that its lease has still to record. -/
def Unrecorded (F : FloatText) (contentDigest : Json → Option String) (context : NativeContext)
    (plane : WorkerPlane) (call : OutcomeCall) (grant : GrantRecord) (request : NativeRequest)
    (lease : LeaseRecord) (store : NativeStore) : Prop :=
  Accepted F contentDigest context plane call grant store ∧ ∃ s attempt,
    Failing F contentDigest context plane call grant request lease store.log s attempt

/-- The visit finds its grant live, and is not cut before its first append. -/
def Admits (call : OutcomeCall) (grant : GrantRecord) (lease : LeaseRecord) (visit : Visit) : Prop :=
  Live call grant lease visit ∧ 0 < visit.budget

/-- The call of a visit that records no failure leaves the log as it was. -/
theorem Failing.resume_idle {log : EventLog} {s : RunSnapshot} {attempt : AttemptSnapshot}
    (h : Failing F contentDigest context plane call grant request lease log s attempt)
    (rest : List OutcomeStep) (cut : NativeError) (hfailure : FailureValid plane call lease visit)
    (hidle : ¬ Admits call grant lease visit) :
    (Resume.resume (performStep F context plane call request visit) cut (.failLease :: rest)
      visit.budget log).1 = log := by
  by_cases hlive : Live call grant lease visit
  · obtain ⟨later, hwrite, -⟩ := h.write hlive hfailure
    have hzero : visit.budget = 0 := Nat.eq_zero_of_not_pos fun hpos => hidle ⟨hlive, hpos⟩
    rw [hzero, Resume.resume_cut hwrite]
  · obtain ⟨error, herror⟩ := h.refused hlive
    rw [Resume.resume_error herror]

/-- A visit that records the failure comes to the facts of the run. -/
theorem Failing.resume_admitted {log : EventLog} {s : RunSnapshot} {attempt : AttemptSnapshot}
    (h : Failing F contentDigest context plane call grant request lease log s attempt)
    (cut : NativeError) (hfacts : FactsValid request .failed visit)
    (hfailure : FailureValid plane call lease visit) (hadmits : Admits call grant lease visit) :
    ∃ n ≤ 4, Stage F contentDigest context plane call grant request lease .failed n
      (Resume.resume (performStep F context plane call request visit) cut
        (headSteps .failed ++ endingSteps .failed) visit.budget log).1 := by
  obtain ⟨later, hwrite, htail⟩ := h.write hadmits.1 hfailure
  obtain ⟨budget, hbudget⟩ := Nat.exists_eq_succ_of_ne_zero (Nat.pos_iff_ne_zero.mp hadmits.2)
  have hstage : Stage F contentDigest context plane call grant request lease .failed 2 later :=
    .inr ⟨0, rfl, htail⟩
  have hfirst : OutcomeStep.failLease ∈ headSteps .failed := List.mem_cons_self
  have hdone := @Tail.done _ _ _ _ _ _ _ _ _ visit _ _ htail hfirst
  have hturn := @stage_inTurn F contentDigest context plane call grant request lease .failed visit
    hfacts hfailure
  have hadvanced := hturn.resume cut (n := 2) (by decide) hstage budget
  -- What the first step has written it passes over from now on.
  have hsame : Resume.resume (performStep F context plane call request visit) cut
      (headSteps .failed ++ endingSteps .failed) visit.budget log =
      Resume.resume (performStep F context plane call request visit) cut
        (headSteps .failed ++ endingSteps .failed) budget later := by
    rw [hbudget]
    exact (Resume.resume_write hwrite budget).trans (Resume.resume_done hdone budget).symm
  rw [hsame]
  rcases hadvanced with ⟨hall, -⟩ | ⟨m, -, hlt, hready, -⟩
  · exact ⟨4, Nat.le_refl 4, hall⟩
  · exact ⟨m, Nat.le_of_lt hlt, hready⟩

theorem Unrecorded.reconcile (houtcome : call.document.outcome = .failed)
    (hfits : context.fits (outcomeBinding call grant) = true)
    (hfacts : FactsValid request .failed visit) (hfailure : FailureValid plane call lease visit)
    (h : Unrecorded F contentDigest context plane call grant request lease store) :
    (Unrecorded F contentDigest context plane call grant request lease
        (reconcileNativeOutcome F contentDigest context plane call visit store).1 ∨
      Underway F contentDigest context plane call grant request lease .failed
        (reconcileNativeOutcome F contentDigest context plane call visit store).1) ∧
      (Admits call grant lease visit →
        Underway F contentDigest context plane call grant request lease .failed
          (reconcileNativeOutcome F contentDigest context plane call visit store).1) := by
  obtain ⟨haccepted, s, attempt, hfailing⟩ := h
  have hreport := hfailing.report.report
  have hnamed : call.document.outcome = outcomeOf .failed := houtcome
  obtain ⟨journals, hjournals, hmem, -⟩ := journalOutcome_ok ⟨lease, grant, request⟩ s hnamed hfits
    (fun hending => by cases hending) (haccepted.imp_right fun hopen => hopen _ s attempt hreport)
  rw [reconcile_eq hreport hjournals]
  dsimp only
  rw [outcomeSteps_eq hnamed]
  by_cases hadmits : Admits call grant lease visit
  · have hunderway := hfailing.resume_admitted .interrupted hfacts hfailure hadmits
    exact ⟨.inr ⟨.inl hmem, hunderway⟩, fun _ => ⟨.inl hmem, hunderway⟩⟩
  · have hidle := hfailing.resume_idle (.requireTaskFailed :: endingSteps .failed) .interrupted
      hfailure hadmits
    refine ⟨.inl ⟨.inl hmem, s, attempt, ?_⟩, fun hlive => absurd hlive hadmits⟩
    rw [← hidle] at hfailing
    exact hfailing

/-- Once a visit has recorded the failure, the report is answered. -/
theorem settles_of_unrecorded (houtcome : call.document.outcome = .failed)
    (hfits : context.fits (outcomeBinding call grant) = true)
    (hvalid : ∀ visit ∈ whole :: visits,
      FactsValid request .failed visit ∧ FailureValid plane call lease visit)
    (hbudget : 4 ≤ whole.budget) (hadmits : ∃ visit ∈ whole :: visits, Admits call grant lease visit)
    (h : Unrecorded F contentDigest context plane call grant request lease store) :
    Retry.Settles (reconcileNativeOutcome F contentDigest context plane call) whole
      (Closed request .failed) store visits := by
  have hsame : ∀ visit ∈ visits ++ [whole], visit ∈ whole :: visits := by
    intro visit hvisit
    rcases List.mem_append.mp hvisit with hvisit | hvisit
    · exact List.mem_cons_of_mem whole hvisit
    · exact List.mem_singleton.mp hvisit ▸ List.mem_cons_self
  have hadmitted : ∃ visit ∈ visits ++ [whole], Admits call grant lease visit := by
    obtain ⟨visit, hvisit, hadmits⟩ := hadmits
    refine ⟨visit, ?_, hadmits⟩
    rcases List.mem_cons.mp hvisit with rfl | hvisit
    · simp
    · exact List.mem_append_left _ hvisit
  apply Retry.Settles.of_concat
  have hnamed : call.document.outcome = outcomeOf .failed := houtcome
  refine settles_of_underway hnamed hfits (fun visit hvisit => hvalid visit ?_) hbudget ?_
  · rcases List.mem_cons.mp hvisit with rfl | hvisit
    · exact List.mem_cons_self
    · exact hsame visit hvisit
  · refine Retry.after_reaches (Q := Underway F contentDigest context plane call grant request
      lease .failed) ?_ ?_ ?_ h hadmitted
    · intro visit hvisit store hstore
      obtain ⟨hfacts, hfailure⟩ := hvalid visit (hsame visit hvisit)
      exact (hstore.reconcile houtcome hfits hfacts hfailure).1
    · intro visit hvisit store hstore
      obtain ⟨hfacts, hfailure⟩ := hvalid visit (hsame visit hvisit)
      exact hstore.reconcile hnamed hfits hfacts hfailure
    · intro visit hvisit store hadmits hstore
      obtain ⟨hfacts, hfailure⟩ := hvalid visit (hsame visit hvisit)
      exact (hstore.reconcile houtcome hfits hfacts hfailure).2 hadmits

end

end ResearchOs.Native
