import ResearchOs.Execution.Simulated
import ResearchOs.Core.Runs.Settle

/-! The lifecycle of a run with one attempt, as far as the simulation drives it. -/
namespace ResearchOs.Execution

open Runs

/-- How far a run has come. An attempt and its run are asked to be cancelled apart from each
other. -/
inductive Progress where
  | absent
  | queued (requested : Bool)
  | started (requested : Bool)
  | attempted (status : AttemptStatus) (asked requested : Bool)
  | closed (ending : Ending)
  deriving DecidableEq

namespace Progress

/-- The steps of the lifecycle that the simulation takes. -/
inductive Step : Progress → LifecycleType → Progress → Prop
  | runQueued : Step absent .runQueued (queued false)
  | runStarted {requested : Bool} : Step (queued requested) .runStarted (started requested)
  | attemptQueued : Step (started false) .attemptQueued (attempted .queued false false)
  | attemptStarted {asked requested : Bool} :
      Step (attempted .queued asked requested) .attemptStarted
        (attempted .running asked requested)
  | attemptUnknown {asked requested : Bool} :
      Step (attempted .running asked requested) .attemptUnknown
        (attempted .unknown asked requested)
  | settles {status : AttemptStatus} {asked requested : Bool} (ending : Ending)
      (h : status ∈ ending.allowed)
      (hrequested : ending = .cancelled → requested = true ∨ asked = true) :
      Step (attempted status asked requested) ending.attemptType
        (attempted ending.attemptStatus asked requested)
  | closes {asked requested : Bool} (ending : Ending)
      (hrequested : ending = .cancelled → requested = true) :
      Step (attempted ending.attemptStatus asked requested) ending.runType (closed ending)
  | queuedCancelled : Step (queued true) .runCancelled (closed .cancelled)
  | startedCancelled : Step (started true) .runCancelled (closed .cancelled)

def Steps : Progress → List LifecycleType → Progress → Prop
  | progress, [], last => progress = last
  | progress, type :: path, last => ∃ next, Step progress type next ∧ Steps next path last

/-- What the outcome still needs, or nothing when the outcome is out of reach. -/
def remaining (outcome : SimulatedOutcome) : Progress → Option (List LifecycleType)
  | absent => some (pathForOutcome outcome)
  | queued requested =>
    if requested then some [.runCancelled] else some ((pathForOutcome outcome).drop 1)
  | started requested =>
    if requested then some [.runCancelled] else some ((pathForOutcome outcome).drop 2)
  | attempted .queued asked requested =>
    if asked || requested then
      some (.attemptCancelled :: if requested then [.runCancelled] else [])
    else some ((pathForOutcome outcome).drop 3)
  | attempted .running asked requested =>
    if asked || requested then
      some (.attemptCancelled :: if requested then [.runCancelled] else [])
    else some ((pathForOutcome outcome).drop 4)
  | attempted .succeeded _ _ => if outcome = .success then some [.runCompleted] else none
  | attempted .failed _ _ => if outcome = .failure then some [.runFailed] else none
  | attempted .cancelled _ requested => some (if requested then [.runCancelled] else [])
  | attempted _ _ _ => some []
  | closed _ => some []

def status : Progress → Option RunStatus
  | absent => none
  | queued _ => some .queued
  | started _ => some .running
  | attempted status _ _ => some status.runStatus
  | closed ending => some ending.runStatus

/-- The run is asked to be cancelled before its attempt has an outcome. -/
def Cancelling : Progress → Prop
  | queued requested => requested = true
  | started requested => requested = true
  | attempted status _ requested => requested = true ∧ status ≠ .succeeded ∧ status ≠ .failed
  | _ => False

/-- Nobody has asked for a cancellation. -/
def Undisturbed : Progress → Prop
  | queued requested => requested = false
  | started requested => requested = false
  | attempted _ asked requested => asked = false ∧ requested = false
  | _ => True

end Progress

/-- The run status that an outcome ends in. -/
def SimulatedOutcome.runStatus : SimulatedOutcome → RunStatus
  | .success => .completed
  | .failure => .failed
  | .unknown => .unknown

namespace Progress

variable {progress next last : Progress} {type : LifecycleType} {path : List LifecycleType}
  {outcome : SimulatedOutcome}

/-- The next event of the remaining path is a step, and leaves the rest of the path. -/
theorem step_of_remaining (h : progress.remaining outcome = some (type :: path)) :
    ∃ next, Step progress type next ∧ next.remaining outcome = some path := by
  cases progress with
  | absent =>
    refine ⟨queued false, ?_⟩
    cases outcome <;> cases h <;> exact ⟨.runQueued, rfl⟩
  | queued requested =>
    cases requested with
    | true =>
      cases h
      exact ⟨_, .queuedCancelled, rfl⟩
    | false =>
      refine ⟨started false, ?_⟩
      cases outcome <;> cases h <;> exact ⟨.runStarted, rfl⟩
  | started requested =>
    cases requested with
    | true =>
      cases h
      exact ⟨_, .startedCancelled, rfl⟩
    | false =>
      refine ⟨attempted .queued false false, ?_⟩
      cases outcome <;> cases h <;> exact ⟨.attemptQueued, rfl⟩
  | attempted status asked requested =>
    have hcancel : status ∈ Ending.cancelled.allowed → asked || requested →
        Step (attempted status asked requested) .attemptCancelled
          (attempted .cancelled asked requested) := by
      intro hallowed hasked
      exact .settles .cancelled hallowed fun _ => by simpa [or_comm] using hasked
    cases status with
    | queued =>
      rw [remaining] at h
      split_ifs at h with hasked hrequested
      · cases h
        exact ⟨_, hcancel (by decide) hasked, by simp [remaining, hrequested]⟩
      · cases h
        exact ⟨_, hcancel (by decide) hasked, by simp [remaining, hrequested]⟩
      · refine ⟨attempted .running asked requested, ?_⟩
        cases outcome <;> cases h <;> exact ⟨.attemptStarted, by simp [remaining, hasked]; rfl⟩
    | running =>
      rw [remaining] at h
      split_ifs at h with hasked hrequested
      · cases h
        exact ⟨_, hcancel (by decide) hasked, by simp [remaining, hrequested]⟩
      · cases h
        exact ⟨_, hcancel (by decide) hasked, by simp [remaining, hrequested]⟩
      · cases outcome with
        | success =>
          cases h
          exact ⟨_, .settles .succeeded (by decide) (by simp), rfl⟩
        | failure =>
          cases h
          exact ⟨_, .settles .failed (by decide) (by simp), rfl⟩
        | unknown =>
          cases h
          exact ⟨_, .attemptUnknown, rfl⟩
    | succeeded =>
      rw [remaining] at h
      split_ifs at h
      cases h
      exact ⟨_, .closes .succeeded (by simp), rfl⟩
    | failed =>
      rw [remaining] at h
      split_ifs at h
      cases h
      exact ⟨_, .closes .failed (by simp), rfl⟩
    | cancelled =>
      rw [remaining] at h
      split_ifs at h with hrequested
      · cases h
        exact ⟨_, .closes .cancelled fun _ => hrequested, rfl⟩
      · cases h
    | lost => cases h
    | unknown => cases h
  | closed ending => cases h

/-- The remaining path can be taken to its end, and nothing remains there. -/
theorem steps_of_remaining (h : progress.remaining outcome = some path) :
    ∃ last, Steps progress path last ∧ last.remaining outcome = some [] := by
  induction path generalizing progress with
  | nil => exact ⟨progress, rfl, h⟩
  | cons type path ih =>
    obtain ⟨next, hstep, hnext⟩ := step_of_remaining h
    obtain ⟨last, hsteps, hlast⟩ := ih hnext
    exact ⟨last, ⟨next, hstep, hsteps⟩, hlast⟩

theorem Steps.last_step (h : Steps progress path last) (hlast : path.getLast? = some type) :
    ∃ before, Step before type last := by
  induction path generalizing progress with
  | nil => cases hlast
  | cons first path ih =>
    obtain ⟨next, hstep, hsteps⟩ := h
    cases path with
    | nil =>
      cases hlast
      cases hsteps
      exact ⟨progress, hstep⟩
    | cons second path => exact ih hsteps (by simpa using hlast)

/-! Where a path ends. -/

theorem getLast?_drop_pathForOutcome (outcome : SimulatedOutcome) {n : Nat} (h : n ≤ 4) :
    ((pathForOutcome outcome).drop n).getLast? = (pathForOutcome outcome).getLast? := by
  rw [List.getLast?_drop, if_neg]
  cases outcome <;> simp [pathForOutcome, successPath, failurePath, unknownPath] <;> omega

theorem last_of_cancelling (h : progress.remaining outcome = some path) (hne : path ≠ [])
    (hcancelling : progress.Cancelling) : path.getLast? = some .runCancelled := by
  cases progress with
  | absent => cases hcancelling
  | queued requested =>
    obtain rfl : requested = true := hcancelling
    cases h
    rfl
  | started requested =>
    obtain rfl : requested = true := hcancelling
    cases h
    rfl
  | attempted status asked requested =>
    obtain ⟨rfl, hsucceeded, hfailed⟩ := hcancelling
    cases status <;> simp_all [remaining] <;> subst h <;> rfl
  | closed ending => cases hcancelling

theorem last_of_undisturbed (h : progress.remaining outcome = some path) (hne : path ≠ [])
    (hundisturbed : progress.Undisturbed) : path.getLast? = (pathForOutcome outcome).getLast? := by
  cases progress with
  | absent =>
    cases h
    rfl
  | queued requested =>
    obtain rfl : requested = false := hundisturbed
    cases h
    exact getLast?_drop_pathForOutcome outcome (by decide)
  | started requested =>
    obtain rfl : requested = false := hundisturbed
    cases h
    exact getLast?_drop_pathForOutcome outcome (by decide)
  | attempted status asked requested =>
    obtain ⟨rfl, rfl⟩ := hundisturbed
    cases status with
    | queued =>
      cases h
      exact getLast?_drop_pathForOutcome outcome (by decide)
    | running =>
      cases h
      exact getLast?_drop_pathForOutcome outcome (by decide)
    | succeeded =>
      rw [remaining] at h
      split_ifs at h with hsuccess
      cases h
      rw [hsuccess]
      rfl
    | failed =>
      rw [remaining] at h
      split_ifs at h with hfailure
      cases h
      rw [hfailure]
      rfl
    | _ =>
      cases h
      exact absurd rfl hne
  | closed ending =>
    cases h
    exact absurd rfl hne

theorem Step.status_of_runCancelled (h : Step progress .runCancelled next) :
    next.status = some .cancelled := by
  generalize htype : LifecycleType.runCancelled = type at h
  cases h with
  | settles ending _ _ => cases ending <;> cases htype
  | closes ending _ => cases ending <;> first | rfl | cases htype
  | queuedCancelled => rfl
  | startedCancelled => rfl
  | _ => cases htype

theorem Step.status_of_outcome (h : Step progress type next)
    (htype : (pathForOutcome outcome).getLast? = some type) :
    next.status = some outcome.runStatus := by
  cases h with
  | attemptUnknown => cases outcome <;> first | rfl | cases htype
  | settles ending _ _ => cases outcome <;> cases ending <;> cases htype
  | closes ending _ => cases outcome <;> cases ending <;> first | rfl | cases htype
  | _ => cases outcome <;> cases htype

/-- A path that a request on the run cuts short ends in a cancelled run. -/
theorem Steps.cancelled (h : Steps progress path last)
    (hremaining : progress.remaining outcome = some path) (hne : path ≠ [])
    (hcancelling : progress.Cancelling) : last.status = some .cancelled := by
  obtain ⟨before, hstep⟩ := h.last_step (last_of_cancelling hremaining hne hcancelling)
  exact hstep.status_of_runCancelled

/-- A path that nobody disturbs ends in the outcome. -/
theorem Steps.reaches (h : Steps progress path last)
    (hremaining : progress.remaining outcome = some path) (hne : path ≠ [])
    (hundisturbed : progress.Undisturbed) : last.status = some outcome.runStatus := by
  have hlast := last_of_undisturbed hremaining hne hundisturbed
  obtain ⟨type, htype⟩ := Option.isSome_iff_exists.mp (List.getLast?_isSome.mpr hne)
  obtain ⟨before, hstep⟩ := h.last_step htype
  exact hstep.status_of_outcome (hlast.symm.trans htype)

end Progress

end ResearchOs.Execution
