import Mathlib.Data.List.Basic
import Mathlib.Order.Basic

/-! Optimistic concurrency over a version counter. A call may name the version it expects;
it commits only at that version, and a commit moves the version on. -/

structure CompareAndSwap (σ κ : Type) where
  step : σ → κ → σ
  commits : σ → κ → Bool
  version : σ → Nat
  token : κ → Option Nat
  version_lt : ∀ s k, commits s k = true → version s < version (step s k)
  step_eq : ∀ s k, commits s k = false → step s k = s
  version_eq : ∀ s k v, commits s k = true → token k = some v → version s = v

namespace CompareAndSwap

variable {σ κ : Type} (C : CompareAndSwap σ κ)

def run (s : σ) (ks : List κ) : σ := ks.foldl C.step s

/-- The calls of a run, each with the state it found. -/
def trace : σ → List κ → List (σ × κ)
  | _, [] => []
  | s, k :: ks => (s, k) :: trace (C.step s k) ks

/-- The calls that committed with the token `v`. -/
def winners (v : Nat) (s : σ) (ks : List κ) : List (σ × κ) :=
  (C.trace s ks).filter fun p => C.commits p.1 p.2 && C.token p.2 == some v

/-- What a commit preserves holds after every run. -/
theorem run_invariant {P : σ → Prop}
    (hstep : ∀ s k, P s → C.commits s k = true → P (C.step s k)) {s : σ} (hs : P s) (ks : List κ) :
    P (C.run s ks) := by
  induction ks generalizing s with
  | nil => exact hs
  | cons k ks ih =>
    apply ih
    cases h : C.commits s k with
    | true => exact hstep s k hs h
    | false =>
      rw [C.step_eq s k h]
      exact hs

theorem version_le_step (s : σ) (k : κ) : C.version s ≤ C.version (C.step s k) := by
  cases h : C.commits s k with
  | true => exact Nat.le_of_lt (C.version_lt s k h)
  | false => simp [C.step_eq s k h]

/-- The version never returns to a value it has left. -/
theorem winners_eq_nil {v : Nat} {s : σ} (ks : List κ) (h : v < C.version s) :
    C.winners v s ks = [] := by
  induction ks generalizing s with
  | nil => rfl
  | cons k ks ih =>
    have htail := ih (Nat.lt_of_lt_of_le h (C.version_le_step s k))
    have hlost : (C.commits s k && C.token k == some v) = false := by
      by_contra hwon
      simp only [Bool.not_eq_false, Bool.and_eq_true, beq_iff_eq] at hwon
      have := C.version_eq s k v hwon.1 hwon.2
      omega
    simpa [winners, trace, hlost] using htail

/-- At most one call commits with a given token. -/
theorem winners_length_le_one (v : Nat) (s : σ) (ks : List κ) : (C.winners v s ks).length ≤ 1 := by
  induction ks generalizing s with
  | nil => exact Nat.zero_le _
  | cons k ks ih =>
    cases hwon : C.commits s k && C.token k == some v with
    | false => simpa [winners, trace, hwon] using ih (C.step s k)
    | true =>
      simp only [Bool.and_eq_true, beq_iff_eq] at hwon
      have hversion := C.version_eq s k v hwon.1 hwon.2
      have hlater := C.version_lt s k hwon.1
      have htail := C.winners_eq_nil ks (by omega : v < C.version (C.step s k))
      simp only [winners] at htail
      simp [winners, trace, hwon.1, hwon.2, htail]

end CompareAndSwap
