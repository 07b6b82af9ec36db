import Mathlib.Order.Basic

/-! Loops: a pass goes on with the next state, or it leaves with a result. -/
namespace Loop

variable {σ α : Type} {pass : σ → σ ⊕ α} {I : σ → Prop} {rank : σ → Nat} {s : σ} {n : Nat}

/-- At most so many passes. -/
def run (pass : σ → σ ⊕ α) : Nat → σ → Option α
  | 0, _ => none
  | n + 1, s =>
    match pass s with
    | .inl next => run pass n next
    | .inr a => some a

/-- Every pass that goes on keeps the invariant and lowers the rank. -/
structure Descends (pass : σ → σ ⊕ α) (I : σ → Prop) (rank : σ → Nat) : Prop where
  keeps : ∀ {s next}, I s → pass s = .inl next → I next
  lowers : ∀ {s next}, I s → pass s = .inl next → rank next < rank s

/-- With more passes than the rank, the loop is left from a state that meets the invariant. -/
theorem Descends.ends (h : Descends pass I rank) (hs : I s) (hn : rank s < n) :
    ∃ last a, I last ∧ pass last = .inr a ∧ run pass n s = some a := by
  induction n generalizing s with
  | zero => exact absurd hn (Nat.not_lt_zero _)
  | succ n ih =>
    rw [run]
    cases hpass : pass s with
    | inr a => exact ⟨s, a, hs, hpass, rfl⟩
    | inl next =>
      have hlower := h.lowers hs hpass
      exact ih (h.keeps hs hpass) (by omega)

end Loop
