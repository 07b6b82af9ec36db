import Mathlib.Logic.Basic

/-! Stateful computations that may raise, and their atomic execution. A raised error keeps
the state it was raised in; an atomic execution restores the one it started from. -/

abbrev Transaction (σ ε : Type) := ExceptT ε (StateM σ)

namespace Transaction

variable {σ ε α β : Type}

def exec (x : Transaction σ ε α) (s : σ) : Except ε α × σ := StateT.run (ExceptT.run x) s

def lift (r : Except ε α) : Transaction σ ε α := ExceptT.mk fun s => (r, s)

/-- A query: its answer depends on the state and leaves it alone. -/
def query (f : σ → Except ε α) : Transaction σ ε α := ExceptT.mk fun s => (f s, s)

/-- A write: it raises without an effect or moves the state. -/
def write (f : σ → Except ε σ) : Transaction σ ε Unit :=
  ExceptT.mk fun s =>
    match f s with
    | .ok t => (.ok (), t)
    | .error e => (.error e, s)

def atomically (x : Transaction σ ε α) : Transaction σ ε α :=
  ExceptT.mk fun s =>
    match x.exec s with
    | (.ok a, t) => (.ok a, t)
    | (.error e, _) => (.error e, s)

variable {x : Transaction σ ε α} {f : α → Transaction σ ε β} {s t : σ} {a : α} {b : β} {e : ε}

/-! What a computation that returns did. -/

@[simp] theorem exec_pure : (pure a : Transaction σ ε α).exec s = (.ok a, s) := rfl

@[simp] theorem exec_lift {r : Except ε α} :
    (lift r : Transaction σ ε α).exec s = (r, s) := rfl

@[simp] theorem exec_query {q : σ → Except ε α} : (query q).exec s = (q s, s) := rfl

theorem exec_bind : (x >>= f).exec s =
    match x.exec s with
    | (.ok a, t) => (f a).exec t
    | (.error e, t) => (.error e, t) := by
  change (ExceptT.bindCont (fun a => f a) (x.exec s).1).run (x.exec s).2 = _
  rcases x.exec s with ⟨_ | _, _⟩ <;> rfl

theorem exec_bind_ok :
    (x >>= f).exec s = (.ok b, t) ↔ ∃ a u, x.exec s = (.ok a, u) ∧ (f a).exec u = (.ok b, t) := by
  rw [exec_bind]
  constructor
  · intro h
    rcases hx : x.exec s with ⟨e | a, u⟩
    · rw [hx] at h
      cases h
    · rw [hx] at h
      exact ⟨a, u, rfl, h⟩
  · rintro ⟨a, u, hx, hf⟩
    simpa [hx] using hf

theorem exec_query_ok {q : σ → Except ε α} :
    (query q).exec s = (.ok a, t) ↔ q s = .ok a ∧ t = s := by
  simp [eq_comm]

theorem exec_lift_ok {r : Except ε α} :
    (lift r : Transaction σ ε α).exec s = (.ok a, t) ↔ r = .ok a ∧ t = s := by
  simp [eq_comm]

theorem exec_write {w : σ → Except ε σ} : (write w).exec s =
    match w s with
    | .ok t => (.ok (), t)
    | .error e => (.error e, s) := rfl

theorem exec_write_ok {w : σ → Except ε σ} {u : Unit} :
    (write w).exec s = (.ok u, t) ↔ w s = .ok t := by
  rw [exec_write]
  cases w s <;> simp

theorem exec_atomically : (atomically x).exec s =
    match x.exec s with
    | (.ok a, t) => (.ok a, t)
    | (.error e, _) => (.error e, s) := rfl

theorem exec_atomically_ok : (atomically x).exec s = (.ok a, t) ↔ x.exec s = (.ok a, t) := by
  rw [exec_atomically]
  rcases x.exec s with ⟨_ | _, _⟩ <;> simp

/-! What a computation that raises left behind. -/

def ReadOnly (x : Transaction σ ε α) : Prop := ∀ s, (x.exec s).2 = s

/-- An error leaves the state as it was. -/
def Atomic (x : Transaction σ ε α) : Prop := ∀ s e t, x.exec s = (.error e, t) → t = s

theorem readOnly_lift (r : Except ε α) : ReadOnly (lift r : Transaction σ ε α) :=
  fun _ => rfl

theorem atomic_atomically (x : Transaction σ ε α) : Atomic (atomically x) := by
  intro s e t h
  rw [exec_atomically] at h
  rcases hx : x.exec s with ⟨_ | _, _⟩ <;> simp [hx] at h
  exact h.2.symm

theorem readOnly_query (q : σ → Except ε α) : ReadOnly (query q : Transaction σ ε α) :=
  fun _ => rfl

theorem atomic_pure (a : α) : Atomic (pure a : Transaction σ ε α) := by
  intro s e t h
  cases h

theorem atomic_write (w : σ → Except ε σ) : Atomic (write w : Transaction σ ε Unit) := by
  intro s e t h
  rw [exec_write] at h
  cases hw : w s <;> simp [hw] at h
  exact h.2.symm

/-- An atomic computation may precede one that cannot raise. -/
theorem Atomic.bind_pure (hx : Atomic x) (g : α → β) : Atomic (x >>= fun a => pure (g a)) := by
  intro s e t h
  rw [exec_bind] at h
  rcases hexec : x.exec s with ⟨e' | a, u⟩
  · rw [hexec] at h
    cases h
    exact hx s e t hexec
  · rw [hexec] at h
    cases h

/-- Computations that only read may precede an atomic one. -/
theorem Atomic.bind (hx : ReadOnly x) (hf : ∀ a, Atomic (f a)) : Atomic (x >>= f) := by
  intro s e t h
  have hs := hx s
  rw [exec_bind] at h
  rcases hexec : x.exec s with ⟨r, u⟩
  rw [hexec] at h hs
  cases hs
  cases r with
  | error e' =>
    cases h
    rfl
  | ok a => exact hf a _ e t h

end Transaction
