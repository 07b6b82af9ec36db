import Mathlib.Data.List.Basic

/-! An operation that is called again and again, and whose calls may be cut short. -/
namespace Retry

variable {σ ι ε α : Type} (call : ι → σ → σ × Except ε α)

/-- The state that a list of calls leaves. -/
def after (s : σ) (inputs : List ι) : σ := inputs.foldl (fun s i => (call i s).1) s

/-- No call raises anything but that it was cut short. -/
def Quiet (cut : ε) : σ → List ι → Prop
  | _, [] => True
  | s, i :: rest => (∀ error, (call i s).2 = .error error → error = cut) ∧ Quiet cut (call i s).1 rest

/-- After calls with arbitrary inputs, calls that nothing cuts short come to an answer that is
kept. -/
structure Converges (whole : ι) (cut : ε) (goal : α → Prop) (s : σ) (inputs : List ι) : Prop where
  quiet : ∀ n, Quiet call cut s (inputs ++ List.replicate n whole)
  settles : ∃ n, ∀ m, n ≤ m → ∃ a,
    call whole (after call s (inputs ++ List.replicate m whole)) =
      (after call s (inputs ++ List.replicate m whole), .ok a) ∧ goal a

variable {call}

theorem after_append (s : σ) (before rest : List ι) :
    after call s (before ++ rest) = after call (after call s before) rest :=
  List.foldl_append

theorem after_invariant {P : σ → Prop} (hstep : ∀ i s, P s → P (call i s).1) {s : σ} (hs : P s)
    (inputs : List ι) : P (after call s inputs) := by
  induction inputs generalizing s with
  | nil => exact hs
  | cons i inputs ih => exact ih (hstep i s hs)

variable {whole : ι} {cut : ε} {goal : α → Prop}

theorem quiet_append {s : σ} {before rest : List ι} :
    Quiet call cut s (before ++ rest) ↔
      Quiet call cut s before ∧ Quiet call cut (after call s before) rest := by
  induction before generalizing s with
  | nil => simp [Quiet, after]
  | cons i before ih =>
    simp only [List.cons_append, Quiet, ih, and_assoc]
    rfl

/-- The calls before a convergent rest only have to be quiet themselves. -/
theorem Converges.append {s : σ} {before rest : List ι}
    (h : Converges call whole cut goal (after call s before) rest)
    (hquiet : Quiet call cut s before) : Converges call whole cut goal s (before ++ rest) where
  quiet := by
    intro n
    rw [List.append_assoc, quiet_append]
    exact ⟨hquiet, h.quiet n⟩
  settles := by
    obtain ⟨n, hsettles⟩ := h.settles
    refine ⟨n, fun m hm => ?_⟩
    rw [List.append_assoc, after_append]
    exact hsettles m hm

/-- A call that nothing cuts short may be counted among those that follow. -/
theorem Converges.of_concat {s : σ} {inputs : List ι}
    (h : Converges call whole cut goal s (inputs ++ [whole])) :
    Converges call whole cut goal s inputs where
  quiet := by
    intro n
    have hlonger := h.quiet n
    rw [List.append_assoc, List.singleton_append, ← List.replicate_succ, List.replicate_succ',
      ← List.append_assoc] at hlonger
    exact (quiet_append.mp hlonger).1
  settles := by
    obtain ⟨n, hsettles⟩ := h.settles
    refine ⟨n + 1, fun m hm => ?_⟩
    obtain ⟨k, rfl⟩ : ∃ k, m = k + 1 := ⟨m - 1, by omega⟩
    have hlater := hsettles k (by omega)
    rwa [List.append_assoc, List.singleton_append, ← List.replicate_succ] at hlater

/-- Stages of an operation, by the number of calls that are left when none is cut short. -/
structure Stages (call : ι → σ → σ × Except ε α) (whole : ι) (cut : ε) (goal : α → Prop)
    (Stage : Nat → σ → Prop) : Prop where
  keeps : ∀ n s i, Stage n s → ∃ m ≤ n, Stage m (call i s).1
  quiet : ∀ n s i, Stage n s → ∀ error, (call i s).2 = .error error → error = cut
  advances : ∀ n s, Stage (n + 1) s → ∃ m ≤ n, Stage m (call whole s).1
  answers : ∀ s, Stage 0 s → ∃ a, call whole s = (s, .ok a) ∧ goal a

variable {Stage : Nat → σ → Prop}

theorem Stages.after (h : Stages call whole cut goal Stage) {n : Nat} {s : σ} (hs : Stage n s)
    (inputs : List ι) : ∃ m ≤ n, Stage m (after call s inputs) := by
  have hstart : ∃ m ≤ n, Stage m s := ⟨n, Nat.le_refl n, hs⟩
  refine after_invariant (P := fun s => ∃ m ≤ n, Stage m s) ?_ hstart inputs
  rintro i s ⟨m, hm, hs⟩
  obtain ⟨k, hk, hnext⟩ := h.keeps m s i hs
  exact ⟨k, Nat.le_trans hk hm, hnext⟩

theorem Stages.quiet_after (h : Stages call whole cut goal Stage) {n : Nat} {s : σ}
    (hs : Stage n s) (inputs : List ι) : Quiet call cut s inputs := by
  induction inputs generalizing n s with
  | nil => trivial
  | cons i inputs ih =>
    obtain ⟨m, -, hnext⟩ := h.keeps n s i hs
    exact ⟨h.quiet n s i hs, ih hnext⟩

theorem Stages.finishes (h : Stages call whole cut goal Stage) {n k : Nat} {s : σ} (hs : Stage n s)
    (hk : n ≤ k) : Stage 0 (Retry.after call s (List.replicate k whole)) := by
  induction k generalizing n s with
  | zero =>
    obtain rfl : n = 0 := Nat.le_zero.mp hk
    exact hs
  | succ k ih =>
    cases n with
    | zero =>
      obtain ⟨m, hm, hnext⟩ := h.keeps 0 s whole hs
      exact ih hnext (by omega)
    | succ n =>
      obtain ⟨m, hm, hnext⟩ := h.advances n s hs
      exact ih hnext (by omega)

theorem Stages.converges (h : Stages call whole cut goal Stage) {n : Nat} {s : σ} (hs : Stage n s)
    (inputs : List ι) : Converges call whole cut goal s inputs where
  quiet := fun k => h.quiet_after hs _
  settles := by
    refine ⟨n, fun m hm => ?_⟩
    obtain ⟨k, hk, hstage⟩ := h.after hs inputs
    rw [after_append]
    exact h.answers _ (h.finishes hstage (Nat.le_trans hk hm))

/-- Calls that have come into an invariant without a good answer never converge. -/
theorem not_converges {P : σ → Prop} (hstep : ∀ i s, P s → P (call i s).1)
    (hgoal : ∀ s, P s → ∀ a, call whole s = (s, .ok a) → ¬ goal a) {s : σ} {inputs before : List ι}
    {k : Nat} (hlonger : before <+: inputs ++ List.replicate k whole) (hs : P (after call s before)) :
    ¬ Converges call whole cut goal s inputs := by
  intro hconverges
  obtain ⟨n, hsettles⟩ := hconverges.settles
  obtain ⟨a, hanswer, hgood⟩ := hsettles (k + n) (Nat.le_add_left n k)
  obtain ⟨rest, hrest⟩ := hlonger
  have hlater : P (after call s (inputs ++ List.replicate (k + n) whole)) := by
    rw [← List.replicate_append_replicate, ← List.append_assoc, ← hrest, List.append_assoc,
      after_append]
    exact after_invariant hstep hs _
  exact hgoal _ hlater a hanswer hgood

/-! Calls that may be refused on the way. -/

/-- After calls with arbitrary inputs, calls that nothing cuts short come to an answer that is
kept, in a state that meets the goal. -/
def Settles (call : ι → σ → σ × Except ε α) (whole : ι) (goal : σ → Prop) (s : σ)
    (inputs : List ι) : Prop :=
  ∃ n, ∀ m, n ≤ m → goal (after call s (inputs ++ List.replicate m whole)) ∧
    ∃ a, call whole (after call s (inputs ++ List.replicate m whole)) =
      (after call s (inputs ++ List.replicate m whole), .ok a)

variable {goal : σ → Prop}

/-- A state that the calls do not move. -/
theorem after_replicate {i : ι} {s : σ} (h : (call i s).1 = s) (n : Nat) :
    after call s (List.replicate n i) = s := by
  induction n with
  | zero => rfl
  | succ n ih =>
    rw [List.replicate_succ]
    change after call (call i s).1 (List.replicate n i) = s
    rw [h, ih]

theorem Settles.of_answered {s : σ} {inputs : List ι} {t : σ} {a : α}
    (hafter : (call whole (after call s inputs)).1 = t) (hanswer : call whole t = (t, .ok a))
    (hgoal : goal t) : Settles call whole goal s inputs := by
  refine ⟨1, fun m hm => ?_⟩
  obtain ⟨k, rfl⟩ : ∃ k, m = k + 1 := ⟨m - 1, by omega⟩
  have hlater : after call s (inputs ++ List.replicate (k + 1) whole) = t := by
    rw [after_append, List.replicate_succ]
    change after call (call whole (after call s inputs)).1 (List.replicate k whole) = t
    rw [hafter]
    exact after_replicate (by rw [hanswer]) k
  rw [hlater]
  exact ⟨hgoal, a, hanswer⟩

theorem Settles.of_concat {s : σ} {inputs : List ι}
    (h : Settles call whole goal s (inputs ++ [whole])) : Settles call whole goal s inputs := by
  obtain ⟨n, hsettles⟩ := h
  refine ⟨n + 1, fun m hm => ?_⟩
  obtain ⟨k, rfl⟩ : ∃ k, m = k + 1 := ⟨m - 1, by omega⟩
  have hlater := hsettles k (by omega)
  rwa [List.append_assoc, List.singleton_append, ← List.replicate_succ] at hlater

theorem after_invariant_of_mem {P : σ → Prop} {s : σ} {inputs : List ι}
    (hstep : ∀ i ∈ inputs, ∀ s, P s → P (call i s).1) (hs : P s) : P (after call s inputs) := by
  induction inputs generalizing s with
  | nil => exact hs
  | cons i inputs ih =>
    exact ih (fun j hj => hstep j (List.mem_cons_of_mem i hj)) (hstep i List.mem_cons_self s hs)

/-- What every call keeps must allow for the goal. -/
theorem not_settles {P : σ → Prop} {s : σ} {inputs : List ι}
    (hstep : ∀ i ∈ whole :: inputs, ∀ s, P s → P (call i s).1)
    (hgoal : ∀ s, P s → ∀ a, call whole s = (s, .ok a) → ¬ goal s) (hs : P s) :
    ¬ Settles call whole goal s inputs := by
  rintro ⟨n, hsettles⟩
  obtain ⟨hmet, a, hanswer⟩ := hsettles n (Nat.le_refl n)
  refine hgoal _ (after_invariant_of_mem ?_ hs) a hanswer hmet
  intro i hi
  rcases List.mem_append.mp hi with hi | hi
  · exact hstep i (List.mem_cons_of_mem whole hi)
  · exact hstep i (by simp [(List.mem_replicate.mp hi).2])

/-- One call among many that takes a state on. -/
theorem after_reaches {P Q : σ → Prop} {admits : ι → Prop} {inputs : List ι}
    (hkeeps : ∀ i ∈ inputs, ∀ s, P s → P (call i s).1 ∨ Q (call i s).1)
    (hstays : ∀ i ∈ inputs, ∀ s, Q s → Q (call i s).1)
    (hadmits : ∀ i ∈ inputs, ∀ s, admits i → P s → Q (call i s).1) {s : σ} (hs : P s)
    (h : ∃ i ∈ inputs, admits i) : Q (after call s inputs) := by
  induction inputs generalizing s with
  | nil =>
    obtain ⟨i, hi, -⟩ := h
    cases hi
  | cons first rest ih =>
    have hlater : ∀ i ∈ rest, i ∈ first :: rest := fun i hi => List.mem_cons_of_mem first hi
    have hrest := fun i hi => hstays i (hlater i hi)
    change Q (after call (call first s).1 rest)
    by_cases hfirst : admits first
    · exact after_invariant_of_mem hrest (hadmits first List.mem_cons_self s hfirst hs)
    · rcases hkeeps first List.mem_cons_self s hs with hkept | hreached
      · refine ih (fun i hi => hkeeps i (hlater i hi)) hrest
          (fun i hi => hadmits i (hlater i hi)) hkept ?_
        obtain ⟨i, hi, hadmitted⟩ := h
        rcases List.mem_cons.mp hi with rfl | hi
        · exact absurd hadmitted hfirst
        · exact ⟨i, hi, hadmitted⟩
      · exact after_invariant_of_mem hrest hreached

end Retry
