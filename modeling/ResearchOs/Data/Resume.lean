import Mathlib.Data.List.Basic

/-! A list of steps that every call works through from its start. A step that is done is passed
over, and a step that writes uses up a part of the budget of the call. -/
namespace Resume

variable {β σ ε : Type}

/-- One call. It is cut before the write that it has no budget for. -/
def resume (perform : β → σ → Except ε (Option σ)) (cut : ε) :
    List β → Nat → σ → σ × Except ε Unit
  | [], _, s => (s, .ok ())
  | step :: rest, budget, s =>
    match perform step s with
    | .error error => (s, .error error)
    | .ok none => resume perform cut rest budget s
    | .ok (some next) =>
      match budget with
      | 0 => (s, .error cut)
      | budget + 1 => resume perform cut rest budget next

variable {perform : β → σ → Except ε (Option σ)} {cut : ε} {steps rest : List β} {step : β}
  {s t : σ}

theorem resume_error {error : ε} (h : perform step s = .error error) (budget : Nat) :
    resume perform cut (step :: rest) budget s = (s, .error error) := by
  simp only [resume, h]

theorem resume_done (h : perform step s = .ok none) (budget : Nat) :
    resume perform cut (step :: rest) budget s = resume perform cut rest budget s := by
  simp only [resume, h]

theorem resume_write (h : perform step s = .ok (some t)) (budget : Nat) :
    resume perform cut (step :: rest) (budget + 1) s = resume perform cut rest budget t := by
  simp only [resume, h]

theorem resume_cut (h : perform step s = .ok (some t)) :
    resume perform cut (step :: rest) 0 s = (s, .error cut) := by
  simp only [resume, h]

theorem resume_all_done (h : ∀ step ∈ steps, perform step s = .ok none) (budget : Nat) :
    resume perform cut (steps ++ rest) budget s = resume perform cut rest budget s := by
  induction steps with
  | nil => rfl
  | cons step steps ih =>
    rw [List.cons_append, resume_done (h step List.mem_cons_self)]
    exact ih fun other hother => h other (List.mem_cons_of_mem step hother)

/-- What every write keeps, every call keeps. -/
theorem resume_invariant {P : σ → Prop}
    (hstep : ∀ step ∈ steps, ∀ s t, P s → perform step s = .ok (some t) → P t) (hs : P s)
    (budget : Nat) : P (resume perform cut steps budget s).1 := by
  induction steps generalizing s budget with
  | nil => exact hs
  | cons step steps ih =>
    have hrest := fun other hother => hstep other (List.mem_cons_of_mem step hother)
    cases hperform : perform step s with
    | error error =>
      rw [resume_error hperform]
      exact hs
    | ok next =>
      cases next with
      | none =>
        rw [resume_done hperform]
        exact ih hrest hs budget
      | some t =>
        cases budget with
        | zero =>
          rw [resume_cut hperform]
          exact hs
        | succ budget =>
          rw [resume_write hperform]
          exact ih hrest (hstep step List.mem_cons_self s t hs hperform) budget

section

variable {R : σ → σ → Prop} (hrefl : ∀ s, R s s) (htrans : ∀ s t u, R s t → R t u → R s u)

include hrefl htrans

theorem resume_related (hwrites : ∀ step ∈ steps, ∀ s t, perform step s = .ok (some t) → R s t)
    (s : σ) (budget : Nat) : R s (resume perform cut steps budget s).1 :=
  resume_invariant (fun step hstep u v hu hv => htrans s u v hu (hwrites step hstep u v hv))
    (hrefl s) budget

/-- A call that gets through all its steps has seen each of them done or has written it. -/
theorem resume_ok (hwrites : ∀ step ∈ steps, ∀ s t, perform step s = .ok (some t) → R s t)
    {budget : Nat} (h : resume perform cut steps budget s = (t, .ok ())) (hstep : step ∈ steps) :
    ∃ u, R s u ∧ (perform step u = .ok none ∧ R u t ∨
      ∃ v, perform step u = .ok (some v) ∧ R v t) := by
  induction steps generalizing s budget with
  | nil => cases hstep
  | cons first steps ih =>
    have hrest := fun other hother => hwrites other (List.mem_cons_of_mem first hother)
    cases hperform : perform first s with
    | error error =>
      rw [resume_error hperform] at h
      cases h
    | ok next =>
      cases next with
      | none =>
        rw [resume_done hperform] at h
        have hlater : R s (resume perform cut steps budget s).1 :=
          resume_related hrefl htrans hrest s budget
        rw [h] at hlater
        rcases List.mem_cons.mp hstep with rfl | hstep
        · exact ⟨s, hrefl s, .inl ⟨hperform, hlater⟩⟩
        · exact ih hrest h hstep
      | some u =>
        cases budget with
        | zero =>
          rw [resume_cut hperform] at h
          cases h
        | succ budget =>
          rw [resume_write hperform] at h
          have hfirst := hwrites first List.mem_cons_self s u hperform
          have hlater : R u (resume perform cut steps budget u).1 :=
            resume_related hrefl htrans hrest u budget
          rw [h] at hlater
          rcases List.mem_cons.mp hstep with rfl | hstep
          · exact ⟨s, hrefl s, .inr ⟨u, hperform, hlater⟩⟩
          · obtain ⟨v, hv, hdone⟩ := ih hrest h hstep
            exact ⟨v, htrans s u v hfirst hv, hdone⟩

end

/-! Steps that are done one after the other. -/

/-- `Ready n s` says that the first steps are done in `s`, `n` of them, and that the others can be
done in turn. -/
structure InTurn (perform : β → σ → Except ε (Option σ)) (steps : List β)
    (Ready : Nat → σ → Prop) : Prop where
  done : ∀ n s k step, Ready n s → k < n → steps[k]? = some step → perform step s = .ok none
  next : ∀ n s step, Ready n s → steps[n]? = some step →
    perform step s = .ok none ∧ Ready (n + 1) s ∨
      ∃ t, perform step s = .ok (some t) ∧ Ready (n + 1) t

variable {Ready : Nat → σ → Prop}

/-- What a call makes of steps that are done in turn: it does all of them, or it is cut after as
many as its budget has covered. -/
def Advanced (Ready : Nat → σ → Prop) (cut : ε) (n total budget : Nat)
    (result : σ × Except ε Unit) : Prop :=
  Ready total result.1 ∧ result.2 = .ok () ∨
    ∃ m, n + budget ≤ m ∧ m < total ∧ Ready m result.1 ∧ result.2 = .error cut

theorem Advanced.mono {n m total budget : Nat} {result : σ × Except ε Unit}
    (h : Advanced Ready cut n total budget result) (hle : m ≤ n) :
    Advanced Ready cut m total budget result := by
  rcases h with hdone | ⟨k, hk, hlt, hready, hcut⟩
  · exact .inl hdone
  · exact .inr ⟨k, by omega, hlt, hready, hcut⟩

theorem InTurn.drop (h : InTurn perform steps Ready) {n : Nat} (hn : n ≤ steps.length)
    (hs : Ready n s) (budget : Nat) :
    Advanced Ready cut n steps.length budget (resume perform cut (steps.drop n) budget s) := by
  induction hm : steps.length - n generalizing n s budget with
  | zero =>
    obtain rfl : n = steps.length := by omega
    rw [List.drop_length]
    exact .inl ⟨hs, rfl⟩
  | succ k ih =>
    have hlt : n < steps.length := by omega
    rw [List.drop_eq_getElem_cons hlt]
    rcases h.next n s steps[n] hs (List.getElem?_eq_getElem hlt) with
      ⟨hdone, hready⟩ | ⟨t, hwrite, hready⟩
    · rw [resume_done hdone]
      exact (ih hlt hready budget (by omega)).mono (Nat.le_succ n)
    · cases budget with
      | zero =>
        rw [resume_cut hwrite]
        exact .inr ⟨n, Nat.le_refl n, hlt, hs, rfl⟩
      | succ budget =>
        rw [resume_write hwrite]
        rcases ih hlt hready budget (by omega) with hdone | ⟨m, hle, hm, hready, hcut⟩
        · exact .inl hdone
        · exact .inr ⟨m, by omega, hm, hready, hcut⟩

/-- A call takes up the steps where the ones before it have stopped. -/
theorem InTurn.resume (h : InTurn perform steps Ready) (cut : ε) {n : Nat} (hn : n ≤ steps.length)
    (hs : Ready n s) (budget : Nat) :
    Advanced Ready cut n steps.length budget (Resume.resume perform cut steps budget s) := by
  have hdone : ∀ step ∈ steps.take n, perform step s = .ok none := by
    intro step hstep
    obtain ⟨k, hk⟩ := List.mem_iff_getElem?.mp hstep
    rw [List.getElem?_take] at hk
    split_ifs at hk with hlt
    exact h.done n s k step hs hlt hk
  have hsplit : Resume.resume perform cut (steps.take n ++ steps.drop n) budget s =
      Resume.resume perform cut (steps.drop n) budget s := resume_all_done hdone budget
  rw [List.take_append_drop] at hsplit
  rw [hsplit]
  exact h.drop hn hs budget

/-- Nothing is left to do when all steps are done. -/
theorem InTurn.finished (h : InTurn perform steps Ready) (cut : ε)
    (hs : Ready steps.length s) (budget : Nat) :
    Resume.resume perform cut steps budget s = (s, .ok ()) := by
  have hdone : ∀ step ∈ steps, perform step s = .ok none := by
    intro step hstep
    obtain ⟨k, hk⟩ := List.mem_iff_getElem?.mp hstep
    exact h.done steps.length s k step hs (List.getElem?_eq_some_iff.mp hk).1 hk
  have hall : Resume.resume perform cut (steps ++ []) budget s = _ := resume_all_done hdone budget
  rw [List.append_nil] at hall
  exact hall

/-- First the one list in turn, then the other. -/
def InTurn.Both (steps : List β) (Ready Later : Nat → σ → Prop) (n : Nat) (s : σ) : Prop :=
  n < steps.length ∧ Ready n s ∨ ∃ k, n = steps.length + k ∧ Later k s

theorem InTurn.append {Later : Nat → σ → Prop} (h : InTurn perform steps Ready)
    (hlater : InTurn perform rest Later)
    (hdone : ∀ k s, Later k s → ∀ step ∈ steps, perform step s = .ok none)
    (hnext : ∀ s, Ready steps.length s → Later 0 s) :
    InTurn perform (steps ++ rest) (InTurn.Both steps Ready Later) where
  done := by
    rintro n s k step (⟨hlt, hs⟩ | ⟨j, rfl, hs⟩) hk hstep
    · rw [List.getElem?_append_left (by omega)] at hstep
      exact h.done n s k step hs hk hstep
    · by_cases hfirst : k < steps.length
      · rw [List.getElem?_append_left hfirst] at hstep
        exact hdone j s hs step (List.mem_of_getElem? hstep)
      · rw [List.getElem?_append_right (by omega)] at hstep
        exact hlater.done j s (k - steps.length) step hs (by omega) hstep
  next := by
    rintro n s step (⟨hlt, hs⟩ | ⟨j, rfl, hs⟩) hstep
    · rw [List.getElem?_append_left hlt] at hstep
      have hready : ∀ t, Ready (n + 1) t → InTurn.Both steps Ready Later (n + 1) t := by
        intro t ht
        by_cases hmore : n + 1 < steps.length
        · exact .inl ⟨hmore, ht⟩
        · obtain heq : n + 1 = steps.length := by omega
          exact .inr ⟨0, heq, hnext t (heq ▸ ht)⟩
      rcases h.next n s step hs hstep with ⟨hnone, ht⟩ | ⟨t, hwrite, ht⟩
      · exact .inl ⟨hnone, hready s ht⟩
      · exact .inr ⟨t, hwrite, hready t ht⟩
    · rw [List.getElem?_append_right (by omega), Nat.add_sub_cancel_left] at hstep
      rcases hlater.next j s step hs hstep with ⟨hnone, ht⟩ | ⟨t, hwrite, ht⟩
      · exact .inl ⟨hnone, .inr ⟨j + 1, rfl, ht⟩⟩
      · exact .inr ⟨t, hwrite, .inr ⟨j + 1, rfl, ht⟩⟩

/-! Steps that no call gets to the end of. -/

/-- `Stuck n s` says that the call stops at one of the steps from the `n`-th on, and that the next
call will. -/
structure Stalls (perform : β → σ → Except ε (Option σ)) (steps : List β)
    (Stuck : Nat → σ → Prop) : Prop where
  restarts : ∀ n s, Stuck n s → Stuck 0 s
  passes : ∀ n s step, Stuck n s → steps[n]? = some step → perform step s = .ok none →
    Stuck (n + 1) s
  writes : ∀ n s t step, Stuck n s → steps[n]? = some step → perform step s = .ok (some t) →
    Stuck (n + 1) t
  stops : ∀ s, ¬ Stuck steps.length s

variable {Stuck : Nat → σ → Prop}

theorem Stalls.drop (h : Stalls perform steps Stuck) {n : Nat} (hn : n ≤ steps.length)
    (hs : Stuck n s) (budget : Nat) :
    Stuck 0 (resume perform cut (steps.drop n) budget s).1 ∧
      ∃ error, (resume perform cut (steps.drop n) budget s).2 = .error error := by
  induction hm : steps.length - n generalizing n s budget with
  | zero =>
    obtain rfl : n = steps.length := by omega
    exact absurd hs (h.stops s)
  | succ k ih =>
    have hlt : n < steps.length := by omega
    have hstep := List.getElem?_eq_getElem hlt
    rw [List.drop_eq_getElem_cons hlt]
    cases hperform : perform steps[n] s with
    | error error =>
      rw [resume_error hperform]
      exact ⟨h.restarts n s hs, error, rfl⟩
    | ok next =>
      cases next with
      | none =>
        rw [resume_done hperform]
        exact ih hlt (h.passes n s _ hs hstep hperform) budget (by omega)
      | some t =>
        cases budget with
        | zero =>
          rw [resume_cut hperform]
          exact ⟨h.restarts n s hs, cut, rfl⟩
        | succ budget =>
          rw [resume_write hperform]
          exact ih hlt (h.writes n s t _ hs hstep hperform) budget (by omega)

theorem Stalls.resume (h : Stalls perform steps Stuck) (cut : ε) (hs : Stuck 0 s)
    (budget : Nat) :
    Stuck 0 (Resume.resume perform cut steps budget s).1 ∧
      ∃ error, (Resume.resume perform cut steps budget s).2 = .error error :=
  h.drop (Nat.zero_le steps.length) hs budget

end Resume
