import Mathlib.Data.List.Forall2
import Mathlib.Data.List.Perm.Basic

/-! Runs of a partial step function over a list of inputs. -/
namespace Fold

variable {σ α ε : Type}

theorem bind_eq_ok {x : Except ε α} {k : α → Except ε σ} {r : σ} :
    x >>= k = .ok r ↔ ∃ a, x = .ok a ∧ k a = .ok r := by
  cases x <;> simp [bind, Except.bind]

theorem bind_eq_error {x : Except ε α} {k : α → Except ε σ} {e : ε} :
    x >>= k = .error e ↔ x = .error e ∨ ∃ a, x = .ok a ∧ k a = .error e := by
  cases x <;> simp [bind, Except.bind]

theorem exists_of_mem_right {R : α → σ → Prop} {xs : List α} {ys : List σ}
    (h : List.Forall₂ R xs ys) {y : σ} (hy : y ∈ ys) : ∃ x ∈ xs, R x y := by
  induction h with
  | nil => cases hy
  | cons hhead _ ih =>
    rcases List.mem_cons.mp hy with rfl | hy
    · exact ⟨_, List.mem_cons_self, hhead⟩
    · obtain ⟨x, hx, hrel⟩ := ih hy
      exact ⟨x, List.mem_cons_of_mem _ hx, hrel⟩

theorem mapM_eq_ok {f : α → Except ε σ} {xs : List α} {ys : List σ} :
    xs.mapM f = .ok ys ↔ List.Forall₂ (fun x y => f x = .ok y) xs ys := by
  induction xs generalizing ys with
  | nil =>
    constructor
    · intro h
      cases h
      exact .nil
    · intro h
      cases h
      rfl
  | cons x xs ih =>
    rw [List.mapM_cons, bind_eq_ok]
    constructor
    · rintro ⟨y, hy, h⟩
      obtain ⟨rest, hrest, h⟩ := bind_eq_ok.mp h
      cases h
      exact .cons hy (ih.mp hrest)
    · intro h
      cases h with
      | cons hy hrest => exact ⟨_, hy, bind_eq_ok.mpr ⟨_, ih.mpr hrest, rfl⟩⟩

theorem exists_mapM_eq_ok {f : α → Except ε σ} {xs : List α} (h : ∀ x ∈ xs, ∃ y, f x = .ok y) :
    ∃ ys, xs.mapM f = .ok ys := by
  induction xs with
  | nil => exact ⟨[], rfl⟩
  | cons x xs ih =>
    obtain ⟨y, hy⟩ := h x List.mem_cons_self
    obtain ⟨ys, hys⟩ := ih fun z hz => h z (List.mem_cons_of_mem x hz)
    exact ⟨y :: ys, mapM_eq_ok.mpr (.cons hy (mapM_eq_ok.mp hys))⟩

/-- A map of the same elements in another order gives the same values in another order. -/
theorem mapM_perm {f : α → Except ε σ} {xs xs' : List α} {ys : List σ} (hperm : xs.Perm xs')
    (h : xs.mapM f = .ok ys) : ∃ ys', xs'.mapM f = .ok ys' ∧ ys.Perm ys' := by
  obtain ⟨ys', hall, hys⟩ := List.perm_comp_forall₂ hperm.symm (mapM_eq_ok.mp h)
  exact ⟨ys', mapM_eq_ok.mpr hall, hys.symm⟩

theorem mapM_eq_error {f : α → Except ε σ} {xs : List α} {e : ε} (h : xs.mapM f = .error e) :
    ∃ x ∈ xs, f x = .error e := by
  induction xs with
  | nil => cases h
  | cons x xs ih =>
    rw [List.mapM_cons, bind_eq_error] at h
    obtain hx | ⟨y, -, h⟩ := h
    · exact ⟨x, List.mem_cons_self, hx⟩
    · obtain hrest | ⟨ys, -, h⟩ := bind_eq_error.mp h
      · obtain ⟨x', hmem, hx'⟩ := ih hrest
        exact ⟨x', List.mem_cons_of_mem x hmem, hx'⟩
      · cases h

/-- The values of a successful map are those of its arguments. -/
theorem mem_of_mapM_eq_ok {f : α → Except ε σ} {xs : List α} {ys : List σ}
    (h : xs.mapM f = .ok ys) {y : σ} : y ∈ ys ↔ ∃ x ∈ xs, f x = .ok y := by
  have hall := mapM_eq_ok.mp h
  constructor
  · exact exists_of_mem_right hall
  · rintro ⟨x, hx, hy⟩
    obtain ⟨z, hz, hfz⟩ := exists_of_mem_right hall.flip hx
    rw [hy] at hfz
    cases hfz
    exact hz

theorem forM_eq_ok {f : α → Except ε PUnit} {xs : List α} :
    xs.forM f = .ok () ↔ ∀ x ∈ xs, f x = .ok () := by
  induction xs with
  | nil => simp [pure, Except.pure]
  | cons x xs ih =>
    change (f x >>= fun _ => xs.forM f) = .ok () ↔ _
    rw [bind_eq_ok, List.forall_mem_cons]
    constructor
    · rintro ⟨_, hx, h⟩
      exact ⟨hx, ih.mp h⟩
    · rintro ⟨hx, h⟩
      exact ⟨(), hx, ih.mpr h⟩

variable {step : σ → α → Except ε σ}

theorem foldlM_append_eq_ok {s t : σ} {xs ys : List α} :
    (xs ++ ys).foldlM step s = .ok t ↔
      ∃ u, xs.foldlM step s = .ok u ∧ ys.foldlM step u = .ok t := by
  rw [List.foldlM_append]
  exact bind_eq_ok

theorem foldlM_cons_eq_ok {s t : σ} {x : α} {xs : List α} :
    (x :: xs).foldlM step s = .ok t ↔ ∃ u, step s x = .ok u ∧ xs.foldlM step u = .ok t := by
  rw [List.foldlM_cons]
  exact bind_eq_ok

theorem foldlM_concat_eq_ok {s t : σ} {x : α} {xs : List α} :
    (xs ++ [x]).foldlM step s = .ok t ↔ ∃ u, xs.foldlM step s = .ok u ∧ step u x = .ok t := by
  rw [foldlM_append_eq_ok]
  refine exists_congr fun u => and_congr_right fun _ => ?_
  rw [foldlM_cons_eq_ok]
  constructor
  · intro h
    obtain ⟨v, hv, hn⟩ := h
    cases hn
    exact hv
  · intro h
    exact ⟨t, h, rfl⟩

/-- What one accepted step preserves holds after every accepted run over inputs of a kind. -/
theorem foldlM_invariant_of {P : σ → Prop} {Q : α → Prop}
    (hstep : ∀ s x t, Q x → P s → step s x = .ok t → P t) {xs : List α} (hxs : ∀ x ∈ xs, Q x) :
    ∀ {s t : σ}, P s → xs.foldlM step s = .ok t → P t := by
  induction xs with
  | nil =>
    intro s t hs h
    cases h
    exact hs
  | cons x xs ih =>
    intro s t hs h
    obtain ⟨u, hu, ht⟩ := foldlM_cons_eq_ok.mp h
    have hrest := fun y hy => hxs y (List.mem_cons_of_mem x hy)
    exact ih hrest (hstep s x u (hxs x List.mem_cons_self) hs hu) ht

/-- What one accepted step preserves holds after every accepted run. -/
theorem foldlM_invariant {P : σ → Prop}
    (hstep : ∀ s x t, P s → step s x = .ok t → P t) {xs : List α} {s t : σ} (hs : P s)
    (h : xs.foldlM step s = .ok t) : P t :=
  foldlM_invariant_of (Q := fun _ => True) (fun s x t _ => hstep s x t) (fun _ _ => trivial) hs h

/-! Inputs that claim consecutive places. -/

/-- A run over inputs, each at its place. -/
def inOrder (place : α → Nat) (misplaced : Nat → Nat → ε) (step : σ → α → Except ε σ) :
    Nat → σ → List α → Except ε σ
  | _, s, [] => .ok s
  | expected, s, x :: xs =>
    if place x = expected then do
      let t ← step s x
      inOrder place misplaced step (expected + 1) t xs
    else .error (misplaced expected (place x))

variable {place : α → Nat} {misplaced : Nat → Nat → ε}

theorem inOrder_eq_ok {expected : Nat} {s t : σ} {xs : List α} :
    inOrder place misplaced step expected s xs = .ok t ↔
      (∀ i x, xs[i]? = some x → place x = expected + i) ∧ xs.foldlM step s = .ok t := by
  induction xs generalizing expected s with
  | nil => simp [inOrder, pure, Except.pure]
  | cons x xs ih =>
    rw [inOrder, foldlM_cons_eq_ok]
    constructor
    · intro h
      split_ifs at h with hplace
      obtain ⟨u, hu, h⟩ := bind_eq_ok.mp h
      obtain ⟨hplaces, hrest⟩ := ih.mp h
      refine ⟨?_, u, hu, hrest⟩
      intro i y hy
      cases i with
      | zero =>
        cases hy
        exact hplace
      | succ i =>
        have hi := hplaces i y hy
        omega
    · rintro ⟨hplaces, u, hu, hrest⟩
      have hplace : place x = expected := hplaces 0 x rfl
      rw [if_pos hplace]
      refine bind_eq_ok.mpr ⟨u, hu, ih.mpr ⟨?_, hrest⟩⟩
      intro i y hy
      have hi := hplaces (i + 1) y hy
      omega

/-! Two lists of inputs that a reader cannot tell apart. -/

theorem inOrder_congr {expected : Nat} {s : σ} {xs ys : List α}
    (h : List.Forall₂ (fun x y => place x = place y ∧ ∀ s, step s x = step s y) xs ys) :
    inOrder place misplaced step expected s xs = inOrder place misplaced step expected s ys := by
  induction h generalizing expected s with
  | nil => rfl
  | @cons x y xs ys hsame _ ih =>
    rw [inOrder, inOrder, hsame.1, hsame.2 s]
    by_cases hplace : place y = expected
    · rw [if_pos hplace, if_pos hplace]
      exact bind_congr fun t => ih
    · rw [if_neg hplace, if_neg hplace]

theorem map_eq_map_of_forall₂ {β : Type} {R : α → σ → Prop} {f : α → β} {g : σ → β} {xs : List α}
    {ys : List σ} (h : List.Forall₂ R xs ys) (hsame : ∀ x y, R x y → f x = g y) :
    xs.map f = ys.map g := by
  induction h with
  | nil => rfl
  | cons hhead _ ih => rw [List.map_cons, List.map_cons, hsame _ _ hhead, ih]

theorem foldlM_congr {s : σ} {xs ys : List α}
    (h : List.Forall₂ (fun x y => ∀ s, step s x = step s y) xs ys) :
    xs.foldlM step s = ys.foldlM step s := by
  induction h generalizing s with
  | nil => rfl
  | cons hsame _ ih =>
    rw [List.foldlM_cons, List.foldlM_cons, hsame s]
    exact bind_congr fun t => ih

theorem filter_congr {p : α → Bool} {xs ys : List α}
    (h : List.Forall₂ (fun x y => x = y ∨ p x = false ∧ p y = false) xs ys) :
    xs.filter p = ys.filter p := by
  induction h with
  | nil => rfl
  | @cons x y xs ys hsame _ ih =>
    rcases hsame with rfl | ⟨hx, hy⟩
    · rw [List.filter_cons, List.filter_cons, ih]
    · simpa [hx, hy] using ih

end Fold
