import Mathlib.Data.List.Perm.Basic
import ResearchOs.Data.Fold

/-! Partial maps over a list that carry a state from one element to the next. -/
namespace Walk

variable {α β σ ε γ : Type} {f : α → σ → Except ε (β × σ)} {x : α} {xs : List α} {y : β}
  {ys : List β} {s t : σ}

def walk (f : α → σ → Except ε (β × σ)) : List α → σ → Except ε (List β × σ)
  | [], s => .ok ([], s)
  | x :: xs, s => do
    let (y, s) ← f x s
    let (ys, s) ← walk f xs s
    .ok (y :: ys, s)

theorem walk_cons_eq_ok : walk f (x :: xs) s = .ok (ys, t) ↔
    ∃ y u rest, f x s = .ok (y, u) ∧ walk f xs u = .ok (rest, t) ∧ ys = y :: rest := by
  constructor
  · intro h
    obtain ⟨⟨y, u⟩, hy, h⟩ := Fold.bind_eq_ok.mp h
    obtain ⟨⟨rest, v⟩, hrest, h⟩ := Fold.bind_eq_ok.mp h
    cases h
    exact ⟨y, u, rest, hy, hrest, rfl⟩
  · rintro ⟨y, u, rest, hy, hrest, rfl⟩
    exact Fold.bind_eq_ok.mpr ⟨(y, u), hy, Fold.bind_eq_ok.mpr ⟨(rest, t), hrest, rfl⟩⟩

/-- Every value comes from the element in its place. -/
theorem forall₂_of_walk (h : walk f xs s = .ok (ys, t)) :
    List.Forall₂ (fun x y => ∃ u v, f x u = .ok (y, v)) xs ys := by
  induction xs generalizing s ys with
  | nil =>
    cases h
    exact .nil
  | cons x xs ih =>
    obtain ⟨y, u, rest, hy, hrest, rfl⟩ := walk_cons_eq_ok.mp h
    exact .cons ⟨s, u, hy⟩ (ih hrest)

/-- A relation between the values and the states before and after them, one element at a time. -/
theorem walk_induction {P : List β → σ → σ → Prop} (hnil : ∀ s, P [] s s)
    (hcons : ∀ x ∈ xs, ∀ y ys s u t, f x s = .ok (y, u) → P ys u t → P (y :: ys) s t)
    (h : walk f xs s = .ok (ys, t)) : P ys s t := by
  induction xs generalizing s ys with
  | nil =>
    cases h
    exact hnil _
  | cons x xs ih =>
    obtain ⟨y, u, rest, hy, hrest, rfl⟩ := walk_cons_eq_ok.mp h
    refine hcons x List.mem_cons_self y rest s u t hy ?_
    exact ih (fun x' hx' => hcons x' (List.mem_cons_of_mem x hx')) hrest

/-- What the elements add to the state, one after the other. -/
theorem adds_of_walk {R : σ → List γ → σ → Prop} {adds : α → List γ → Prop}
    (hnil : ∀ s, R s [] s) (happend : ∀ {s u t a b}, R s a u → R u b t → R s (a ++ b) t)
    (hstep : ∀ x ∈ xs, ∀ u y v, f x u = .ok (y, v) → ∃ a, adds x a ∧ R u a v)
    (h : walk f xs s = .ok (ys, t)) :
    ∃ added : List (List γ), List.Forall₂ adds xs added ∧ R s added.flatten t := by
  induction xs generalizing s ys with
  | nil =>
    cases h
    exact ⟨[], .nil, hnil _⟩
  | cons x xs ih =>
    obtain ⟨y, u, rest, hy, hrest, -⟩ := walk_cons_eq_ok.mp h
    obtain ⟨a, ha, hadd⟩ := hstep x List.mem_cons_self s y u hy
    obtain ⟨added, hadded, hadds⟩ :=
      ih (fun x' hx' => hstep x' (List.mem_cons_of_mem x hx')) hrest
    exact ⟨a :: added, .cons ha hadded, happend hadd hadds⟩

theorem flatten_perm_of_forall₂ {needed : α → List γ} {added : List (List γ)}
    (h : List.Forall₂ (fun x a => a.Perm (needed x)) xs added) :
    added.flatten.Perm (xs.flatMap needed) := by
  induction h with
  | nil => exact .nil
  | cons hhead _ ih =>
    rw [List.flatten_cons, List.flatMap_cons]
    exact hhead.append ih

/-- A map that succeeds where another does, with the same value, walks the same way. -/
theorem walk_congr {g : α → σ → Except ε (β × σ)}
    (hstep : ∀ x ∈ xs, ∀ u y v, f x u = .ok (y, v) → g x u = .ok (y, v))
    (h : walk f xs s = .ok (ys, t)) : walk g xs s = .ok (ys, t) := by
  induction xs generalizing s ys with
  | nil => exact h
  | cons x xs ih =>
    obtain ⟨y, u, rest, hy, hrest, rfl⟩ := walk_cons_eq_ok.mp h
    refine walk_cons_eq_ok.mpr ⟨y, u, rest, hstep x List.mem_cons_self s y u hy, ?_, rfl⟩
    exact ih (fun x' hx' => hstep x' (List.mem_cons_of_mem x hx')) hrest

/-- An error is the error of an element. -/
theorem exists_of_walk_error {e : ε} (h : walk f xs s = .error e) :
    ∃ x ∈ xs, ∃ u, f x u = .error e := by
  induction xs generalizing s with
  | nil => cases h
  | cons x xs ih =>
    obtain hx | ⟨⟨y, u⟩, -, h⟩ := Fold.bind_eq_error.mp h
    · exact ⟨x, List.mem_cons_self, s, hx⟩
    · obtain hrest | ⟨⟨rest, v⟩, -, h⟩ := Fold.bind_eq_error.mp h
      · obtain ⟨x', hx', hfound⟩ := ih hrest
        exact ⟨x', List.mem_cons_of_mem x hx', hfound⟩
      · cases h

end Walk
