import Mathlib.Data.List.Basic

/-! Texts that a separator keeps apart. -/
namespace Separated

variable {α : Type} {sep : α} {a b : List α} {xs ys : List (List α)}

/-- A first text, and more texts that each stand behind a separator. -/
def join (sep : α) (first : List α) (texts : List (List α)) : List α :=
  first ++ texts.flatMap fun text => sep :: text

theorem first_eq (ha : sep ∉ a) (hb : sep ∉ b) (h : join sep a xs = join sep b ys) : a = b := by
  induction a generalizing b with
  | nil =>
    cases b with
    | nil => rfl
    | cons y b =>
      cases xs with
      | nil => cases h
      | cons x xs =>
        obtain ⟨hsep, -⟩ := List.cons.inj h
        exact absurd (hsep ▸ List.mem_cons_self) hb
  | cons x a ih =>
    cases b with
    | nil =>
      cases ys with
      | nil => cases h
      | cons y ys =>
        obtain ⟨hsep, -⟩ := List.cons.inj h
        exact absurd (hsep ▸ List.mem_cons_self) ha
    | cons y b =>
      obtain ⟨rfl, htail⟩ := List.cons.inj h
      rw [ih (fun hmem => ha (List.mem_cons_of_mem _ hmem))
        (fun hmem => hb (List.mem_cons_of_mem _ hmem)) htail]

/-- Texts without the separator are read back from their join. -/
theorem join_injective (ha : sep ∉ a) (hb : sep ∉ b) (hxs : ∀ x ∈ xs, sep ∉ x)
    (hys : ∀ y ∈ ys, sep ∉ y) (h : join sep a xs = join sep b ys) : a = b ∧ xs = ys := by
  obtain rfl := first_eq ha hb h
  refine ⟨rfl, ?_⟩
  have htexts := List.append_cancel_left h
  clear h
  induction xs generalizing ys with
  | nil =>
    cases ys with
    | nil => rfl
    | cons y ys => cases htexts
  | cons x xs ih =>
    cases ys with
    | nil => cases htexts
    | cons y ys =>
      obtain ⟨hx, hxrest⟩ := List.forall_mem_cons.mp hxs
      obtain ⟨hy, hyrest⟩ := List.forall_mem_cons.mp hys
      have hjoin : join sep x xs = join sep y ys := (List.cons.inj htexts).2
      obtain rfl := first_eq hx hy hjoin
      have hrest : (xs.flatMap fun text => sep :: text) = ys.flatMap fun text => sep :: text :=
        List.append_cancel_left hjoin
      rw [ih hxrest hyrest hrest]

end Separated
