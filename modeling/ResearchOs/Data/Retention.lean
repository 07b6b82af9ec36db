import Mathlib.Data.List.Basic
import Mathlib.Data.List.MinMax

/-! Numbered lists of which the latest items are kept. -/
namespace Retention

variable {α : Type} {key : α → Nat} {xs : List α} {start m n : Nat}

/-- The items are numbered from 1 on. -/
def Numbered (key : α → Nat) (xs : List α) : Prop := xs.map key = List.range' 1 xs.length

/-- The last `n` items. -/
def latest (n : Nat) (xs : List α) : List α := xs.drop (xs.length - n)

theorem filter_of_map_range' (h : xs.map key = List.range' start xs.length) (m : Nat) :
    xs.filter (fun a => m < key a) = xs.drop (m + 1 - start) := by
  induction xs generalizing start with
  | nil => rw [List.drop_nil, List.filter_nil]
  | cons a xs ih =>
    rw [List.map_cons, List.length_cons, List.range'_succ, List.cons.injEq] at h
    obtain ⟨hkey, hrest⟩ := h
    by_cases hlt : m < key a
    · have hstart : m + 1 - start = 0 := by omega
      have hnext : m + 1 - (start + 1) = 0 := by omega
      rw [List.filter_cons_of_pos (by simpa using hlt), ih hrest, hstart, hnext, List.drop_zero,
        List.drop_zero]
    · have hstart : m + 1 - start = (m + 1 - (start + 1)) + 1 := by omega
      rw [List.filter_cons_of_neg (by simpa using hlt), ih hrest, hstart, List.drop_succ_cons]

theorem Numbered.filter (h : Numbered key xs) (m : Nat) :
    xs.filter (fun a => m < key a) = xs.drop m := filter_of_map_range' h m

theorem numbered_concat {a : α} : Numbered key (xs ++ [a]) ↔
    Numbered key xs ∧ key a = xs.length + 1 := by
  unfold Numbered
  rw [List.map_append, List.length_append, List.length_singleton, List.range'_1_concat,
    List.map_singleton, Nat.add_comm 1]
  constructor
  · intro h
    obtain ⟨hxs, ha⟩ := List.append_inj h (by rw [List.length_map, List.length_range'])
    exact ⟨hxs, List.singleton_inj.mp ha⟩
  · rintro ⟨hxs, ha⟩
    rw [hxs, ha]

/-- One more item, and none but the latest of all. -/
theorem Numbered.latest_concat {a : α} (h : Numbered key (xs ++ [a])) (hn : 0 < n) :
    (latest n xs ++ [a]).filter (fun b => key a < key b + n) = latest n (xs ++ [a]) := by
  obtain ⟨hxs, ha⟩ := numbered_concat.mp h
  have hlast : (xs ++ [a]).length = key a := by
    rw [List.length_append, List.length_singleton, ha]
  have hkept : latest n xs ++ [a] = (xs ++ [a]).filter fun b => xs.length - n < key b := by
    rw [h.filter, latest, List.drop_append_of_le_length (by omega)]
  have hcut : latest n (xs ++ [a]) = (xs ++ [a]).filter fun b => key a - n < key b := by
    rw [h.filter, latest, hlast]
  rw [hkept, hcut, List.filter_filter]
  refine List.filter_congr fun b hb => ?_
  have hpositive : 0 < key b := by
    have hmem : key b ∈ (xs ++ [a]).map key := List.mem_map_of_mem hb
    rw [h, List.mem_range'_1] at hmem
    exact hmem.1
  by_cases hkeep : key a < key b + n
  · have hlow : xs.length - n < key b := by omega
    have hhigh : key a - n < key b := by omega
    simp [hkeep, hlow, hhigh]
  · have hhigh : ¬ key a - n < key b := by omega
    simp [hkeep, hhigh]

theorem mem_latest {a : α} (h : a ∈ latest n xs) : a ∈ xs := List.mem_of_mem_drop h

theorem Numbered.mem_latest_iff {a : α} (h : Numbered key xs) :
    a ∈ latest n xs ↔ a ∈ xs ∧ xs.length < key a + n := by
  have hpositive : ∀ b ∈ xs, 0 < key b := by
    intro b hb
    have hmem : key b ∈ xs.map key := List.mem_map_of_mem hb
    rw [h, List.mem_range'_1] at hmem
    exact hmem.1
  rw [latest, ← h.filter, List.mem_filter, decide_eq_true_iff]
  constructor
  · rintro ⟨hmem, hlt⟩
    exact ⟨hmem, by omega⟩
  · rintro ⟨hmem, hlt⟩
    have := hpositive a hmem
    exact ⟨hmem, by omega⟩

theorem Numbered.le_length {a : α} (h : Numbered key xs) (ha : a ∈ xs) : key a ≤ xs.length := by
  have hmem : key a ∈ xs.map key := List.mem_map_of_mem ha
  rw [h, List.mem_range'_1] at hmem
  omega

/-- The item of the highest number is the last one. -/
theorem Numbered.argmax_latest (h : Numbered key xs) (hn : 0 < n) :
    (latest n xs).argmax key = xs.getLast? := by
  induction xs using List.reverseRecOn with
  | nil => simp [latest]
  | append_singleton xs a _ =>
    obtain ⟨hxs, ha⟩ := numbered_concat.mp h
    have hkept : latest n (xs ++ [a]) = xs.drop (xs.length + 1 - n) ++ [a] := by
      rw [latest, List.length_append, List.length_singleton,
        List.drop_append_of_le_length (by omega)]
    rw [hkept, List.argmax_concat, List.getLast?_concat]
    cases hbest : (xs.drop (xs.length + 1 - n)).argmax key with
    | none => rfl
    | some best =>
      have hmem : best ∈ xs := List.mem_of_mem_drop (List.argmax_mem hbest)
      have hlt : key best < key a := by
        have := hxs.le_length hmem
        omega
      simp [hlt]

end Retention
