import Mathlib.Data.List.Sort
import Mathlib.Data.List.Lex
import Mathlib.Data.List.Nodup
import Mathlib.Data.List.Dedup

/-! Lists in the order of a key. -/
namespace SortBy

variable {α κ : Type} [LinearOrder κ] {key : α → κ} {xs ys : List α}

/-- Elements of one key stay as they stand. -/
def sortBy (key : α → κ) (xs : List α) : List α := xs.insertionSort fun a b => key a ≤ key b

theorem sortBy_perm (key : α → κ) (xs : List α) : (sortBy key xs).Perm xs :=
  List.perm_insertionSort _ xs

theorem mem_sortBy {a : α} : a ∈ sortBy key xs ↔ a ∈ xs := (sortBy_perm key xs).mem_iff

theorem sortBy_pairwise (key : α → κ) (xs : List α) :
    (sortBy key xs).Pairwise fun a b => key a ≤ key b := by
  have : Std.Total fun a b => key a ≤ key b := ⟨fun a b => le_total (key a) (key b)⟩
  have : IsTrans α fun a b => key a ≤ key b := ⟨fun _ _ _ => le_trans⟩
  exact List.pairwise_insertionSort _ xs

/-- Where the key tells the elements apart, the order of a list does not matter. -/
theorem eq_of_perm_of_pairwise (hinj : ∀ a ∈ xs, ∀ b ∈ ys, key a = key b → a = b)
    (hxs : xs.Pairwise fun a b => key a ≤ key b) (hys : ys.Pairwise fun a b => key a ≤ key b)
    (h : xs.Perm ys) : xs = ys :=
  h.eq_of_pairwise (fun a b ha hb hab hba => hinj a ha b hb (le_antisymm hab hba)) hxs hys

theorem sortBy_eq_of_perm (hinj : ∀ a ∈ xs, ∀ b ∈ xs, key a = key b → a = b) (h : xs.Perm ys) :
    sortBy key xs = sortBy key ys := by
  refine eq_of_perm_of_pairwise ?_ (sortBy_pairwise key xs) (sortBy_pairwise key ys)
    ((sortBy_perm key xs).trans (h.trans (sortBy_perm key ys).symm))
  intro a ha b hb
  exact hinj a (mem_sortBy.mp ha) b (h.mem_iff.mpr (mem_sortBy.mp hb))

theorem sortBy_eq_self (h : xs.Pairwise fun a b => key a < key b) : sortBy key xs = xs :=
  (sortBy_perm key xs).eq_of_pairwise (fun _ _ ha hb hab hba => by
    have hle := le_antisymm hab hba
    exact List.inj_on_of_nodup_map (f := key) (List.pairwise_map.mpr (h.imp ne_of_lt))
      (mem_sortBy.mp ha) hb hle) (sortBy_pairwise key xs) (h.imp le_of_lt)

/-! Finding an element by its key. -/

variable {ν : Type} [DecidableEq ν] {name : α → ν} {a : α}

/-- The element of a name. -/
def findBy (name : α → ν) (xs : List α) (n : ν) : Option α := xs.find? fun a => name a = n

theorem findBy_mem {n : ν} (h : findBy name xs n = some a) : a ∈ xs ∧ name a = n :=
  ⟨List.mem_of_find?_eq_some h, by simpa using List.find?_some h⟩

theorem findBy_isSome {n : ν} : (findBy name xs n).isSome = true ↔ n ∈ xs.map name := by
  simp [findBy, List.mem_map]

/-- A name finds one element. -/
theorem findBy_eq_some_iff (hnodup : (xs.map name).Nodup) {n : ν} :
    findBy name xs n = some a ↔ a ∈ xs ∧ name a = n := by
  refine ⟨findBy_mem, fun ⟨ha, hname⟩ => ?_⟩
  have hsome : (findBy name xs n).isSome = true :=
    findBy_isSome.mpr (hname ▸ List.mem_map_of_mem ha)
  obtain ⟨b, hb⟩ := Option.isSome_iff_exists.mp hsome
  obtain ⟨hmem, hsame⟩ := findBy_mem hb
  rw [hb, List.inj_on_of_nodup_map hnodup hmem ha (hsame.trans hname.symm)]

/-- Where names are unique, the order of a list does not matter. -/
theorem findBy_perm (hnodup : (xs.map name).Nodup) (h : xs.Perm ys) (n : ν) :
    findBy name xs n = findBy name ys n := by
  have hnodup' := (h.map name).nodup_iff.mp hnodup
  refine Option.ext fun a => ?_
  rw [findBy_eq_some_iff hnodup, findBy_eq_some_iff hnodup', h.mem_iff]

end SortBy

/-! `GROUP BY` a key, with the least or the greatest value of each group. -/
namespace Groups

variable {α κ : Type} [DecidableEq κ] {key : α → κ} {value : α → Nat}
  {aggregate : List Nat → Option Nat} {xs : List α} {k : κ} {n : Nat}

/-- Each key with the aggregate of its values. -/
def groups (key : α → κ) (value : α → Nat) (aggregate : List Nat → Option Nat) (xs : List α) :
    List (κ × Nat) :=
  (xs.map key).dedup.filterMap fun k =>
    (aggregate ((xs.filter fun x => key x = k).map value)).map fun n => (k, n)

theorem mem_groups (hempty : aggregate [] = none) : (k, n) ∈ groups key value aggregate xs ↔
    aggregate ((xs.filter fun x => key x = k).map value) = some n := by
  simp only [groups, List.mem_filterMap, List.mem_dedup, Option.map_eq_some_iff, Prod.mk.injEq]
  constructor
  · rintro ⟨_, -, _, hvalue, rfl, rfl⟩
    exact hvalue
  · intro hvalue
    refine ⟨k, ?_, n, hvalue, rfl, rfl⟩
    by_contra hkey
    have hnone : (xs.filter fun x => key x = k) = [] := by
      refine List.filter_eq_nil_iff.mpr fun x hx hsame => hkey ?_
      exact List.mem_map.mpr ⟨x, hx, of_decide_eq_true hsame⟩
    rw [hnone, List.map_nil, hempty] at hvalue
    cases hvalue

theorem groups_map {β : Type} (f : β → α) (xs : List β) :
    groups key value aggregate (xs.map f) =
      groups (fun a => key (f a)) (fun a => value (f a)) aggregate xs := by
  simp only [groups, List.map_map, List.filter_map, Function.comp_def]

theorem mem_values : n ∈ (xs.filter fun x => key x = k).map value ↔
    ∃ x ∈ xs, key x = k ∧ value x = n := by
  simp [and_assoc]

theorem mem_groups_min : (k, n) ∈ groups key value List.min? xs ↔
    (∃ x ∈ xs, key x = k ∧ value x = n) ∧ ∀ x ∈ xs, key x = k → n ≤ value x := by
  rw [mem_groups rfl, List.min?_eq_some_iff, mem_values]
  refine and_congr_right fun _ => ⟨fun h x hx hkey => ?_, fun h m hm => ?_⟩
  · exact h _ (mem_values.mpr ⟨x, hx, hkey, rfl⟩)
  · obtain ⟨x, hx, hkey, rfl⟩ := mem_values.mp hm
    exact h x hx hkey

theorem mem_groups_max : (k, n) ∈ groups key value List.max? xs ↔
    (∃ x ∈ xs, key x = k ∧ value x = n) ∧ ∀ x ∈ xs, key x = k → value x ≤ n := by
  rw [mem_groups rfl, List.max?_eq_some_iff, mem_values]
  refine and_congr_right fun _ => ⟨fun h x hx hkey => ?_, fun h m hm => ?_⟩
  · exact h _ (mem_values.mpr ⟨x, hx, hkey, rfl⟩)
  · obtain ⟨x, hx, hkey, rfl⟩ := mem_values.mp hm
    exact h x hx hkey

theorem nodup_keys : ((groups key value aggregate xs).map Prod.fst).Nodup := by
  have hsublist : ∀ ks : List κ, (ks.filterMap fun k =>
      (aggregate ((xs.filter fun x => key x = k).map value)).map fun n => (k, n)).map Prod.fst
        |>.Sublist ks := by
    intro ks
    induction ks with
    | nil => exact .slnil
    | cons k ks ih =>
      cases hvalue : aggregate ((xs.filter fun x => key x = k).map value) with
      | none =>
        rw [List.filterMap_cons_none (by rw [hvalue]; rfl)]
        exact ih.cons k
      | some n =>
        rw [List.filterMap_cons_some (by rw [hvalue]; rfl), List.map_cons]
        exact ih.cons_cons k
  exact (hsublist _).nodup (List.nodup_dedup _)

theorem length_groups_le : (groups key value aggregate xs).length ≤ xs.length := by
  refine (List.length_filterMap_le _ _).trans ?_
  refine (List.dedup_sublist _).length_le.trans ?_
  rw [List.length_map]

/-- Where no two elements share a value, neither do two groups of least or of greatest values. -/
theorem nodup_values (hinj : (xs.map value).Nodup)
    (hmem : ∀ k n, (k, n) ∈ groups key value aggregate xs → ∃ x ∈ xs, key x = k ∧ value x = n) :
    ((groups key value aggregate xs).map Prod.snd).Nodup := by
  have hgroups : (groups key value aggregate xs).Nodup := List.Nodup.of_map _ nodup_keys
  refine List.Nodup.map_on ?_ hgroups
  rintro ⟨k, n⟩ h ⟨l, m⟩ h' (rfl : n = m)
  obtain ⟨x, hx, rfl, hn⟩ := hmem k n h
  obtain ⟨y, hy, rfl, hm⟩ := hmem l n h'
  rw [List.inj_on_of_nodup_map hinj hx hy (hn.trans hm.symm)]

omit [DecidableEq κ] in
theorem sorted_values {entries : List (κ × Nat)} (h : (entries.map Prod.snd).Nodup) :
    (SortBy.sortBy Prod.snd entries).Pairwise fun a b => a.2 < b.2 := by
  have hnodup : ((SortBy.sortBy Prod.snd entries).map Prod.snd).Nodup :=
    ((SortBy.sortBy_perm Prod.snd entries).map Prod.snd).nodup_iff.mpr h
  refine ((SortBy.sortBy_pairwise Prod.snd entries).and (List.pairwise_map.mp hnodup)).imp ?_
  exact fun ⟨hle, hne⟩ => lt_of_le_of_ne hle hne

omit [DecidableEq κ] in
/-- Selecting before or after the order makes no difference. -/
theorem sortBy_filter {entries : List (κ × Nat)} (h : (entries.map Prod.snd).Nodup)
    (p : κ × Nat → Bool) :
    SortBy.sortBy Prod.snd (entries.filter p) = (SortBy.sortBy Prod.snd entries).filter p := by
  refine SortBy.eq_of_perm_of_pairwise ?_ (SortBy.sortBy_pairwise Prod.snd _)
    (List.Pairwise.filter p (SortBy.sortBy_pairwise Prod.snd entries))
    ((SortBy.sortBy_perm Prod.snd _).trans ((SortBy.sortBy_perm Prod.snd entries).filter p).symm)
  intro a ha b hb hsame
  exact List.inj_on_of_nodup_map h (List.mem_of_mem_filter (SortBy.mem_sortBy.mp ha))
    (SortBy.mem_sortBy.mp (List.mem_of_mem_filter hb)) hsame

end Groups
