import Mathlib.Data.List.Basic
import Mathlib.Order.Basic

/-! Lists in strictly ascending order of a key, read from a position on. -/
namespace Ascending

variable {α : Type} {key : α → Nat} {xs ys : List α}

/-- The keys ascend strictly. -/
def Keyed (key : α → Nat) (xs : List α) : Prop := xs.Pairwise fun a b => key a < key b

theorem Keyed.filter (h : Keyed key xs) (p : α → Bool) : Keyed key (xs.filter p) :=
  List.Pairwise.filter p h

theorem Keyed.nodup (h : Keyed key xs) : xs.Nodup :=
  h.imp fun hlt hsame => Nat.ne_of_lt hlt (congrArg key hsame)

/-- Lists with the same items are the same. -/
theorem Keyed.eq_of_mem_iff (hxs : Keyed key xs) (hys : Keyed key ys) (h : ∀ a, a ∈ xs ↔ a ∈ ys) :
    xs = ys := by
  have hperm := (List.perm_ext_iff_of_nodup hxs.nodup hys.nodup).mpr h
  refine hperm.eq_of_pairwise (fun a b _ _ hab hba => ?_) hxs hys
  exact absurd hba (Nat.not_lt_of_gt hab)

/-- The first item of a kind has the least key. -/
theorem Keyed.exists_least {p : α → Prop} (h : Keyed key xs) (hsome : ∃ a ∈ xs, p a) :
    ∃ a ∈ xs, p a ∧ ∀ b ∈ xs, p b → key a ≤ key b := by
  induction xs with
  | nil =>
    obtain ⟨a, ha, -⟩ := hsome
    exact absurd ha List.not_mem_nil
  | cons x xs ih =>
    obtain ⟨hfirst, hrest⟩ := List.pairwise_cons.mp h
    by_cases hx : p x
    · refine ⟨x, List.mem_cons_self, hx, List.forall_mem_cons.mpr ⟨fun _ => Nat.le_refl _, ?_⟩⟩
      exact fun b hb _ => Nat.le_of_lt (hfirst b hb)
    · obtain ⟨b, hb, hpb⟩ := hsome
      have hmem : b ∈ xs := (List.mem_cons.mp hb).resolve_left fun hsame => hx (hsame ▸ hpb)
      obtain ⟨a, ha, hpa, hleast⟩ := ih hrest ⟨b, hmem, hpb⟩
      exact ⟨a, List.mem_cons_of_mem _ ha, hpa,
        List.forall_mem_cons.mpr ⟨fun hpx => absurd hpx hx, hleast⟩⟩

/-- What stands before an item of the first run of a kind is of the kind. -/
theorem Keyed.of_takeWhile {p : α → Bool} (h : Keyed key xs) {a b : α} (ha : a ∈ xs)
    (hb : b ∈ xs.takeWhile p) (hlt : key a < key b) : p a = true := by
  induction xs with
  | nil => exact absurd ha List.not_mem_nil
  | cons x xs ih =>
    obtain ⟨hfirst, hrest⟩ := List.pairwise_cons.mp h
    by_cases hx : p x = true
    · rw [List.takeWhile_cons_of_pos hx] at hb
      obtain rfl | hmem := List.mem_cons.mp ha
      · exact hx
      · obtain rfl | hb := List.mem_cons.mp hb
        · exact absurd hlt (Nat.not_lt_of_gt (hfirst a hmem))
        · exact ih hrest hmem hb
    · rw [List.takeWhile_cons_of_neg hx] at hb
      exact absurd hb List.not_mem_nil

theorem keyed_append : Keyed key (xs ++ ys) ↔
    Keyed key xs ∧ Keyed key ys ∧ ∀ a ∈ xs, ∀ b ∈ ys, key a < key b :=
  List.pairwise_append

/-- What stands above the last of the first items is the list without them. -/
theorem filter_lt_append (h : Keyed key (xs ++ ys)) {last : α} (hlast : xs.getLast? = some last) :
    (xs ++ ys).filter (fun a => key last < key a) = ys := by
  obtain ⟨hxs, -, hcross⟩ := keyed_append.mp h
  obtain ⟨front, rfl⟩ := List.getLast?_eq_some_iff.mp hlast
  have hfront := (keyed_append.mp hxs).2.2
  have hbelow : (front ++ [last]).filter (fun a => key last < key a) = [] := by
    refine List.filter_eq_nil_iff.mpr fun a ha hlt => ?_
    have hless : key last < key a := of_decide_eq_true hlt
    obtain ha | ha := List.mem_append.mp ha
    · have := hfront a ha last List.mem_cons_self
      omega
    · rw [List.mem_singleton.mp ha] at hless
      omega
  have habove : ys.filter (fun a => key last < key a) = ys := by
    refine List.filter_eq_self.mpr fun b hb => decide_eq_true ?_
    exact hcross last (List.mem_append_right _ List.mem_cons_self) b hb
  rw [List.filter_append, hbelow, habove, List.nil_append]

/-- The items above a key are cut at a higher key by taking those above it. -/
theorem filter_lt_of_le {low high : Nat} (h : low ≤ high) (xs : List α) :
    (xs.filter fun a => low < key a).filter (fun a => high < key a) =
      xs.filter fun a => high < key a := by
  rw [List.filter_filter]
  refine List.filter_congr fun a _ => ?_
  by_cases hhigh : high < key a
  · have hlow : low < key a := by omega
    simp [hhigh, hlow]
  · simp [hhigh]

/-- A page from a position on, and the items after the page. -/
theorem filter_after_page (h : Keyed key xs) {low size : Nat} {last : α}
    (hlast : ((xs.filter fun a => low < key a).take size).getLast? = some last) :
    xs.filter (fun a => key last < key a) = (xs.filter fun a => low < key a).drop size := by
  have hfilter := h.filter fun a => low < key a
  have hmem : last ∈ xs.filter fun a => low < key a :=
    List.mem_of_mem_take (List.mem_of_getLast? hlast)
  have hlow : low ≤ key last := by
    have := of_decide_eq_true (List.mem_filter.mp hmem).2
    omega
  rw [← filter_lt_of_le hlow]
  conv_lhs => rw [← List.take_append_drop size (xs.filter fun a => low < key a)]
  refine filter_lt_append ?_ hlast
  rw [List.take_append_drop]
  exact hfilter

end Ascending
