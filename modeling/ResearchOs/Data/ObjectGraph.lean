import Mathlib.Data.List.Forall2
import Mathlib.Logic.Relation
import Mathlib.Order.WellFounded
import ResearchOs.Data.Fold

/-! Graphs of containers: objects in a heap that refer to each other, and the trees that their
values unfold to. -/
namespace ObjectGraph

inductive Value (α : Type) where
  | atom (a : α)
  | ref (r : Nat)
  deriving DecidableEq, Repr

/-- A container, or an object of another kind. -/
inductive Object (α κ : Type) where
  | dict (entries : List (κ × Value α))
  | list (items : List (Value α))
  | other
  deriving DecidableEq, Repr

abbrev Heap (α κ : Type) := List (Object α κ)

inductive Tree (α κ : Type) where
  | atom (a : α)
  | dict (entries : List (κ × Tree α κ))
  | list (items : List (Tree α κ))

variable {α κ : Type}

def Object.values : Object α κ → List (Value α)
  | .dict entries => entries.map Prod.snd
  | .list items => items
  | .other => []

/-- One object refers to another. -/
def Holds (heap : Heap α κ) (r child : Nat) : Prop :=
  ∃ object, heap[r]? = some object ∧ .ref child ∈ object.values

/-- The objects behind a value. -/
def Reaches (heap : Heap α κ) (value : Value α) (r : Nat) : Prop :=
  ∃ start, value = .ref start ∧ Relation.ReflTransGen (Holds heap) start r

/-- The tree of a value, down to a depth. -/
def unfold (heap : Heap α κ) : Nat → Value α → Option (Tree α κ)
  | _, .atom a => some (.atom a)
  | 0, .ref _ => none
  | n + 1, .ref r =>
    match heap[r]? with
    | some (.dict entries) =>
      (entries.mapM fun entry => (unfold heap n entry.2).map (entry.1, ·)).map .dict
    | some (.list items) => (items.mapM (unfold heap n)).map .list
    | _ => none

variable {heap heap' : Heap α κ} {object object' : Object α κ} {value value' : Value α}
  {r child n m : Nat} {t : Tree α κ}

section

variable {β γ δ : Type} {f : β → Option γ} {g : δ → Option γ} {xs : List β} {ys : List δ}

theorem mapM_congr (h : List.Forall₂ (fun x y => f x = g y) xs ys) : xs.mapM f = ys.mapM g := by
  induction h with
  | nil => rfl
  | cons hhead _ ih => rw [List.mapM_cons, List.mapM_cons, hhead, ih]

theorem exists_mapM (h : ∀ x ∈ xs, ∃ y, f x = some y) : ∃ zs, xs.mapM f = some zs := by
  induction xs with
  | nil => exact ⟨[], rfl⟩
  | cons x xs ih =>
    obtain ⟨y, hy⟩ := h x List.mem_cons_self
    obtain ⟨zs, hzs⟩ := ih fun x hx => h x (List.mem_cons_of_mem _ hx)
    exact ⟨y :: zs, by rw [List.mapM_cons, hy, hzs]; rfl⟩

theorem of_mapM {zs : List γ} (h : xs.mapM f = some zs) : ∀ x ∈ xs, ∃ y, f x = some y := by
  induction xs generalizing zs with
  | nil => exact fun x hx => absurd hx List.not_mem_nil
  | cons x xs ih =>
    rw [List.mapM_cons] at h
    obtain ⟨y, hy, h⟩ := Option.bind_eq_some_iff.mp h
    obtain ⟨zs, hzs, -⟩ := Option.bind_eq_some_iff.mp h
    intro x' hx'
    rcases List.mem_cons.mp hx' with rfl | hx'
    · exact ⟨y, hy⟩
    · exact ih hzs x' hx'

end

/-! Two heaps whose objects correspond. -/

/-- The same atom, or corresponding references. -/
inductive Alike (R : Nat → Nat → Prop) : Value α → Value α → Prop where
  | atom (a : α) : Alike R (.atom a) (.atom a)
  | ref {r r' : Nat} (h : R r r') : Alike R (.ref r) (.ref r')

/-- Containers of one kind, with corresponding values in the same places. -/
inductive Corresponds (R : Nat → Nat → Prop) : Object α κ → Object α κ → Prop where
  | dict {entries entries' : List (κ × Value α)}
      (h : List.Forall₂ (fun e e' => e.1 = e'.1 ∧ Alike R e.2 e'.2) entries entries') :
      Corresponds R (.dict entries) (.dict entries')
  | list {items items' : List (Value α)} (h : List.Forall₂ (Alike R) items items') :
      Corresponds R (.list items) (.list items')

variable {R R' : Nat → Nat → Prop}

theorem Alike.mono (h : Alike R value value') (hR : ∀ r r', R r r' → R' r r') :
    Alike R' value value' := by
  cases h with
  | atom a => exact .atom a
  | ref h => exact .ref (hR _ _ h)

theorem Alike.ref_left {r : Nat} (h : Alike R (.ref r) value) : ∃ r', value = .ref r' ∧ R r r' := by
  cases h with
  | ref h => exact ⟨_, rfl, h⟩

theorem Alike.ref_right {r' : Nat} (h : Alike R value (.ref r')) :
    ∃ r, value = .ref r ∧ R r r' := by
  cases h with
  | ref h => exact ⟨_, rfl, h⟩

theorem Corresponds.values (h : Corresponds R object object') :
    List.Forall₂ (Alike R) object.values object'.values := by
  cases h with
  | dict h =>
    rw [Object.values, Object.values, List.forall₂_map_left_iff, List.forall₂_map_right_iff]
    exact h.imp fun _ _ hsame => hsame.2
  | list h => exact h

theorem Corresponds.mono (h : Corresponds R object object') (hR : ∀ r r', R r r' → R' r r') :
    Corresponds R' object object' := by
  cases h with
  | dict h => exact .dict (h.imp fun _ _ hsame => ⟨hsame.1, hsame.2.mono hR⟩)
  | list h => exact .list (h.imp fun _ _ hsame => hsame.mono hR)

/-- A reference in one object stands for one in the other. -/
theorem Corresponds.ref_left {r : Nat} (h : Corresponds R object object')
    (hchild : .ref r ∈ object.values) : ∃ r', R r r' := by
  obtain ⟨value, -, halike⟩ := Fold.exists_of_mem_right h.values.flip hchild
  obtain ⟨r', -, hr⟩ := halike.ref_left
  exact ⟨r', hr⟩

theorem Corresponds.ref_right {r' : Nat} (h : Corresponds R object object')
    (hchild : .ref r' ∈ object'.values) : ∃ r, R r r' := by
  obtain ⟨value, -, halike⟩ := Fold.exists_of_mem_right h.values hchild
  obtain ⟨r, -, hr⟩ := halike.ref_right
  exact ⟨r, hr⟩

/-- Corresponding values unfold to the same trees. -/
theorem unfold_eq (h : ∀ r r', R r r' → ∃ object object', heap[r]? = some object ∧
      heap'[r']? = some object' ∧ Corresponds R object object')
    (hvalue : Alike R value value') : unfold heap n value = unfold heap' n value' := by
  induction n generalizing value value' with
  | zero =>
    cases hvalue with
    | atom a => rfl
    | ref hr => rfl
  | succ n ih =>
    cases hvalue with
    | atom a => rfl
    | ref hr =>
      obtain ⟨object, object', hobject, hobject', hsame⟩ := h _ _ hr
      rw [unfold, unfold, hobject, hobject']
      cases hsame with
      | dict hentries =>
        refine congrArg (Option.map Tree.dict) (mapM_congr (hentries.imp ?_))
        rintro e e' ⟨hkey, halike⟩
        rw [hkey, ih halike]
      | list hitems => exact congrArg (Option.map Tree.list) (mapM_congr (hitems.imp fun _ _ => ih))

/-! Containers that do not reach themselves. -/

theorem exists_unfold_succ (h : ∃ t, unfold heap n value = some t) :
    ∃ t, unfold heap (n + 1) value = some t := by
  induction n generalizing value with
  | zero =>
    cases value with
    | atom a => exact ⟨_, rfl⟩
    | ref r =>
      obtain ⟨t, ht⟩ := h
      cases ht
  | succ n ih =>
    cases value with
    | atom a => exact ⟨_, rfl⟩
    | ref r =>
      obtain ⟨t, ht⟩ := h
      rw [unfold] at ht
      rw [unfold]
      split at ht
      · rename_i entries hentries
        obtain ⟨ts, hts, -⟩ := Option.map_eq_some_iff.mp ht
        have hentry : ∀ e ∈ entries, ∃ p, (unfold heap (n + 1) e.2).map (e.1, ·) = some p := by
          intro e he
          obtain ⟨p, hp⟩ := of_mapM hts e he
          obtain ⟨t, ht, -⟩ := Option.map_eq_some_iff.mp hp
          obtain ⟨t', ht'⟩ := ih ⟨t, ht⟩
          exact ⟨(e.1, t'), Option.map_eq_some_iff.mpr ⟨t', ht', rfl⟩⟩
        obtain ⟨zs, hzs⟩ := exists_mapM hentry
        exact ⟨_, Option.map_eq_some_iff.mpr ⟨zs, hzs, rfl⟩⟩
      · rename_i items hitems
        obtain ⟨ts, hts, -⟩ := Option.map_eq_some_iff.mp ht
        obtain ⟨zs, hzs⟩ := exists_mapM fun item hitem => ih (of_mapM hts item hitem)
        exact ⟨_, Option.map_eq_some_iff.mpr ⟨zs, hzs, rfl⟩⟩
      · cases ht

theorem exists_unfold_le (h : ∃ t, unfold heap n value = some t) (hnm : n ≤ m) :
    ∃ t, unfold heap m value = some t := by
  induction m, hnm using Nat.le_induction with
  | base => exact h
  | succ m _ ih => exact exists_unfold_succ ih

/-- One depth for all values. -/
theorem exists_depth {values : List (Value α)}
    (h : ∀ value ∈ values, ∃ n t, unfold heap n value = some t) :
    ∃ n, ∀ value ∈ values, ∃ t, unfold heap n value = some t := by
  induction values with
  | nil => exact ⟨0, fun value hvalue => absurd hvalue List.not_mem_nil⟩
  | cons value values ih =>
    obtain ⟨n, hhead⟩ := h value List.mem_cons_self
    obtain ⟨m, hrest⟩ := ih fun value hvalue => h value (List.mem_cons_of_mem _ hvalue)
    refine ⟨max n m, fun value' hvalue' => ?_⟩
    rcases List.mem_cons.mp hvalue' with rfl | hvalue'
    · exact exists_unfold_le hhead (le_max_left n m)
    · exact exists_unfold_le (hrest value' hvalue') (le_max_right n m)

/-- Every way down from the object ends. -/
def Grounded (heap : Heap α κ) (r : Nat) : Prop := Acc (fun child r => Holds heap r child) r

theorem Grounded.reached (h : Grounded heap r) {q : Nat}
    (hreach : Relation.ReflTransGen (Holds heap) r q) : Grounded heap q := by
  induction hreach with
  | refl => exact h
  | tail _ hholds ih => exact ih.inv hholds

theorem Grounded.not_reaches_self (h : Grounded heap r) : ¬ Relation.TransGen (Holds heap) r r := by
  intro hcycle
  have hacc := Acc.transGen h
  have hback : Relation.TransGen (fun child r => Holds heap r child) r r :=
    Relation.transGen_swap.mpr hcycle
  induction hacc with
  | intro r _ ih => exact ih r hback h hcycle hback

/-- A grounded object unfolds, if only containers are behind it. -/
theorem Grounded.unfolds (h : Grounded heap r)
    (hplain : ∀ q, Relation.ReflTransGen (Holds heap) r q →
      ∃ object, heap[q]? = some object ∧ object ≠ .other) :
    ∃ n t, unfold heap n (.ref r) = some t := by
  induction h with
  | intro r _ ih =>
    obtain ⟨object, hobject, hkind⟩ := hplain r .refl
    have hvalues : ∀ value ∈ object.values, ∃ n t, unfold heap n value = some t := by
      intro value hvalue
      cases value with
      | atom a => exact ⟨0, _, rfl⟩
      | ref child =>
        have hholds : Holds heap r child := ⟨object, hobject, hvalue⟩
        exact ih child hholds fun q hq => hplain q (.head hholds hq)
    obtain ⟨n, hn⟩ := exists_depth hvalues
    refine ⟨n + 1, ?_⟩
    rw [unfold, hobject]
    cases object with
    | dict entries =>
      have hentry : ∀ e ∈ entries, ∃ p, (unfold heap n e.2).map (e.1, ·) = some p := by
        intro e he
        obtain ⟨t, ht⟩ := hn e.2 (List.mem_map_of_mem he)
        exact ⟨(e.1, t), Option.map_eq_some_iff.mpr ⟨t, ht, rfl⟩⟩
      obtain ⟨zs, hzs⟩ := exists_mapM hentry
      exact ⟨_, Option.map_eq_some_iff.mpr ⟨zs, hzs, rfl⟩⟩
    | list items =>
      obtain ⟨zs, hzs⟩ := exists_mapM hn
      exact ⟨_, Option.map_eq_some_iff.mpr ⟨zs, hzs, rfl⟩⟩
    | other => exact absurd rfl hkind

end ObjectGraph
