import Mathlib.Data.List.Basic
import Mathlib.Order.Basic
import Mathlib.Data.String.Basic

/-! JSON values. An object is a map: its members are kept in key order, so that two
objects with the same members are the same value. -/

/-- A binary64 number is its 64 bits. -/
abbrev Binary64 := BitVec 64

def Binary64.isFinite (x : Binary64) : Bool := x.toNat / 2 ^ 52 % 2 ^ 11 != 2047

inductive Json where
  | null
  | bool (b : Bool)
  | int (n : Int)
  | float (x : Binary64)
  | str (s : String)
  | arr (items : List Json)
  | obj (members : List (String × Json))

namespace Json

abbrev Members := List (String × Json)

/-- Set one member, keeping the key order. A member with that key is replaced. -/
def insert (key : String) (value : Json) : Members → Members
  | [] => [(key, value)]
  | (k, v) :: rest =>
    if key < k then (key, value) :: (k, v) :: rest
    else if key = k then (key, value) :: rest
    else (k, v) :: insert key value rest

/-- The map a list of members denotes; a later member wins. -/
def ofPairs (pairs : Members) : Members :=
  pairs.foldl (fun ms p => insert p.1 p.2 ms) []

def Sorted (ms : Members) : Prop := (ms.map Prod.fst).Pairwise (· < ·)

instance (ms : Members) : Decidable (Sorted ms) := inferInstanceAs (Decidable (List.Pairwise _ _))

mutual

/-- Every object inside the value is in key order. -/
def canonical : Json → Bool
  | .arr items => canonicalItems items
  | .obj ms => decide (Sorted ms) && canonicalMembers ms
  | _ => true

def canonicalItems : List Json → Bool
  | [] => true
  | v :: vs => canonical v && canonicalItems vs

def canonicalMembers : Members → Bool
  | [] => true
  | (_, v) :: ms => canonical v && canonicalMembers ms

end

theorem sorted_nil : Sorted [] := List.Pairwise.nil

theorem sorted_cons {p : String × Json} {ms : Members} :
    Sorted (p :: ms) ↔ (∀ q ∈ ms, p.1 < q.1) ∧ Sorted ms := by
  simp [Sorted, List.pairwise_cons]

theorem mem_insert {key : String} {value : Json} {ms : Members} {q : String × Json}
    (h : q ∈ insert key value ms) : q = (key, value) ∨ q ∈ ms := by
  induction ms with
  | nil => simpa [insert] using h
  | cons p ms ih =>
    obtain ⟨k, v⟩ := p
    simp only [insert] at h
    split at h
    · simpa using h
    · split at h
      · rcases List.mem_cons.mp h with h | h
        · exact Or.inl h
        · exact Or.inr (List.mem_cons_of_mem _ h)
      · rcases List.mem_cons.mp h with h | h
        · exact Or.inr (by simp [h])
        · rcases ih h with h | h
          · exact Or.inl h
          · exact Or.inr (List.mem_cons_of_mem _ h)

theorem sorted_insert {key : String} {value : Json} {ms : Members} (h : Sorted ms) :
    Sorted (insert key value ms) := by
  induction ms with
  | nil => simp [insert, Sorted]
  | cons p ms ih =>
    obtain ⟨k, v⟩ := p
    obtain ⟨hk, hms⟩ := sorted_cons.mp h
    simp only [insert]
    split
    · rename_i hlt
      refine sorted_cons.mpr ⟨?_, h⟩
      intro q hq
      rcases List.mem_cons.mp hq with rfl | hq
      · exact hlt
      · exact hlt.trans (hk q hq)
    · rename_i hnlt
      split
      · rename_i heq
        subst heq
        exact sorted_cons.mpr ⟨hk, hms⟩
      · rename_i hne
        refine sorted_cons.mpr ⟨?_, ih hms⟩
        intro q hq
        rcases mem_insert hq with rfl | hq
        · exact lt_of_le_of_ne (not_lt.mp hnlt) (Ne.symm hne)
        · exact hk q hq

theorem canonicalMembers_insert {key : String} {value : Json} {ms : Members}
    (hvalue : canonical value = true) (h : canonicalMembers ms = true) :
    canonicalMembers (insert key value ms) = true := by
  induction ms with
  | nil => simp [insert, canonicalMembers, hvalue]
  | cons p ms ih =>
    obtain ⟨k, v⟩ := p
    simp only [canonicalMembers, Bool.and_eq_true] at h
    simp only [insert]
    split
    · simp [canonicalMembers, hvalue, h]
    · split
      · simp [canonicalMembers, hvalue, h]
      · simp [canonicalMembers, h.1, ih h.2]

theorem canonical_insert {key : String} {value : Json} {ms : Members}
    (hvalue : canonical value = true) (h : canonical (.obj ms) = true) :
    canonical (.obj (insert key value ms)) = true := by
  simp only [canonical, Bool.and_eq_true, decide_eq_true_eq] at h ⊢
  exact ⟨sorted_insert h.1, canonicalMembers_insert hvalue h.2⟩

theorem canonicalItems_strs (texts : List String) : canonicalItems (texts.map .str) = true := by
  induction texts with
  | nil => rfl
  | cons text texts ih => simpa [canonicalItems, canonical] using ih

theorem canonical_ofPairs {pairs : Members} (h : ∀ p ∈ pairs, canonical p.2 = true) :
    canonical (.obj (ofPairs pairs)) = true := by
  have hfold : ∀ (pairs ms : Members), (∀ p ∈ pairs, canonical p.2 = true) →
      canonical (.obj ms) = true →
        canonical (.obj (pairs.foldl (fun ms p => insert p.1 p.2 ms) ms)) = true := by
    intro pairs
    induction pairs with
    | nil => exact fun ms _ hms => hms
    | cons p pairs ih =>
      intro ms hpairs hms
      exact ih _ (fun q hq => hpairs q (List.mem_cons_of_mem p hq))
        (canonical_insert (hpairs p List.mem_cons_self) hms)
  exact hfold pairs [] h rfl

@[simp] theorem lookup_insert_self (key : String) (value : Json) (ms : Members) :
    (insert key value ms).lookup key = some value := by
  induction ms with
  | nil => simp [insert]
  | cons p ms ih =>
    obtain ⟨k, v⟩ := p
    simp only [insert]
    split
    · simp
    · split
      · simp
      · rename_i hne
        have hbeq : (key == k) = false := beq_eq_false_iff_ne.mpr hne
        simp [List.lookup_cons, hbeq, ih]

theorem lookup_insert_of_ne {key other : String} (value : Json) (ms : Members)
    (h : other ≠ key) : (insert key value ms).lookup other = ms.lookup other := by
  have hbeq : (other == key) = false := beq_eq_false_iff_ne.mpr h
  induction ms with
  | nil => simp [insert, List.lookup_cons, hbeq]
  | cons p ms ih =>
    obtain ⟨k, v⟩ := p
    simp only [insert]
    split
    · simp [List.lookup_cons, hbeq]
    · split
      · rename_i heq
        subst heq
        simp [List.lookup_cons, hbeq]
      · simp [List.lookup_cons, ih]

theorem lookup_foldl_insert (key : String) (pairs ms : Members) :
    (pairs.foldl (fun ms p => insert p.1 p.2 ms) ms).lookup key =
      (pairs.reverse ++ ms).lookup key := by
  induction pairs generalizing ms with
  | nil => rfl
  | cons p pairs ih =>
    obtain ⟨k, v⟩ := p
    have htail : (insert k v ms).lookup key = ((k, v) :: ms).lookup key := by
      by_cases h : key = k
      · subst h
        simp
      · have hbeq : (key == k) = false := beq_eq_false_iff_ne.mpr h
        rw [lookup_insert_of_ne v ms h, List.lookup_cons, hbeq]
    simp only [List.foldl_cons, ih, List.reverse_cons, List.append_assoc, List.singleton_append,
      List.lookup_append, htail]

/-- The last of the members with a key is the one that counts. -/
theorem lookup_ofPairs (key : String) (pairs : Members) :
    (ofPairs pairs).lookup key = pairs.reverse.lookup key := by
  rw [ofPairs, lookup_foldl_insert, List.append_nil]

/-- What the map of a list holds stands in the list. -/
theorem mem_ofPairs {pairs : Members} {member : String × Json}
    (h : member ∈ ofPairs pairs) : member ∈ pairs := by
  have hfold : ∀ (pairs start : Members),
      member ∈ pairs.foldl (fun ms pair => insert pair.1 pair.2 ms) start →
        member ∈ start ∨ member ∈ pairs := by
    intro pairs
    induction pairs with
    | nil => exact fun start hstart => .inl hstart
    | cons pair pairs ih =>
      intro start hmem
      obtain hmem | hmem := ih _ hmem
      · obtain rfl | hmem := mem_insert hmem
        · exact .inr List.mem_cons_self
        · exact .inl hmem
      · exact .inr (List.mem_cons_of_mem _ hmem)
  obtain h | h := hfold pairs [] h
  · exact absurd h List.not_mem_nil
  · exact h

/-- Inserting past the last key appends. -/
theorem insert_of_forall_lt {key : String} {value : Json} {ms : Members}
    (h : ∀ q ∈ ms, q.1 < key) : insert key value ms = ms ++ [(key, value)] := by
  induction ms with
  | nil => rfl
  | cons p ms ih =>
    obtain ⟨k, v⟩ := p
    have hk : k < key := h (k, v) List.mem_cons_self
    have hms : ∀ q ∈ ms, q.1 < key := fun q hq => h q (List.mem_cons_of_mem _ hq)
    simp [insert, not_lt.mpr hk.le, hk.ne', ih hms]

theorem foldl_insert_of_sorted {pre ms : Members} (h : Sorted (pre ++ ms)) :
    ms.foldl (fun acc p => insert p.1 p.2 acc) pre = pre ++ ms := by
  induction ms generalizing pre with
  | nil => simp
  | cons p ms ih =>
    have hp : ∀ q ∈ pre, q.1 < p.1 := by
      intro q hq
      simp only [Sorted, List.map_append, List.pairwise_append] at h
      exact h.2.2 q.1 (List.mem_map_of_mem hq) p.1 (by simp)
    rw [List.foldl_cons, insert_of_forall_lt hp, ih (by simpa using h)]
    simp

/-- A list already in key order is the map it denotes. -/
theorem ofPairs_of_sorted {ms : Members} (h : Sorted ms) : ofPairs ms = ms := by
  have hnil : Sorted ([] ++ ms) := h
  simpa [ofPairs] using foldl_insert_of_sorted hnil

end Json
