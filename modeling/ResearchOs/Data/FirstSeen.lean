import Mathlib.Data.List.AList
import ResearchOs.Data.Fold

/-! Tables that keep the first value recorded under each key. -/
namespace FirstSeen

variable {κ α β ε : Type} [DecidableEq κ] [DecidableEq β]

abbrev Table (κ α : Type) := AList fun _ : κ => α

/-- The first value of a key. -/
def first (entries : List (κ × α)) (key : κ) : Option α := entries.lookup key

/-- Record a value under a key that has none. -/
def note (table : Table κ α) (entry : κ × α) : Table κ α :=
  match table.lookup entry.1 with
  | none => table.insert entry.1 entry.2
  | some _ => table

/-- Record a value under a key that has none, or one of the same reading. -/
def noteAgreeing (reading : α → β) (conflict : κ → ε) (table : Table κ α) (entry : κ × α) :
    Except ε (Table κ α) :=
  match table.lookup entry.1 with
  | none => .ok (table.insert entry.1 entry.2)
  | some existing =>
    if reading existing = reading entry.2 then .ok table else .error (conflict entry.1)

variable {table next : Table κ α} {entry : κ × α} {entries : List (κ × α)} {reading : α → β}
  {conflict : κ → ε} {key : κ}

theorem lookup_note : (note table entry).lookup key =
    (table.lookup key).or (if key = entry.1 then some entry.2 else none) := by
  unfold note
  by_cases hkey : key = entry.1
  · subst hkey
    cases hfound : table.lookup entry.1 <;> simp [hfound]
  · cases hfound : table.lookup entry.1 <;> simp [hkey, AList.lookup_insert_ne hkey]

/-- The table of a list of entries has the first one of each key. -/
theorem lookup_foldl_note : (entries.foldl note table).lookup key =
    (table.lookup key).or (first entries key) := by
  unfold first
  induction entries generalizing table with
  | nil => simp
  | cons entry entries ih =>
    rw [List.foldl_cons, ih, lookup_note, List.lookup_cons, Option.or_assoc]
    by_cases hkey : key = entry.1
    · simp [hkey]
    · have hne : (key == entry.1) = false := beq_false_of_ne hkey
      simp [hkey, hne]

theorem noteAgreeing_eq_ok : noteAgreeing reading conflict table entry = .ok next ↔
    (∀ existing ∈ table.lookup entry.1, reading existing = reading entry.2) ∧
      next = note table entry := by
  unfold noteAgreeing note
  cases hfound : table.lookup entry.1 with
  | none => simp [eq_comm]
  | some existing =>
    by_cases hsame : reading existing = reading entry.2
    · simp [hsame, eq_comm]
    · simp [hsame]

/-- Entries of one key have one reading. -/
def Agree (reading : α → β) (entries : List (κ × α)) : Prop :=
  entries.Pairwise fun a b => a.1 = b.1 → reading a.2 = reading b.2

theorem foldlM_noteAgreeing_eq_ok :
    entries.foldlM (noteAgreeing reading conflict) table = .ok next ↔
      ((∀ entry ∈ entries, ∀ existing ∈ table.lookup entry.1,
        reading existing = reading entry.2) ∧ Agree reading entries) ∧
        next = entries.foldl note table := by
  induction entries generalizing table with
  | nil => simp [Agree, pure, Except.pure, eq_comm]
  | cons entry entries ih =>
    rw [Fold.foldlM_cons_eq_ok]
    constructor
    · rintro ⟨middle, hmiddle, hrest⟩
      obtain ⟨hentry, rfl⟩ := noteAgreeing_eq_ok.mp hmiddle
      obtain ⟨⟨hothers, hagree⟩, rfl⟩ := ih.mp hrest
      refine ⟨⟨?_, List.pairwise_cons.mpr ⟨?_, hagree⟩⟩, rfl⟩
      · intro other hother existing hexisting
        rcases List.mem_cons.mp hother with rfl | hother
        · exact hentry existing hexisting
        · apply hothers other hother
          rw [lookup_note, Option.mem_def.mp hexisting]
          rfl
      · intro other hother hkey
        cases hfound : table.lookup entry.1 with
        | none =>
          apply hothers other hother
          rw [lookup_note, ← hkey, hfound]
          simp
        | some existing =>
          rw [← hentry existing hfound]
          apply hothers other hother
          rw [lookup_note, ← hkey, hfound]
          rfl
    · rintro ⟨⟨hothers, hagree⟩, rfl⟩
      obtain ⟨hfirst, hagree⟩ := List.pairwise_cons.mp hagree
      refine ⟨note table entry, noteAgreeing_eq_ok.mpr
        ⟨hothers entry List.mem_cons_self, rfl⟩, ih.mpr ⟨⟨?_, hagree⟩, rfl⟩⟩
      intro other hother existing hexisting
      rw [Option.mem_def, lookup_note] at hexisting
      cases hfound : table.lookup other.1 with
      | some found =>
        rw [hfound, Option.some_or, Option.some.injEq] at hexisting
        subst hexisting
        exact hothers other (List.mem_cons_of_mem _ hother) found hfound
      | none =>
        rw [hfound, Option.none_or] at hexisting
        split_ifs at hexisting with hkey
        cases hexisting
        exact hfirst other hother hkey.symm

/-! The values of a table, each of which names its key. -/

def values (table : Table κ α) : List α := table.entries.map (·.2)

theorem mem_values {keyOf : α → κ} (h : ∀ key value, table.lookup key = some value →
    keyOf value = key) {value : α} :
    value ∈ values table ↔ table.lookup (keyOf value) = some value := by
  constructor
  · intro hmem
    obtain ⟨⟨key, found⟩, hentry, rfl⟩ := List.mem_map.mp hmem
    have hlookup : table.lookup key = some found := AList.mem_lookup_iff.mpr hentry
    rw [h key found hlookup]
    exact hlookup
  · intro hlookup
    exact List.mem_map.mpr ⟨⟨keyOf value, value⟩, AList.mem_lookup_iff.mp hlookup, rfl⟩

theorem nodup_values {keyOf : α → κ} (h : ∀ key value, table.lookup key = some value →
    keyOf value = key) : ((values table).map keyOf).Nodup := by
  have hkeys : (values table).map keyOf = table.keys := by
    rw [values, List.map_map]
    refine List.map_congr_left ?_
    rintro ⟨key, value⟩ hentry
    exact h key value (AList.mem_lookup_iff.mpr hentry)
  rw [hkeys]
  exact table.keys_nodup

theorem mem_of_first {value : α} (h : first entries key = some value) :
    (key, value) ∈ entries := by
  obtain ⟨before, after, rfl, -⟩ := List.lookup_eq_some_iff.mp h
  exact List.mem_append_right _ List.mem_cons_self

/-- In entries of ascending sources, the first value of a key is that of its least source. -/
theorem first_filterMap_iff {γ : Type} {entryOf : γ → Option (κ × α)} {source : γ → Nat}
    {items : List γ} (hascending : items.Pairwise fun a b => source a < source b) {value : α} :
    first (items.filterMap entryOf) key = some value ↔
      ∃ item ∈ items, entryOf item = some (key, value) ∧
        ∀ other ∈ items, ∀ found, entryOf other = some (key, found) → source item ≤ source other := by
  induction items with
  | nil => simp [first]
  | cons item items ih =>
    obtain ⟨hfirst, hrest⟩ := List.pairwise_cons.mp hascending
    have hlater : first (items.filterMap entryOf) key = some value ∧
        (∀ found, entryOf item ≠ some (key, found)) ↔
        ∃ other ∈ items, entryOf other = some (key, value) ∧
          ∀ another ∈ item :: items, ∀ found, entryOf another = some (key, found) →
            source other ≤ source another := by
      rw [ih hrest]
      constructor
      · rintro ⟨⟨other, hother, hentry, hleast⟩, hnone⟩
        refine ⟨other, hother, hentry, List.forall_mem_cons.mpr ⟨fun found hfound => ?_, hleast⟩⟩
        exact absurd hfound (hnone found)
      · rintro ⟨other, hother, hentry, hleast⟩
        obtain ⟨hitem, hothers⟩ := List.forall_mem_cons.mp hleast
        refine ⟨⟨other, hother, hentry, hothers⟩, fun found hfound => ?_⟩
        have := hitem found hfound
        have := hfirst other hother
        omega
    have hhere : entryOf item = some (key, value) → ∀ other ∈ item :: items, ∀ found,
        entryOf other = some (key, found) → source item ≤ source other := by
      intro _ other hother _ _
      obtain rfl | hother := List.mem_cons.mp hother
      · exact le_refl _
      · exact Nat.le_of_lt (hfirst other hother)
    cases hentry : entryOf item with
    | none =>
      rw [List.filterMap_cons_none hentry]
      have hnone : ∀ found, entryOf item ≠ some (key, found) := by simp [hentry]
      rw [← and_iff_left (a := first (items.filterMap entryOf) key = some value) hnone, hlater]
      simp [hentry]
    | some entry =>
      rw [List.filterMap_cons_some hentry, first, List.lookup_cons]
      by_cases hkey : key = entry.1
      · subst hkey
        simp only [beq_self_eq_true, Option.some.injEq]
        constructor
        · rintro rfl
          exact ⟨item, List.mem_cons_self, hentry, hhere hentry⟩
        · rintro ⟨other, hother, hfound, hleast⟩
          obtain rfl | hother := List.mem_cons.mp hother
          · rw [hentry, Option.some.injEq] at hfound
            rw [hfound]
          · have := hleast item List.mem_cons_self _ hentry
            have := hfirst other hother
            omega
      · have hnone : ∀ found, entryOf item ≠ some (key, found) := by
          intro found hfound
          rw [hentry, Option.some.injEq] at hfound
          exact hkey (congrArg Prod.fst hfound).symm
        rw [beq_false_of_ne hkey]
        change first (items.filterMap entryOf) key = some value ↔ _
        rw [← and_iff_left (a := first (items.filterMap entryOf) key = some value) hnone, hlater]
        constructor
        · rintro ⟨other, hother, hfound, hleast⟩
          exact ⟨other, List.mem_cons_of_mem _ hother, hfound, hleast⟩
        · rintro ⟨other, hother, hfound, hleast⟩
          obtain rfl | hother := List.mem_cons.mp hother
          · exact absurd hfound (hnone _)
          · exact ⟨other, hother, hfound, hleast⟩

end FirstSeen
