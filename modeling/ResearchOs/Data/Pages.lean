import Mathlib.Data.List.TakeWhile
import ResearchOs.Data.Fold

/-! Listings that are read page by page, each page from the cursor of the one before it. -/
namespace Pages

structure Page (α κ : Type) where
  items : List α
  nextCursor : Option κ

variable {α β κ ε : Type}

/-- The items of the pages from a cursor on, and the cursor that is left; the k-th request may see
more than the one before it. -/
def follow (request : Nat → Option κ → Except ε (Page α κ)) :
    Nat → Nat → Option κ → Except ε (List α × Option κ)
  | 0, _, cursor => .ok ([], cursor)
  | fuel + 1, k, cursor => do
    let page ← request k cursor
    match page.nextCursor with
    | none => pure (page.items, none)
    | some next =>
      let (items, left) ← follow request fuel (k + 1) (some next)
      pure (page.items ++ items, left)

variable {request : Nat → Option κ → Except ε (Page α κ)} {stands : Nat → Option κ → List β → Prop}
  {size : Nat → Nat} {rest : List β} {cursor : Option κ} {fuel k : Nat}

theorem follow_last {page : Page α κ} (hpage : request k cursor = .ok page)
    (hnext : page.nextCursor = none) :
    follow request (fuel + 1) k cursor = .ok (page.items, none) := by
  simp only [follow, hpage, bind, Except.bind, hnext, pure, Except.pure]

theorem follow_next {page : Page α κ} {next : κ} {items : List α}
    (hpage : request k cursor = .ok page) (hnext : page.nextCursor = some next)
    (hfollow : follow request fuel (k + 1) (some next) = .ok (items, none)) :
    follow request (fuel + 1) k cursor = .ok (page.items ++ items, none) := by
  simp only [follow, hpage, bind, Except.bind, hnext, hfollow, pure, Except.pure]

theorem follow_failed {page : Page α κ} {next : κ} {e : ε} (hpage : request k cursor = .ok page)
    (hnext : page.nextCursor = some next)
    (hfollow : follow request fuel (k + 1) (some next) = .error e) :
    follow request (fuel + 1) k cursor = .error e := by
  simp only [follow, hpage, bind, Except.bind, hnext, hfollow]

/-! Listings whose pages show every entry, or fail on an entry. -/

/-- A page from a cursor that stands for the entries that remain. -/
def Shows (request : Nat → Option κ → Except ε (Page α κ)) (stands : Nat → Option κ → List β → Prop)
    (size : Nat → Nat) (view : α → β) (good : β → Prop) : Prop :=
  ∀ k cursor rest, stands k cursor rest →
    (∃ page, request k cursor = .ok page ∧ page.items.map view = rest.take (size k) ∧
      (∀ entry ∈ rest.take (size k), good entry) ∧
      if rest.length < size k then page.nextCursor = none
      else ∃ next, page.nextCursor = some next ∧
        stands (k + 1) (some next) (rest.drop (size k))) ∨
    ∃ e, request k cursor = .error e ∧ ∃ entry ∈ rest.take (size k), ¬ good entry

/-- The pages show every entry once and in order, and end, unless an entry fails. -/
theorem follow_shows {view : α → β} {good : β → Prop} (h : Shows request stands size view good)
    (hsize : ∀ k, 1 ≤ size k) (hstands : stands k cursor rest) (hfuel : rest.length < fuel) :
    (∃ items, follow request fuel k cursor = .ok (items, none) ∧ items.map view = rest ∧
      ∀ entry ∈ rest, good entry) ∨
    ∃ e, follow request fuel k cursor = .error e ∧ ∃ entry ∈ rest, ¬ good entry := by
  induction fuel generalizing k cursor rest with
  | zero => omega
  | succ fuel ih =>
    obtain ⟨page, hpage, hitems, hgood, hnext⟩ | ⟨e, hfails, entry, hentry, hbad⟩ :=
      h k cursor rest hstands
    · by_cases hshort : rest.length < size k
      · rw [if_pos hshort] at hnext
        rw [List.take_of_length_le (Nat.le_of_lt hshort)] at hitems hgood
        exact Or.inl ⟨_, follow_last hpage hnext, hitems, hgood⟩
      · rw [if_neg hshort] at hnext
        obtain ⟨next, hnext, hremain⟩ := hnext
        have hshorter : (rest.drop (size k)).length < fuel := by
          have := hsize k
          rw [List.length_drop]
          omega
        obtain ⟨items, hfollow, hview, hothers⟩ | ⟨e, hfollow, entry, hentry, hbad⟩ :=
          ih hremain hshorter
        · refine Or.inl ⟨_, follow_next hpage hnext hfollow, ?_, ?_⟩
          · rw [List.map_append, hitems, hview, List.take_append_drop]
          · rw [← List.take_append_drop (size k) rest]
            exact List.forall_mem_append.mpr ⟨hgood, hothers⟩
        · exact Or.inr ⟨e, follow_failed hpage hnext hfollow, entry,
            List.mem_of_mem_drop hentry, hbad⟩
    · refine Or.inr ⟨e, ?_, entry, List.mem_of_mem_take hentry, hbad⟩
      simp only [follow, hfails, bind, Except.bind]

/-! Listings whose pages leave entries out, and end with the first page that is short. -/

def Selects (request : Nat → Option κ → Except ε (Page α κ))
    (stands : Nat → Option κ → List β → Prop) (size : Nat → Nat) (view : β → Option α) : Prop :=
  ∀ k cursor rest, stands k cursor rest →
    ∃ page, request k cursor = .ok page ∧ page.items = (rest.take (size k)).filterMap view ∧
      if page.items.length = size k then ∃ next, page.nextCursor = some next ∧
        stands (k + 1) (some next) (rest.drop (size k))
      else page.nextCursor = none

theorem length_filterMap_eq {view : β → Option α} {entries : List β}
    (h : ∀ entry ∈ entries, (view entry).isSome = true) :
    (entries.filterMap view).length = entries.length := by
  rw [List.length_filterMap_eq_countP, List.countP_eq_length]
  exact h

/-- Nothing is lost where every entry that is left out stands behind those that are shown. -/
theorem filterMap_takeWhile {view : β → Option α}
    (h : rest.Pairwise fun a b => (view b).isSome = true → (view a).isSome = true) :
    (rest.takeWhile fun entry => (view entry).isSome).filterMap view = rest.filterMap view := by
  induction rest with
  | nil => rfl
  | cons entry rest ih =>
    obtain ⟨hfirst, hrest⟩ := List.pairwise_cons.mp h
    cases hview : view entry with
    | some item =>
      rw [List.takeWhile_cons_of_pos (by simp [hview]), List.filterMap_cons_some hview, ih hrest,
        List.filterMap_cons_some hview]
    | none =>
      have hnone : rest.filterMap view = [] := by
        refine List.filterMap_eq_nil_iff.mpr fun other hother => ?_
        by_contra hshown
        have hsome := hfirst other hother (Option.isSome_iff_ne_none.mpr hshown)
        rw [hview] at hsome
        cases hsome
      rw [List.takeWhile_cons_of_neg (by simp [hview]), List.filterMap_cons_none hview, hnone,
        List.filterMap_nil]

/-- The pages show at least what stands before the first entry that is left out. -/
theorem follow_selects {view : β → Option α} (h : Selects request stands size view)
    (hsize : ∀ k, 1 ≤ size k) (hstands : stands k cursor rest) (hfuel : rest.length < fuel) :
    ∃ items, follow request fuel k cursor = .ok (items, none) ∧
      (rest.takeWhile fun entry => (view entry).isSome).filterMap view <+: items ∧
      items <+: rest.filterMap view := by
  induction fuel generalizing k cursor rest with
  | zero => omega
  | succ fuel ih =>
    obtain ⟨page, hpage, hitems, hnext⟩ := h k cursor rest hstands
    have hsplit : rest.filterMap view =
        (rest.take (size k)).filterMap view ++ (rest.drop (size k)).filterMap view := by
      rw [← List.filterMap_append, List.take_append_drop]
    by_cases hfull : page.items.length = size k
    · rw [if_pos hfull] at hnext
      obtain ⟨next, hnext, hremain⟩ := hnext
      rw [hitems, List.length_filterMap_eq_countP] at hfull
      have hlength : (rest.take (size k)).length = size k := by
        refine Nat.le_antisymm (List.length_take_le _ _) ?_
        calc size k = (rest.take (size k)).countP _ := hfull.symm
          _ ≤ _ := List.countP_le_length
      have hall : ∀ entry ∈ rest.take (size k), (view entry).isSome = true :=
        List.countP_eq_length.mp (hfull.trans hlength.symm)
      have hshorter : (rest.drop (size k)).length < fuel := by
        have := hsize k
        rw [List.length_take] at hlength
        rw [List.length_drop]
        omega
      obtain ⟨items, hfollow, hfirst, hwithin⟩ := ih hremain hshorter
      refine ⟨_, follow_next hpage hnext hfollow, ?_, ?_⟩
      · conv_lhs => rw [← List.take_append_drop (size k) rest]
        rw [List.takeWhile_append_of_pos hall, List.filterMap_append, hitems]
        exact (List.prefix_append_right_inj _).mpr hfirst
      · rw [hsplit, hitems]
        exact (List.prefix_append_right_inj _).mpr hwithin
    · rw [if_neg hfull] at hnext
      refine ⟨_, follow_last hpage hnext, ?_, ?_⟩
      · -- The first entry that is left out stands in this page, or nothing follows it.
        have hshort : (rest.takeWhile fun entry => (view entry).isSome) <+: rest.take (size k) := by
          refine List.prefix_take_iff.mpr ⟨List.takeWhile_prefix _, ?_⟩
          by_contra hlong
          refine hfull ?_
          have hpre : rest.take (size k) <+: rest.takeWhile fun entry => (view entry).isSome :=
            List.prefix_of_prefix_length_le (List.take_prefix _ _) (List.takeWhile_prefix _)
              (by rw [List.length_take]; omega)
          have hall : ∀ entry ∈ rest.take (size k), (view entry).isSome = true :=
            fun entry hentry => List.mem_takeWhile_imp
              (p := fun entry => (view entry).isSome) (hpre.subset hentry)
          have hrest := (List.takeWhile_prefix (l := rest)
            fun entry => (view entry).isSome).length_le
          rw [hitems, length_filterMap_eq hall, List.length_take]
          omega
        rw [hitems]
        exact hshort.filterMap view
      · rw [hsplit, hitems]
        exact List.prefix_append _ _

/-- Pages of one entry end at the first entry that is left out. -/
theorem follow_single {view : β → Option α} (h : Selects request stands (fun _ => 1) view)
    (hstands : stands k cursor rest) (hfuel : rest.length < fuel) :
    follow request fuel k cursor =
      .ok ((rest.takeWhile fun entry => (view entry).isSome).filterMap view, none) := by
  induction fuel generalizing k cursor rest with
  | zero => omega
  | succ fuel ih =>
    obtain ⟨page, hpage, hitems, hnext⟩ := h k cursor rest hstands
    cases rest with
    | nil =>
      rw [List.take_nil, List.filterMap_nil] at hitems
      rw [hitems, List.length_nil, if_neg Nat.zero_ne_one] at hnext
      rw [follow_last hpage hnext, hitems]
      rfl
    | cons entry rest =>
      rw [List.take_succ_cons, List.take_zero] at hitems
      cases hview : view entry with
      | none =>
        rw [List.filterMap_cons_none hview, List.filterMap_nil] at hitems
        rw [hitems, List.length_nil, if_neg Nat.zero_ne_one] at hnext
        rw [follow_last hpage hnext, hitems, List.takeWhile_cons_of_neg (by simp [hview])]
        rfl
      | some item =>
        rw [List.filterMap_cons_some hview, List.filterMap_nil] at hitems
        rw [hitems, List.length_singleton, if_pos rfl] at hnext
        obtain ⟨next, hnext, hremain⟩ := hnext
        rw [List.drop_succ_cons, List.drop_zero] at hremain
        have hfollow := ih hremain (by simpa using hfuel)
        rw [follow_next hpage hnext hfollow, hitems,
          List.takeWhile_cons_of_pos (by simp [hview]), List.filterMap_cons_some hview]
        rfl

end Pages
