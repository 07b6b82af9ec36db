import ResearchOs.Data.JsonEq
import ResearchOs.Core.Spec.Diff

/-! Where a comparison of two documents reports differences. -/
namespace ResearchOs.Spec

open SortBy (sortBy mem_sortBy sortBy_perm)

/-- A place in a document. -/
abbrev Location := List Step

inductive Place : Json → Location → Prop
  | here {j : Json} : Place j []
  | member {members : Json.Members} {name : String} {value : Json} {rest : Location}
      (h : members.lookup name = some value) (hrest : Place value rest) :
      Place (.obj members) (.key name :: rest)
  | item {items : List Json} {id : String} {value : Json} {rest : Location}
      (hids : isIdList items = true) (h : itemWithId id items = some value)
      (hrest : Place value rest) : Place (.arr items) (.item id :: rest)

/-- Values that are reported as a whole: they are of two types, or they have no parts that can be
told apart by name and are not equal in the host language. -/
def apart : Json → Json → Bool
  | .obj _, .obj _ => false
  | .arr old, .arr new => !(isIdList old && isIdList new) && !Json.hostEqItems old new
  | old, new => !(decide (old.valueType = new.valueType) && old.hostEq new)

/-- The places where two documents differ. -/
inductive Differs : Json → Json → Location → Prop
  | values {old new : Json} (h : apart old new = true) : Differs old new []
  | memberAdded {old new : Json.Members} {name : String} {value : Json}
      (hold : old.lookup name = none) (hnew : new.lookup name = some value) :
      Differs (.obj old) (.obj new) [.key name]
  | memberRemoved {old new : Json.Members} {name : String} {value : Json}
      (hold : old.lookup name = some value) (hnew : new.lookup name = none) :
      Differs (.obj old) (.obj new) [.key name]
  | member {old new : Json.Members} {name : String} {value other : Json} {rest : Location}
      (hold : old.lookup name = some value) (hnew : new.lookup name = some other)
      (h : Differs value other rest) : Differs (.obj old) (.obj new) (.key name :: rest)
  | itemAdded {old new : List Json} {id : String} {value : Json} (hids : isIdList old = true)
      (hids' : isIdList new = true) (hold : itemWithId id old = none)
      (hnew : itemWithId id new = some value) : Differs (.arr old) (.arr new) [.item id]
  | itemRemoved {old new : List Json} {id : String} {value : Json} (hids : isIdList old = true)
      (hids' : isIdList new = true) (hold : itemWithId id old = some value)
      (hnew : itemWithId id new = none) : Differs (.arr old) (.arr new) [.item id]
  | item {old new : List Json} {id : String} {value other : Json} {rest : Location}
      (hids : isIdList old = true) (hids' : isIdList new = true)
      (hold : itemWithId id old = some value) (hnew : itemWithId id new = some other)
      (h : Differs value other rest) : Differs (.arr old) (.arr new) (.item id :: rest)

variable {old new : Json} {location rest : Location}

/-- A difference is at a place of one of the documents. -/
theorem Differs.place (h : Differs old new location) : Place old location ∨ Place new location := by
  induction h with
  | values _ => exact .inl .here
  | memberAdded _ hnew => exact .inr (.member hnew .here)
  | memberRemoved hold _ => exact .inl (.member hold .here)
  | member hold hnew _ ih => exact ih.imp (.member hold) (.member hnew)
  | itemAdded _ hids' _ hnew => exact .inr (.item hids' hnew .here)
  | itemRemoved hids _ hold _ => exact .inl (.item hids hold .here)
  | item hids hids' hold hnew _ ih => exact ih.imp (.item hids hold) (.item hids' hnew)

/-! Lists whose items have ids. -/

theorem eq_of_itemId {items : List Json} {id : String} {a b : Json}
    (h : (items.filterMap itemId).Nodup) (ha : a ∈ items) (hb : b ∈ items)
    (hid : itemId a = some id) (hid' : itemId b = some id) : a = b := by
  induction items with
  | nil => cases ha
  | cons item items ih =>
    rcases List.mem_cons.mp ha with rfl | hain
    · rcases List.mem_cons.mp hb with rfl | hbin
      · rfl
      · rw [List.filterMap_cons, hid] at h
        exact ((List.nodup_cons.mp h).1 (List.mem_filterMap.mpr ⟨b, hbin, hid'⟩)).elim
    · rcases List.mem_cons.mp hb with rfl | hbin
      · rw [List.filterMap_cons, hid'] at h
        exact ((List.nodup_cons.mp h).1 (List.mem_filterMap.mpr ⟨a, hain, hid⟩)).elim
      · refine ih ?_ hain hbin
        rw [List.filterMap_cons] at h
        split at h
        · exact h
        · exact (List.nodup_cons.mp h).2

theorem itemWithId_eq_some {items : List Json} {id : String} {value : Json}
    (h : isIdList items = true) :
    itemWithId id items = some value ↔ value ∈ items ∧ itemId value = some id := by
  rw [isIdList, Bool.and_eq_true, decide_eq_true_eq] at h
  obtain ⟨-, hnodup⟩ := h
  constructor
  · intro hfound
    exact ⟨List.mem_of_find?_eq_some hfound, by simpa using List.find?_some hfound⟩
  · rintro ⟨hmem, hid⟩
    cases hfound : itemWithId id items with
    | none => exact absurd (List.find?_eq_none.mp hfound value hmem) (by simp [hid])
    | some found =>
      have hfoundId : itemId found = some id := by simpa using List.find?_some hfound
      rw [eq_of_itemId hnodup (List.mem_of_find?_eq_some hfound) hmem hfoundId hid]

/-! The parts of a comparison. -/

section

variable {π : Type} {child : π → Step → π} {path : π}

theorem mem_inOrder {α : Type} {parts : List (String × List α)} {a : α} :
    a ∈ inOrder parts ↔ ∃ part ∈ parts, a ∈ part.2 := by
  simp [inOrder, mem_sortBy]

/-- The difference of a member that the old object has. -/
def memberParts (child : π → Step → π) (path : π) (new : Json.Members) (member : String × Json) :
    List (Difference π) :=
  match new.lookup member.1 with
  | some other => diffValues child (child path (.key member.1)) member.2 other
  | none => [⟨child path (.key member.1), .removed, member.2, .null⟩]

theorem diffMembers_eq (new members : Json.Members) :
    diffMembers child path new members =
      members.map fun member => (member.1, memberParts child path new member) := by
  induction members with
  | nil => rfl
  | cons member members ih =>
    rw [diffMembers, ih]
    rfl

/-- The difference of an item that the old list has. -/
def itemParts (child : π → Step → π) (path : π) (new : List Json) (id : String) (item : Json) :
    List (Difference π) :=
  match itemWithId id new with
  | some other => diffValues child (child path (.item id)) item other
  | none => [⟨child path (.item id), .removed, item, .null⟩]

theorem diffItems_eq (new items : List Json) :
    diffItems child path new items = items.filterMap fun item =>
      (itemId item).map fun id => (id, itemParts child path new id item) := by
  induction items with
  | nil => rfl
  | cons item items ih =>
    rw [diffItems, List.filterMap_cons]
    cases itemId item with
    | none => exact ih
    | some id =>
      rw [ih]
      rfl

end


/-! The differences that are reported are the places where the documents differ. -/

def descend (path : Location) (step : Step) : Location := path ++ [step]

theorem descend_append (path : Location) (step : Step) (rest : Location) :
    descend path step ++ rest = path ++ step :: rest := by
  simp [descend]

/-- Every difference that is reported at a path is one. -/
def Sound (old new : Json) : Prop :=
  ∀ path, ∀ d ∈ diffValues descend path old new, ∃ location, d.path = path ++ location ∧
    Differs old new location

theorem diffValues_obj {π : Type} {child : π → Step → π} {path : π} {old new : Json.Members} :
    diffValues child path (.obj old) (.obj new) =
      inOrder (diffMembers child path new old ++ addedMembers child path old new) := rfl

theorem diffValues_ids {π : Type} {child : π → Step → π} {path : π} {old new : List Json}
    (h : isIdList old = true) (h' : isIdList new = true) :
    diffValues child path (.arr old) (.arr new) =
      inOrder (diffItems child path new old ++ addedItems child path old new) := by
  rw [diffValues, h, h']
  rfl

/-- Values without parts that can be told apart by name. -/
def Whole : Json → Json → Prop
  | .obj _, .obj _ => False
  | .arr old, .arr new => ¬ (isIdList old = true ∧ isIdList new = true)
  | _, _ => True

theorem diffValues_whole {π : Type} {child : π → Step → π} {path : π} (h : Whole old new) :
    diffValues child path old new = if apart old new then [⟨path, .changed, old, new⟩] else [] := by
  have hscalars : diffScalars path old new =
      if !(decide (old.valueType = new.valueType) && old.hostEq new) then
        [⟨path, .changed, old, new⟩] else [] := by
    by_cases htype : old.valueType = new.valueType <;> cases hequal : old.hostEq new <;>
      simp [diffScalars, htype, hequal]
  cases old with
  | obj old =>
    cases new with
    | obj new => cases h
    | _ => rfl
  | arr old =>
    cases new with
    | arr new =>
      have hids : (isIdList old && isIdList new) = false := by
        rw [Bool.and_eq_false_iff, ← Bool.not_eq_true, ← Bool.not_eq_true]
        exact not_and_or.mp h
      rw [diffValues]
      simp only [apart, hids]
      cases Json.hostEqItems old new <;> rfl
    | _ => rfl
  | _ => exact hscalars.trans (by rfl)

theorem sound_whole (h : Whole old new) : Sound old new := by
  intro path d hd
  rw [diffValues_whole h] at hd
  split_ifs at hd with hapart
  · rw [List.mem_singleton.mp hd]
    exact ⟨[], (List.append_nil path).symm, .values hapart⟩
  · cases hd

theorem sound_members {old new : Json.Members} (hold : (old.map Prod.fst).Nodup)
    (hnew : (new.map Prod.fst).Nodup)
    (ih : ∀ member ∈ old, ∀ other, new.lookup member.1 = some other → Sound member.2 other) :
    Sound (.obj old) (.obj new) := by
  intro path d hd
  rw [diffValues_obj, mem_inOrder] at hd
  obtain ⟨part, hpart, hd⟩ := hd
  rcases List.mem_append.mp hpart with hpart | hpart
  · rw [diffMembers_eq] at hpart
    obtain ⟨member, hmember, rfl⟩ := List.mem_map.mp hpart
    have hlookup := Json.lookup_of_mem hold hmember
    rw [memberParts] at hd
    cases hother : new.lookup member.1 with
    | none =>
      rw [hother] at hd
      rw [List.mem_singleton.mp hd]
      exact ⟨[.key member.1], rfl, .memberRemoved hlookup hother⟩
    | some other =>
      rw [hother] at hd
      obtain ⟨rest, hpath, hdiffers⟩ := ih member hmember other hother _ d hd
      exact ⟨_, hpath.trans (descend_append _ _ _), .member hlookup hother hdiffers⟩
  · obtain ⟨member, hmember, rfl⟩ := List.mem_map.mp hpart
    obtain ⟨hmember, habsent⟩ := List.mem_filter.mp hmember
    rw [List.mem_singleton.mp hd]
    exact ⟨[.key member.1], rfl,
      .memberAdded (Option.isNone_iff_eq_none.mp habsent) (Json.lookup_of_mem hnew hmember)⟩

theorem sound_items {old new : List Json} (hold : isIdList old = true) (hnew : isIdList new = true)
    (ih : ∀ item ∈ old, ∀ other ∈ new, Sound item other) : Sound (.arr old) (.arr new) := by
  intro path d hd
  rw [diffValues_ids hold hnew, mem_inOrder] at hd
  obtain ⟨part, hpart, hd⟩ := hd
  rcases List.mem_append.mp hpart with hpart | hpart
  · rw [diffItems_eq] at hpart
    obtain ⟨item, hitem, hpart⟩ := List.mem_filterMap.mp hpart
    obtain ⟨id, hid, rfl⟩ := Option.map_eq_some_iff.mp hpart
    have hfound := (itemWithId_eq_some hold).mpr ⟨hitem, hid⟩
    rw [itemParts] at hd
    cases hother : itemWithId id new with
    | none =>
      rw [hother] at hd
      rw [List.mem_singleton.mp hd]
      exact ⟨[.item id], rfl, .itemRemoved hold hnew hfound hother⟩
    | some other =>
      rw [hother] at hd
      have hmem := ((itemWithId_eq_some hnew).mp hother).1
      obtain ⟨rest, hpath, hdiffers⟩ := ih item hitem other hmem _ d hd
      exact ⟨_, hpath.trans (descend_append _ _ _), .item hold hnew hfound hother hdiffers⟩
  · obtain ⟨item, hitem, hpart⟩ := List.mem_filterMap.mp hpart
    obtain ⟨id, hid, hpart⟩ := Option.bind_eq_some_iff.mp hpart
    split_ifs at hpart with habsent
    cases hpart
    rw [List.mem_singleton.mp hd]
    exact ⟨[.item id], rfl, .itemAdded hold hnew (Option.isNone_iff_eq_none.mp habsent)
      ((itemWithId_eq_some hnew).mpr ⟨hitem, hid⟩)⟩

theorem sound_of_distinctKeys :
    ∀ {old new : Json}, old.distinctKeys = true → new.distinctKeys = true → Sound old new := by
  intro old
  induction old using Json.induct with
  | hscalar old hlist hdict =>
    intro new _ _
    refine sound_whole ?_
    cases old <;> simp_all [Whole, Json.valueType]
  | harr old ih =>
    intro new hold hnew
    cases new with
    | arr new =>
      by_cases hids : isIdList old = true ∧ isIdList new = true
      · rw [Json.distinctKeys_arr] at hold hnew
        exact sound_items hids.1 hids.2 fun item hitem other hother =>
          ih item hitem (hold item hitem) (hnew other hother)
      · exact sound_whole hids
    | _ => exact sound_whole trivial
  | hobj old ih =>
    intro new hold hnew
    cases new with
    | obj new =>
      rw [Json.distinctKeys_obj] at hold hnew
      exact sound_members hold.1 hnew.1 fun member hmember other hother =>
        ih member hmember (hold.2 member hmember) (hnew.2 _ (Json.mem_of_lookup hother))
    | _ => exact sound_whole trivial

/-- Every place where the documents differ is reported. -/
theorem Differs.reported (h : Differs old new location) (path : Location) :
    ∃ d ∈ diffValues descend path old new, d.path = path ++ location := by
  induction h generalizing path with
  | @values old new h =>
    have hwhole : Whole old new := by
      cases old <;> cases new <;> simp_all [Whole, apart]
      grind
    rw [diffValues_whole hwhole, if_pos h]
    exact ⟨_, List.mem_singleton_self _, (List.append_nil path).symm⟩
  | @memberAdded old new name value hold hnew =>
    refine ⟨⟨descend path (.key name), .added, .null, value⟩, ?_, rfl⟩
    rw [diffValues_obj, mem_inOrder]
    refine ⟨(name, [⟨descend path (.key name), .added, .null, value⟩]), ?_,
      List.mem_singleton_self _⟩
    refine List.mem_append_right _ (List.mem_map.mpr ⟨(name, value), ?_, rfl⟩)
    exact List.mem_filter.mpr ⟨Json.mem_of_lookup hnew, by simp [hold]⟩
  | @memberRemoved old new name value hold hnew =>
    refine ⟨⟨descend path (.key name), .removed, value, .null⟩, ?_, rfl⟩
    rw [diffValues_obj, mem_inOrder, diffMembers_eq]
    refine ⟨_, List.mem_append_left _ (List.mem_map.mpr ⟨_, Json.mem_of_lookup hold, rfl⟩), ?_⟩
    simp [memberParts, hnew]
  | @member old new name value other rest hold hnew _ ih =>
    obtain ⟨d, hd, hpath⟩ := ih (descend path (.key name))
    refine ⟨d, ?_, hpath.trans (descend_append _ _ _)⟩
    rw [diffValues_obj, mem_inOrder, diffMembers_eq]
    refine ⟨_, List.mem_append_left _ (List.mem_map.mpr ⟨_, Json.mem_of_lookup hold, rfl⟩), ?_⟩
    simpa [memberParts, hnew] using hd
  | @itemAdded old new id value hids hids' hold hnew =>
    obtain ⟨hmem, hid⟩ := (itemWithId_eq_some hids').mp hnew
    refine ⟨⟨descend path (.item id), .added, .null, value⟩, ?_, rfl⟩
    rw [diffValues_ids hids hids', mem_inOrder]
    refine ⟨(id, [⟨descend path (.item id), .added, .null, value⟩]), ?_,
      List.mem_singleton_self _⟩
    exact List.mem_append_right _ (List.mem_filterMap.mpr ⟨value, hmem, by simp [hid, hold]⟩)
  | @itemRemoved old new id value hids hids' hold hnew =>
    obtain ⟨hmem, hid⟩ := (itemWithId_eq_some hids).mp hold
    refine ⟨⟨descend path (.item id), .removed, value, .null⟩, ?_, rfl⟩
    rw [diffValues_ids hids hids', mem_inOrder, diffItems_eq]
    refine ⟨(id, itemParts descend path new id value), ?_, by simp [itemParts, hnew]⟩
    exact List.mem_append_left _ (List.mem_filterMap.mpr ⟨value, hmem, by rw [hid]; rfl⟩)
  | @item old new id value other rest hids hids' hold hnew _ ih =>
    obtain ⟨hmem, hid⟩ := (itemWithId_eq_some hids).mp hold
    obtain ⟨d, hd, hpath⟩ := ih (descend path (.item id))
    refine ⟨d, ?_, hpath.trans (descend_append _ _ _)⟩
    rw [diffValues_ids hids hids', mem_inOrder, diffItems_eq]
    refine ⟨(id, itemParts descend path new id value), ?_, by simpa [itemParts, hnew] using hd⟩
    exact List.mem_append_left _ (List.mem_filterMap.mpr ⟨value, hmem, by rw [hid]; rfl⟩)


/-! No place is reported twice. -/

theorem nodup_inOrder {parts : List (String × List (Difference Location))} (path : Location)
    (step : String → Step) (hstep : ∀ a b, step a = step b → a = b)
    (hnames : (parts.map Prod.fst).Nodup)
    (hparts : ∀ part ∈ parts, (part.2.map (·.path)).Nodup ∧
      ∀ d ∈ part.2, ∃ rest, d.path = path ++ step part.1 :: rest) :
    ((inOrder parts).map (·.path)).Nodup := by
  rw [inOrder, List.map_flatMap, List.nodup_flatMap]
  refine ⟨fun part hpart => (hparts part (mem_sortBy.mp hpart)).1, ?_⟩
  have hsorted : ((sortBy Prod.fst parts).map Prod.fst).Nodup :=
    ((sortBy_perm Prod.fst parts).map Prod.fst).nodup_iff.mpr hnames
  refine (List.pairwise_map.mp hsorted).imp_of_mem ?_
  intro part other hpart hother hne
  refine List.disjoint_left.mpr ?_
  intro location hmem hmem'
  obtain ⟨d, hd, rfl⟩ := List.mem_map.mp hmem
  obtain ⟨d', hd', heq⟩ := List.mem_map.mp hmem'
  obtain ⟨rest, hrest⟩ := (hparts part (mem_sortBy.mp hpart)).2 d hd
  obtain ⟨rest', hrest'⟩ := (hparts other (mem_sortBy.mp hother)).2 d' hd'
  rw [hrest, hrest'] at heq
  exact hne (hstep _ _ (List.cons.inj (List.append_cancel_left heq)).1.symm)

/-- Every reported path goes on from the path of the comparison. -/
theorem exists_rest (hold : old.distinctKeys = true) (hnew : new.distinctKeys = true)
    {path : Location} {d : Difference Location} (h : d ∈ diffValues descend path old new) :
    ∃ rest, d.path = path ++ rest := by
  obtain ⟨location, hpath, -⟩ := sound_of_distinctKeys hold hnew path d h
  exact ⟨location, hpath⟩

def NoneTwice (old new : Json) : Prop :=
  ∀ path, ((diffValues descend path old new).map (·.path)).Nodup

theorem noneTwice_whole (h : Whole old new) : NoneTwice old new := by
  intro path
  rw [diffValues_whole h]
  split_ifs <;> simp

theorem noneTwice_members {old new : Json.Members} (hold : (Json.obj old).distinctKeys = true)
    (hnew : (Json.obj new).distinctKeys = true)
    (ih : ∀ member ∈ old, ∀ other, new.lookup member.1 = some other → NoneTwice member.2 other) :
    NoneTwice (.obj old) (.obj new) := by
  obtain ⟨hnames, hvalues⟩ := Json.distinctKeys_obj.mp hold
  obtain ⟨hnames', hvalues'⟩ := Json.distinctKeys_obj.mp hnew
  intro path
  rw [diffValues_obj]
  refine nodup_inOrder path .key (fun a b h => Step.key.inj h) ?_ ?_
  · rw [List.map_append, diffMembers_eq, addedMembers, List.map_map, List.map_map]
    refine List.Nodup.append hnames (hnames'.sublist (List.filter_sublist.map Prod.fst)) ?_
    refine List.disjoint_left.mpr ?_
    intro name hname hname'
    obtain ⟨member, hmember, rfl⟩ := List.mem_map.mp hname
    obtain ⟨added, hadded, heq⟩ := List.mem_map.mp hname'
    have habsent := (List.mem_filter.mp hadded).2
    have hfound := Json.lookup_of_mem hnames (show (member.1, member.2) ∈ old from hmember)
    have hsame : added.1 = member.1 := heq
    rw [hsame, hfound] at habsent
    cases habsent
  · intro part hpart
    rcases List.mem_append.mp hpart with hpart | hpart
    · rw [diffMembers_eq] at hpart
      obtain ⟨member, hmember, rfl⟩ := List.mem_map.mp hpart
      cases hother : new.lookup member.1 with
      | none => simp [memberParts, hother, descend]
      | some other =>
        simp only [memberParts, hother]
        refine ⟨ih member hmember other hother _, ?_⟩
        intro d hd
        obtain ⟨rest, hrest⟩ := exists_rest (hvalues member hmember)
          (hvalues' _ (Json.mem_of_lookup hother)) hd
        exact ⟨rest, hrest.trans (descend_append _ _ _)⟩
    · obtain ⟨member, -, rfl⟩ := List.mem_map.mp hpart
      simp [descend]


theorem diffItems_ids {π : Type} {child : π → Step → π} {path : π} (new items : List Json) :
    (diffItems child path new items).map Prod.fst = items.filterMap itemId := by
  rw [diffItems_eq, List.map_filterMap]
  congr
  funext item
  cases itemId item <;> rfl

theorem addedItems_ids {π : Type} {child : π → Step → π} {path : π} (old new : List Json) :
    (addedItems child path old new).map Prod.fst =
      (new.filterMap itemId).filter fun id => (itemWithId id old).isNone := by
  rw [addedItems, List.map_filterMap, List.filter_filterMap]
  congr
  funext item
  cases itemId item with
  | none => rfl
  | some id => cases habsent : itemWithId id old <;> simp [Option.filter, habsent]

theorem noneTwice_items {old new : List Json} (hold : (Json.arr old).distinctKeys = true)
    (hnew : (Json.arr new).distinctKeys = true) (hids : isIdList old = true)
    (hids' : isIdList new = true) (ih : ∀ item ∈ old, ∀ other ∈ new, NoneTwice item other) :
    NoneTwice (.arr old) (.arr new) := by
  rw [Json.distinctKeys_arr] at hold hnew
  have hnodup : ∀ items : List Json, isIdList items = true → (items.filterMap itemId).Nodup := by
    intro items hitems
    rw [isIdList, Bool.and_eq_true, decide_eq_true_eq] at hitems
    exact hitems.2
  intro path
  rw [diffValues_ids hids hids']
  refine nodup_inOrder path .item (fun a b h => Step.item.inj h) ?_ ?_
  · rw [List.map_append, diffItems_ids, addedItems_ids]
    refine List.Nodup.append (hnodup old hids) ((hnodup new hids').filter _) ?_
    refine List.disjoint_left.mpr ?_
    intro id hid hadded
    obtain ⟨item, hitem, hitemId⟩ := List.mem_filterMap.mp hid
    have habsent := (List.mem_filter.mp hadded).2
    rw [(itemWithId_eq_some hids).mpr ⟨hitem, hitemId⟩] at habsent
    cases habsent
  · intro part hpart
    rcases List.mem_append.mp hpart with hpart | hpart
    · rw [diffItems_eq] at hpart
      obtain ⟨item, hitem, hpart⟩ := List.mem_filterMap.mp hpart
      obtain ⟨id, -, rfl⟩ := Option.map_eq_some_iff.mp hpart
      cases hother : itemWithId id new with
      | none => simp [itemParts, hother, descend]
      | some other =>
        have hmem := ((itemWithId_eq_some hids').mp hother).1
        simp only [itemParts, hother]
        refine ⟨ih item hitem other hmem _, ?_⟩
        intro d hd
        obtain ⟨rest, hrest⟩ := exists_rest (hold item hitem) (hnew other hmem) hd
        exact ⟨rest, hrest.trans (descend_append _ _ _)⟩
    · obtain ⟨item, -, hpart⟩ := List.mem_filterMap.mp hpart
      obtain ⟨id, -, hpart⟩ := Option.bind_eq_some_iff.mp hpart
      split_ifs at hpart
      cases hpart
      simp [descend]

theorem noneTwice_of_distinctKeys :
    ∀ {old new : Json}, old.distinctKeys = true → new.distinctKeys = true → NoneTwice old new := by
  intro old
  induction old using Json.induct with
  | hscalar old hlist hdict =>
    intro new _ _
    refine noneTwice_whole ?_
    cases old <;> simp_all [Whole, Json.valueType]
  | harr old ih =>
    intro new hold hnew
    cases new with
    | arr new =>
      by_cases hids : isIdList old = true ∧ isIdList new = true
      · refine noneTwice_items hold hnew hids.1 hids.2 ?_
        rw [Json.distinctKeys_arr] at hold hnew
        exact fun item hitem other hother => ih item hitem (hold item hitem) (hnew other hother)
      · exact noneTwice_whole hids
    | _ => exact noneTwice_whole trivial
  | hobj old ih =>
    intro new hold hnew
    cases new with
    | obj new =>
      refine noneTwice_members hold hnew ?_
      rw [Json.distinctKeys_obj] at hold hnew
      exact fun member hmember other hother =>
        ih member hmember (hold.2 member hmember) (hnew.2 _ (Json.mem_of_lookup hother))
    | _ => exact noneTwice_whole trivial

/-! The paths of the report are the spellings of the places. -/

/-- The text of a place. -/
def spell (location : Location) : String :=
  location.foldl (fun path step => path ++ step.text) ""

def Difference.map {π ρ : Type} (f : π → ρ) (difference : Difference π) : Difference ρ :=
  ⟨f difference.path, difference.kind, difference.before, difference.after⟩

theorem sortBy_map_snd {α β : Type} (f : List α → List β) (parts : List (String × List α)) :
    sortBy Prod.fst (parts.map fun part => (part.1, f part.2)) =
      (sortBy Prod.fst parts).map fun part => (part.1, f part.2) :=
  (List.map_insertionSort (r := fun a b : String × List α => a.1 ≤ b.1)
    (s := fun a b : String × List β => a.1 ≤ b.1) (fun part => (part.1, f part.2)) parts
    fun _ _ _ _ => Iff.rfl).symm

theorem inOrder_map {α β : Type} (f : α → β) (parts : List (String × List α)) :
    (inOrder parts).map f = inOrder (parts.map fun part => (part.1, part.2.map f)) := by
  rw [inOrder, inOrder, sortBy_map_snd (List.map f), List.map_flatMap, List.flatMap_map]

/-- Paths that are told in other words are told so in the whole report. -/
theorem diffValues_map {π ρ : Type} {child : π → Step → π} {child' : ρ → Step → ρ} {f : π → ρ}
    (hf : ∀ path step, f (child path step) = child' (f path) step) :
    ∀ (old new : Json) (path : π),
      (diffValues child path old new).map (Difference.map f) = diffValues child' (f path) old new := by
  intro old
  induction old using Json.induct with
  | hscalar old hlist hdict =>
    intro new path
    have hwhole : Whole old new := by
      cases old <;> simp_all [Whole, Json.valueType]
    rw [diffValues_whole hwhole, diffValues_whole hwhole]
    split_ifs <;> rfl
  | harr old ih =>
    intro new path
    cases new with
    | arr new =>
      by_cases hids : isIdList old = true ∧ isIdList new = true
      · rw [diffValues_ids hids.1 hids.2, diffValues_ids hids.1 hids.2, inOrder_map,
          List.map_append, diffItems_eq, diffItems_eq, addedItems, addedItems, List.map_filterMap,
          List.map_filterMap]
        congr 2
        · refine List.filterMap_congr ?_
          intro item hitem
          cases itemId item with
          | none => rfl
          | some id =>
            cases hother : itemWithId id new with
            | none => simp [itemParts, hother, Difference.map, hf]
            | some other => simp [itemParts, hother, ih item hitem, hf]
        · refine List.filterMap_congr ?_
          intro item _
          cases itemId item with
          | none => rfl
          | some id =>
            cases (itemWithId id old).isNone <;> simp [Difference.map, hf]
      · have hwhole : Whole (.arr old) (.arr new) := hids
        rw [diffValues_whole hwhole, diffValues_whole hwhole]
        split_ifs <;> rfl
    | _ => rfl
  | hobj old ih =>
    intro new path
    cases new with
    | obj new =>
      rw [diffValues_obj, diffValues_obj, inOrder_map, List.map_append, diffMembers_eq,
        diffMembers_eq, addedMembers, addedMembers, List.map_map, List.map_map]
      congr 2
      · refine List.map_congr_left ?_
        intro member hmember
        cases hother : new.lookup member.1 with
        | none => simp [memberParts, hother, Difference.map, hf]
        | some other => simp [memberParts, hother, ih member hmember, hf]
      · simp [Difference.map, hf, Function.comp_def]
    | _ => rfl

end ResearchOs.Spec
