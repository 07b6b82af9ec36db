import ResearchOs.Jcs.Canonical

/-! Values of texts alone, with their members in order: the canonical text reads back. -/
namespace ResearchOs.Jcs

open JsonText (FloatText render renderItems renderMembers)

variable {F : FloatText}

/-- The keys are in order, by code points and by code units. -/
def keysOrdered (keys : List String) : Bool :=
  decide (keys.Pairwise (· < ·)) && decide ((keys.map utf16).Pairwise (· < ·))

mutual

/-- No numbers, and all members in order. -/
def isOrdered : Json → Bool
  | .str _ => true
  | .bool _ => true
  | .arr items => areOrderedItems items
  | .obj members => keysOrdered (members.map Prod.fst) && areOrderedMembers members
  | _ => false

def areOrderedItems : List Json → Bool
  | [] => true
  | item :: items => isOrdered item && areOrderedItems items

def areOrderedMembers : Json.Members → Bool
  | [] => true
  | (_, value) :: members => isOrdered value && areOrderedMembers members

end

/-! The canonical text is the one that is read back. -/

theorem commaJoin_cons (text other : List Char) (texts : List (List Char)) :
    commaJoin (text :: other :: texts) = text ++ ',' :: commaJoin (other :: texts) := rfl

/-- The texts of items, as they are joined. -/
theorem commaJoin_render (value : Json) (items : List Json) :
    commaJoin ((value :: items).map (render F)) ++ [']'] = render F value ++ renderItems F items := by
  induction items generalizing value with
  | nil => simp [commaJoin, renderItems]
  | cons item items ih =>
    have hrest := ih item
    simp only [List.map_cons] at hrest ⊢
    rw [commaJoin_cons, renderItems, List.append_assoc, List.cons_append, hrest]

/-- A member in the text that is read back. -/
def rendered (F : FloatText) (member : String × Json) : String × List Char :=
  (member.1, render F member.2)

theorem commaJoin_rendered (key : String) (value : Json) (members : Json.Members) :
    commaJoin ((((key, value) :: members).map (rendered F)).map memberText) ++ ['}'] =
      '"' :: (JsonText.escape key.toList ++
        '"' :: ':' :: (render F value ++ renderMembers F members)) := by
  induction members generalizing key value with
  | nil => simp [commaJoin, renderMembers, rendered, memberText, quoteString]
  | cons member members ih =>
    have hrest := ih member.1 member.2
    simp only [List.map_cons] at hrest ⊢
    rw [commaJoin_cons, renderMembers, List.append_assoc, List.cons_append, hrest]
    simp [rendered, memberText, quoteString]

/-- Members in order stay as they stand. -/
theorem sortMembers_rendered {members : Json.Members}
    (h : keysOrdered (members.map Prod.fst) = true) :
    sortMembers (members.map fun member => (member.1, .ok (render F member.2))) =
      .ok (members.map (rendered F)) := by
  simp only [keysOrdered, Bool.and_eq_true, decide_eq_true_eq, List.map_map, List.pairwise_map] at h
  have hpairwise : (members.map fun member =>
      (member.1, (.ok (render F member.2) : Except String (List Char)))).Pairwise
        fun a b => utf16 a.1 < utf16 b.1 :=
    List.pairwise_map.mpr h.2
  rw [sortMembers, SortBy.sortBy_eq_self hpairwise]
  exact Fold.mapM_eq_ok.mpr (List.forall₂_map_left_iff.mpr
    (List.forall₂_map_right_iff.mpr (List.forall₂_same.mpr fun member _ => rfl)))

/-- The value is written as the text that reads back. -/
structure ReadsBack (F : FloatText) (value : Json) : Prop where
  canonical : value.canonical = true
  dumpable : JsonText.dumpable value = true
  text : canonicalJson F value = .ok (render F value)

structure ItemsReadBack (F : FloatText) (items : List Json) : Prop where
  canonical : Json.canonicalItems items = true
  dumpable : JsonText.dumpableItems items = true
  texts : serializeArray F items = .ok (items.map (render F))

structure MembersReadBack (F : FloatText) (members : Json.Members) : Prop where
  canonical : Json.canonicalMembers members = true
  dumpable : JsonText.dumpableMembers members = true
  texts : serializeMembers F members = members.map fun member => (member.1, .ok (render F member.2))

theorem ItemsReadBack.arr {items : List Json} (h : ItemsReadBack F items) :
    ReadsBack F (.arr items) where
  canonical := by rw [Json.canonical, h.canonical]
  dumpable := by rw [JsonText.dumpable, h.dumpable]
  text := by
    rw [canonicalJson, h.texts]
    cases items with
    | nil => rfl
    | cons value items =>
      rw [render, ← commaJoin_render]
      rfl

theorem MembersReadBack.obj {members : Json.Members}
    (hkeys : keysOrdered (members.map Prod.fst) = true) (h : MembersReadBack F members) :
    ReadsBack F (.obj members) where
  canonical := by
    simp only [keysOrdered, Bool.and_eq_true, decide_eq_true_eq] at hkeys
    have hsorted : Json.Sorted members := hkeys.1
    rw [Json.canonical, decide_eq_true hsorted, h.canonical]
    rfl
  dumpable := by rw [JsonText.dumpable, h.dumpable]
  text := by
    rw [canonicalJson, h.texts, sortMembers_rendered hkeys]
    cases members with
    | nil => rfl
    | cons member members =>
      rw [render, ← commaJoin_rendered]
      rfl

mutual

theorem readsBack_of_isOrdered : ∀ value : Json, isOrdered value = true → ReadsBack F value
  | .null, h => nomatch h
  | .bool true, _ => ⟨rfl, rfl, rfl⟩
  | .bool false, _ => ⟨rfl, rfl, rfl⟩
  | .int _, h => nomatch h
  | .float _, h => nomatch h
  | .str _, _ => ⟨rfl, rfl, by rw [canonicalJson, render, quoteString]⟩
  | .arr items, h => by
    rw [isOrdered] at h
    exact (itemsReadBack items h).arr
  | .obj members, h => by
    rw [isOrdered, Bool.and_eq_true] at h
    exact (membersReadBack members h.2).obj h.1

theorem itemsReadBack : ∀ items : List Json, areOrderedItems items = true → ItemsReadBack F items
  | [], _ => ⟨rfl, rfl, rfl⟩
  | item :: items, h => by
    rw [areOrderedItems, Bool.and_eq_true] at h
    have hitem := readsBack_of_isOrdered item h.1
    have hitems := itemsReadBack items h.2
    refine ⟨?_, ?_, ?_⟩
    · rw [Json.canonicalItems, hitem.canonical, hitems.canonical]
      rfl
    · rw [JsonText.dumpableItems, hitem.dumpable, hitems.dumpable]
      rfl
    · rw [serializeArray, hitem.text, hitems.texts]
      rfl

theorem membersReadBack : ∀ members : Json.Members, areOrderedMembers members = true →
    MembersReadBack F members
  | [], _ => ⟨rfl, rfl, rfl⟩
  | (key, value) :: members, h => by
    rw [areOrderedMembers, Bool.and_eq_true] at h
    have hvalue := readsBack_of_isOrdered value h.1
    have hmembers := membersReadBack members h.2
    refine ⟨?_, ?_, ?_⟩
    · rw [Json.canonicalMembers, hvalue.canonical, hmembers.canonical]
      rfl
    · rw [JsonText.dumpableMembers, hvalue.dumpable, hmembers.dumpable]
      rfl
    · rw [serializeMembers, hvalue.text, hmembers.texts]
      rfl

end

/-- One text is the text of one value. -/
theorem ReadsBack.eq_of_text {value other : Json} (h : ReadsBack F value) (hother : ReadsBack F other)
    (hsame : render F value = render F other) : value = other := by
  have hread (j : Json) (hj : ReadsBack F j) :
      JsonText.loads F (String.ofList (render F j)) = some j :=
    JsonText.loads_dumps hj.canonical (if_pos hj.dumpable)
  have hvalue := hread value h
  rw [hsame, hread other hother] at hvalue
  exact (Option.some.inj hvalue).symm

end ResearchOs.Jcs
