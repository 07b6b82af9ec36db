import ResearchOs.Data.Separated
import ResearchOs.Core.Spec.Located

/-! Which places of two revisions the paths of a report tell apart. -/
namespace ResearchOs.Spec

variable {location other rest : Location} {before after : Json}

/-- A place, as it is written: what stands before the first name, and each name with the
selectors behind it. -/
def written : Location → List Char × List (List Char)
  | [] => ([], [])
  | .key name :: rest => ([], ((escape name).toList ++ (written rest).1) :: (written rest).2)
  | .item id :: rest =>
    ("[id=".toList ++ (escape id).toList ++ "]".toList ++ (written rest).1, (written rest).2)

theorem foldl_text (path : String) (location : Location) :
    location.foldl (fun path step => path ++ step.text) path = path ++ spell location := by
  induction location generalizing path with
  | nil => simp [spell]
  | cons step rest ih =>
    rw [spell, List.foldl_cons, List.foldl_cons, ih, ih ("" ++ step.text), String.empty_append,
      String.append_assoc]

theorem spell_cons (step : Step) (rest : Location) :
    spell (step :: rest) = step.text ++ spell rest := by
  rw [spell, List.foldl_cons, foldl_text, String.empty_append]

theorem spell_descend (path : Location) (step : Step) :
    spell (descend path step) = spell path ++ step.text := by
  rw [spell, descend, List.foldl_append]
  rfl

theorem toList_spell (location : Location) :
    (spell location).toList = Separated.join '/' (written location).1 (written location).2 := by
  induction location with
  | nil => rfl
  | cons step rest ih =>
    rw [spell_cons, String.toList_append, ih]
    cases step with
    | key name => simp [Step.text, written, Separated.join]
    | item id => simp [Step.text, written, Separated.join]

theorem slash_notMem_escape (value : String) : '/' ∉ (escape value).toList := by
  rw [escape, String.toList_ofList, List.mem_flatMap]
  rintro ⟨c, -, hc⟩
  split_ifs at hc with htilde hslash
  · simp at hc
  · simp at hc
  · exact hslash (List.mem_singleton.mp hc).symm

theorem slash_notMem_written (location : Location) :
    '/' ∉ (written location).1 ∧ ∀ segment ∈ (written location).2, '/' ∉ segment := by
  induction location with
  | nil => simp [written]
  | cons step rest ih =>
    obtain ⟨hfirst, hsegments⟩ := ih
    cases step with
    | key name =>
      refine ⟨by simp [written], ?_⟩
      rw [written]
      refine List.forall_mem_cons.mpr ⟨?_, hsegments⟩
      rw [List.mem_append, not_or]
      exact ⟨slash_notMem_escape name, hfirst⟩
    | item id =>
      refine ⟨?_, hsegments⟩
      simp only [written, List.mem_append, not_or]
      exact ⟨⟨⟨by decide, slash_notMem_escape id⟩, by decide⟩, hfirst⟩

/-- Places have one text exactly when they are written alike, segment by segment. -/
theorem spell_eq_iff : spell location = spell other ↔ written location = written other := by
  constructor
  · intro h
    have hlist := congrArg String.toList h
    rw [toList_spell, toList_spell] at hlist
    obtain ⟨hfirst, hsegments⟩ := slash_notMem_written location
    obtain ⟨hfirst', hsegments'⟩ := slash_notMem_written other
    obtain ⟨h₁, h₂⟩ := Separated.join_injective hfirst hfirst' hsegments hsegments' hlist
    exact Prod.ext h₁ h₂
  · intro h
    refine String.toList_inj.mp ?_
    rw [toList_spell, toList_spell, h]

/-! The paths of a report. -/

theorem documentChanges_paths (before after : Json) :
    (documentChanges before after).map (·.path) =
      (diffValues descend [] before after).map fun d => shown (spell d.path) := by
  have hmap : (diffValues descend [] before after).map (Difference.map spell) =
      diffValues (fun path step => path ++ step.text) (spell []) before after :=
    diffValues_map spell_descend before after []
  have hroot : spell [] = "" := rfl
  rw [hroot] at hmap
  rw [documentChanges, ← hmap, List.map_map, List.map_map]
  rfl

/-- No two reported changes have one path, and each path stands for one place of the two
documents. -/
structure PathIdentity (before after : Json) (changes : List SemanticChange) : Prop where
  distinct : (changes.map (·.path)).Nodup
  denotes : ∀ change ∈ changes, ∃! location,
    (Place before location ∨ Place after location) ∧ shown (spell location) = change.path

/-- No place is written, segment by segment, like a place where the documents differ. -/
def Unambiguous (before after : Json) : Prop :=
  ∀ location other, Differs before after location → (Place before other ∨ Place after other) →
    written other = written location → other = location

/-- The places where the documents differ are below a name that is not empty. -/
def Rooted (before after : Json) : Prop :=
  ∀ location, Differs before after location → ∃ name rest, location = .key name :: rest ∧
    escape name ≠ ""

theorem shown_eq_iff (h : spell location ≠ "" ∧ spell location ≠ "/") :
    shown (spell other) = shown (spell location) ↔ written other = written location := by
  rw [← spell_eq_iff, shown, shown, if_neg h.1]
  split_ifs with hempty
  · rw [hempty]
    exact ⟨fun hroot => absurd hroot.symm h.2, fun hroot => absurd hroot.symm h.1⟩
  · rfl

theorem Rooted.spell_ne (h : Rooted before after) (hdiffers : Differs before after location) :
    spell location ≠ "" ∧ spell location ≠ "/" := by
  obtain ⟨name, rest, rfl, hname⟩ := h location hdiffers
  have hlist : (spell (.key name :: rest)).toList =
      '/' :: ((escape name).toList ++ (spell rest).toList) := by
    rw [spell_cons, String.toList_append]
    simp [Step.text]
  have hne : (escape name).toList ≠ [] := fun hnil => hname (String.toList_inj.mp hnil)
  constructor
  · intro hspell
    rw [hspell] at hlist
    cases hlist
  · intro hspell
    rw [hspell] at hlist
    have htail : (escape name).toList ++ (spell rest).toList = [] := (List.cons.inj hlist).2.symm
    exact hne (List.append_eq_nil_iff.mp htail).1

/-- The paths of a report tell the places apart exactly when no place is written like one where
the documents differ. -/
theorem documentChanges_identity (hbefore : before.distinctKeys = true)
    (hafter : after.distinctKeys = true) (hrooted : Rooted before after) :
    PathIdentity before after (documentChanges before after) ↔ Unambiguous before after := by
  have hsound : ∀ d ∈ diffValues descend [] before after, Differs before after d.path := by
    intro d hd
    obtain ⟨location, hpath, hdiffers⟩ := sound_of_distinctKeys hbefore hafter [] d hd
    rw [hpath]
    exact hdiffers
  have hpaths := documentChanges_paths before after
  constructor
  · intro hidentity location other hdiffers hplace halike
    obtain ⟨d, hd, hpath⟩ := hdiffers.reported []
    have hmem : shown (spell location) ∈ (documentChanges before after).map (·.path) := by
      rw [hpaths]
      exact List.mem_map.mpr ⟨d, hd, by rw [hpath]; rfl⟩
    obtain ⟨change, hchange, hshown⟩ := List.mem_map.mp hmem
    obtain ⟨only, -, honly⟩ := hidentity.denotes change hchange
    have hlocation := honly location ⟨hdiffers.place, hshown.symm⟩
    have hother := honly other
      ⟨hplace, ((shown_eq_iff (hrooted.spell_ne hdiffers)).mpr halike).trans hshown.symm⟩
    exact hother.trans hlocation.symm
  · intro hclear
    have hsame : ∀ d ∈ diffValues descend [] before after, ∀ other,
        (Place before other ∨ Place after other) →
          shown (spell other) = shown (spell d.path) → other = d.path := by
      intro d hd other hplace hshown
      exact hclear d.path other (hsound d hd) hplace
        ((shown_eq_iff (hrooted.spell_ne (hsound d hd))).mp hshown)
    constructor
    · rw [hpaths]
      refine List.Nodup.map_on ?_ ((noneTwice_of_distinctKeys hbefore hafter []).of_map _)
      intro d hd d' hd' hshown
      have hpath := hsame d' hd' d.path (hsound d hd).place hshown
      exact List.inj_on_of_nodup_map (noneTwice_of_distinctKeys hbefore hafter []) hd hd' hpath
    · intro change hchange
      have hmem : change.path ∈ (documentChanges before after).map (·.path) :=
        List.mem_map_of_mem hchange
      rw [hpaths] at hmem
      obtain ⟨d, hd, hshown⟩ := List.mem_map.mp hmem
      refine ⟨d.path, ⟨(hsound d hd).place, hshown⟩, ?_⟩
      rintro other ⟨hplace, hother⟩
      exact hsame d hd other hplace (hother.trans hshown.symm)

/-! Specs whose names hold no bracket. -/

/-- How a character of a name is written. -/
def escapeChar (c : Char) : List Char :=
  if c = '~' then ['~', '0'] else if c = '/' then ['~', '1'] else [c]

theorem escapeChar_append_cancel {c d : Char} {xs ys : List Char}
    (h : escapeChar c ++ xs = escapeChar d ++ ys) : c = d ∧ xs = ys := by
  unfold escapeChar at h
  split_ifs at h <;> simp_all <;> grind

theorem flatMap_escapeChar_injective {xs ys : List Char}
    (h : xs.flatMap escapeChar = ys.flatMap escapeChar) : xs = ys := by
  have hne : ∀ c, escapeChar c ≠ [] := by
    intro c
    unfold escapeChar
    split_ifs <;> simp
  induction xs generalizing ys with
  | nil =>
    cases ys with
    | nil => rfl
    | cons d ys => exact absurd (List.append_eq_nil_iff.mp h.symm).1 (hne d)
  | cons c xs ih =>
    cases ys with
    | nil => exact absurd (List.append_eq_nil_iff.mp h).1 (hne c)
    | cons d ys =>
      obtain ⟨rfl, hrest⟩ := escapeChar_append_cancel h
      rw [ih hrest]

theorem escape_injective {a b : String} (h : (escape a).toList = (escape b).toList) : a = b := by
  rw [escape, escape, String.toList_ofList, String.toList_ofList] at h
  exact String.toList_inj.mp (flatMap_escapeChar_injective h)

theorem bracket_notMem_escape {name : String} (h : '[' ∉ name.toList) :
    '[' ∉ (escape name).toList := by
  rw [escape, String.toList_ofList, List.mem_flatMap]
  rintro ⟨c, hc, hbracket⟩
  split_ifs at hbracket
  · simp at hbracket
  · simp at hbracket
  · rw [List.mem_singleton] at hbracket
    exact h (hbracket ▸ hc)

/-- Names without brackets, each with at most one item behind it. -/
inductive Ordinary : Location → Prop
  | nil : Ordinary []
  | key {name : String} {rest : Location} (h : '[' ∉ name.toList) (hrest : Ordinary rest) :
      Ordinary (.key name :: rest)
  | item {name id : String} {rest : Location} (h : '[' ∉ name.toList) (hrest : Ordinary rest) :
      Ordinary (.key name :: .item id :: rest)

theorem Ordinary.written_fst (h : Ordinary location) : (written location).1 = [] := by
  cases h <;> rfl

theorem eq_flatMap_of_head? {a : List Char} (h : ∀ c ∈ a.head?, c = '[') :
    ∃ texts : List (List Char), a = texts.flatMap fun text => '[' :: text := by
  cases a with
  | nil => exact ⟨[], rfl⟩
  | cons c a =>
    obtain rfl := h c rfl
    exact ⟨[a], by simp⟩

/-- A name without a bracket, and what stands behind it, are read back from their text. -/
theorem segment_injective {name name' : String} {a b : List Char} (h : '[' ∉ name.toList)
    (h' : '[' ∉ name'.toList) (ha : ∀ c ∈ a.head?, c = '[') (hb : ∀ c ∈ b.head?, c = '[')
    (hsame : (escape name).toList ++ a = (escape name').toList ++ b) : name = name' ∧ a = b := by
  obtain ⟨texts, rfl⟩ := eq_flatMap_of_head? ha
  obtain ⟨texts', rfl⟩ := eq_flatMap_of_head? hb
  have hnames := Separated.first_eq (bracket_notMem_escape h) (bracket_notMem_escape h') hsame
  rw [hnames] at hsame
  exact ⟨escape_injective hnames, List.append_cancel_left hsame⟩

theorem selector_injective {id id' : String} {a b : List Char}
    (h : "[id=".toList ++ (escape id).toList ++ "]".toList ++ a =
      "[id=".toList ++ (escape id').toList ++ "]".toList ++ b) (ha : a = []) (hb : b = []) :
    id = id' := by
  subst ha
  subst hb
  rw [List.append_nil, List.append_nil, List.append_cancel_right_eq,
    List.append_cancel_left_eq] at h
  exact escape_injective h

theorem Ordinary.written_injective (h : Ordinary location) (hother : Ordinary other)
    (hsame : written location = written other) : location = other := by
  induction h generalizing other with
  | nil =>
    cases hother with
    | nil => rfl
    | key _ _ => cases congrArg Prod.snd hsame
    | item _ _ => cases congrArg Prod.snd hsame
  | @key name rest hname hrest ih =>
    have hfirst := hrest.written_fst
    cases hother with
    | nil => cases congrArg Prod.snd hsame
    | @key name' rest' hname' hrest' =>
      have hfirst' := hrest'.written_fst
      obtain ⟨hhead, htail⟩ := List.cons.inj (congrArg Prod.snd hsame)
      rw [hfirst, hfirst'] at hhead
      obtain ⟨rfl, -⟩ := segment_injective hname hname' (by simp) (by simp) hhead
      rw [ih hrest' (Prod.ext (hfirst.trans hfirst'.symm) htail)]
    | @item name' id' rest' hname' hrest' =>
      obtain ⟨hhead, -⟩ := List.cons.inj (congrArg Prod.snd hsame)
      rw [hfirst] at hhead
      obtain ⟨-, hempty⟩ := segment_injective hname hname' (by simp) (by simp [written]) hhead
      simp [written] at hempty
  | @item name id rest hname hrest ih =>
    have hfirst := hrest.written_fst
    cases hother with
    | nil => cases congrArg Prod.snd hsame
    | @key name' rest' hname' hrest' =>
      have hfirst' := hrest'.written_fst
      obtain ⟨hhead, -⟩ := List.cons.inj (congrArg Prod.snd hsame)
      rw [hfirst'] at hhead
      obtain ⟨-, hempty⟩ := segment_injective hname hname' (by simp [written]) (by simp) hhead
      simp [written] at hempty
    | @item name' id' rest' hname' hrest' =>
      have hfirst' := hrest'.written_fst
      obtain ⟨hhead, htail⟩ := List.cons.inj (congrArg Prod.snd hsame)
      obtain ⟨rfl, hselector⟩ :=
        segment_injective hname hname' (by simp [written]) (by simp [written]) hhead
      obtain rfl := selector_injective hselector hfirst hfirst'
      rw [ih hrest' (Prod.ext (hfirst.trans hfirst'.symm) htail)]

/-- No name on the way to a place of the document holds a bracket. -/
def Bracketless (j : Json) : Prop :=
  ∀ location, Place j location → ∀ name, Step.key name ∈ location → '[' ∉ name.toList

/-- How a place goes on from a value. -/
def GoesOn : Json → Location → Prop
  | .arr _, location => location = [] ∨ ∃ id rest, location = .item id :: rest ∧ Ordinary rest
  | _, location => Ordinary location

theorem Place.goesOn {j : Json} (h : Place j location)
    (hnames : ∀ name, Step.key name ∈ location → '[' ∉ name.toList) : GoesOn j location := by
  induction h with
  | @here j => cases j <;> first | exact .inl rfl | exact .nil
  | @member members name value rest _ _ ih =>
    have hname := hnames name List.mem_cons_self
    have hrest := ih fun name hmem => hnames name (List.mem_cons_of_mem _ hmem)
    cases value with
    | arr items =>
      obtain rfl | ⟨id, rest, rfl, hrest⟩ := hrest
      · exact .key hname .nil
      · exact .item hname hrest
    | _ => exact .key hname hrest
  | @item items id value rest hids hfound _ ih =>
    have hrest := ih fun name hmem => hnames name (List.mem_cons_of_mem _ hmem)
    have hid := ((itemWithId_eq_some hids).mp hfound).2
    cases value with
    | obj members => exact .inr ⟨id, rest, rfl, hrest⟩
    | _ => cases hid

/-- Documents whose names hold no bracket are told apart everywhere. -/
theorem unambiguous_of_bracketless {old new : Json.Members} (hold : Bracketless (.obj old))
    (hnew : Bracketless (.obj new)) : Unambiguous (.obj old) (.obj new) := by
  have hordinary : ∀ location, Place (.obj old) location ∨ Place (.obj new) location →
      Ordinary location := by
    intro location hplace
    rcases hplace with hplace | hplace
    · exact hplace.goesOn (hold location hplace)
    · exact hplace.goesOn (hnew location hplace)
  intro location other hdiffers hother hsame
  exact (hordinary other hother).written_injective (hordinary location hdiffers.place) hsame

end ResearchOs.Spec
