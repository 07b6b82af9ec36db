import ResearchOs.Data.JsonText

/-! Every compact text of a value reads as the value: its members stand in any order, and its
numbers are any literals that denote them. -/
namespace JsonText

namespace Layout

mutual

/-- The texts of a value. -/
inductive Spells (L : Layout) (F : FloatText) : List Char → Json → Prop where
  | null : Spells L F "null".toList .null
  | bool (b : Bool) : Spells L F (if b then "true".toList else "false".toList) (.bool b)
  | number {t : NumberToken} {v : Json} (valid : t.Valid) (value : numberValue F t = some v) :
      Spells L F t.render v
  | str (s : String) : Spells L F (L.quote s) (.str s)
  | arrNil : Spells L F ['[', ']'] (.arr [])
  | arr {text : List Char} {vs : List Json} (items : SpellsItems L F text vs) :
      Spells L F ('[' :: text) (.arr vs)
  | objNil : Spells L F ['{', '}'] (.obj [])
  | obj {text : List Char} {ms : Json.Members} (members : SpellsMembers L F text ms) :
      Spells L F ('{' :: text) (.obj (Json.ofPairs ms))

/-- The texts of some items, with the closing bracket. -/
inductive SpellsItems (L : Layout) (F : FloatText) : List Char → List Json → Prop where
  | last {text : List Char} {v : Json} (value : Spells L F text v) :
      SpellsItems L F (text ++ [']']) [v]
  | cons {text texts : List Char} {v : Json} {vs : List Json} (value : Spells L F text v)
      (items : SpellsItems L F texts vs) :
      SpellsItems L F (text ++ ',' :: (L.gap ++ texts)) (v :: vs)

/-- The texts of some members as they are listed, with the closing brace. -/
inductive SpellsMembers (L : Layout) (F : FloatText) : List Char → Json.Members → Prop where
  | last {text : List Char} {k : String} {v : Json} (value : Spells L F text v) :
      SpellsMembers L F (L.quote k ++ ':' :: (L.gap ++ (text ++ ['}']))) [(k, v)]
  | cons {text texts : List Char} {k : String} {v : Json} {ms : Json.Members}
      (value : Spells L F text v) (members : SpellsMembers L F texts ms) :
      SpellsMembers L F (L.quote k ++ ':' :: (L.gap ++ (text ++ ',' :: (L.gap ++ texts))))
        ((k, v) :: ms)

end

variable {L : Layout} {F : FloatText} {text texts rest : List Char} {v : Json} {vs : List Json}
  {ms : Json.Members}

theorem Spells.leads (h : Spells L F text v) (rest : List Char) : Leads (text ++ rest) := by
  cases h with
  | null => exact leads_cons
  | bool b => cases b <;> exact leads_cons
  | number valid value => exact valid.leads rest
  | str s => exact leads_cons
  | arrNil => exact leads_cons
  | arr items => exact leads_cons
  | objNil => exact leads_cons
  | obj members => exact leads_cons

theorem Spells.length_pos (h : Spells L F text v) : 0 < text.length := by
  obtain ⟨c, cs, hcons, _⟩ := h.leads []
  rw [List.append_nil] at hcons
  simp [hcons]

theorem SpellsItems.leads (h : SpellsItems L F text vs) (rest : List Char) :
    Leads (text ++ rest) := by
  cases h with
  | last value =>
    rw [List.append_assoc]
    exact value.leads _
  | cons value items =>
    rw [List.append_assoc]
    exact value.leads _

theorem SpellsMembers.leads (h : SpellsMembers L F text ms) (rest : List Char) :
    Leads (text ++ rest) := by
  cases h with
  | last value =>
    rw [List.append_assoc]
    exact L.quote_leads _ _
  | cons value members =>
    rw [List.append_assoc]
    exact L.quote_leads _ _

/-- The blanks before a text are skipped. -/
theorem skip_gap_leads (h : Leads texts) : skipWhitespace (L.gap ++ texts) = texts :=
  (L.skip_gap _).trans h.skip

/-! The reader finds a value in `n` steps when its text has at most `n` characters. -/

def ScansValue (L : Layout) (F : FloatText) (n : Nat) : Prop :=
  ∀ (text : List Char) (v : Json) (rest : List Char), Spells L F text v → text.length ≤ n →
    Stops rest → scanValue F n (text ++ rest) = some (v, rest)

def ScansItems (L : Layout) (F : FloatText) (n : Nat) : Prop :=
  ∀ (text : List Char) (vs : List Json) (rest : List Char), SpellsItems L F text vs →
    text.length ≤ n → scanItems F n (text ++ rest) = some (vs, rest)

def ScansMembers (L : Layout) (F : FloatText) (n : Nat) : Prop :=
  ∀ (text : List Char) (ms : Json.Members) (rest : List Char), SpellsMembers L F text ms →
    text.length ≤ n → scanMembers F n (text ++ rest) = some (ms, rest)

theorem stops_cons {c : Char} (h : c = ',' ∨ c = ']' ∨ c = '}') (rest : List Char) :
    Stops (c :: rest) := by
  intro d hd
  obtain rfl : c = d := by simpa using hd
  exact h

theorem scansValue_succ {n : Nat} (hitems : ScansItems L F n) (hmembers : ScansMembers L F n) :
    ScansValue L F (n + 1) := by
  intro text v rest h hlength hrest
  cases h with
  | null => rfl
  | bool b => cases b <;> rfl
  | number valid value => exact scanValue_number valid value n hrest
  | str s =>
    obtain ⟨cs, hcs, hscan⟩ := L.scanString_quote s rest
    rw [hcs, scanValue, hscan]
    rfl
  | arrNil => rfl
  | arr items =>
    have hread := hitems _ _ rest items (by simpa using hlength)
    rw [List.cons_append, scanValue_arr (items.leads rest), hread]
    rfl
  | objNil => rfl
  | obj members =>
    have hread := hmembers _ _ rest members (by simpa using hlength)
    rw [List.cons_append, scanValue_obj (members.leads rest), hread]
    rfl

theorem scansItems_succ {n : Nat} (hvalue : ScansValue L F n) (hitems : ScansItems L F n) :
    ScansItems L F (n + 1) := by
  intro text vs rest h hlength
  have hbracket : isWhitespace ']' = false := by decide
  have hcomma : isWhitespace ',' = false := by decide
  cases h with
  | @last text v value =>
    simp only [List.length_append, List.length_singleton] at hlength
    have hread := hvalue text v (']' :: rest) value (by omega) (stops_cons (.inr (.inl rfl)) rest)
    rw [List.append_assoc, List.singleton_append, scanItems, hread]
    simp [skipWhitespace_cons hbracket]
  | @cons text texts v vs value items =>
    simp only [List.length_append, List.length_cons] at hlength
    have hread := hvalue text v (',' :: (L.gap ++ (texts ++ rest))) value (by omega)
      (stops_cons (.inl rfl) _)
    have htexts := hitems texts vs rest items (by omega)
    have hskip : skipWhitespace (L.gap ++ (texts ++ rest)) = texts ++ rest :=
      skip_gap_leads (items.leads rest)
    simp only [List.append_assoc, List.cons_append]
    rw [scanItems, hread]
    simp [skipWhitespace_cons hcomma, hskip, htexts]

theorem scansMembers_succ {n : Nat} (hvalue : ScansValue L F n) (hmembers : ScansMembers L F n) :
    ScansMembers L F (n + 1) := by
  intro text ms rest h hlength
  have hbrace : isWhitespace '}' = false := by decide
  have hcomma : isWhitespace ',' = false := by decide
  have hcolon : ∀ cs, skipWhitespace (':' :: cs) = ':' :: cs :=
    fun cs => skipWhitespace_cons (by decide)
  cases h with
  | @last text k v value =>
    simp only [List.length_append, List.length_cons, List.length_nil] at hlength
    have hread := hvalue text v ('}' :: rest) value (by omega) (stops_cons (.inr (.inr rfl)) rest)
    have hskip : skipWhitespace (L.gap ++ (text ++ '}' :: rest)) = text ++ '}' :: rest :=
      skip_gap_leads (value.leads _)
    obtain ⟨cs, hcs, hscan⟩ := L.scanString_quote k (':' :: (L.gap ++ (text ++ '}' :: rest)))
    simp only [List.append_assoc, List.cons_append, List.nil_append]
    rw [hcs, scanMembers, hscan]
    simp only [Option.bind_eq_bind, Option.bind_some, hcolon, hskip, hread]
    simp [skipWhitespace_cons hbrace]
  | @cons text texts k v ms value members =>
    simp only [List.length_append, List.length_cons] at hlength
    have hread := hvalue text v (',' :: (L.gap ++ (texts ++ rest))) value (by omega)
      (stops_cons (.inl rfl) _)
    have htexts := hmembers texts ms rest members (by omega)
    have hskip : skipWhitespace (L.gap ++ (text ++ ',' :: (L.gap ++ (texts ++ rest)))) =
        text ++ ',' :: (L.gap ++ (texts ++ rest)) := skip_gap_leads (value.leads _)
    have hnext : skipWhitespace (L.gap ++ (texts ++ rest)) = texts ++ rest :=
      skip_gap_leads (members.leads rest)
    obtain ⟨cs, hcs, hscan⟩ :=
      L.scanString_quote k (':' :: (L.gap ++ (text ++ ',' :: (L.gap ++ (texts ++ rest)))))
    simp only [List.append_assoc, List.cons_append]
    rw [hcs, scanMembers, hscan]
    simp only [Option.bind_eq_bind, Option.bind_some, hcolon, hskip, hread]
    simp [skipWhitespace_cons hcomma, hnext, htexts]

theorem scans_texts (n : Nat) : ScansValue L F n ∧ ScansItems L F n ∧ ScansMembers L F n := by
  induction n with
  | zero =>
    refine ⟨?_, ?_, ?_⟩
    · intro text v rest h hlength
      have hpos := h.length_pos
      omega
    · intro text vs rest h hlength
      cases h <;> simp at hlength
    · intro text ms rest h hlength
      cases h <;> simp at hlength
  | succ n ih =>
    obtain ⟨hvalue, hitems, hmembers⟩ := ih
    exact ⟨scansValue_succ hitems hmembers, scansItems_succ hvalue hitems,
      scansMembers_succ hvalue hmembers⟩

/-- A text of a value is read as the value. -/
theorem Spells.loads (h : Spells L F text v) : loads F (String.ofList text) = some v := by
  have hread := (scans_texts (L := L) (F := F) (text.length + 1)).1 text v [] h (by omega) (by simp [Stops])
  have hlead := h.leads []
  rw [List.append_nil] at hread hlead
  have hend : skipWhitespace [] = [] := rfl
  simp [JsonText.loads, hlead.skip, hread, hend]

end Layout

end JsonText
