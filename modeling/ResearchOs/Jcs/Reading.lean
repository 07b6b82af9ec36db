import ResearchOs.Data.JsonEq
import ResearchOs.Data.JsonSpelled
import ResearchOs.Jcs.Canonical

/-! What the text of `canonical_json` reads as, and which documents share one text. -/
namespace ResearchOs.Jcs

open Decimals (Decimal tokenValue)
open JsonText (FloatText NumberToken compact)

/-- The number is printed without a point and without an exponent. -/
def isPlainInteger (q : ℚ) : Bool :=
  decide (q.den = 1 ∧ q.num.natAbs < 1000000000000000000000)

/-- A float that is printed as an integer comes back as that integer. -/
def rereadFloat (F : FloatText) (x : Binary64) : Json :=
  if isZero x then .int 0
  else if isPlainInteger (tokenValue (F.token x)) then .int (tokenValue (F.token x)).num
  else .float x

mutual

/-- The document that the text of a document reads as. -/
def reread (F : FloatText) : Json → Json
  | .float x => rereadFloat F x
  | .arr items => .arr (rereadItems F items)
  | .obj members => .obj (rereadMembers F members)
  | value => value

def rereadItems (F : FloatText) : List Json → List Json
  | [] => []
  | item :: items => reread F item :: rereadItems F items

def rereadMembers (F : FloatText) : Json.Members → Json.Members
  | [] => []
  | (key, value) :: members => (key, reread F value) :: rereadMembers F members

end

/-- The digits of a float that are printed are those of its number, and every literal of that
number is read as the float. -/
structure Printed (F : FloatText) (x : Binary64) : Prop where
  repr : ∃ d : Decimal, floatRepr F x = d.pythonRepr
  reads : ∀ t : NumberToken, t.Valid → t.isFloat = true →
    tokenValue t = tokenValue (F.token x) → F.parse t = x

mutual

/-- The floats of a document that are not zero. -/
def floats : Json → List Binary64
  | .float x => if isZero x then [] else [x]
  | .arr items => itemFloats items
  | .obj members => memberFloats members
  | _ => []

def itemFloats : List Json → List Binary64
  | [] => []
  | item :: items => floats item ++ itemFloats items

def memberFloats : Json.Members → List Binary64
  | [] => []
  | (_, value) :: members => floats value ++ memberFloats members

end

/-- The text of a float. -/
def spellFloat (F : FloatText) (x : Binary64) : List Char :=
  if isZero x then ['0'] else serializeRendered (floatRepr F x)

mutual

/-- The text of a value, whether or not its numbers are in the exact range. -/
def spell (F : FloatText) : Json → List Char
  | .null => "null".toList
  | .bool b => if b then "true".toList else "false".toList
  | .str s => quoteString s
  | .int n => (JsonText.integerToken n).render
  | .float x => spellFloat F x
  | .arr items => '[' :: (commaJoin (spellItems F items) ++ [']'])
  | .obj members =>
    '{' :: (commaJoin ((SortBy.sortBy (fun member => utf16 member.1)
      (spellMembers F members)).map memberText) ++ ['}'])

def spellItems (F : FloatText) : List Json → List (List Char)
  | [] => []
  | item :: items => spell F item :: spellItems F items

def spellMembers (F : FloatText) : Json.Members → List (String × List Char)
  | [] => []
  | (key, value) :: members => (key, spell F value) :: spellMembers F members

end

variable {F : FloatText} {x : Binary64}

/-! The text of a value in the exact range. -/

theorem serializeBinary64_ok (h : x.isFinite = true) :
    serializeBinary64 (floatRepr F) x = .ok (spellFloat F x) := by
  have hletter : 'n' ∉ floatRepr F x := not_mem_render (F.valid x h)
  unfold serializeBinary64 spellFloat
  by_cases hzero : isZero x = true
  · simp [h, hzero]
  · simp [h, hzero, hletter]

/-- Each member with its text. -/
theorem sortMembers_ok (members : List (String × List Char)) :
    sortMembers (members.map fun member => (member.1, .ok member.2)) =
      .ok (SortBy.sortBy (fun member => utf16 member.1) members) := by
  have hsort := List.map_insertionSort (r := fun a b => utf16 a.1 ≤ utf16 b.1)
    (s := fun a b => utf16 a.1 ≤ utf16 b.1)
    (fun member : String × List Char => (member.1, (.ok member.2 : Except String (List Char))))
    members (fun _ _ _ _ => Iff.rfl)
  rw [sortMembers, SortBy.sortBy, ← hsort]
  exact Fold.mapM_eq_ok.mpr (List.forall₂_map_left_iff.mpr (List.forall₂_same.mpr fun _ _ => rfl))

mutual

theorem canonicalJson_spell : ∀ value : Json, isSafe value = true →
    canonicalJson F value = .ok (spell F value)
  | .null, _ => by rw [canonicalJson, spell]
  | .bool b, _ => by rw [canonicalJson, spell]
  | .str s, _ => by rw [canonicalJson, spell]
  | .int n, h => by
    rw [isSafe, decide_eq_true_eq] at h
    rw [canonicalJson, if_pos h, spell]
  | .float x, h => by
    rw [canonicalJson, spell]
    exact serializeBinary64_ok h
  | .arr items, h => by
    have htexts := serializeArray_spell items h
    rw [canonicalJson, htexts, spell]
    rfl
  | .obj members, h => by
    have htexts := serializeMembers_spell members h
    rw [canonicalJson, htexts, sortMembers_ok, spell]
    rfl

theorem serializeArray_spell : ∀ items : List Json, areSafeItems items = true →
    serializeArray F items = .ok (spellItems F items)
  | [], _ => by rw [serializeArray, spellItems]
  | item :: items, h => by
    rw [areSafeItems, Bool.and_eq_true] at h
    rw [serializeArray, canonicalJson_spell item h.1, serializeArray_spell items h.2, spellItems]
    rfl

theorem serializeMembers_spell : ∀ members : Json.Members, areSafeMembers members = true →
    serializeMembers F members =
      (spellMembers F members).map fun member => (member.1, .ok member.2)
  | [], _ => by rw [serializeMembers, spellMembers, List.map_nil]
  | (key, value) :: members, h => by
    rw [areSafeMembers, Bool.and_eq_true] at h
    rw [serializeMembers, canonicalJson_spell value h.1, serializeMembers_spell members h.2,
      spellMembers, List.map_cons]

end
/-! The number that a float is printed as. -/

theorem tokenValue_eq_value (hfinite : x.isFinite = true) {d : Decimal}
    (hrepr : floatRepr F x = d.pythonRepr) : tokenValue (F.token x) = d.value := by
  have hvalue := Decimals.numeralValue_render (F.valid x hfinite)
  have hsame : (F.token x).render = d.pythonRepr := hrepr
  rw [hsame, d.numeralValue_pythonRepr] at hvalue
  exact (Option.some.inj hvalue).symm

/-- The integer of a decimal whose digits end before the point. -/
theorem integerToken_whole (d : Decimal) :
    (JsonText.integerToken (d.signedCoefficient * 10 ^ (d.point - d.digits.length).toNat)).render =
      d.sign ++ (d.digits ++ Decimal.zeros (d.point - d.digits.length)) := by
  have hpos := d.coefficient_pos
  have habs : (d.signedCoefficient * 10 ^ (d.point - d.digits.length).toNat).natAbs =
      10 ^ (d.point - d.digits.length).toNat * d.coefficient := by
    rw [Int.natAbs_mul, d.natAbs_signedCoefficient, Int.natAbs_pow, Nat.mul_comm]
    rfl
  have hdigits : Nat.toDigits 10 (10 ^ (d.point - d.digits.length).toNat * d.coefficient) =
      d.digits ++ Decimal.zeros (d.point - d.digits.length) := by
    obtain ⟨c, cs, hcs, hc, hdigit, hall⟩ := d.valid_integer (Decimal.zeros (d.point - d.digits.length))
      (Decimal.isDigit_zeros _) d.digits.length d.digits_pos
    rw [List.take_length] at hcs
    have hvalue : Nat.ofDigitChars 10 (c :: cs) 0 =
        10 ^ (d.point - d.digits.length).toNat * d.coefficient := by
      rw [← hcs, Nat.ofDigitChars_append, Decimal.zeros, Nat.ofDigitChars_replicate_zero]
      rfl
    rw [← hvalue, hcs]
    exact Decimals.toDigits_ofDigitChars (List.forall_mem_cons.mpr ⟨hdigit, hall⟩) hc
  have hsign : decide (d.signedCoefficient * 10 ^ (d.point - d.digits.length).toNat < 0) =
      d.negative := by
    have hscale : (0 : Int) < 10 ^ (d.point - d.digits.length).toNat := by positivity
    unfold Decimal.signedCoefficient
    cases hnegative : d.negative with
    | false =>
      have hproduct : (0 : Int) < d.coefficient * 10 ^ (d.point - d.digits.length).toNat :=
        mul_pos (by omega) hscale
      rw [if_neg (by decide)]
      exact decide_eq_false (by omega)
    | true =>
      have hproduct : (0 : Int) < d.coefficient * 10 ^ (d.point - d.digits.length).toNat :=
        mul_pos (by omega) hscale
      rw [if_pos rfl, neg_mul]
      exact decide_eq_true (by omega)
  rw [Decimal.render_of_negative (d := d) hsign]
  simp only [JsonText.integerToken, habs, hdigits, NumberToken.renderFraction,
    NumberToken.renderExponent, List.append_nil]

/-- Up to twenty-one digits such an integer is plain. -/
theorem isPlainInteger_whole {d : Decimal} (h : (d.digits.length : Int) ≤ d.point) :
    isPlainInteger d.value = decide (d.point ≤ 21) := by
  have hpositive := d.digits_pos
  have hvalue := d.value_whole h
  have hnum : d.value.num = d.signedCoefficient * 10 ^ (d.point - d.digits.length).toNat := by
    rw [hvalue, Rat.num_intCast]
  have hden : d.value.den = 1 := by rw [hvalue, Rat.den_intCast]
  have habs : d.value.num.natAbs = d.coefficient * 10 ^ (d.point - d.digits.length).toNat := by
    rw [hnum, Int.natAbs_mul, d.natAbs_signedCoefficient, Int.natAbs_pow]
    rfl
  have hlimit : (1000000000000000000000 : Nat) = 10 ^ 21 := by norm_num
  unfold isPlainInteger
  by_cases hpoint : d.point ≤ 21
  · have hlt : d.value.num.natAbs < 1000000000000000000000 := by
      rw [habs, hlimit]
      calc d.coefficient * 10 ^ (d.point - d.digits.length).toNat
          < 10 ^ d.digits.length * 10 ^ (d.point - d.digits.length).toNat :=
            Nat.mul_lt_mul_of_pos_right d.coefficient_lt (by positivity)
        _ = 10 ^ (d.digits.length + (d.point - d.digits.length).toNat) := (pow_add _ _ _).symm
        _ ≤ 10 ^ 21 := Nat.pow_le_pow_right (by decide) (by omega)
    rw [decide_eq_true ⟨hden, hlt⟩, decide_eq_true hpoint]
  · have hle : 1000000000000000000000 ≤ d.value.num.natAbs := by
      rw [habs, hlimit]
      calc 10 ^ 21 ≤ 10 ^ (d.digits.length - 1 + (d.point - d.digits.length).toNat) :=
            Nat.pow_le_pow_right (by decide) (by omega)
        _ = 10 ^ (d.digits.length - 1) * 10 ^ (d.point - d.digits.length).toNat := pow_add _ _ _
        _ ≤ d.coefficient * 10 ^ (d.point - d.digits.length).toNat :=
            Nat.mul_le_mul_right _ d.le_coefficient
    rw [decide_eq_false fun hplain => absurd hplain.2 (not_lt.mpr hle), decide_eq_false hpoint]

/-- The text of a decimal is that of its integer, or a literal with a point or an exponent. -/
theorem ecmaScript_literal (d : Decimal) :
    (isPlainInteger d.value = true ∧ d.ecmaScript = (JsonText.integerToken d.value.num).render) ∨
      (isPlainInteger d.value = false ∧ ∃ t : NumberToken, t.Valid ∧ t.isFloat = true ∧
        tokenValue t = d.value ∧ d.ecmaScript = t.render) := by
  have hsplits : d.point < d.digits.length → isPlainInteger d.value = false :=
    fun hpoint => decide_eq_false fun hplain => d.value_den_ne_one hpoint hplain.1
  unfold Decimal.ecmaScript
  split_ifs with hwhole hsplit hsmall
  · left
    rw [isPlainInteger_whole hwhole.1, decide_eq_true hwhole.2, d.value_whole hwhole.1,
      Rat.num_intCast, integerToken_whole]
    exact ⟨rfl, rfl⟩
  · have hlength : d.point < d.digits.length := by omega
    refine .inr ⟨hsplits hlength, Decimal.splitToken d, Decimal.splitToken_valid hsplit.1 hlength, rfl,
      Decimal.splitToken_value hsplit.1 hlength, ?_⟩
    rw [Decimal.render_of_negative (d := d) rfl]
    simp [Decimal.splitToken, NumberToken.renderFraction, NumberToken.renderExponent]
  · have hpositive := d.digits_pos
    refine .inr ⟨hsplits (by omega), Decimal.smallToken d, Decimal.smallToken_valid, rfl,
      Decimal.smallToken_value hsmall.2, ?_⟩
    rw [Decimal.render_of_negative (d := d) rfl]
    simp [Decimal.smallToken, NumberToken.renderFraction, NumberToken.renderExponent]
  · refine .inr ⟨?_, Decimal.exponentToken d d.exponentDigits,
      Decimal.exponentToken_valid d.exponentDigits_ne_nil d.isDigit_exponentDigits, ?_,
      Decimal.exponentToken_value Nat.ofDigitChars_ten_toDigits,
      (Decimal.render_exponentToken d _).symm⟩
    · by_cases hpoint : d.point < d.digits.length
      · exact hsplits hpoint
      · rw [isPlainInteger_whole (not_lt.mp hpoint)]
        exact decide_eq_false (by omega)
    · rw [NumberToken.isFloat, Decimal.exponentToken]
      simp

theorem spells_int {n : Int} (h : n.natAbs < 1000000000000000000000) :
    compact.Spells F (JsonText.integerToken n).render (.int n) := by
  have hlength : (Nat.toDigits 10 n.natAbs).length ≤ 21 :=
    (Nat.length_toDigits_le_iff (by decide) (by decide)).mpr h
  refine .number (JsonText.integerToken_valid n) (JsonText.numberValue_integerToken ?_)
  refine decide_eq_true ?_
  unfold JsonText.maxStrDigits
  omega

theorem spells_float (hfinite : x.isFinite = true) (hprinted : isZero x = false → Printed F x) :
    compact.Spells F (spellFloat F x) (rereadFloat F x) := by
  unfold spellFloat rereadFloat
  by_cases hzero : isZero x = true
  · rw [if_pos hzero, if_pos hzero]
    exact spells_int (n := 0) (by decide)
  · obtain ⟨⟨d, hrepr⟩, hreads⟩ := hprinted (Bool.eq_false_iff.mpr hzero)
    have hvalue := tokenValue_eq_value hfinite hrepr
    rw [if_neg hzero, if_neg hzero, hrepr, serializeRendered_pythonRepr, hvalue]
    obtain ⟨hplain, htext⟩ | ⟨hplain, t, hvalid, hfloat, htoken, htext⟩ := ecmaScript_literal d
    · rw [if_pos hplain, htext]
      exact spells_int (of_decide_eq_true hplain).2
    · rw [if_neg (by rw [hplain]; decide), htext]
      refine .number hvalid ?_
      rw [JsonText.numberValue, if_pos hfloat, hreads t hvalid hfloat (htoken.trans hvalue.symm)]

/-! The text of a document as a text of what it reads as. -/

theorem spellsItems {texts : List (List Char)} {values : List Json}
    (h : List.Forall₂ (compact.Spells F) texts values) (hne : values ≠ []) :
    compact.SpellsItems F (commaJoin texts ++ [']']) values := by
  induction h with
  | nil => exact absurd rfl hne
  | @cons text value texts values hvalue hrest ih =>
    cases hrest with
    | nil => exact .last hvalue
    | cons hnext hrest =>
      have hitems := ih (List.cons_ne_nil _ _)
      have hjoined := JsonText.Layout.SpellsItems.cons hvalue hitems
      simpa [commaJoin, compact] using hjoined

theorem spellsMembers {texts : List (String × List Char)} {members : Json.Members}
    (h : List.Forall₂ (fun text member => text.1 = member.1 ∧ compact.Spells F text.2 member.2)
      texts members) (hne : members ≠ []) :
    compact.SpellsMembers F (commaJoin (texts.map memberText) ++ ['}']) members := by
  induction h with
  | nil => exact absurd rfl hne
  | @cons text member texts members hmember hrest ih =>
    obtain ⟨key, spelled⟩ := text
    obtain ⟨_, value⟩ := member
    obtain ⟨rfl, hvalue⟩ := hmember
    cases hrest with
    | nil =>
      have hlast := JsonText.Layout.SpellsMembers.last (k := key) hvalue
      simpa [commaJoin, compact, memberText, quoteString, JsonText.Layout.quote] using hlast
    | cons hnext hrest =>
      have hmembers := ih (List.cons_ne_nil _ _)
      have hjoined := JsonText.Layout.SpellsMembers.cons (k := key) hvalue hmembers
      simpa [commaJoin, compact, memberText, quoteString, JsonText.Layout.quote] using hjoined

theorem spellMembers_eq (members : Json.Members) :
    spellMembers F members = members.map fun member => (member.1, spell F member.2) := by
  induction members with
  | nil => rw [spellMembers, List.map_nil]
  | cons member members ih => rw [spellMembers, ih, List.map_cons]

theorem rereadMembers_eq (members : Json.Members) :
    rereadMembers F members = members.map fun member => (member.1, reread F member.2) := by
  induction members with
  | nil => rw [rereadMembers, List.map_nil]
  | cons member members ih => rw [rereadMembers, ih, List.map_cons]

theorem spellItems_eq (items : List Json) : spellItems F items = items.map (spell F) := by
  induction items with
  | nil => rw [spellItems, List.map_nil]
  | cons item items ih => rw [spellItems, ih, List.map_cons]

theorem rereadItems_eq (items : List Json) : rereadItems F items = items.map (reread F) := by
  induction items with
  | nil => rw [rereadItems, List.map_nil]
  | cons item items ih => rw [rereadItems, ih, List.map_cons]

/-- Members in any order spell the map of what they read as. -/
theorem spells_listed {members : Json.Members}
    (h : ∀ member ∈ members, compact.Spells F (spell F member.2) (reread F member.2)) :
    compact.Spells F ('{' :: (commaJoin ((members.map
      fun member => (member.1, spell F member.2)).map memberText) ++ ['}']))
      (.obj (Json.ofPairs (members.map fun member => (member.1, reread F member.2)))) := by
  cases members with
  | nil => exact .objNil
  | cons member members =>
    refine .obj (spellsMembers ?_ (List.cons_ne_nil _ _))
    exact List.forall₂_map_left_iff.mpr (List.forall₂_map_right_iff.mpr
      (List.forall₂_same.mpr fun member hmember => ⟨rfl, h member hmember⟩))

mutual

/-- The text of a document is a text of what it reads as. -/
theorem spells_reread : ∀ value : Json, value.canonical = true → isSafe value = true →
    (∀ x ∈ floats value, Printed F x) → compact.Spells F (spell F value) (reread F value)
  | .null, _, _, _ => .null
  | .bool b, _, _, _ => by
    rw [spell, reread]
    · exact .bool b
    all_goals exact fun _ h => nomatch h
  | .str s, _, _, _ => .str s
  | .int n, _, hsafe, _ => by
    rw [isSafe, decide_eq_true_eq] at hsafe
    unfold safeInteger at hsafe
    exact spells_int (by omega)
  | .float x, _, hsafe, hprinted => by
    refine spells_float hsafe fun hzero => hprinted x ?_
    rw [floats, hzero]
    exact List.mem_singleton_self x
  | .arr items, hcanonical, hsafe, hprinted => by
    have hitems := spells_items items hcanonical hsafe hprinted
    rw [spell, reread, spellItems_eq, rereadItems_eq]
    cases items with
    | nil => exact .arrNil
    | cons item items =>
      refine .arr (spellsItems ?_ (List.cons_ne_nil _ _))
      exact List.forall₂_map_left_iff.mpr (List.forall₂_map_right_iff.mpr
        (List.forall₂_same.mpr hitems))
  | .obj members, hcanonical, hsafe, hprinted => by
    rw [Json.canonical, Bool.and_eq_true, decide_eq_true_eq] at hcanonical
    have hmembers := spells_members members hcanonical.2 hsafe hprinted
    have hsort := List.map_insertionSort (r := fun a b => utf16 a.1 ≤ utf16 b.1)
      (s := fun a b => utf16 a.1 ≤ utf16 b.1)
      (fun member : String × Json => (member.1, spell F member.2)) members (fun _ _ _ _ => Iff.rfl)
    have hperm := SortBy.sortBy_perm (fun member : String × Json => utf16 member.1) members
    have hmap : Json.ofPairs ((SortBy.sortBy (fun member => utf16 member.1) members).map
        fun member => (member.1, reread F member.2)) = rereadMembers F members := by
      rw [rereadMembers_eq]
      refine Json.ofPairs_of_perm ?_ (hperm.map _)
      rw [Json.Sorted, List.map_map]
      exact hcanonical.1
    rw [spell, reread, spellMembers_eq, SortBy.sortBy, ← hsort, ← hmap]
    exact spells_listed fun member hmember => hmembers member (hperm.mem_iff.mp hmember)

theorem spells_items : ∀ items : List Json, Json.canonicalItems items = true →
    areSafeItems items = true → (∀ x ∈ itemFloats items, Printed F x) →
    ∀ item ∈ items, compact.Spells F (spell F item) (reread F item)
  | [], _, _, _ => fun _ hitem => absurd hitem List.not_mem_nil
  | item :: items, hcanonical, hsafe, hprinted => by
    rw [Json.canonicalItems, Bool.and_eq_true] at hcanonical
    rw [areSafeItems, Bool.and_eq_true] at hsafe
    rw [itemFloats] at hprinted
    exact List.forall_mem_cons.mpr
      ⟨spells_reread item hcanonical.1 hsafe.1 fun x hx => hprinted x (List.mem_append_left _ hx),
        spells_items items hcanonical.2 hsafe.2 fun x hx => hprinted x (List.mem_append_right _ hx)⟩

theorem spells_members : ∀ members : Json.Members, Json.canonicalMembers members = true →
    areSafeMembers members = true → (∀ x ∈ memberFloats members, Printed F x) →
    ∀ member ∈ members, compact.Spells F (spell F member.2) (reread F member.2)
  | [], _, _, _ => fun _ hmember => absurd hmember List.not_mem_nil
  | (key, value) :: members, hcanonical, hsafe, hprinted => by
    rw [Json.canonicalMembers, Bool.and_eq_true] at hcanonical
    rw [areSafeMembers, Bool.and_eq_true] at hsafe
    rw [memberFloats] at hprinted
    exact List.forall_mem_cons.mpr
      ⟨spells_reread value hcanonical.1 hsafe.1 fun x hx => hprinted x (List.mem_append_left _ hx),
        spells_members members hcanonical.2 hsafe.2
          fun x hx => hprinted x (List.mem_append_right _ hx)⟩

end

/-! What is read again is written with the same text. -/

theorem spell_rereadFloat (hfinite : x.isFinite = true) (hprinted : isZero x = false → Printed F x) :
    spell F (rereadFloat F x) = spellFloat F x := by
  unfold rereadFloat spellFloat
  by_cases hzero : isZero x = true
  · rw [if_pos hzero, if_pos hzero]
    rfl
  · obtain ⟨⟨d, hrepr⟩, -⟩ := hprinted (Bool.eq_false_iff.mpr hzero)
    have hvalue := tokenValue_eq_value hfinite hrepr
    rw [if_neg hzero, if_neg hzero]
    obtain ⟨hplain, htext⟩ | ⟨hplain, -⟩ := ecmaScript_literal d
    · rw [hvalue, if_pos hplain, spell, hrepr, serializeRendered_pythonRepr, htext]
    · rw [hvalue, if_neg (by rw [hplain]; decide), spell, spellFloat, if_neg hzero]

mutual

theorem spell_reread : ∀ value : Json, isSafe value = true →
    (∀ x ∈ floats value, Printed F x) → spell F (reread F value) = spell F value
  | .null, _, _ => rfl
  | .bool _, _, _ => rfl
  | .str _, _, _ => rfl
  | .int _, _, _ => rfl
  | .float x, hsafe, hprinted => by
    refine spell_rereadFloat hsafe fun hzero => hprinted x ?_
    rw [floats, hzero]
    exact List.mem_singleton_self x
  | .arr items, hsafe, hprinted => by
    rw [reread, spell, spell, spell_rereadItems items hsafe hprinted]
  | .obj members, hsafe, hprinted => by
    rw [reread, spell, spell, spell_rereadMembers members hsafe hprinted]

theorem spell_rereadItems : ∀ items : List Json, areSafeItems items = true →
    (∀ x ∈ itemFloats items, Printed F x) →
    spellItems F (rereadItems F items) = spellItems F items
  | [], _, _ => rfl
  | item :: items, hsafe, hprinted => by
    rw [areSafeItems, Bool.and_eq_true] at hsafe
    rw [itemFloats] at hprinted
    rw [rereadItems, spellItems, spellItems,
      spell_reread item hsafe.1 fun x hx => hprinted x (List.mem_append_left _ hx),
      spell_rereadItems items hsafe.2 fun x hx => hprinted x (List.mem_append_right _ hx)]

theorem spell_rereadMembers : ∀ members : Json.Members, areSafeMembers members = true →
    (∀ x ∈ memberFloats members, Printed F x) →
    spellMembers F (rereadMembers F members) = spellMembers F members
  | [], _, _ => rfl
  | (key, value) :: members, hsafe, hprinted => by
    rw [areSafeMembers, Bool.and_eq_true] at hsafe
    rw [memberFloats] at hprinted
    rw [rereadMembers, spellMembers, spellMembers,
      spell_reread value hsafe.1 fun x hx => hprinted x (List.mem_append_left _ hx),
      spell_rereadMembers members hsafe.2 fun x hx => hprinted x (List.mem_append_right _ hx)]

end

/-- A float that comes back as an integer comes back in the exact range. -/
def comesBackExact (F : FloatText) (x : Binary64) : Bool :=
  decide (isPlainInteger (tokenValue (F.token x)) = true →
    (tokenValue (F.token x)).num.natAbs ≤ 9007199254740991)

theorem isSafe_rereadFloat (hfinite : x.isFinite = true) :
    isSafe (rereadFloat F x) = true ↔ (isZero x = false → comesBackExact F x = true) := by
  unfold rereadFloat comesBackExact
  by_cases hzero : isZero x = true
  · rw [if_pos hzero, hzero]
    exact iff_of_true rfl fun h => nomatch h
  · rw [if_neg hzero, Bool.eq_false_iff.mpr hzero]
    by_cases hplain : isPlainInteger (tokenValue (F.token x)) = true
    · rw [if_pos hplain, isSafe, decide_eq_true_eq, decide_eq_true_eq]
      unfold safeInteger
      constructor
      · intro hrange _ _
        omega
      · intro hrange
        have hbound := hrange rfl hplain
        omega
    · rw [if_neg hplain, isSafe, decide_eq_true_eq]
      exact iff_of_true hfinite fun _ h => absurd h hplain

mutual

theorem isSafe_reread : ∀ value : Json, isSafe value = true →
    (isSafe (reread F value) = true ↔ ∀ x ∈ floats value, comesBackExact F x = true)
  | .null, _ => by simp [reread, isSafe, floats]
  | .bool _, _ => by simp [reread, isSafe, floats]
  | .str _, _ => by simp [reread, isSafe, floats]
  | .int _, hsafe => iff_of_true hsafe fun _ hx => absurd hx List.not_mem_nil
  | .float x, hsafe => by
    rw [reread, isSafe_rereadFloat hsafe, floats]
    cases hzero : isZero x <;> simp
  | .arr items, hsafe => by
    rw [reread, isSafe, floats]
    exact areSafeItems_reread items hsafe
  | .obj members, hsafe => by
    rw [reread, isSafe, floats]
    exact areSafeMembers_reread members hsafe

theorem areSafeItems_reread : ∀ items : List Json, areSafeItems items = true →
    (areSafeItems (rereadItems F items) = true ↔
      ∀ x ∈ itemFloats items, comesBackExact F x = true)
  | [], _ => by simp [rereadItems, areSafeItems, itemFloats]
  | item :: items, hsafe => by
    rw [areSafeItems, Bool.and_eq_true] at hsafe
    rw [rereadItems, areSafeItems, Bool.and_eq_true, isSafe_reread item hsafe.1,
      areSafeItems_reread items hsafe.2, itemFloats, List.forall_mem_append]

theorem areSafeMembers_reread : ∀ members : Json.Members, areSafeMembers members = true →
    (areSafeMembers (rereadMembers F members) = true ↔
      ∀ x ∈ memberFloats members, comesBackExact F x = true)
  | [], _ => by simp [rereadMembers, areSafeMembers, memberFloats]
  | (key, value) :: members, hsafe => by
    rw [areSafeMembers, Bool.and_eq_true] at hsafe
    rw [rereadMembers, areSafeMembers, Bool.and_eq_true, isSafe_reread value hsafe.1,
      areSafeMembers_reread members hsafe.2, memberFloats, List.forall_mem_append]

end

/-- The text of a document reads as the document with its zeros and whole floats turned into
integers. Writing that again gives the same text, unless a float came back as an integer that is
not exact. -/
theorem canonicalJson_reads_back {value : Json} {text : List Char}
    (hcanonical : value.canonical = true) (hprinted : ∀ x ∈ floats value, Printed F x)
    (h : canonicalJson F value = .ok text) :
    JsonText.loads F (String.ofList text) = some (reread F value) ∧
      ∀ again, canonicalJson F (reread F value) = .ok again ↔
        again = text ∧ ∀ x ∈ floats value, comesBackExact F x = true := by
  have hsafe : isSafe value = true := (canonicalJson_ok_iff value).mp ⟨text, h⟩
  obtain rfl : spell F value = text := by
    rw [canonicalJson_spell value hsafe] at h
    exact Except.ok.inj h
  refine ⟨(spells_reread value hcanonical hsafe hprinted).loads, fun again => ?_⟩
  rw [← isSafe_reread value hsafe]
  constructor
  · intro hagain
    have hexact := (canonicalJson_ok_iff (reread F value)).mp ⟨again, hagain⟩
    rw [canonicalJson_spell _ hexact, spell_reread value hsafe hprinted] at hagain
    exact ⟨(Except.ok.inj hagain).symm, hexact⟩
  · rintro ⟨rfl, hexact⟩
    rw [canonicalJson_spell _ hexact, spell_reread value hsafe hprinted]

/-- Two documents share a text exactly when they read back as the same document. -/
theorem same_text_iff {value other : Json} {text otherText : List Char}
    (hcanonical : value.canonical = true) (hother : other.canonical = true)
    (hprinted : ∀ x ∈ floats value ++ floats other, Printed F x)
    (h : canonicalJson F value = .ok text) (h' : canonicalJson F other = .ok otherText) :
    text = otherText ↔ reread F value = reread F other := by
  obtain ⟨hfirst, hsecond⟩ := List.forall_mem_append.mp hprinted
  have hsafe : isSafe value = true := (canonicalJson_ok_iff value).mp ⟨text, h⟩
  have hsafe' : isSafe other = true := (canonicalJson_ok_iff other).mp ⟨otherText, h'⟩
  rw [canonicalJson_spell _ hsafe] at h
  rw [canonicalJson_spell _ hsafe'] at h'
  obtain rfl := Except.ok.inj h
  obtain rfl := Except.ok.inj h'
  constructor
  · intro hsame
    have hreads := (spells_reread value hcanonical hsafe hfirst).loads
    rw [hsame, (spells_reread other hother hsafe' hsecond).loads] at hreads
    exact (Option.some.inj hreads).symm
  · intro hsame
    rw [← spell_reread value hsafe hfirst, ← spell_reread other hsafe' hsecond, hsame]

/-- Two floats with their texts; the others are written as their bits and a quarter. -/
def trialToken (x : Binary64) : NumberToken :=
  if x = 0x3FF8000000000000#64 then ⟨false, ['1'], some ['5'], none⟩
  else if x = 0x4000000000000000#64 then ⟨false, ['2'], some ['0'], none⟩
  else ⟨false, Nat.toDigits 10 x.toNat, some ['2', '5'], none⟩

def trialParse (t : NumberToken) : Binary64 :=
  if tokenValue t = 3 / 2 then 0x3FF8000000000000#64
  else if tokenValue t = 2 then 0x4000000000000000#64
  else BitVec.ofNat 64 (Nat.ofDigitChars 10 t.integer 0)

theorem trialToken_fraction (x : Binary64) :
    ∃ ds, (trialToken x).fraction = some ds ∧ ds ≠ [] ∧ ∀ c ∈ ds, c.isDigit = true := by
  unfold trialToken
  split_ifs
  · exact ⟨['5'], rfl, List.cons_ne_nil _ _, List.forall_mem_singleton.mpr rfl⟩
  · exact ⟨['0'], rfl, List.cons_ne_nil _ _, List.forall_mem_singleton.mpr rfl⟩
  · exact ⟨['2', '5'], rfl, List.cons_ne_nil _ _,
      List.forall_mem_cons.mpr ⟨rfl, List.forall_mem_singleton.mpr rfl⟩⟩

theorem trialToken_integer (x : Binary64) : ∃ n : Int,
    (trialToken x).integer = (JsonText.integerToken n).integer ∧ (trialToken x).exponent = none := by
  unfold trialToken
  split_ifs
  · exact ⟨1, rfl, rfl⟩
  · exact ⟨2, rfl, rfl⟩
  · exact ⟨x.toNat, rfl, rfl⟩

theorem trialToken_valid (x : Binary64) : (trialToken x).Valid := by
  obtain ⟨ds, hds, hdigits⟩ := trialToken_fraction x
  obtain ⟨n, hinteger, hexponent⟩ := trialToken_integer x
  refine ⟨?_, ?_, ?_⟩
  · rw [hinteger]
    exact (JsonText.integerToken_valid n).integer
  · intro es hes
    rw [hds] at hes
    obtain rfl := Option.some.inj hes
    exact hdigits
  · intro y hy
    rw [hexponent] at hy
    cases hy

theorem trialToken_isFloat (x : Binary64) : (trialToken x).isFloat = true := by
  obtain ⟨ds, hds, -⟩ := trialToken_fraction x
  rw [NumberToken.isFloat, hds]
  rfl

theorem tokenValue_half : tokenValue ⟨false, ['1'], some ['5'], none⟩ = 3 / 2 := by
  simp [tokenValue, Decimals.signValue, Decimals.exponentValue, Nat.ofDigitChars]
  norm_num

theorem tokenValue_two : tokenValue ⟨false, ['2'], some ['0'], none⟩ = 2 := by
  simp [tokenValue, Decimals.signValue, Decimals.exponentValue, Nat.ofDigitChars]
  norm_num

theorem trialParse_token (x : Binary64) : trialParse (trialToken x) = x := by
  unfold trialToken
  split_ifs with hhalf htwo
  · rw [hhalf, trialParse, if_pos tokenValue_half]
  · rw [htwo, trialParse, tokenValue_two, if_neg (by norm_num), if_pos rfl]
  · have hvalue : tokenValue ⟨false, Nat.toDigits 10 x.toNat, some ['2', '5'], none⟩ =
        ((100 * x.toNat + 25 : Nat) : ℚ) / 100 := by
      simp only [tokenValue, Option.getD_some, Nat.ofDigitChars_append,
        Nat.ofDigitChars_ten_toDigits]
      simp [Decimals.signValue, Decimals.exponentValue, Nat.ofDigitChars_cons]
      ring
    have hne (m : Nat) (h : 100 * x.toNat + 25 ≠ m) (q : ℚ) (hq : q = (m : ℚ) / 100) :
        ((100 * x.toNat + 25 : Nat) : ℚ) / 100 ≠ q := by
      rw [hq]
      intro hsame
      rw [div_left_inj' (by norm_num)] at hsame
      exact h (by exact_mod_cast hsame)
    rw [trialParse, hvalue, if_neg (hne 150 (by omega) _ (by norm_num)),
      if_neg (hne 200 (by omega) _ (by norm_num)), Nat.ofDigitChars_ten_toDigits,
      BitVec.ofNat_toNat, BitVec.setWidth_eq]

def trialFloats : FloatText where
  token := trialToken
  parse := trialParse
  valid x _ := trialToken_valid x
  isFloat x _ := trialToken_isFloat x
  parse_token x _ := trialParse_token x

def trialDocument : Json :=
  .obj [("a", .float 0x3FF8000000000000#64), ("b", .arr [.float 0x4000000000000000#64, .null])]

/-- What it reads as. -/
def trialReread : Json :=
  .obj [("a", .float 0x3FF8000000000000#64), ("b", .arr [.int 2, .null])]

theorem printed_half : Printed trialFloats 0x3FF8000000000000#64 where
  repr := ⟨⟨false, ['1', '5'], 1, List.all_eq_true.mp rfl, by decide, by decide, by decide, by decide⟩,
    rfl⟩
  reads t _ _ hvalue := if_pos (hvalue.trans tokenValue_half)

theorem printed_two : Printed trialFloats 0x4000000000000000#64 where
  repr := ⟨⟨false, ['2'], 1, List.all_eq_true.mp rfl, by decide, by decide, by decide, by decide⟩, rfl⟩
  reads t _ _ hvalue := by
    have htwo : tokenValue t = 2 := hvalue.trans tokenValue_two
    change trialParse t = _
    rw [trialParse, htwo, if_neg (by norm_num), if_pos rfl]

theorem trialDocument_printed : ∀ x ∈ floats trialDocument, Printed trialFloats x := by
  intro x hx
  obtain rfl | hx := List.mem_cons.mp hx
  · exact printed_half
  · obtain rfl := List.mem_singleton.mp hx
    exact printed_two

theorem rereadFloat_half :
    rereadFloat trialFloats 0x3FF8000000000000#64 = .float 0x3FF8000000000000#64 := by
  have hzero : isZero 0x3FF8000000000000#64 = false := by decide
  have hplain : isPlainInteger (3 / 2) = false := by decide +kernel
  rw [rereadFloat, hzero, show tokenValue (trialFloats.token 0x3FF8000000000000#64) = 3 / 2 from
    tokenValue_half, hplain]
  rfl

theorem rereadFloat_two : rereadFloat trialFloats 0x4000000000000000#64 = .int 2 := by
  have hzero : isZero 0x4000000000000000#64 = false := by decide
  have hplain : isPlainInteger 2 = true := by decide
  rw [rereadFloat, hzero, show tokenValue (trialFloats.token 0x4000000000000000#64) = 2 from
    tokenValue_two, hplain]
  rfl

theorem reread_trial : reread trialFloats trialDocument = trialReread := by
  simp only [trialDocument, trialReread, reread, rereadMembers, rereadItems, rereadFloat_half,
    rereadFloat_two]

/-- The document, its text, and what that reads as. -/
theorem canonicalJson_reads_back_trial :
    JsonText.loads trialFloats (String.ofList (spell trialFloats trialDocument)) = some trialReread ∧
      canonicalJson trialFloats trialReread = .ok (spell trialFloats trialDocument) := by
  have htext := canonicalJson_spell (F := trialFloats) trialDocument (by decide)
  have hback := canonicalJson_reads_back (by decide) trialDocument_printed htext
  rw [reread_trial] at hback
  refine ⟨hback.1, (hback.2 _).mpr ⟨rfl, ?_⟩⟩
  intro x hx
  have hexact := (isSafe_reread (F := trialFloats) trialDocument (by decide)).mp (by
    rw [reread_trial]
    decide)
  exact hexact x hx

theorem same_text_trial :
    spell trialFloats trialDocument = spell trialFloats trialReread ↔
      reread trialFloats trialDocument = reread trialFloats trialReread := by
  have hprinted : ∀ x ∈ floats trialDocument ++ floats trialReread, Printed trialFloats x := by
    intro x hx
    obtain hx | hx := List.mem_append.mp hx
    · exact trialDocument_printed x hx
    · obtain rfl := List.mem_singleton.mp hx
      exact printed_half
  exact same_text_iff (by decide) (by decide) hprinted
    (canonicalJson_spell trialDocument (by decide)) (canonicalJson_spell trialReread (by decide))

end ResearchOs.Jcs
