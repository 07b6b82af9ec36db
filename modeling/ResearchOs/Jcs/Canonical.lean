import ResearchOs.Canonical
import ResearchOs.Data.Fold
import ResearchOs.Data.SortBy
import ResearchOs.Jcs.Number

/-! `canonical_json`: the JSON canonicalization scheme, and the digests over it. -/
namespace ResearchOs.Jcs

open JsonText (FloatText NumberToken)

/-- `_IJSON_SAFE_INTEGER` -/
def safeInteger : ℤ := 2 ^ 53 - 1

/-- The code units of `key.encode("utf-16-be")`. -/
def utf16 (key : String) : List ℕ :=
  key.toList.flatMap fun c =>
    if c.toNat < 0x10000 then [c.toNat]
    else [0xD800 + (c.toNat - 0x10000) / 0x400, 0xDC00 + (c.toNat - 0x10000) % 0x400]

/-- `_quote_string` -/
def quoteString (value : String) : List Char := '"' :: (JsonText.escape value.toList ++ ['"'])

/-- `str` of a Python float -/
def floatRepr (F : FloatText) (x : Binary64) : List Char := (F.token x).render

/-- The texts with a comma between each two. -/
def commaJoin : List (List Char) → List Char
  | [] => []
  | [text] => text
  | text :: texts => text ++ ',' :: commaJoin texts

/-- A member with the text of its value. -/
def memberText (member : String × List Char) : List Char :=
  quoteString member.1 ++ ':' :: member.2

/-- The members in the order of their keys, unless a value cannot be written. -/
def sortMembers (members : List (String × Except String (List Char))) :
    Except String (List (String × List Char)) :=
  (SortBy.sortBy (fun member => utf16 member.1) members).mapM fun member =>
    member.2.map fun text => (member.1, text)

mutual

/-- `_serialize_jcs` -/
def canonicalJson (F : FloatText) : Json → Except String (List Char)
  | .null => .ok "null".toList
  | .bool b => .ok (if b then "true".toList else "false".toList)
  | .str s => .ok (quoteString s)
  | .int n =>
    if -safeInteger ≤ n ∧ n ≤ safeInteger then .ok (JsonText.integerToken n).render
    else .error "JCS integers must be exactly representable as IEEE 754 binary64"
  | .float x => serializeBinary64 (floatRepr F) x
  | .arr items => do
    let texts ← serializeArray F items
    .ok ('[' :: (commaJoin texts ++ [']']))
  | .obj members => do
    let sorted ← sortMembers (serializeMembers F members)
    .ok ('{' :: (commaJoin (sorted.map memberText) ++ ['}']))

def serializeArray (F : FloatText) : List Json → Except String (List (List Char))
  | [] => .ok []
  | item :: items => do
    let text ← canonicalJson F item
    let texts ← serializeArray F items
    .ok (text :: texts)

/-- Each member with the text of its value, or with the error that writing it raises. -/
def serializeMembers (F : FloatText) : Json.Members → List (String × Except String (List Char))
  | [] => []
  | (key, value) :: members => (key, canonicalJson F value) :: serializeMembers F members

end

/-- `content_digest` -/
def contentDigest (F : FloatText) (value : Json) : Except String String := do
  let text ← canonicalJson F value
  .ok ("jcs-sha256:" ++ Sha256.hexdigest (String.ofList text))

/-! Which values can be written. -/

mutual

/-- All integers are in the exact range, and all floats are finite. -/
def isSafe : Json → Bool
  | .int n => decide (-safeInteger ≤ n ∧ n ≤ safeInteger)
  | .float x => x.isFinite
  | .arr items => areSafeItems items
  | .obj members => areSafeMembers members
  | _ => true

def areSafeItems : List Json → Bool
  | [] => true
  | item :: items => isSafe item && areSafeItems items

def areSafeMembers : Json.Members → Bool
  | [] => true
  | (_, value) :: members => isSafe value && areSafeMembers members

end

variable {F : FloatText}

/-- The text of a number has no letter but that of its exponent. -/
theorem not_mem_render {t : NumberToken} (h : t.Valid) : 'n' ∉ t.render := by
  have hdigits : ∀ {ds : List Char}, (∀ c ∈ ds, c.isDigit = true) → 'n' ∉ ds := by
    intro ds hds hmem
    exact absurd (hds 'n' hmem) (by decide)
  have hinteger : 'n' ∉ t.integer := by
    obtain hzero | ⟨d, ds, hds, -, hd, hall⟩ := h.integer
    · rw [hzero]
      decide
    · rw [hds, List.mem_cons, not_or]
      exact ⟨fun heq => absurd (heq ▸ hd) (by decide), hdigits hall⟩
  have hfraction : 'n' ∉ NumberToken.renderFraction t.fraction := by
    cases hf : t.fraction with
    | none => exact List.not_mem_nil
    | some ds =>
      have hds := hdigits (h.fraction ds hf).2
      simp [NumberToken.renderFraction, hds]
  have hexponent : 'n' ∉ NumberToken.renderExponent t.exponent := by
    cases hx : t.exponent with
    | none => exact List.not_mem_nil
    | some x =>
      obtain ⟨hletter, hsign, -, hall⟩ := h.exponent x hx
      have hds := hdigits hall
      have hnot : 'n' ≠ x.letter := fun heq => absurd (heq ▸ hletter) (by decide)
      have hs : 'n' ∉ x.sign.toList := by
        cases hsigned : x.sign with
        | none => exact List.not_mem_nil
        | some c =>
          have hc := hsign c hsigned
          simp only [Option.toList_some, List.mem_singleton]
          exact fun heq => absurd (heq ▸ hc) (by decide)
      simp [NumberToken.renderExponent, hnot, hs, hds]
  cases hn : t.negative <;>
    simp [NumberToken.render, hn, hinteger, hfraction, hexponent]

theorem serializeBinary64_ok_iff {x : Binary64} :
    (∃ text, serializeBinary64 (floatRepr F) x = .ok text) ↔ x.isFinite = true := by
  unfold serializeBinary64
  constructor
  · rintro ⟨text, h⟩
    by_contra hnot
    rw [if_pos hnot] at h
    cases h
  · intro h
    have hletter : 'n' ∉ floatRepr F x := not_mem_render (F.valid x h)
    simp only [h, not_true_eq_false, if_false, if_neg hletter]
    split_ifs <;> exact ⟨_, rfl⟩

theorem sortMembers_ok_iff {members : List (String × Except String (List Char))} :
    (∃ sorted, sortMembers members = .ok sorted) ↔ ∀ member ∈ members, ∃ text, member.2 = .ok text := by
  have hperm := SortBy.sortBy_perm (fun member => utf16 member.1) members
  constructor
  · rintro ⟨sorted, h⟩ member hmember
    have hall := Fold.mapM_eq_ok.mp h
    obtain ⟨pair, -, hpair⟩ := Fold.exists_of_mem_right hall.flip (hperm.mem_iff.mpr hmember)
    cases hvalue : member.2 with
    | ok text => exact ⟨text, rfl⟩
    | error e =>
      rw [hvalue] at hpair
      cases hpair
  · intro h
    refine Fold.exists_mapM_eq_ok fun member hmember => ?_
    obtain ⟨text, htext⟩ := h member (hperm.mem_iff.mp hmember)
    exact ⟨(member.1, text), by rw [htext]; rfl⟩

mutual

/-- The canonical text exists for the safe values. -/
theorem canonicalJson_ok_iff : ∀ value : Json,
    (∃ text, canonicalJson F value = .ok text) ↔ isSafe value = true
  | .null => by simp [canonicalJson, isSafe]
  | .bool _ => by simp [canonicalJson, isSafe]
  | .str _ => by simp [canonicalJson, isSafe]
  | .int n => by
    by_cases h : -safeInteger ≤ n ∧ n ≤ safeInteger
    · simp [canonicalJson, isSafe, h]
    · rw [canonicalJson, if_neg h, isSafe, decide_eq_true_eq]
      simp [h]
  | .float x => by
    rw [canonicalJson, isSafe]
    exact serializeBinary64_ok_iff
  | .arr items => by
    rw [isSafe, ← serializeArray_ok_iff items]
    constructor
    · rintro ⟨text, h⟩
      obtain ⟨texts, htexts, -⟩ := Fold.bind_eq_ok.mp h
      exact ⟨texts, htexts⟩
    · rintro ⟨texts, h⟩
      exact ⟨_, Fold.bind_eq_ok.mpr ⟨texts, h, rfl⟩⟩
  | .obj members => by
    rw [isSafe, ← serializeMembers_ok_iff members, ← sortMembers_ok_iff]
    constructor
    · rintro ⟨text, h⟩
      obtain ⟨sorted, hsorted, -⟩ := Fold.bind_eq_ok.mp h
      exact ⟨sorted, hsorted⟩
    · rintro ⟨sorted, h⟩
      exact ⟨_, Fold.bind_eq_ok.mpr ⟨sorted, h, rfl⟩⟩

theorem serializeArray_ok_iff : ∀ items : List Json,
    (∃ texts, serializeArray F items = .ok texts) ↔ areSafeItems items = true
  | [] => by simp [serializeArray, areSafeItems]
  | item :: items => by
    rw [areSafeItems, Bool.and_eq_true, ← canonicalJson_ok_iff item, ← serializeArray_ok_iff items]
    constructor
    · rintro ⟨texts, h⟩
      obtain ⟨text, htext, h⟩ := Fold.bind_eq_ok.mp h
      obtain ⟨rest, hrest, -⟩ := Fold.bind_eq_ok.mp h
      exact ⟨⟨text, htext⟩, ⟨rest, hrest⟩⟩
    · rintro ⟨⟨text, htext⟩, ⟨rest, hrest⟩⟩
      exact ⟨_, Fold.bind_eq_ok.mpr ⟨text, htext, Fold.bind_eq_ok.mpr ⟨rest, hrest, rfl⟩⟩⟩

theorem serializeMembers_ok_iff : ∀ members : Json.Members,
    (∀ member ∈ serializeMembers F members, ∃ text, member.2 = .ok text) ↔
      areSafeMembers members = true
  | [] => by simp [serializeMembers, areSafeMembers]
  | (key, value) :: members => by
    rw [areSafeMembers, Bool.and_eq_true, ← canonicalJson_ok_iff value,
      ← serializeMembers_ok_iff members, serializeMembers, List.forall_mem_cons]

end

theorem contentDigest_ok_iff (value : Json) :
    (∃ digest, contentDigest F value = .ok digest) ↔ isSafe value = true := by
  rw [← canonicalJson_ok_iff (F := F) value]
  constructor
  · rintro ⟨digest, h⟩
    obtain ⟨text, htext, -⟩ := Fold.bind_eq_ok.mp h
    exact ⟨text, htext⟩
  · rintro ⟨text, h⟩
    exact ⟨_, Fold.bind_eq_ok.mpr ⟨text, h, rfl⟩⟩

end ResearchOs.Jcs
