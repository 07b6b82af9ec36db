import ResearchOs.Data.JsonText
import ResearchOs.Data.Text

/-! ASCII texts of objects whose values are texts. -/
namespace JsonText

/-- `\uXXXX` -/
def unicodeEscape (n : Nat) : List Char :=
  ['\\', 'u', hexDigit (n / 4096 % 16), hexDigit (n / 256 % 16), hexDigit (n / 16 % 16),
    hexDigit (n % 16)]

/-- With `ensure_ascii`, a character that is not a printable one of ASCII is written by its code
units. -/
def escapeAsciiChar (c : Char) : List Char :=
  match escapeLetter c with
  | some l => ['\\', l]
  | none =>
    if 0x20 ≤ c.toNat ∧ c.toNat < 0x7F then [c]
    else if c.toNat < 0x10000 then unicodeEscape c.toNat
    else unicodeEscape (0xD800 + (c.toNat - 0x10000) / 0x400) ++
      unicodeEscape (0xDC00 + (c.toNat - 0x10000) % 0x400)

def escapeAscii (cs : List Char) : List Char := cs.flatMap escapeAsciiChar

/-- The code units of a character. -/
def unitsOf (c : Char) : List Nat :=
  if c.toNat < 0x10000 then [c.toNat]
  else [0xD800 + (c.toNat - 0x10000) / 0x400, 0xDC00 + (c.toNat - 0x10000) % 0x400]

abbrev Texts := List (String × String)

def quoteAscii (text : String) : List Char := '"' :: (escapeAscii text.toList ++ ['"'])

/-- The members after the first, with the closing brace. -/
def renderTexts : Texts → List Char
  | [] => ['}']
  | (key, text) :: ms => ',' :: (quoteAscii key ++ ':' :: (quoteAscii text ++ renderTexts ms))

/-- `json.dumps` with `ensure_ascii` and compact separators of members in key order. -/
def dumpsAscii : Texts → String
  | [] => "\x7b\x7d"
  | (key, text) :: ms =>
    String.ofList ('{' :: (quoteAscii key ++ ':' :: (quoteAscii text ++ renderTexts ms)))

def textMembers (ms : Texts) : Json.Members := ms.map fun m => (m.1, .str m.2)

variable {F : FloatText}

/-! What is written reads back. -/

theorem scanUnits_unicodeEscape {n : Nat} (h : n < 0x10000) (rest : List Char) :
    scanUnits (unicodeEscape n ++ rest) = (scanUnits rest).map fun p => (n :: p.1, p.2) := by
  have hfirst := hexValue_hexDigit (n / 4096 % 16) (Nat.mod_lt _ (by decide))
  have hsecond := hexValue_hexDigit (n / 256 % 16) (Nat.mod_lt _ (by decide))
  have hthird := hexValue_hexDigit (n / 16 % 16) (Nat.mod_lt _ (by decide))
  have hfourth := hexValue_hexDigit (n % 16) (Nat.mod_lt _ (by decide))
  have hsum : 4096 * (n / 4096 % 16) + 256 * (n / 256 % 16) + 16 * (n / 16 % 16) + n % 16 = n := by
    omega
  simp [unicodeEscape, scanUnits, hexQuad, hfirst, hsecond, hthird, hfourth, hsum]

theorem scanUnits_escapeAsciiChar (c : Char) (rest : List Char) :
    scanUnits (escapeAsciiChar c ++ rest) =
      (scanUnits rest).map fun p => (unitsOf c ++ p.1, p.2) := by
  have hmax : c.toNat < 0x110000 := by
    rcases c.valid with h | h
    · exact Nat.lt_trans h (by decide)
    · exact h.2
  unfold escapeAsciiChar
  cases hletter : escapeLetter c with
  | some l =>
    -- An escaped letter stands for a character of ASCII.
    have hescape := scanUnits_escapeChar c rest
    rw [escapeChar, hletter] at hescape
    have hsmall : c.toNat < 0x10000 := by
      have hmem := List.mem_of_find?_eq_some hletter
      have hfound := simpleEscape_escapeLetter hletter
      simp only [List.mem_cons, List.not_mem_nil, or_false] at hmem
      rcases hmem with rfl | rfl | rfl | rfl | rfl | rfl | rfl <;>
        (cases hfound; decide)
    rw [hescape, unitsOf, if_pos hsmall]
    rfl
  | none =>
    dsimp only
    split_ifs with hplain hsmall
    · have hescape := scanUnits_escapeChar c rest
      rw [escapeChar, hletter] at hescape
      dsimp only at hescape
      rw [if_neg (by omega)] at hescape
      rw [hescape, unitsOf, if_pos (by omega)]
      rfl
    · rw [scanUnits_unicodeEscape hsmall, unitsOf, if_pos hsmall]
      rfl
    · rw [List.append_assoc, scanUnits_unicodeEscape (by omega), scanUnits_unicodeEscape (by omega),
        unitsOf, if_neg hsmall, Option.map_map]
      rfl

theorem joinUnits_unitsOf (c : Char) (us : List Nat) :
    joinUnits (unitsOf c ++ us) = (joinUnits us).map (c :: ·) := by
  unfold unitsOf
  split_ifs with hsmall
  · exact joinUnits_cons c us
  · have hmax : c.toNat < 0x110000 := by
      rcases c.valid with h | h
      · exact Nat.lt_trans h (by decide)
      · exact h.2
    have hhigh : isHighSurrogate (0xD800 + (c.toNat - 0x10000) / 0x400) = true := by
      rw [isHighSurrogate, Bool.and_eq_true, decide_eq_true_iff, decide_eq_true_iff]
      omega
    have hlow : isLowSurrogate (0xDC00 + (c.toNat - 0x10000) % 0x400) = true := by
      rw [isLowSurrogate, Bool.and_eq_true, decide_eq_true_iff, decide_eq_true_iff]
      omega
    have hjoin : joinSurrogates (0xD800 + (c.toNat - 0x10000) / 0x400)
        (0xDC00 + (c.toNat - 0x10000) % 0x400) = c.toNat := by
      unfold joinSurrogates
      omega
    simp only [List.cons_append, List.nil_append, joinUnits, hhigh, hlow, if_true, hjoin,
      Char.ofNat_toNat]

theorem scanString_escapeAscii (text : String) (rest : List Char) :
    scanString (escapeAscii text.toList ++ '"' :: rest) = some (text, rest) := by
  have hunits : ∀ cs : List Char, scanUnits (escapeAscii cs ++ '"' :: rest) =
      some (cs.flatMap unitsOf, rest) := by
    intro cs
    induction cs with
    | nil => rfl
    | cons c cs ih =>
      rw [escapeAscii, List.flatMap_cons, List.append_assoc, scanUnits_escapeAsciiChar]
      rw [escapeAscii] at ih
      rw [ih]
      rfl
  have hjoin : ∀ cs : List Char, joinUnits (cs.flatMap unitsOf) = some cs := by
    intro cs
    induction cs with
    | nil => rfl
    | cons c cs ih => rw [List.flatMap_cons, joinUnits_unitsOf, ih, Option.map_some]
  simp [scanString, hunits, hjoin]

/-- The layout of `json.dumps` with `ensure_ascii` and compact separators. -/
def compactAscii : Layout := ⟨[], escapeAscii, nil_isWhitespace, scanString_escapeAscii⟩

theorem renderTexts_eq (ms : Texts) :
    renderTexts ms = compactAscii.renderMembers F (textMembers ms) := by
  induction ms with
  | nil => rfl
  | cons m ms ih =>
    rw [renderTexts, ih]
    rfl

theorem dumpsAscii_eq (ms : Texts) :
    dumpsAscii ms = String.ofList (compactAscii.render F (.obj (textMembers ms))) := by
  cases ms with
  | nil => rfl
  | cons m ms =>
    rw [dumpsAscii, renderTexts_eq]
    rfl

theorem canonicalMembers_textMembers (ms : Texts) :
    Json.canonicalMembers (textMembers ms) = true := by
  induction ms with
  | nil => rfl
  | cons m ms ih => exact ih

theorem dumpableMembers_textMembers (ms : Texts) : dumpableMembers (textMembers ms) = true := by
  induction ms with
  | nil => rfl
  | cons m ms ih => exact ih

/-- The text of sorted members reads back as the members. -/
theorem loads_dumpsAscii {ms : Texts} (h : Json.Sorted (textMembers ms)) :
    loads F (dumpsAscii ms) = some (.obj (textMembers ms)) := by
  have hcanonical : (Json.obj (textMembers ms)).canonical = true := by
    rw [Json.canonical, canonicalMembers_textMembers, Bool.and_true]
    exact decide_eq_true h
  rw [dumpsAscii_eq]
  exact loads_render compactAscii hcanonical (dumpableMembers_textMembers ms)

/-! JSON texts as bytes, in the encoding that their first bytes show. -/

inductive Encoding where
  | utf8
  | utf16 (little : Bool)
  | utf32 (little : Bool)
  deriving DecidableEq

/-- `json.detect_encoding`, with the bytes behind the byte order mark. -/
def detectEncoding (bytes : List Nat) : Encoding × List Nat :=
  match bytes with
  | 0x00 :: 0x00 :: 0xFE :: 0xFF :: rest => (.utf32 false, rest)
  | 0xFF :: 0xFE :: 0x00 :: 0x00 :: rest => (.utf32 true, rest)
  | 0xFE :: 0xFF :: rest => (.utf16 false, rest)
  | 0xFF :: 0xFE :: rest => (.utf16 true, rest)
  | 0xEF :: 0xBB :: 0xBF :: rest => (.utf8, rest)
  | a :: b :: c :: d :: _ =>
    if a = 0 then (if b = 0 then .utf32 false else .utf16 false, bytes)
    else if b = 0 then (if c = 0 ∧ d = 0 then .utf32 true else .utf16 true, bytes)
    else (.utf8, bytes)
  | [a, b] =>
    (if a = 0 then .utf16 false else if b = 0 then .utf16 true else .utf8, bytes)
  | _ => (.utf8, bytes)

/-- The numbers of two bytes each. -/
def pairs (little : Bool) : List Nat → Option (List Nat)
  | [] => some []
  | a :: b :: rest =>
    (pairs little rest).map ((if little then 256 * b + a else 256 * a + b) :: ·)
  | _ => none

/-- The characters of four bytes each. -/
def quads (little : Bool) : List Nat → Option (List Char)
  | [] => some []
  | a :: b :: c :: d :: rest =>
    let n := if little then ((d * 256 + c) * 256 + b) * 256 + a else ((a * 256 + b) * 256 + c) * 256 + d
    if n.isValidChar then (quads little rest).map (Char.ofNat n :: ·) else none
  | _ => none

/-- `bytes.decode`; a text with half of a surrogate pair is not read. -/
def decodeBytes : Encoding → List Nat → Option String
  | .utf8, bytes => Text.textOf bytes
  | .utf16 little, bytes => ((pairs little bytes).bind joinUnits).map String.ofList
  | .utf32 little, bytes => (quads little bytes).map String.ofList

/-- `json.loads` of bytes -/
def loadsBytes (F : FloatText) (bytes : List Nat) : Option Json :=
  let (encoding, rest) := detectEncoding bytes
  (decodeBytes encoding rest).bind (loads F)

/-- Two characters of ASCII at the start show UTF-8. -/
theorem detectEncoding_ascii {a b : Nat} {rest : List Nat} (ha : 0 < a ∧ a < 128)
    (hb : 0 < b ∧ b < 128) : detectEncoding (a :: b :: rest) = (.utf8, a :: b :: rest) := by
  unfold detectEncoding
  split
  iterate 5
    rename_i heq
    simp only [List.cons.injEq] at heq
    omega
  · rename_i heq
    simp only [List.cons.injEq] at heq
    obtain ⟨rfl, rfl, -⟩ := heq
    rw [if_neg (by omega), if_neg (by omega)]
  · rename_i heq
    simp only [List.cons.injEq] at heq
    obtain ⟨rfl, rfl, -⟩ := heq
    rw [if_neg (by omega), if_neg (by omega)]
  · rfl

theorem bytesOf_ascii_cons {c : Char} {cs : List Char} (h : c.toNat < 128) :
    Text.bytesOf (String.ofList (c :: cs)) = c.toNat :: Text.bytesOf (String.ofList cs) := by
  have hsize : c.utf8Size = 1 := by
    rw [Char.utf8Size_eq_one_iff]
    exact UInt32.le_iff_toNat_le.mpr (Nat.le_of_lt_succ h)
  have hbyte : c.toUInt8.toNat = c.toNat := by
    rw [Char.toUInt8, UInt32.toNat_toUInt8]
    exact Nat.mod_eq_of_lt (Nat.lt_trans h (by decide))
  rw [Text.bytesOf, String.toUTF8_eq_toByteArray, String.toByteArray_ofList, List.utf8Encode_cons,
    List.utf8Encode_singleton, String.utf8EncodeChar_eq_singleton hsize, ByteArray.data_append]
  simp [Text.bytesOf, hbyte]

theorem loadsBytes_dumpsAscii {F : FloatText} {ms : Texts} (h : Json.Sorted (textMembers ms)) :
    loadsBytes F (Text.bytesOf (dumpsAscii ms)) = some (.obj (textMembers ms)) := by
  have hdetect : detectEncoding (Text.bytesOf (dumpsAscii ms)) =
      (.utf8, Text.bytesOf (dumpsAscii ms)) := by
    cases ms with
    | nil => decide +kernel
    | cons m ms =>
      obtain ⟨key, text⟩ := m
      rw [dumpsAscii, quoteAscii, List.cons_append, bytesOf_ascii_cons (by decide),
        bytesOf_ascii_cons (by decide)]
      exact detectEncoding_ascii (by decide) (by decide)
  rw [loadsBytes, hdetect]
  simp only [decodeBytes, Text.textOf_bytesOf, Option.bind_some]
  exact loads_dumpsAscii h

end JsonText
