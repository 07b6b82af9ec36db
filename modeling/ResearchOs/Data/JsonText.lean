import Mathlib.Tactic.IntervalCases
import ResearchOs.Data.JsonLexeme

/-! JSON texts: compact rendering with sorted keys, and reading any JSON text back. -/
namespace JsonText

/-- The limit on the digits of a decimal integer that is read or written. -/
def maxStrDigits : Nat := 4300

/-- Writing and reading finite binary64 numbers: the text of a number is a literal with a
fraction or an exponent, and it reads back as the same number. -/
structure FloatText where
  token : Binary64 → NumberToken
  parse : NumberToken → Binary64
  valid : ∀ x : Binary64, x.isFinite = true → (token x).Valid
  isFloat : ∀ x : Binary64, x.isFinite = true → (token x).isFloat = true
  parse_token : ∀ x : Binary64, x.isFinite = true → parse (token x) = x

def integerToken (n : Int) : NumberToken :=
  ⟨decide (n < 0), Nat.toDigits 10 n.natAbs, none, none⟩

/-- The value of a number literal; an integer with too many digits is refused. -/
def numberValue (F : FloatText) (t : NumberToken) : Option Json :=
  if t.isFloat then some (.float (F.parse t))
  else if t.integer.length ≤ maxStrDigits then
    some (.int (if t.negative then -(Nat.ofDigitChars 10 t.integer 0 : Nat)
      else (Nat.ofDigitChars 10 t.integer 0 : Nat)))
  else none

/-- What a strict writer refuses: an infinite number, or an integer with too many digits. -/
def dumpableAtom : Json → Bool
  | .int n => decide ((Nat.toDigits 10 n.natAbs).length ≤ maxStrDigits)
  | .float x => x.isFinite
  | _ => true

theorem numberValue_integerToken {F : FloatText} {n : Int}
    (h : dumpableAtom (.int n) = true) : numberValue F (integerToken n) = some (.int n) := by
  have hlength : (Nat.toDigits 10 n.natAbs).length ≤ maxStrDigits := by simpa [dumpableAtom] using h
  by_cases hn : n < 0
  · have hvalue : -|n| = n := by rw [abs_of_neg hn, neg_neg]
    simp [numberValue, integerToken, NumberToken.isFloat, hlength, hn, hvalue]
  · have hvalue : |n| = n := abs_of_nonneg (not_lt.mp hn)
    simp [numberValue, integerToken, NumberToken.isFloat, hlength, hn, hvalue]

/-- A positive decimal has no leading zero. -/
theorem toDigits_head {n : Nat} (h : 0 < n) : ∃ d ds, Nat.toDigits 10 n = d :: ds ∧ d ≠ '0' := by
  induction n using Nat.strong_induction_on with
  | _ n ih =>
    by_cases hn : n < 10
    · refine ⟨n.digitChar, [], Nat.toDigits_of_lt_base hn, ?_⟩
      interval_cases n <;> decide
    · obtain ⟨d, ds, hds, hd⟩ := ih (n / 10) (by omega) (by omega)
      refine ⟨d, ds ++ [(n % 10).digitChar], ?_, hd⟩
      rw [Nat.toDigits_of_base_le (by omega) (by omega), hds]
      rfl

theorem integerToken_valid (n : Int) : (integerToken n).Valid := by
  refine ⟨?_, by simp [integerToken], by simp [integerToken]⟩
  rcases Nat.eq_zero_or_pos n.natAbs with hzero | hpos
  · left
    simp [integerToken, hzero]
  · right
    obtain ⟨d, ds, hds, hd⟩ := toDigits_head hpos
    have hdigits : ∀ c ∈ d :: ds, c.isDigit = true := by
      intro c hc
      rw [← hds] at hc
      exact Nat.isDigit_of_mem_toDigits (by decide) (by decide) hc
    exact ⟨d, ds, hds, hd, hdigits d List.mem_cons_self,
      fun c hc => hdigits c (List.mem_cons_of_mem d hc)⟩

/-- Numbers written as the decimal of their bits with exponent zero: a `FloatText` exists. -/
def scientific : FloatText where
  token x := ⟨false, Nat.toDigits 10 x.toNat, none, some ⟨'e', none, ['0']⟩⟩
  parse t := BitVec.ofNat 64 (Nat.ofDigitChars 10 t.integer 0)
  valid x _ := ⟨(integerToken_valid x.toNat).integer, by simp, by simp; decide⟩
  isFloat _ _ := rfl
  parse_token x _ := by simp

/-! Values, arrays and objects. -/

def isWhitespace (c : Char) : Bool := c == ' ' || c == '\t' || c == '\n' || c == '\r'

def skipWhitespace (cs : List Char) : List Char := cs.dropWhile isWhitespace

mutual

/-- The compact text of a value; the members of an object are already in key order. -/
def render (F : FloatText) : Json → List Char
  | .null => "null".toList
  | .bool true => "true".toList
  | .bool false => "false".toList
  | .int n => (integerToken n).render
  | .float x => (F.token x).render
  | .str s => '"' :: (escape s.toList ++ ['"'])
  | .arr [] => ['[', ']']
  | .arr (v :: vs) => '[' :: (render F v ++ renderItems F vs)
  | .obj [] => ['{', '}']
  | .obj ((k, v) :: ms) =>
    '{' :: '"' :: (escape k.toList ++ '"' :: ':' :: (render F v ++ renderMembers F ms))

/-- The items after the first, with the closing bracket. -/
def renderItems (F : FloatText) : List Json → List Char
  | [] => [']']
  | v :: vs => ',' :: (render F v ++ renderItems F vs)

/-- The members after the first, with the closing brace. -/
def renderMembers (F : FloatText) : Json.Members → List Char
  | [] => ['}']
  | (k, v) :: ms =>
    ',' :: '"' :: (escape k.toList ++ '"' :: ':' :: (render F v ++ renderMembers F ms))

end

/-- How a writer lays a value out: the blanks after a comma and a colon, and the escapes. -/
structure Layout where
  gap : List Char
  escaped : List Char → List Char
  blank : ∀ c ∈ gap, isWhitespace c = true
  scans : ∀ (s : String) (rest : List Char),
    scanString (escaped s.toList ++ '"' :: rest) = some (s, rest)

namespace Layout

variable (L : Layout)

def quote (s : String) : List Char := '"' :: (L.escaped s.toList ++ ['"'])

mutual

/-- The text of a value; the members of an object are already in key order. -/
def render (F : FloatText) : Json → List Char
  | .null => "null".toList
  | .bool true => "true".toList
  | .bool false => "false".toList
  | .int n => (integerToken n).render
  | .float x => (F.token x).render
  | .str s => L.quote s
  | .arr [] => ['[', ']']
  | .arr (v :: vs) => '[' :: (render F v ++ renderItems F vs)
  | .obj [] => ['{', '}']
  | .obj ((k, v) :: ms) => '{' :: (L.quote k ++ ':' :: (L.gap ++ (render F v ++ renderMembers F ms)))

/-- The items after the first, with the closing bracket. -/
def renderItems (F : FloatText) : List Json → List Char
  | [] => [']']
  | v :: vs => ',' :: (L.gap ++ (render F v ++ renderItems F vs))

/-- The members after the first, with the closing brace. -/
def renderMembers (F : FloatText) : Json.Members → List Char
  | [] => ['}']
  | (k, v) :: ms =>
    ',' :: (L.gap ++ (L.quote k ++ ':' :: (L.gap ++ (render F v ++ renderMembers F ms))))

end

end Layout

theorem nil_isWhitespace : ∀ c ∈ ([] : List Char), isWhitespace c = true := by
  simp

/-- No blanks, and only the escapes that JSON asks for. -/
def compact : Layout := ⟨[], escape, nil_isWhitespace, scanString_escape⟩

def notANumber : Binary64 := 0x7FF8000000000000#64

def infinity : Binary64 := 0x7FF0000000000000#64

def negativeInfinity : Binary64 := 0xFFF0000000000000#64

def literals : List (List Char × Json) :=
  [("null".toList, .null), ("true".toList, .bool true), ("false".toList, .bool false),
    ("NaN".toList, .float notANumber), ("Infinity".toList, .float infinity),
    ("-Infinity".toList, .float negativeInfinity)]

def scanLiteral (cs : List Char) : Option (Json × List Char) :=
  literals.findSome? fun p =>
    if p.1.isPrefixOf cs then some (p.2, cs.drop p.1.length) else none

mutual

/-- Read one value; `fuel` bounds the nesting and the number of items. -/
def scanValue (F : FloatText) : Nat → List Char → Option (Json × List Char)
  | 0, _ => none
  | _ + 1, '"' :: cs => (scanString cs).map fun p => (.str p.1, p.2)
  | fuel + 1, '[' :: cs =>
    match skipWhitespace cs with
    | ']' :: rest => some (.arr [], rest)
    | cs => (scanItems F fuel cs).map fun p => (.arr p.1, p.2)
  | fuel + 1, '{' :: cs =>
    match skipWhitespace cs with
    | '}' :: rest => some (.obj [], rest)
    | cs => (scanMembers F fuel cs).map fun p => (.obj (Json.ofPairs p.1), p.2)
  | _ + 1, cs =>
    match scanLiteral cs with
    | some r => some r
    | none => do
      let (t, rest) ← scanNumber cs
      let v ← numberValue F t
      some (v, rest)

def scanItems (F : FloatText) : Nat → List Char → Option (List Json × List Char)
  | 0, _ => none
  | fuel + 1, cs => do
    let (v, cs) ← scanValue F fuel cs
    match skipWhitespace cs with
    | ']' :: rest => some ([v], rest)
    | ',' :: rest => (scanItems F fuel (skipWhitespace rest)).map fun p => (v :: p.1, p.2)
    | _ => none

def scanMembers (F : FloatText) : Nat → List Char → Option (Json.Members × List Char)
  | fuel + 1, '"' :: cs => do
    let (k, cs) ← scanString cs
    match skipWhitespace cs with
    | ':' :: cs => do
      let (v, cs) ← scanValue F fuel (skipWhitespace cs)
      match skipWhitespace cs with
      | '}' :: rest => some ([(k, v)], rest)
      | ',' :: rest =>
        (scanMembers F fuel (skipWhitespace rest)).map fun p => ((k, v) :: p.1, p.2)
      | _ => none
    | _ => none
  | _, _ => none

end

/-- `json.loads` -/
def loads (F : FloatText) (text : String) : Option Json := do
  let (v, rest) ← scanValue F (text.toList.length + 1) (skipWhitespace text.toList)
  if skipWhitespace rest = [] then some v else none

/-! What is written reads back. -/

mutual

/-- Everything inside the value can be written. -/
def dumpable : Json → Bool
  | .arr vs => dumpableItems vs
  | .obj ms => dumpableMembers ms
  | j => dumpableAtom j

def dumpableItems : List Json → Bool
  | [] => true
  | v :: vs => dumpable v && dumpableItems vs

def dumpableMembers : Json.Members → Bool
  | [] => true
  | (_, v) :: ms => dumpable v && dumpableMembers ms

end

/-- `json.dumps` with compact separators, sorted keys and no infinite numbers. -/
def dumps (F : FloatText) (j : Json) : Option String :=
  if dumpable j then some (String.ofList (render F j)) else none

mutual

def weight : Json → Nat
  | .arr vs => 1 + weightItems vs
  | .obj ms => 1 + weightMembers ms
  | _ => 1

def weightItems : List Json → Nat
  | [] => 0
  | v :: vs => 1 + weight v + weightItems vs

def weightMembers : Json.Members → Nat
  | [] => 0
  | (_, v) :: ms => 1 + weight v + weightMembers ms

end

/-- The head of the text of a value. -/
def Leads (cs : List Char) : Prop :=
  ∃ c rest, cs = c :: rest ∧ isWhitespace c = false ∧ c ≠ ']' ∧ c ≠ '}'

theorem leads_cons {c : Char} {cs : List Char}
    (h : isWhitespace c = false ∧ c ≠ ']' ∧ c ≠ '}' := by decide) : Leads (c :: cs) :=
  ⟨c, cs, rfl, h⟩

theorem not_special_of_digit {c : Char} (h : c.isDigit = true) :
    isWhitespace c = false ∧ c ≠ ']' ∧ c ≠ '}' ∧ c ≠ '"' ∧ c ≠ '[' ∧ c ≠ '{' ∧ c ≠ 'n' ∧
      c ≠ 't' ∧ c ≠ 'f' ∧ c ≠ 'N' ∧ c ≠ 'I' ∧ c ≠ '-' := by
  refine ⟨?_, ?_, ?_, ?_, ?_, ?_, ?_, ?_, ?_, ?_, ?_, ?_⟩
  · cases hw : isWhitespace c with
    | false => rfl
    | true =>
      simp only [isWhitespace, Bool.or_eq_true, beq_iff_eq] at hw
      rcases hw with ((rfl | rfl) | rfl) | rfl <;> exact absurd h (by decide)
  all_goals
    intro hc
    subst hc
    exact absurd h (by decide)

/-- A number literal starts with a digit or with a minus sign before a digit. -/
theorem NumberToken.Valid.render_head {t : NumberToken} (h : t.Valid) (rest : List Char) :
    (∃ d cs, t.render ++ rest = d :: cs ∧ d.isDigit = true) ∨
      ∃ d cs, t.render ++ rest = '-' :: d :: cs ∧ d.isDigit = true := by
  obtain ⟨d, cs, hcons, hd⟩ := h.head?_digit
    (renderFraction t.fraction ++ renderExponent t.exponent ++ rest)
  simp only [List.append_assoc] at hcons
  cases hn : t.negative with
  | false =>
    left
    exact ⟨d, cs, by simp [NumberToken.render, hn, hcons], hd⟩
  | true =>
    right
    exact ⟨d, cs, by simp [NumberToken.render, hn, hcons], hd⟩

theorem NumberToken.Valid.leads {t : NumberToken} (h : t.Valid) (rest : List Char) :
    Leads (t.render ++ rest) := by
  rcases h.render_head rest with ⟨d, cs, hcons, hd⟩ | ⟨d, cs, hcons, _⟩
  · have hspecial := not_special_of_digit hd
    exact ⟨d, cs, hcons, hspecial.1, hspecial.2.1, hspecial.2.2.1⟩
  · rw [hcons]
    exact leads_cons

theorem scanLiteral_number {t : NumberToken} (h : t.Valid) (rest : List Char) :
    scanLiteral (t.render ++ rest) = none := by
  rcases h.render_head rest with ⟨d, cs, hcons, hd⟩ | ⟨d, cs, hcons, hd⟩ <;>
    obtain ⟨_, _, _, _, _, _, hn, ht, hf, hN, hI, hminus⟩ := not_special_of_digit hd
  · simp [hcons, scanLiteral, literals, Ne.symm hn, Ne.symm ht, Ne.symm hf, Ne.symm hN, Ne.symm hI,
      Ne.symm hminus]
  · simp [hcons, scanLiteral, literals, Ne.symm hI]

variable {F : FloatText} {L : Layout}

theorem scanValue_number {t : NumberToken} (h : t.Valid) {v : Json}
    (hv : numberValue F t = some v) (n : Nat) {rest : List Char} (hr : Stops rest) :
    scanValue F (n + 1) (t.render ++ rest) = some (v, rest) := by
  have hliteral := scanLiteral_number h rest
  have hscan := scanNumber_render h hr
  have hplain : ∀ c cs, t.render ++ rest = c :: cs → c ≠ '"' ∧ c ≠ '[' ∧ c ≠ '{' := by
    intro c cs hcons
    rcases h.render_head rest with ⟨d, ds, hd, hdigit⟩ | ⟨d, ds, hd, _⟩
    · obtain ⟨rfl, _⟩ := List.cons.inj (hcons.symm.trans hd)
      have hspecial := not_special_of_digit hdigit
      exact ⟨hspecial.2.2.2.1, hspecial.2.2.2.2.1, hspecial.2.2.2.2.2.1⟩
    · obtain ⟨rfl, _⟩ := List.cons.inj (hcons.symm.trans hd)
      decide
  rw [scanValue.eq_def]
  split
  · contradiction
  · rename_i heq
    exact absurd rfl (hplain _ _ heq).1
  · rename_i heq
    exact absurd rfl (hplain _ _ heq).2.1
  · rename_i heq
    exact absurd rfl (hplain _ _ heq).2.2
  · simp [hliteral, hscan, hv]

theorem Layout.render_leads {j : Json} (h : dumpable j = true) (rest : List Char) :
    Leads (L.render F j ++ rest) := by
  cases j with
  | null => exact leads_cons
  | bool b => cases b <;> exact leads_cons
  | int n => exact (integerToken_valid n).leads rest
  | float x => exact (F.valid x h).leads rest
  | str s => exact leads_cons
  | arr vs => cases vs <;> exact leads_cons
  | obj ms => cases ms <;> exact leads_cons

theorem Leads.skip {cs : List Char} (h : Leads cs) : skipWhitespace cs = cs := by
  obtain ⟨c, rest, rfl, hc, _⟩ := h
  simp [skipWhitespace, hc]

theorem skipWhitespace_cons {c : Char} {cs : List Char} (h : isWhitespace c = false) :
    skipWhitespace (c :: cs) = c :: cs := by
  simp [skipWhitespace, h]

theorem Layout.skip_gap (cs : List Char) : skipWhitespace (L.gap ++ cs) = skipWhitespace cs :=
  List.dropWhile_append_of_pos L.blank

theorem Layout.quote_leads (s : String) (rest : List Char) : Leads (L.quote s ++ rest) := leads_cons

/-- The blanks before a key and before a value are skipped. -/
theorem Layout.skip_gap_quote (s : String) (rest : List Char) :
    skipWhitespace (L.gap ++ (L.quote s ++ rest)) = L.quote s ++ rest :=
  (L.skip_gap _).trans (L.quote_leads s rest).skip

theorem Layout.skip_gap_render {j : Json} (h : dumpable j = true) (rest : List Char) :
    skipWhitespace (L.gap ++ (L.render F j ++ rest)) = L.render F j ++ rest :=
  (L.skip_gap _).trans (L.render_leads h rest).skip

theorem Layout.scanString_quote (s : String) (rest : List Char) :
    ∃ cs, L.quote s ++ rest = '"' :: cs ∧ scanString cs = some (s, rest) := by
  refine ⟨L.escaped s.toList ++ '"' :: rest, ?_, L.scans s rest⟩
  rw [Layout.quote, List.cons_append, List.append_assoc, List.singleton_append]

def ReadsValue (L : Layout) (F : FloatText) (n : Nat) : Prop :=
  ∀ (j : Json) (rest : List Char), j.canonical = true → dumpable j = true → weight j ≤ n →
    Stops rest → scanValue F n (L.render F j ++ rest) = some (j, rest)

def ReadsItems (L : Layout) (F : FloatText) (n : Nat) : Prop :=
  ∀ (v : Json) (vs : List Json) (rest : List Char), Json.canonicalItems (v :: vs) = true →
    dumpableItems (v :: vs) = true → weightItems (v :: vs) ≤ n →
    scanItems F n (L.render F v ++ (L.renderItems F vs ++ rest)) = some (v :: vs, rest)

def ReadsMembers (L : Layout) (F : FloatText) (n : Nat) : Prop :=
  ∀ (k : String) (v : Json) (ms : Json.Members) (rest : List Char),
    Json.canonicalMembers ((k, v) :: ms) = true → dumpableMembers ((k, v) :: ms) = true →
    weightMembers ((k, v) :: ms) ≤ n →
    scanMembers F n (L.quote k ++ ':' :: (L.gap ++ (L.render F v ++ (L.renderMembers F ms ++ rest)))) =
      some ((k, v) :: ms, rest)

theorem Layout.stops_renderItems (vs : List Json) (rest : List Char) :
    Stops (L.renderItems F vs ++ rest) := by
  intro c hc
  cases vs with
  | nil => exact .inr (.inl (by simpa [Layout.renderItems] using hc.symm))
  | cons v vs => exact .inl (by simpa [Layout.renderItems] using hc.symm)

theorem Layout.stops_renderMembers (ms : Json.Members) (rest : List Char) :
    Stops (L.renderMembers F ms ++ rest) := by
  intro c hc
  cases ms with
  | nil => exact .inr (.inr (by simpa [Layout.renderMembers] using hc.symm))
  | cons m ms => exact .inl (by simpa [Layout.renderMembers] using hc.symm)

theorem scanValue_arr {n : Nat} {cs : List Char} (h : Leads cs) :
    scanValue F (n + 1) ('[' :: cs) = (scanItems F n cs).map fun p => (.arr p.1, p.2) := by
  obtain ⟨c, rest, rfl, hspace, hbracket, _⟩ := h
  simp [scanValue, skipWhitespace_cons hspace, hbracket]

theorem scanValue_obj {n : Nat} {cs : List Char} (h : Leads cs) :
    scanValue F (n + 1) ('{' :: cs) =
      (scanMembers F n cs).map fun p => (.obj (Json.ofPairs p.1), p.2) := by
  obtain ⟨c, rest, rfl, hspace, _, hbrace⟩ := h
  simp [scanValue, skipWhitespace_cons hspace, hbrace]

theorem readsValue_succ {n : Nat} (hitems : ReadsItems L F n) (hmembers : ReadsMembers L F n) :
    ReadsValue L F (n + 1) := by
  intro j rest hcanonical hdump hweight hrest
  cases j with
  | null => rfl
  | bool b => cases b <;> rfl
  | int m => exact scanValue_number (integerToken_valid m) (numberValue_integerToken hdump) n hrest
  | float x =>
    have hv : numberValue F (F.token x) = some (.float x) := by
      rw [numberValue, if_pos (F.isFloat x hdump), F.parse_token x hdump]
    exact scanValue_number (F.valid x hdump) hv n hrest
  | str s =>
    obtain ⟨cs, hcs, hscan⟩ := L.scanString_quote s rest
    rw [Layout.render, hcs, scanValue, hscan]
    rfl
  | arr vs =>
    cases vs with
    | nil => rfl
    | cons v vs =>
      simp only [weight] at hweight
      have hv : dumpable v = true := by
        simp only [dumpable, dumpableItems, Bool.and_eq_true] at hdump
        exact hdump.1
      have hread := hitems v vs rest hcanonical hdump (by omega)
      simp only [Layout.render, List.cons_append, List.append_assoc]
      rw [scanValue_arr (L.render_leads hv _), hread]
      rfl
  | obj ms =>
    cases ms with
    | nil => rfl
    | cons m ms =>
      obtain ⟨k, v⟩ := m
      simp only [weight] at hweight
      simp only [Json.canonical, Bool.and_eq_true, decide_eq_true_eq] at hcanonical
      have hread := hmembers k v ms rest hcanonical.2 hdump (by omega)
      simp only [Layout.render, List.cons_append, List.append_assoc]
      rw [scanValue_obj (L.quote_leads _ _), hread]
      simp [Json.ofPairs_of_sorted hcanonical.1]

theorem readsItems_succ {n : Nat} (hvalue : ReadsValue L F n) (hitems : ReadsItems L F n) :
    ReadsItems L F (n + 1) := by
  intro v vs rest hcanonical hdump hweight
  simp only [weightItems] at hweight
  simp only [Json.canonicalItems, dumpableItems, Bool.and_eq_true] at hcanonical hdump
  have hread := hvalue v (L.renderItems F vs ++ rest) hcanonical.1 hdump.1 (by omega)
    (L.stops_renderItems vs rest)
  rw [scanItems, hread]
  cases vs with
  | nil => simp [Layout.renderItems, skipWhitespace_cons (show isWhitespace ']' = false by decide)]
  | cons w vs =>
    have hw : dumpable w = true := by
      have := hdump.2
      simp only [dumpableItems, Bool.and_eq_true] at this
      exact this.1
    have hrest := hitems w vs rest hcanonical.2 hdump.2 (by omega)
    simp [Layout.renderItems, skipWhitespace_cons (show isWhitespace ',' = false by decide),
      L.skip_gap_render hw, hrest]

theorem readsMembers_succ {n : Nat} (hvalue : ReadsValue L F n) (hmembers : ReadsMembers L F n) :
    ReadsMembers L F (n + 1) := by
  intro k v ms rest hcanonical hdump hweight
  simp only [weightMembers] at hweight
  simp only [Json.canonicalMembers, dumpableMembers, Bool.and_eq_true] at hcanonical hdump
  have hread := hvalue v (L.renderMembers F ms ++ rest) hcanonical.1 hdump.1 (by omega)
    (L.stops_renderMembers ms rest)
  obtain ⟨cs, hcs, hscan⟩ := L.scanString_quote k
    (':' :: (L.gap ++ (L.render F v ++ (L.renderMembers F ms ++ rest))))
  have hcolon : ∀ cs, skipWhitespace (':' :: cs) = ':' :: cs :=
    fun cs => skipWhitespace_cons (by decide)
  rw [hcs, scanMembers, hscan]
  simp only [Option.bind_eq_bind, Option.bind_some, hcolon, L.skip_gap_render hdump.1, hread]
  cases ms with
  | nil => simp [Layout.renderMembers, skipWhitespace_cons (show isWhitespace '}' = false by decide)]
  | cons m ms =>
    obtain ⟨k', w⟩ := m
    have hrest := hmembers k' w ms rest hcanonical.2 hdump.2 (by omega)
    simp [Layout.renderMembers, skipWhitespace_cons (show isWhitespace ',' = false by decide),
      L.skip_gap_quote, hrest]

theorem reads (L : Layout) (n : Nat) :
    ReadsValue L F n ∧ ReadsItems L F n ∧ ReadsMembers L F n := by
  induction n with
  | zero =>
    refine ⟨?_, ?_, ?_⟩
    · intro j rest _ _ hweight
      cases j <;> simp [weight] at hweight
    · intro v vs rest _ _ hweight
      simp [weightItems] at hweight
    · intro k v ms rest _ _ hweight
      simp [weightMembers] at hweight
  | succ n ih =>
    obtain ⟨hvalue, hitems, hmembers⟩ := ih
    exact ⟨readsValue_succ hitems hmembers, readsItems_succ hvalue hitems,
      readsMembers_succ hvalue hmembers⟩

/-! The weight of a value is at most the length of its text. -/

mutual

theorem weight_le_length (L : Layout) :
    ∀ j : Json, dumpable j = true → weight j ≤ (L.render F j).length
  | .null, _ => by simp [Layout.render, weight]
  | .bool true, _ => by simp [Layout.render, weight]
  | .bool false, _ => by simp [Layout.render, weight]
  | .int n, h => by
    obtain ⟨c, cs, hcons, _⟩ := L.render_leads (F := F) (j := .int n) h []
    rw [List.append_nil] at hcons
    simp [hcons, weight]
  | .float x, h => by
    obtain ⟨c, cs, hcons, _⟩ := L.render_leads (F := F) (j := .float x) h []
    rw [List.append_nil] at hcons
    simp [hcons, weight]
  | .str s, _ => by simp [Layout.render, Layout.quote, weight]
  | .arr [], _ => by simp [Layout.render, weight, weightItems]
  | .arr (v :: vs), h => by
    simp only [dumpable, dumpableItems, Bool.and_eq_true] at h
    have hv := weight_le_length L v h.1
    have hvs := weightItems_lt_length L vs h.2
    simp only [Layout.render, weight, weightItems, List.length_cons, List.length_append]
    omega
  | .obj [], _ => by simp [Layout.render, weight, weightMembers]
  | .obj ((k, v) :: ms), h => by
    simp only [dumpable, dumpableMembers, Bool.and_eq_true] at h
    have hv := weight_le_length L v h.1
    have hms := weightMembers_lt_length L ms h.2
    simp only [Layout.render, weight, weightMembers, List.length_cons, List.length_append]
    omega

theorem weightItems_lt_length (L : Layout) : ∀ vs : List Json, dumpableItems vs = true →
    weightItems vs < (L.renderItems F vs).length
  | [], _ => by simp [Layout.renderItems, weightItems]
  | v :: vs, h => by
    simp only [dumpableItems, Bool.and_eq_true] at h
    have hv := weight_le_length L v h.1
    have hvs := weightItems_lt_length L vs h.2
    simp only [Layout.renderItems, weightItems, List.length_cons, List.length_append]
    omega

theorem weightMembers_lt_length (L : Layout) : ∀ ms : Json.Members, dumpableMembers ms = true →
    weightMembers ms < (L.renderMembers F ms).length
  | [], _ => by simp [Layout.renderMembers, weightMembers]
  | (k, v) :: ms, h => by
    simp only [dumpableMembers, Bool.and_eq_true] at h
    have hv := weight_le_length L v h.1
    have hms := weightMembers_lt_length L ms h.2
    simp only [Layout.renderMembers, weightMembers, List.length_cons, List.length_append]
    omega

end

/-- A text in any layout reads back as the same document. -/
theorem loads_render (L : Layout) {j : Json} (hj : j.canonical = true) (hdump : dumpable j = true) :
    loads F (String.ofList (L.render F j)) = some j := by
  have hlength := weight_le_length (F := F) L j hdump
  have hread := (reads (F := F) L ((L.render F j).length + 1)).1 j [] hj hdump (by omega)
    (by simp [Stops])
  have hlead := L.render_leads (F := F) hdump []
  rw [List.append_nil] at hread hlead
  have hend : skipWhitespace [] = [] := rfl
  simp [loads, hlead.skip, hread, hend]

mutual

theorem render_eq : ∀ j : Json, render F j = compact.render F j
  | .null => rfl
  | .bool true => rfl
  | .bool false => rfl
  | .int _ => rfl
  | .float _ => rfl
  | .str _ => rfl
  | .arr [] => rfl
  | .arr (v :: vs) => by rw [render, Layout.render, render_eq v, renderItems_eq vs]
  | .obj [] => rfl
  | .obj ((k, v) :: ms) => by
    rw [render, Layout.render, render_eq v, renderMembers_eq ms]
    simp [Layout.quote, compact]

theorem renderItems_eq : ∀ vs : List Json, renderItems F vs = compact.renderItems F vs
  | [] => rfl
  | v :: vs => by
    rw [renderItems, Layout.renderItems, render_eq v, renderItems_eq vs]
    rfl

theorem renderMembers_eq : ∀ ms : Json.Members, renderMembers F ms = compact.renderMembers F ms
  | [] => rfl
  | (k, v) :: ms => by
    rw [renderMembers, Layout.renderMembers, render_eq v, renderMembers_eq ms]
    simp [Layout.quote, compact]

end

/-- A written document reads back as the same document. -/
theorem loads_dumps {j : Json} {text : String} (hj : j.canonical = true)
    (h : dumps F j = some text) : loads F text = some j := by
  unfold dumps at h
  split at h
  · rename_i hdump
    obtain rfl := Option.some.inj h
    rw [render_eq]
    exact loads_render compact hj hdump
  · exact absurd h (by simp)

end JsonText
