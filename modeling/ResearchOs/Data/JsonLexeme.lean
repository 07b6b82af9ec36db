import ResearchOs.Data.Json

/-! The strings and numbers of JSON texts. -/
namespace JsonText

/-! Strings. -/

def hexDigit (n : Nat) : Char := "0123456789abcdef".toList.getD n '0'

def hexValue (c : Char) : Option Nat :=
  if c.isDigit then some (c.toNat - '0'.toNat)
  else if 'a' ≤ c ∧ c ≤ 'f' then some (c.toNat - 'a'.toNat + 10)
  else if 'A' ≤ c ∧ c ≤ 'F' then some (c.toNat - 'A'.toNat + 10)
  else none

def hexQuad (a b c d : Char) : Option Nat := do
  some (4096 * (← hexValue a) + 256 * (← hexValue b) + 16 * (← hexValue c) + (← hexValue d))

def simpleEscape : Char → Option Char
  | '"' => some '"'
  | '\\' => some '\\'
  | '/' => some '/'
  | 'b' => some (Char.ofNat 8)
  | 'f' => some (Char.ofNat 12)
  | 'n' => some '\n'
  | 'r' => some '\r'
  | 't' => some '\t'
  | _ => none

def escapeLetter (c : Char) : Option Char :=
  ['"', '\\', 'b', 'f', 'n', 'r', 't'].find? fun l => simpleEscape l = some c

def escapeChar (c : Char) : List Char :=
  match escapeLetter c with
  | some l => ['\\', l]
  | none =>
    if c.toNat < 0x20 then ['\\', 'u', '0', '0', hexDigit (c.toNat / 16), hexDigit (c.toNat % 16)]
    else [c]

def escape (cs : List Char) : List Char := cs.flatMap escapeChar

def isHighSurrogate (n : Nat) : Bool := 0xD800 ≤ n && n ≤ 0xDBFF

def isLowSurrogate (n : Nat) : Bool := 0xDC00 ≤ n && n ≤ 0xDFFF

def joinSurrogates (high low : Nat) : Nat := 0x10000 + 0x400 * (high - 0xD800) + (low - 0xDC00)

/-- The code units of a string after its opening quote. -/
def scanUnits : List Char → Option (List Nat × List Char)
  | [] => none
  | '"' :: cs => some ([], cs)
  | '\\' :: 'u' :: a :: b :: c :: d :: cs =>
    match hexQuad a b c d with
    | some u => (scanUnits cs).map fun p => (u :: p.1, p.2)
    | none => none
  | '\\' :: l :: cs =>
    match simpleEscape l with
    | some c => (scanUnits cs).map fun p => (c.toNat :: p.1, p.2)
    | none => none
  | c :: cs =>
    if c.toNat < 0x20 then none else (scanUnits cs).map fun p => (c.toNat :: p.1, p.2)

/-- Surrogate pairs are joined. A lone surrogate is not a scalar value: no text has it. -/
def joinUnits : List Nat → Option (List Char)
  | [] => some []
  | [u] => if isHighSurrogate u || isLowSurrogate u then none else some [Char.ofNat u]
  | u :: v :: us =>
    if isHighSurrogate u then
      if isLowSurrogate v then (joinUnits us).map (Char.ofNat (joinSurrogates u v) :: ·) else none
    else if isLowSurrogate u then none
    else (joinUnits (v :: us)).map (Char.ofNat u :: ·)

def scanString (cs : List Char) : Option (String × List Char) := do
  let (units, rest) ← scanUnits cs
  let chars ← joinUnits units
  some (String.ofList chars, rest)

theorem toNat_not_surrogate (c : Char) : c.toNat < 0xD800 ∨ 0xDFFF < c.toNat := by
  rcases c.valid with h | h
  · exact .inl h
  · exact .inr h.1

theorem joinUnits_cons (c : Char) (us : List Nat) :
    joinUnits (c.toNat :: us) = (joinUnits us).map (c :: ·) := by
  have hscalar := toNat_not_surrogate c
  have hhigh : isHighSurrogate c.toNat = false := by
    rw [isHighSurrogate, Bool.and_eq_false_iff, decide_eq_false_iff_not, decide_eq_false_iff_not]
    omega
  have hlow : isLowSurrogate c.toNat = false := by
    rw [isLowSurrogate, Bool.and_eq_false_iff, decide_eq_false_iff_not, decide_eq_false_iff_not]
    omega
  cases us with
  | nil => simp [joinUnits, hhigh, hlow]
  | cons v us => simp [joinUnits, hhigh, hlow]

theorem joinUnits_map (cs : List Char) : joinUnits (cs.map Char.toNat) = some cs := by
  induction cs with
  | nil => rfl
  | cons c cs ih => simp [joinUnits_cons, ih]

theorem hexValue_hexDigit : ∀ n, n < 16 → hexValue (hexDigit n) = some n := by decide

theorem simpleEscape_escapeLetter {c l : Char} (h : escapeLetter c = some l) :
    simpleEscape l = some c := by
  simpa using List.find?_some h

theorem escapeLetter_ne_u {c l : Char} (h : escapeLetter c = some l) : l ≠ 'u' := by
  intro hu
  subst hu
  have := List.mem_of_find?_eq_some h
  revert this
  decide

theorem scanUnits_escapeChar (c : Char) (rest : List Char) :
    scanUnits (escapeChar c ++ rest) = (scanUnits rest).map fun p => (c.toNat :: p.1, p.2) := by
  unfold escapeChar
  cases hl : escapeLetter c with
  | some l =>
    have hc := simpleEscape_escapeLetter hl
    have hu := escapeLetter_ne_u hl
    simp only [List.cons_append, List.nil_append]
    rw [scanUnits.eq_4 _ _ (fun _ _ _ _ _ h _ => hu h), hc]
  | none =>
    have hquote : c ≠ '"' := by
      intro h
      subst h
      revert hl
      decide
    have hslash : c ≠ '\\' := by
      intro h
      subst h
      revert hl
      decide
    by_cases hcontrol : c.toNat < 0x20
    · have hhigh := hexValue_hexDigit (c.toNat / 16) (by omega)
      have hlow := hexValue_hexDigit (c.toNat % 16) (by omega)
      have hzero : hexValue '0' = some 0 := by decide
      have hsum : 16 * (c.toNat / 16) + c.toNat % 16 = c.toNat := by omega
      simp [hcontrol, scanUnits, hexQuad, hhigh, hlow, hzero, hsum]
    · simp only [if_neg hcontrol, List.cons_append, List.nil_append]
      rw [scanUnits.eq_def]
      split <;> simp_all

theorem scanUnits_escape (cs rest : List Char) :
    scanUnits (escape cs ++ '"' :: rest) = some (cs.map Char.toNat, rest) := by
  induction cs with
  | nil => rfl
  | cons c cs ih =>
    have hcons : escape (c :: cs) = escapeChar c ++ escape cs := rfl
    rw [hcons, List.append_assoc, scanUnits_escapeChar, ih]
    rfl

theorem scanString_escape (s : String) (rest : List Char) :
    scanString (escape s.toList ++ '"' :: rest) = some (s, rest) := by
  simp [scanString, scanUnits_escape, joinUnits_map]

/-! Numbers. -/

structure Exponent where
  letter : Char
  sign : Option Char
  digits : List Char

/-- The parts of a number literal. -/
structure NumberToken where
  negative : Bool
  integer : List Char
  fraction : Option (List Char)
  exponent : Option Exponent

namespace NumberToken

def renderExponent : Option Exponent → List Char
  | none => []
  | some x => x.letter :: (x.sign.toList ++ x.digits)

def renderFraction : Option (List Char) → List Char
  | none => []
  | some ds => '.' :: ds

def render (t : NumberToken) : List Char :=
  (if t.negative then ['-'] else []) ++ (t.integer ++ (renderFraction t.fraction ++
    renderExponent t.exponent))

def isFloat (t : NumberToken) : Bool := t.fraction.isSome || t.exponent.isSome

end NumberToken

def isExponentLetter (c : Char) : Bool := c == 'e' || c == 'E'

def isSign (c : Char) : Bool := c == '+' || c == '-'

def scanInteger : List Char → Option (List Char × List Char)
  | '0' :: cs => some (['0'], cs)
  | c :: cs =>
    if c.isDigit then some (c :: cs.takeWhile Char.isDigit, cs.dropWhile Char.isDigit) else none
  | [] => none

def scanFraction : List Char → Option (List Char) × List Char
  | '.' :: cs =>
    if cs.takeWhile Char.isDigit = [] then (none, '.' :: cs)
    else (some (cs.takeWhile Char.isDigit), cs.dropWhile Char.isDigit)
  | cs => (none, cs)

def scanSign : List Char → Option Char × List Char
  | c :: cs => if isSign c then (some c, cs) else (none, c :: cs)
  | [] => (none, [])

def scanExponent : List Char → Option Exponent × List Char
  | c :: cs =>
    if isExponentLetter c then
      let (sign, rest) := scanSign cs
      if rest.takeWhile Char.isDigit = [] then (none, c :: cs)
      else (some ⟨c, sign, rest.takeWhile Char.isDigit⟩, rest.dropWhile Char.isDigit)
    else (none, c :: cs)
  | [] => (none, [])

def scanMinus : List Char → Bool × List Char
  | '-' :: cs => (true, cs)
  | cs => (false, cs)

/-- `(-?(?:0|[1-9][0-9]*))(\.[0-9]+)?([eE][-+]?[0-9]+)?` -/
def scanNumber (cs : List Char) : Option (NumberToken × List Char) := do
  let (negative, cs) := scanMinus cs
  let (integer, cs) ← scanInteger cs
  let (fraction, cs) := scanFraction cs
  let (exponent, cs) := scanExponent cs
  some (⟨negative, integer, fraction, exponent⟩, cs)

/-- A literal of the number grammar. -/
structure NumberToken.Valid (t : NumberToken) : Prop where
  integer : t.integer = ['0'] ∨
    ∃ d ds, t.integer = d :: ds ∧ d ≠ '0' ∧ d.isDigit = true ∧ ∀ c ∈ ds, c.isDigit = true
  fraction : ∀ ds ∈ t.fraction, ds ≠ [] ∧ ∀ c ∈ ds, c.isDigit = true
  exponent : ∀ x ∈ t.exponent, isExponentLetter x.letter = true ∧
    (∀ c ∈ x.sign, isSign c = true) ∧ x.digits ≠ [] ∧ ∀ c ∈ x.digits, c.isDigit = true

/-- What follows a value inside an array, an object or at the end of the text. -/
def Stops (rest : List Char) : Prop := ∀ c ∈ rest.head?, c = ',' ∨ c = ']' ∨ c = '}'

/-- No digit follows. -/
def NoDigit (rest : List Char) : Prop := ∀ c ∈ rest.head?, c.isDigit = false

theorem Stops.noDigit {rest : List Char} (h : Stops rest) : NoDigit rest := by
  intro c hc
  rcases h c hc with rfl | rfl | rfl <;> decide

theorem span_digits {ds rest : List Char} (hds : ∀ c ∈ ds, c.isDigit = true) (hr : NoDigit rest) :
    (ds ++ rest).takeWhile Char.isDigit = ds ∧ (ds ++ rest).dropWhile Char.isDigit = rest := by
  rw [List.takeWhile_append_of_pos hds, List.dropWhile_append_of_pos hds]
  cases rest with
  | nil => simp
  | cons c rest =>
    have hc := hr c rfl
    simp [hc]

theorem scanExponent_render {x : Option Exponent} {rest : List Char}
    (hx : ∀ y ∈ x, isExponentLetter y.letter = true ∧ (∀ c ∈ y.sign, isSign c = true) ∧
      y.digits ≠ [] ∧ ∀ c ∈ y.digits, c.isDigit = true) (hr : Stops rest) :
    scanExponent (NumberToken.renderExponent x ++ rest) = (x, rest) := by
  cases x with
  | none =>
    cases rest with
    | nil => rfl
    | cons c rest =>
      have hc : isExponentLetter c = false := by
        rcases hr c rfl with rfl | rfl | rfl <;> decide
      simp [NumberToken.renderExponent, scanExponent, hc]
  | some x =>
    obtain ⟨hletter, hsign, hne, hdigits⟩ := hx x rfl
    have hspan := span_digits hdigits hr.noDigit
    have hscan : scanSign (x.sign.toList ++ (x.digits ++ rest)) = (x.sign, x.digits ++ rest) := by
      cases hs : x.sign with
      | some c => simp [scanSign, hsign c (by simp [hs])]
      | none =>
        obtain ⟨d, ds, hd⟩ := List.exists_cons_of_ne_nil hne
        have hplain : isSign d = false := by
          have hdigit := hdigits d (by simp [hd])
          cases hd' : isSign d with
          | false => rfl
          | true =>
            simp only [isSign, Bool.or_eq_true, beq_iff_eq] at hd'
            rcases hd' with rfl | rfl <;> revert hdigit <;> decide
        simp [hd, scanSign, hplain]
    simp only [NumberToken.renderExponent, List.cons_append, List.append_assoc, scanExponent,
      hletter, if_true, hscan, hspan, if_neg hne]

theorem scanFraction_render {f : Option (List Char)} {rest : List Char}
    (hf : ∀ ds ∈ f, ds ≠ [] ∧ ∀ c ∈ ds, c.isDigit = true) (hr : NoDigit rest)
    (hdot : ∀ c ∈ rest.head?, c ≠ '.') :
    scanFraction (NumberToken.renderFraction f ++ rest) = (f, rest) := by
  cases f with
  | none =>
    cases rest with
    | nil => rfl
    | cons c rest =>
      have hc := hdot c rfl
      simp [NumberToken.renderFraction, scanFraction, hc]
  | some ds =>
    obtain ⟨hne, hdigits⟩ := hf ds rfl
    have hspan := span_digits hdigits hr
    simp only [NumberToken.renderFraction, List.cons_append, scanFraction, hspan, if_neg hne]

theorem scanInteger_render {t : NumberToken} (h : t.Valid) {rest : List Char} (hr : NoDigit rest) :
    scanInteger (t.integer ++ rest) = some (t.integer, rest) := by
  rcases h.integer with hi | ⟨d, ds, hi, hzero, hd, hds⟩
  · simp [hi, scanInteger]
  · have hspan := span_digits hds hr
    simp [hi, scanInteger, hd, hspan]

theorem head?_renderExponent {x : Option Exponent} {rest : List Char}
    (hx : ∀ y ∈ x, isExponentLetter y.letter = true) {c : Char}
    (hc : c ∈ (NumberToken.renderExponent x ++ rest).head?) :
    isExponentLetter c = true ∨ c ∈ rest.head? := by
  cases x with
  | none => exact .inr hc
  | some x =>
    obtain rfl : x.letter = c := by simpa [NumberToken.renderExponent] using hc
    exact .inl (hx x rfl)

theorem not_digit_of_exponentLetter {c : Char} (h : isExponentLetter c = true) :
    c.isDigit = false ∧ c ≠ '.' := by
  simp only [isExponentLetter, Bool.or_eq_true, beq_iff_eq] at h
  rcases h with rfl | rfl <;> decide

theorem NumberToken.Valid.head?_digit {t : NumberToken} (h : t.Valid) (rest : List Char) :
    ∃ d cs, t.integer ++ rest = d :: cs ∧ d.isDigit = true := by
  rcases h.integer with hi | ⟨d, ds, hi, _, hd, _⟩
  · exact ⟨'0', rest, by simp [hi], by decide⟩
  · exact ⟨d, ds ++ rest, by simp [hi], hd⟩

theorem scanMinus_render {t : NumberToken} (h : t.Valid) {rest : List Char} :
    scanMinus ((if t.negative then ['-'] else []) ++ (t.integer ++ rest)) =
      (t.negative, t.integer ++ rest) := by
  cases hn : t.negative with
  | true => rfl
  | false =>
    obtain ⟨d, cs, hcons, hd⟩ := h.head?_digit rest
    have hminus : d ≠ '-' := by
      intro hd'
      subst hd'
      revert hd
      decide
    rw [if_neg (by decide), List.nil_append, hcons]
    simp [scanMinus, hminus]

theorem scanNumber_render {t : NumberToken} (h : t.Valid) {rest : List Char} (hr : Stops rest) :
    scanNumber (t.render ++ rest) = some (t, rest) := by
  have hletter : ∀ y ∈ t.exponent, isExponentLetter y.letter = true :=
    fun y hy => (h.exponent y hy).1
  have hafter : ∀ c ∈ (NumberToken.renderExponent t.exponent ++ rest).head?,
      c.isDigit = false ∧ c ≠ '.' := by
    intro c hc
    rcases head?_renderExponent hletter hc with hc | hc
    · exact not_digit_of_exponentLetter hc
    · rcases hr c hc with rfl | rfl | rfl <;> decide
  have hfraction := scanFraction_render h.fraction (fun c hc => (hafter c hc).1)
    (fun c hc => (hafter c hc).2)
  have hbefore : NoDigit (NumberToken.renderFraction t.fraction ++
      (NumberToken.renderExponent t.exponent ++ rest)) := by
    cases t.fraction with
    | none => exact fun c hc => (hafter c hc).1
    | some ds =>
      intro c hc
      obtain rfl : '.' = c := by simpa [NumberToken.renderFraction] using hc
      decide
  simp only [scanNumber, NumberToken.render, List.append_assoc, scanMinus_render h,
    scanInteger_render h hbefore, Option.bind_eq_bind, Option.bind_some, hfraction,
    scanExponent_render h.exponent hr]

end JsonText
