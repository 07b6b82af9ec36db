import Mathlib.Algebra.Order.Field.Rat
import Mathlib.Tactic.FieldSimp
import Mathlib.Tactic.Ring
import ResearchOs.Data.JsonLexeme
import Mathlib.Data.Nat.Digits.Lemmas
import Mathlib.Algebra.BigOperators.Group.List.Basic
import Mathlib.Algebra.Order.BigOperators.Group.List

/-! Decimals of few significant digits: the rational they denote, and the two texts that programs
print for them. -/
namespace Decimals

open JsonText

/-! The rational of a number literal. -/

def exponentValue : Option Exponent → Int
  | none => 0
  | some x =>
    if x.sign = some '-' then -(Nat.ofDigitChars 10 x.digits 0 : Int)
    else (Nat.ofDigitChars 10 x.digits 0 : Int)

def signValue (negative : Bool) : ℚ := if negative then -1 else 1

def tokenValue (t : NumberToken) : ℚ :=
  signValue t.negative * (Nat.ofDigitChars 10 (t.integer ++ t.fraction.getD []) 0 : ℚ) *
    10 ^ (exponentValue t.exponent - ((t.fraction.getD []).length : Int))

/-- The rational of a text that is one number literal. -/
def numeralValue (cs : List Char) : Option ℚ :=
  match scanNumber cs with
  | some (t, []) => some (tokenValue t)
  | _ => none

theorem numeralValue_render {t : NumberToken} (h : t.Valid) :
    numeralValue t.render = some (tokenValue t) := by
  have hstops : Stops [] := fun _ hc => absurd hc (by simp)
  have hscan := scanNumber_render h hstops
  rw [List.append_nil] at hscan
  rw [numeralValue, hscan]

/-- The decimal `0.d₁d₂…dₖ · 10^point`, without zeros at either end of its digits. -/
structure Decimal where
  negative : Bool
  digits : List Char
  point : Int
  areDigits : ∀ c ∈ digits, c.isDigit = true
  nonempty : digits ≠ []
  leads : digits.head? ≠ some '0'
  trails : digits.getLast? ≠ some '0'
  short : digits.length ≤ 17

namespace Decimal

variable (d : Decimal)

def value : ℚ :=
  signValue d.negative * (Nat.ofDigitChars 10 d.digits 0 : ℚ) *
    10 ^ (d.point - (d.digits.length : Int))

def sign : List Char := if d.negative then ['-'] else []

def zeros (n : Int) : List Char := List.replicate n.toNat '0'

/-- One digit, and the others behind a point. -/
def mantissa : List Char :=
  d.digits.take 1 ++ (if d.digits.drop 1 = [] then [] else '.' :: d.digits.drop 1)

def exponentSign : Char := if d.point - 1 < 0 then '-' else '+'

def exponentDigits : List Char := Nat.toDigits 10 (d.point - 1).natAbs

/-- `Number::toString` of ECMAScript. -/
def ecmaScript : List Char :=
  d.sign ++
    if (d.digits.length : Int) ≤ d.point ∧ d.point ≤ 21 then
      d.digits ++ zeros (d.point - d.digits.length)
    else if 0 < d.point ∧ d.point ≤ 21 then
      d.digits.take d.point.toNat ++ '.' :: d.digits.drop d.point.toNat
    else if -6 < d.point ∧ d.point ≤ 0 then '0' :: '.' :: (zeros (-d.point) ++ d.digits)
    else d.mantissa ++ 'e' :: d.exponentSign :: d.exponentDigits

/-- At least two digits. -/
def padded (digits : List Char) : List Char :=
  if digits.length < 2 then '0' :: digits else digits

/-- `repr` of a Python float whose shortest digits these are. -/
def pythonRepr : List Char :=
  d.sign ++
    if -4 < d.point ∧ d.point ≤ 16 then
      if d.point ≤ 0 then '0' :: '.' :: (zeros (-d.point) ++ d.digits)
      else if d.point < d.digits.length then
        d.digits.take d.point.toNat ++ '.' :: d.digits.drop d.point.toNat
      else d.digits ++ (zeros (d.point - d.digits.length) ++ ['.', '0'])
    else d.mantissa ++ 'e' :: d.exponentSign :: padded d.exponentDigits

/-! The texts as literals, and the rational that they denote. -/

variable {d : Decimal} {t : NumberToken}

theorem digits_pos (d : Decimal) : 0 < d.digits.length := List.length_pos_iff.mpr d.nonempty

/-- Zeros around the digits only move the scale. -/
theorem tokenValue_eq {m n : Nat} (hnegative : t.negative = d.negative)
    (hdigits : t.integer ++ t.fraction.getD [] =
      List.replicate m '0' ++ (d.digits ++ List.replicate n '0'))
    (hscale : (n : Int) + exponentValue t.exponent - ((t.fraction.getD []).length : Int) =
      d.point - d.digits.length) : tokenValue t = d.value := by
  have hvalue : Nat.ofDigitChars 10 (t.integer ++ t.fraction.getD []) 0 =
      10 ^ n * Nat.ofDigitChars 10 d.digits 0 := by
    rw [hdigits]
    simp only [Nat.ofDigitChars_append, Nat.ofDigitChars_replicate_zero, Nat.mul_zero]
  have hpower : (10 : ℚ) ^ n *
      10 ^ (exponentValue t.exponent - ((t.fraction.getD []).length : Int)) =
        10 ^ (d.point - (d.digits.length : Int)) := by
    rw [← zpow_natCast, ← zpow_add₀ (by norm_num)]
    congr 1
    omega
  rw [tokenValue, value, hvalue, hnegative, ← hpower]
  push_cast
  ring

/-- The digits begin an integer part. -/
theorem valid_integer (d : Decimal) (rest : List Char) (hrest : ∀ c ∈ rest, c.isDigit = true)
    (n : Nat) (hn : 0 < n) : ∃ c cs, d.digits.take n ++ rest = c :: cs ∧ c ≠ '0' ∧
      c.isDigit = true ∧ ∀ c ∈ cs, c.isDigit = true := by
  obtain ⟨c, cs, hcs⟩ := List.exists_cons_of_ne_nil d.nonempty
  obtain ⟨m, rfl⟩ : ∃ m, n = m + 1 := ⟨n - 1, by omega⟩
  have hdigits := d.areDigits
  have hleads := d.leads
  rw [hcs] at hdigits hleads
  refine ⟨c, cs.take m ++ rest, by rw [hcs]; rfl, ?_, hdigits c List.mem_cons_self, ?_⟩
  · intro hzero
    exact hleads (by rw [hzero]; rfl)
  · intro digit hdigit
    obtain hdigit | hdigit := List.mem_append.mp hdigit
    · exact hdigits digit (List.mem_cons_of_mem c (List.mem_of_mem_take hdigit))
    · exact hrest digit hdigit

theorem isDigit_zeros (n : Nat) : ∀ c ∈ List.replicate n '0', c.isDigit = true := by
  intro c hc
  rw [List.eq_of_mem_replicate hc]
  decide

theorem isDigit_zero : ∀ c ∈ ['0'], c.isDigit = true := isDigit_zeros 1

/-- Plain digits, with a fraction of zeros or none. -/
def wholeToken (d : Decimal) (fraction : Option (List Char)) : NumberToken :=
  ⟨d.negative, d.digits ++ zeros (d.point - d.digits.length), fraction, none⟩

/-- The point inside the digits. -/
def splitToken (d : Decimal) : NumberToken :=
  ⟨d.negative, d.digits.take d.point.toNat, some (d.digits.drop d.point.toNat), none⟩

/-- Zeros before the digits. -/
def smallToken (d : Decimal) : NumberToken :=
  ⟨d.negative, ['0'], some (zeros (-d.point) ++ d.digits), none⟩

def exponentToken (d : Decimal) (digits : List Char) : NumberToken :=
  ⟨d.negative, d.digits.take 1, if d.digits.drop 1 = [] then none else some (d.digits.drop 1),
    some ⟨'e', some d.exponentSign, digits⟩⟩

theorem wholeToken_valid {fraction : Option (List Char)}
    (hfraction : ∀ ds ∈ fraction, ds ≠ [] ∧ ∀ c ∈ ds, c.isDigit = true) :
    (wholeToken d fraction).Valid := by
  refine ⟨Or.inr ?_, hfraction, fun _ hx => by cases hx⟩
  have hvalid := d.valid_integer (zeros (d.point - d.digits.length)) (isDigit_zeros _)
    d.digits.length d.digits_pos
  rwa [List.take_length] at hvalid

theorem splitToken_valid (hpoint : 0 < d.point) (hlength : d.point < d.digits.length) :
    (splitToken d).Valid := by
  refine ⟨Or.inr ?_, ?_, fun _ hx => by cases hx⟩
  · have hvalid := d.valid_integer [] (fun _ hc => absurd hc List.not_mem_nil) d.point.toNat
      (by omega)
    rwa [List.append_nil] at hvalid
  · intro ds hds
    cases hds
    refine ⟨?_, fun c hc => d.areDigits c (List.mem_of_mem_drop hc)⟩
    intro hnil
    have hzero := congrArg List.length hnil
    rw [List.length_drop, List.length_nil] at hzero
    omega

theorem smallToken_valid : (smallToken d).Valid := by
  refine ⟨Or.inl rfl, ?_, fun _ hx => by cases hx⟩
  intro ds hds
  cases hds
  refine ⟨List.append_ne_nil_of_right_ne_nil _ d.nonempty, fun c hc => ?_⟩
  obtain hc | hc := List.mem_append.mp hc
  · exact isDigit_zeros _ c hc
  · exact d.areDigits c hc

theorem exponentToken_valid {digits : List Char} (hnonempty : digits ≠ [])
    (hdigits : ∀ c ∈ digits, c.isDigit = true) : (exponentToken d digits).Valid := by
  refine ⟨Or.inr ?_, ?_, ?_⟩
  · have hvalid := d.valid_integer [] (fun _ hc => absurd hc List.not_mem_nil) 1 Nat.one_pos
    rwa [List.append_nil] at hvalid
  · intro ds hds
    simp only [exponentToken] at hds
    split_ifs at hds with hrest
    · cases hds
    · cases hds
      exact ⟨hrest, fun c hc => d.areDigits c (List.mem_of_mem_drop hc)⟩
  · intro x hx
    cases hx
    refine ⟨rfl, ?_, hnonempty, hdigits⟩
    intro c hc
    cases hc
    unfold exponentSign
    split_ifs <;> rfl

theorem wholeToken_value (h : (d.digits.length : Int) ≤ d.point) :
    tokenValue (wholeToken d none) = d.value := by
  refine tokenValue_eq (m := 0) (n := (d.point - d.digits.length).toNat) rfl ?_ ?_
  · simp [wholeToken, zeros]
  · simp only [wholeToken, exponentValue, Option.getD_none, List.length_nil]
    omega

theorem wholeToken_zero_value (h : (d.digits.length : Int) ≤ d.point) :
    tokenValue (wholeToken d (some ['0'])) = d.value := by
  refine tokenValue_eq (m := 0) (n := (d.point - d.digits.length).toNat + 1) rfl ?_ ?_
  · simp [wholeToken, zeros, List.replicate_succ']
  · simp only [wholeToken, exponentValue, Option.getD_some, List.length_singleton]
    omega

theorem splitToken_value (hpoint : 0 < d.point) (hlength : d.point < d.digits.length) :
    tokenValue (splitToken d) = d.value := by
  refine tokenValue_eq (m := 0) (n := 0) rfl ?_ ?_
  · simp [splitToken]
  · simp only [splitToken, exponentValue, Option.getD_some, List.length_drop]
    omega

theorem smallToken_value (h : d.point ≤ 0) : tokenValue (smallToken d) = d.value := by
  refine tokenValue_eq (m := (-d.point).toNat + 1) (n := 0) rfl ?_ ?_
  · simp [smallToken, zeros, List.replicate_succ]
  · simp only [smallToken, zeros, exponentValue, Option.getD_some, List.length_append,
      List.length_replicate]
    omega

theorem exponentToken_value {digits : List Char}
    (h : Nat.ofDigitChars 10 digits 0 = (d.point - 1).natAbs) :
    tokenValue (exponentToken d digits) = d.value := by
  have hexponent : exponentValue (exponentToken d digits).exponent = d.point - 1 := by
    simp only [exponentToken, exponentValue, exponentSign, h]
    by_cases hnegative : d.point - 1 < 0
    · rw [if_pos hnegative, if_pos rfl]
      omega
    · rw [if_neg hnegative, if_neg (by decide)]
      omega
  have hrest : (if d.digits.drop 1 = [] then none else some (d.digits.drop 1)).getD [] =
      d.digits.drop 1 := by
    split_ifs with hnone
    · rw [hnone]
      rfl
    · rfl
  have hpositive := d.digits_pos
  refine tokenValue_eq (m := 0) (n := 0) rfl ?_ ?_
  · simp only [exponentToken, hrest, List.take_append_drop, List.replicate_zero, List.nil_append,
      List.append_nil]
  · rw [hexponent]
    simp only [exponentToken, hrest, List.length_drop]
    omega

/-! The two texts. -/

theorem isDigit_exponentDigits (d : Decimal) : ∀ c ∈ d.exponentDigits, c.isDigit = true :=
  fun _ hc => Nat.isDigit_of_mem_toDigits (by decide) (by decide) hc

theorem exponentDigits_ne_nil (d : Decimal) : d.exponentDigits ≠ [] := Nat.toDigits_ne_nil

theorem render_of_negative (h : t.negative = d.negative) :
    t.render = d.sign ++ (t.integer ++ (NumberToken.renderFraction t.fraction ++
      NumberToken.renderExponent t.exponent)) := by
  rw [NumberToken.render, h]
  cases hnegative : d.negative <;> simp [sign, hnegative]

theorem render_exponentToken (d : Decimal) (digits : List Char) :
    (exponentToken d digits).render = d.sign ++ (d.mantissa ++ 'e' :: d.exponentSign :: digits) := by
  rw [render_of_negative (d := d) rfl]
  unfold exponentToken mantissa
  split_ifs with hrest <;>
    simp [NumberToken.renderFraction, NumberToken.renderExponent]

/-- The ECMAScript text is a literal of the same rational. -/
theorem ecmaScript_token (d : Decimal) :
    ∃ t : NumberToken, t.Valid ∧ tokenValue t = d.value ∧ d.ecmaScript = t.render := by
  unfold ecmaScript
  split_ifs with hwhole hsplit hsmall
  · refine ⟨wholeToken d none, wholeToken_valid (fun _ hds => by cases hds),
      wholeToken_value hwhole.1, ?_⟩
    rw [render_of_negative (d := d) rfl]
    simp [wholeToken, NumberToken.renderFraction, NumberToken.renderExponent]
  · have hlength : d.point < d.digits.length := by omega
    refine ⟨splitToken d, splitToken_valid hsplit.1 hlength, splitToken_value hsplit.1 hlength, ?_⟩
    rw [render_of_negative (d := d) rfl]
    simp [splitToken, NumberToken.renderFraction, NumberToken.renderExponent]
  · refine ⟨smallToken d, smallToken_valid, smallToken_value hsmall.2, ?_⟩
    rw [render_of_negative (d := d) rfl]
    simp [smallToken, NumberToken.renderFraction, NumberToken.renderExponent]
  · exact ⟨exponentToken d d.exponentDigits,
      exponentToken_valid d.exponentDigits_ne_nil d.isDigit_exponentDigits,
      exponentToken_value Nat.ofDigitChars_ten_toDigits, (render_exponentToken d _).symm⟩

theorem padded_ne_nil {digits : List Char} (h : digits ≠ []) : padded digits ≠ [] := by
  unfold padded
  split_ifs
  · exact List.cons_ne_nil _ _
  · exact h

theorem isDigit_padded {digits : List Char} (h : ∀ c ∈ digits, c.isDigit = true) :
    ∀ c ∈ padded digits, c.isDigit = true := by
  unfold padded
  split_ifs
  · intro c hc
    obtain rfl | hc := List.mem_cons.mp hc
    · decide
    · exact h c hc
  · exact h

theorem ofDigitChars_padded (digits : List Char) :
    Nat.ofDigitChars 10 (padded digits) 0 = Nat.ofDigitChars 10 digits 0 := by
  unfold padded
  split_ifs
  · exact Nat.ofDigitChars_cons
  · rfl

/-- So is the Python text. -/
theorem pythonRepr_token (d : Decimal) :
    ∃ t : NumberToken, t.Valid ∧ tokenValue t = d.value ∧ d.pythonRepr = t.render := by
  unfold pythonRepr
  split_ifs with hpositional hsmall hsplit
  · refine ⟨smallToken d, smallToken_valid, smallToken_value hsmall, ?_⟩
    rw [render_of_negative (d := d) rfl]
    simp [smallToken, NumberToken.renderFraction, NumberToken.renderExponent]
  · have hpoint : 0 < d.point := not_le.mp hsmall
    refine ⟨splitToken d, splitToken_valid hpoint hsplit, splitToken_value hpoint hsplit, ?_⟩
    rw [render_of_negative (d := d) rfl]
    simp [splitToken, NumberToken.renderFraction, NumberToken.renderExponent]
  · refine ⟨wholeToken d (some ['0']), wholeToken_valid ?_, wholeToken_zero_value
      (not_lt.mp hsplit), ?_⟩
    · intro ds hds
      cases hds
      exact ⟨List.cons_ne_nil _ _, isDigit_zero⟩
    · rw [render_of_negative (d := d) rfl]
      simp [wholeToken, NumberToken.renderFraction, NumberToken.renderExponent]
  · refine ⟨exponentToken d (padded d.exponentDigits),
      exponentToken_valid (padded_ne_nil d.exponentDigits_ne_nil)
        (isDigit_padded d.isDigit_exponentDigits),
      exponentToken_value ?_, (render_exponentToken d _).symm⟩
    rw [ofDigitChars_padded]
    exact Nat.ofDigitChars_ten_toDigits

theorem numeralValue_ecmaScript (d : Decimal) : numeralValue d.ecmaScript = some d.value := by
  obtain ⟨t, hvalid, hvalue, htext⟩ := d.ecmaScript_token
  rw [htext, numeralValue_render hvalid, hvalue]

theorem numeralValue_pythonRepr (d : Decimal) : numeralValue d.pythonRepr = some d.value := by
  obtain ⟨t, hvalid, hvalue, htext⟩ := d.pythonRepr_token
  rw [htext, numeralValue_render hvalid, hvalue]

end Decimal

/-! Whole decimals. -/

theorem digitChar_of_isDigit {c : Char} (h : c.isDigit = true) :
    c.toNat - 48 < 10 ∧ (c.toNat - 48).digitChar = c := by
  simp only [Char.isDigit, Bool.and_eq_true, decide_eq_true_eq, ge_iff_le, UInt32.le_iff_toNat_le] at h
  have hlow : 48 ≤ c.toNat := h.1
  have hhigh : c.toNat ≤ 57 := h.2
  refine ⟨by omega, ?_⟩
  have hchar : ∀ n < 10, (Nat.digitChar n).toNat = n + 48 := by decide
  apply Char.toNat_inj.mp
  rw [hchar _ (by omega)]
  omega

theorem ofDigitChars_concat (ds : List Char) (c : Char) :
    Nat.ofDigitChars 10 (ds ++ [c]) 0 = 10 * Nat.ofDigitChars 10 ds 0 + (c.toNat - 48) := by
  rw [Nat.ofDigitChars_append, Nat.ofDigitChars_cons, Nat.ofDigitChars_nil]
  rfl

/-- Digits without a leading zero are those that their number is written with. -/
theorem toDigits_ofDigitChars {c : Char} {cs : List Char}
    (hdigits : ∀ e ∈ c :: cs, e.isDigit = true) (hc : c ≠ '0') :
    Nat.toDigits 10 (Nat.ofDigitChars 10 (c :: cs) 0) = c :: cs := by
  induction cs using List.reverseRecOn with
  | nil =>
    obtain ⟨hlt, hchar⟩ := digitChar_of_isDigit (hdigits c List.mem_cons_self)
    have hvalue : Nat.ofDigitChars 10 [c] 0 = c.toNat - 48 := by
      rw [Nat.ofDigitChars_cons, Nat.ofDigitChars_nil]
      simp
    rw [hvalue, Nat.toDigits_of_lt_base hlt, hchar]
  | append_singleton cs e ih =>
    have hfront := ih fun x hx => hdigits x (by
      rw [← List.cons_append]
      exact List.mem_append_left _ hx)
    obtain ⟨hlt, hchar⟩ := digitChar_of_isDigit (hdigits e (by simp))
    have hpos : 0 < Nat.ofDigitChars 10 (c :: cs) 0 := by
      rcases Nat.eq_zero_or_pos (Nat.ofDigitChars 10 (c :: cs) 0) with hzero | hpos
      · rw [hzero] at hfront
        have hhead : '0' = c := (List.cons.inj hfront).1
        exact absurd hhead.symm hc
      · exact hpos
    rw [← List.cons_append, ofDigitChars_concat, ← Nat.toDigits_append_toDigits (by decide) hpos hlt,
      hfront, Nat.toDigits_of_lt_base hlt, hchar]

namespace Decimal

variable (d : Decimal)

/-- The number that the digits are. -/
def coefficient : Nat := Nat.ofDigitChars 10 d.digits 0

theorem toDigits_coefficient : Nat.toDigits 10 d.coefficient = d.digits := by
  obtain ⟨c, cs, hcs⟩ := List.exists_cons_of_ne_nil d.nonempty
  have hdigits := d.areDigits
  have hleads := d.leads
  rw [hcs] at hdigits hleads
  rw [coefficient, hcs]
  refine toDigits_ofDigitChars hdigits ?_
  intro hzero
  exact hleads (by rw [hzero]; rfl)

theorem coefficient_pos : 0 < d.coefficient := by
  rcases Nat.eq_zero_or_pos d.coefficient with hzero | hpos
  · have hdigits := d.toDigits_coefficient
    rw [hzero] at hdigits
    exact absurd (by rw [← hdigits]; rfl) d.leads
  · exact hpos

theorem coefficient_lt : d.coefficient < 10 ^ d.digits.length := by
  rw [← Nat.length_toDigits_le_iff (by decide) d.digits_pos, d.toDigits_coefficient]

theorem le_coefficient : 10 ^ (d.digits.length - 1) ≤ d.coefficient := by
  by_cases hone : d.digits.length = 1
  · rw [hone]
    exact d.coefficient_pos
  · have hpositive := d.digits_pos
    by_contra hlt
    rw [not_le, ← Nat.length_toDigits_le_iff (by decide) (by omega), d.toDigits_coefficient] at hlt
    omega

/-- The last digit is not a zero. -/
theorem not_ten_dvd_coefficient : ¬ 10 ∣ d.coefficient := by
  intro hdvd
  obtain ⟨front, e, hsplit⟩ := List.eq_nil_or_concat'  d.digits |>.resolve_left d.nonempty
  have he := d.areDigits e (by rw [hsplit]; simp)
  obtain ⟨hlt, hchar⟩ := digitChar_of_isDigit he
  have hvalue : d.coefficient = 10 * Nat.ofDigitChars 10 front 0 + (e.toNat - 48) := by
    rw [coefficient, hsplit, ofDigitChars_concat]
  have hzero : e.toNat - 48 = 0 := by omega
  rw [hzero] at hchar
  have htrails := d.trails
  rw [hsplit, List.getLast?_concat] at htrails
  exact htrails (by rw [← hchar]; rfl)

/-- The integer below the scale. -/
def signedCoefficient : Int := if d.negative then -(d.coefficient : Int) else d.coefficient

theorem value_eq : d.value =
    (d.signedCoefficient : ℚ) * 10 ^ (d.point - (d.digits.length : Int)) := by
  unfold value signValue signedCoefficient coefficient
  split_ifs <;> push_cast <;> ring

theorem natAbs_signedCoefficient : d.signedCoefficient.natAbs = d.coefficient := by
  unfold signedCoefficient
  split_ifs <;> omega

/-- A decimal whose digits end before the point is an integer. -/
theorem value_whole (h : (d.digits.length : Int) ≤ d.point) :
    d.value = ((d.signedCoefficient * 10 ^ (d.point - d.digits.length).toNat : Int) : ℚ) := by
  have hscale : d.point - (d.digits.length : Int) = ((d.point - d.digits.length).toNat : Int) := by
    omega
  rw [value_eq]
  conv_lhs => rw [hscale]
  rw [zpow_natCast]
  push_cast
  rfl

/-- One with digits behind the point is none. -/
theorem value_den_ne_one (h : d.point < d.digits.length) : d.value.den ≠ 1 := by
  intro hden
  have hwhole : d.value = (d.value.num : ℚ) := (Rat.coe_int_num_of_den_eq_one hden).symm
  obtain ⟨m, hm⟩ : ∃ m : Nat, (d.digits.length : Int) - d.point = (m + 1 : Nat) :=
    ⟨((d.digits.length : Int) - d.point - 1).toNat, by omega⟩
  have hscale : d.point - (d.digits.length : Int) = -((m + 1 : Nat) : Int) := by omega
  have hvalue : (d.signedCoefficient : ℚ) = d.value.num * 10 ^ (m + 1) := by
    rw [← hwhole, value_eq, hscale, zpow_neg, zpow_natCast, mul_assoc,
      inv_mul_cancel₀ (by positivity), mul_one]
  have hinteger : d.signedCoefficient = d.value.num * 10 ^ (m + 1) := by exact_mod_cast hvalue
  apply d.not_ten_dvd_coefficient
  rw [← natAbs_signedCoefficient, hinteger, Int.natAbs_mul]
  refine Dvd.dvd.mul_left ?_ _
  rw [Int.natAbs_pow, pow_succ]
  exact Dvd.intro_left _ rfl

theorem value_ne_zero : d.value ≠ 0 := by
  rw [value_eq]
  refine mul_ne_zero ?_ (zpow_ne_zero _ (by norm_num))
  have hpos := d.coefficient_pos
  have habs := d.natAbs_signedCoefficient
  exact_mod_cast (by omega : d.signedCoefficient ≠ 0)

end Decimal
end Decimals

/-! Decimal numbers with two fraction digits, as their hundredths. Sums are rounded to the
significant digits of the arithmetic context. -/
namespace Hundredths

/-- The default precision of the context. -/
def precision : Nat := 28

/-- `ROUND_HALF_EVEN` to a multiple of the unit. -/
def roundHalfEven (n : Int) (unit : Nat) : Int :=
  if 2 * (n % unit) < unit ∨ (2 * (n % unit) = unit ∧ n / unit % 2 = 0) then n / unit * unit
  else (n / unit + 1) * unit

def add (a b : Int) : Int :=
  roundHalfEven (a + b) (10 ^ ((Nat.digits 10 (a + b).natAbs).length - precision))

theorem roundHalfEven_one (n : Int) : roundHalfEven n 1 = n := by
  simp [roundHalfEven]

/-- A sum within the precision is exact. -/
theorem add_eq {a b : Int} (h : (a + b).natAbs < 10 ^ precision) : add a b = a + b := by
  have hdigits := (Nat.digits_length_le_iff (b := 10) (by decide) (a + b).natAbs).mpr h
  rw [add, Nat.sub_eq_zero_of_le hdigits, pow_zero, roundHalfEven_one]

/-- A running sum of amounts within the precision is exact. -/
theorem foldl_add {amounts : List Int} (hnonneg : ∀ a ∈ amounts, 0 ≤ a) {total : Int}
    (htotal : 0 ≤ total) (h : (total + amounts.sum).natAbs < 10 ^ precision) :
    amounts.foldl add total = total + amounts.sum := by
  induction amounts generalizing total with
  | nil => simp
  | cons a amounts ih =>
    have ha := hnonneg a List.mem_cons_self
    have hrest : ∀ b ∈ amounts, 0 ≤ b := fun b hb => hnonneg b (List.mem_cons_of_mem a hb)
    have hsum := List.sum_nonneg hrest
    rw [List.sum_cons] at h
    have hone : add total a = total + a := add_eq (by omega)
    rw [List.foldl_cons, hone, ih hrest (by omega) (by omega), List.sum_cons]
    omega

end Hundredths
