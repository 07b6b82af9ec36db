import ResearchOs.Data.Decimal
import ResearchOs.Data.JsonText

/-! `_serialize_binary64`: a Python float text rewritten as ECMAScript writes the number. -/
namespace ResearchOs.Jcs

open Decimals (Decimal numeralValue)

/-- `text.find(c)` when it is above zero: what is before `c`, and the text from `c` on. -/
def cutAt (c : Char) (text : List Char) : Option (List Char × List Char) :=
  let before := text.takeWhile (· ≠ c)
  let after := text.dropWhile (· ≠ c)
  if before = [] ∨ after = [] then none else some (before, after)

/-- One leading zero of an exponent is dropped. -/
def trimExponent (text : List Char) : List Char :=
  if 2 < text.length ∧ text[2]? = some '0' then text.take 2 ++ text.drop 3 else text

/-- `int(text)` -/
def signedInt : List Char → Int
  | '-' :: digits => -(Nat.ofDigitChars 10 digits 0 : Int)
  | '+' :: digits => (Nat.ofDigitChars 10 digits 0 : Int)
  | digits => (Nat.ofDigitChars 10 digits 0 : Int)

/-- `while pad >= 0: pad -= 1; first += "0"` -/
def appendZeros (pad : Int) (first : List Char) : List Char :=
  if 0 ≤ pad then appendZeros (pad - 1) (first ++ ['0']) else first
termination_by (pad + 1).toNat
decreasing_by omega

/-- `while pad < -1: pad += 1; last = "0" + last` -/
def prependZeros (pad : Int) (last : List Char) : List Char :=
  if pad < -1 then prependZeros (pad + 1) ('0' :: last) else last
termination_by (-1 - pad).toNat
decreasing_by omega

/-- What follows the sign. -/
def serializeUnsigned (rendered : List Char) : List Char :=
  let (rendered, exponentText) := match cutAt 'e' rendered with
    | some (before, after) => (before, trimExponent after)
    | none => (rendered, [])
  let exponent := signedInt (exponentText.drop 1)
  let (first, separator, last) := match cutAt '.' rendered with
    | some (before, after) => (before, ['.'], after.drop 1)
    | none => (rendered, [], [])
  let (separator, last) := if last = ['0'] then ([], []) else (separator, last)
  if 0 < exponent ∧ exponent < 21 then
    appendZeros (exponent - (first ++ last).length) (first ++ last)
  else if -7 < exponent ∧ exponent < 0 then
    '0' :: '.' :: prependZeros exponent (first ++ last)
  else first ++ (separator ++ (last ++ exponentText))

def serializeRendered : List Char → List Char
  | '-' :: rendered => '-' :: serializeUnsigned rendered
  | rendered => serializeUnsigned rendered

/-- `value == 0` -/
def isZero (x : Binary64) : Bool := x.toNat % 2 ^ 63 == 0

/-- `_serialize_binary64`; `repr` is the text of `str(value)`. -/
def serializeBinary64 (repr : Binary64 → List Char) (x : Binary64) : Except String (List Char) :=
  if ¬ x.isFinite then .error "JCS numbers must be finite"
  else if isZero x then .ok ['0']
  else if 'n' ∈ repr x then .error "JCS numbers must be finite"
  else .ok (serializeRendered (repr x))

/-! The parts of a Python text. -/

variable {d : Decimal} {c : Char} {xs ys digits : List Char}

theorem cutAt_append (hc : c ∉ xs) (hxs : xs ≠ []) : cutAt c (xs ++ c :: ys) = some (xs, c :: ys) := by
  have hall : ∀ x ∈ xs, decide (x ≠ c) = true := by
    intro x hx
    refine decide_eq_true fun hsame => hc (hsame ▸ hx)
  have htake : (xs ++ c :: ys).takeWhile (fun x => decide (x ≠ c)) = xs := by
    rw [List.takeWhile_append_of_pos hall]
    simp
  have hdrop : (xs ++ c :: ys).dropWhile (fun x => decide (x ≠ c)) = c :: ys := by
    rw [List.dropWhile_append_of_pos hall]
    simp
  simp only [cutAt]
  rw [htake, hdrop, if_neg (not_or.mpr ⟨hxs, List.cons_ne_nil _ _⟩)]

theorem cutAt_of_not_mem (hc : c ∉ xs) : cutAt c xs = none := by
  have hall : ∀ x ∈ xs, decide (x ≠ c) = true := by
    intro x hx
    refine decide_eq_true fun hsame => hc (hsame ▸ hx)
  have hdrop : (xs ++ []).dropWhile (fun x => decide (x ≠ c)) = [].dropWhile _ :=
    List.dropWhile_append_of_pos hall
  rw [List.append_nil, List.dropWhile_nil] at hdrop
  simp only [cutAt]
  rw [hdrop, if_pos (Or.inr rfl)]

theorem appendZeros_eq (pad : Int) (first : List Char) :
    appendZeros pad first = first ++ List.replicate (pad + 1).toNat '0' := by
  induction pad, first using appendZeros.induct with
  | case1 pad first hpad ih =>
    have hsplit : (pad + 1).toNat = (pad - 1 + 1).toNat + 1 := by omega
    rw [appendZeros, if_pos hpad, ih, hsplit, List.replicate_succ, List.append_assoc]
    rfl
  | case2 pad first hpad =>
    have hnone : (pad + 1).toNat = 0 := by omega
    rw [appendZeros, if_neg hpad, hnone, List.replicate_zero, List.append_nil]

theorem prependZeros_eq (pad : Int) (last : List Char) :
    prependZeros pad last = List.replicate (-1 - pad).toNat '0' ++ last := by
  induction pad, last using prependZeros.induct with
  | case1 pad last hpad ih =>
    have hsplit : (-1 - pad).toNat = (-1 - (pad + 1)).toNat + 1 := by omega
    rw [prependZeros, if_pos hpad, ih, hsplit, List.replicate_succ']
    simp
  | case2 pad last hpad =>
    have hnone : (-1 - pad).toNat = 0 := by omega
    rw [prependZeros, if_neg hpad, hnone, List.replicate_zero, List.nil_append]

theorem not_mem_of_digits (h : ∀ x ∈ digits, x.isDigit = true) (hc : c.isDigit = false) :
    c ∉ digits := by
  intro hmem
  rw [h c hmem] at hc
  cases hc

/-- A sign in front is taken off; the text of a decimal never starts with one. -/
theorem serializeRendered_sign (hhead : xs.head? ≠ some '-') :
    serializeRendered (d.sign ++ xs) = d.sign ++ serializeUnsigned xs := by
  unfold Decimal.sign
  split_ifs
  · rfl
  · rw [List.nil_append, List.nil_append]
    unfold serializeRendered
    split
    · exact absurd rfl hhead
    · rfl

/-- A text with a point and no exponent: only a fraction of one zero goes. -/
theorem serializeUnsigned_plain {first last : List Char} (hfirst : ∀ x ∈ first, x.isDigit = true)
    (hnonempty : first ≠ []) (hlast : ∀ x ∈ last, x.isDigit = true) :
    serializeUnsigned (first ++ '.' :: last) =
      if last = ['0'] then first else first ++ '.' :: last := by
  have hexponent : 'e' ∉ first ++ '.' :: last := by
    intro hmem
    obtain hmem | hmem := List.mem_append.mp hmem
    · exact not_mem_of_digits hfirst rfl hmem
    · obtain hsame | hmem := List.mem_cons.mp hmem
      · exact absurd hsame (by decide)
      · exact not_mem_of_digits hlast rfl hmem
  have hpoint : cutAt '.' (first ++ '.' :: last) = some (first, '.' :: last) :=
    cutAt_append (not_mem_of_digits hfirst (by decide)) hnonempty
  simp only [serializeUnsigned, cutAt_of_not_mem hexponent, hpoint, List.drop_nil, List.drop_succ_cons,
    List.drop_zero]
  have hzero : signedInt [] = 0 := rfl
  by_cases hwhole : last = ['0']
  · simp [hwhole, hzero]
  · simp [hwhole, hzero]

theorem trimExponent_padded {n : Nat} (hn : 0 < n) (e sign : Char) :
    trimExponent (e :: sign :: Decimal.padded (Nat.toDigits 10 n)) =
      e :: sign :: Nat.toDigits 10 n := by
  obtain ⟨head, tail, hdigits, hhead⟩ := JsonText.toDigits_head hn
  rw [hdigits]
  unfold trimExponent Decimal.padded
  split_ifs with hshort htrim htrim
  · rfl
  · exact absurd ⟨by simp, rfl⟩ htrim
  · exact absurd (Option.some.inj htrim.2) hhead
  · rfl

/-- A text with an exponent, cut into its parts. -/
theorem serializeUnsigned_exponent (hexponent : d.point - 1 ≠ 0) :
    serializeUnsigned (d.mantissa ++ 'e' :: d.exponentSign :: Decimal.padded d.exponentDigits) =
      if 0 < d.point - 1 ∧ d.point - 1 < 21 then
        appendZeros (d.point - 1 - d.digits.length) d.digits
      else if -7 < d.point - 1 ∧ d.point - 1 < 0 then
        '0' :: '.' :: prependZeros (d.point - 1) d.digits
      else d.mantissa ++ 'e' :: d.exponentSign :: d.exponentDigits := by
  have hfirst : ∀ x ∈ d.digits.take 1, x.isDigit = true :=
    fun x hx => d.areDigits x (List.mem_of_mem_take hx)
  have hrest : ∀ x ∈ d.digits.drop 1, x.isDigit = true :=
    fun x hx => d.areDigits x (List.mem_of_mem_drop hx)
  have hnonempty : d.digits.take 1 ≠ [] := by
    intro hnone
    obtain h | h := List.take_eq_nil_iff.mp hnone
    · omega
    · exact d.nonempty h
  have hmantissa : d.mantissa ≠ [] := List.append_ne_nil_of_left_ne_nil hnonempty _
  have hletter : 'e' ∉ d.mantissa := by
    unfold Decimal.mantissa
    intro hmem
    obtain hmem | hmem := List.mem_append.mp hmem
    · exact not_mem_of_digits hfirst rfl hmem
    · split_ifs at hmem
      · cases hmem
      · obtain hsame | hmem := List.mem_cons.mp hmem
        · exact absurd hsame (by decide)
        · exact not_mem_of_digits hrest rfl hmem
  have hcut : cutAt 'e' (d.mantissa ++ 'e' :: d.exponentSign :: Decimal.padded d.exponentDigits) =
      some (d.mantissa, 'e' :: d.exponentSign :: Decimal.padded d.exponentDigits) :=
    cutAt_append hletter hmantissa
  have htrim := trimExponent_padded (n := (d.point - 1).natAbs) (by omega) 'e' d.exponentSign
  have hvalue : signedInt (d.exponentSign :: d.exponentDigits) = d.point - 1 := by
    have hdigits : Nat.ofDigitChars 10 d.exponentDigits 0 = (d.point - 1).natAbs :=
      Nat.ofDigitChars_ten_toDigits
    unfold Decimal.exponentSign
    split_ifs with hnegative
    · rw [signedInt, hdigits]
      omega
    · rw [signedInt, hdigits]
      omega
  have hexponentText : trimExponent ('e' :: d.exponentSign :: Decimal.padded d.exponentDigits) =
      'e' :: d.exponentSign :: d.exponentDigits := htrim
  have hsplit : d.digits.take 1 ++ d.digits.drop 1 = d.digits := List.take_append_drop 1 d.digits
  simp only [serializeUnsigned, hcut, hexponentText, List.drop_succ_cons, List.drop_zero, hvalue]
  by_cases hsingle : d.digits.drop 1 = []
  · have hpoint : cutAt '.' d.mantissa = none := by
      rw [Decimal.mantissa, if_pos hsingle, List.append_nil]
      exact cutAt_of_not_mem (not_mem_of_digits hfirst (by decide))
    have hdigits : d.mantissa = d.digits := by
      rw [Decimal.mantissa, if_pos hsingle]
      rw [hsingle] at hsplit
      exact hsplit
    have hnoZero : ([] : List Char) ≠ ['0'] := by decide
    rw [hdigits] at hpoint
    simp only [hdigits, hpoint, if_neg hnoZero, List.append_nil, List.nil_append]
  · have hform : d.mantissa = d.digits.take 1 ++ '.' :: d.digits.drop 1 := by
      rw [Decimal.mantissa, if_neg hsingle]
    have hpoint : cutAt '.' d.mantissa = some (d.digits.take 1, '.' :: d.digits.drop 1) := by
      rw [hform]
      exact cutAt_append (not_mem_of_digits hfirst (by decide)) hnonempty
    have htrails : d.digits.drop 1 ≠ ['0'] := by
      intro hzero
      rw [hzero] at hsplit
      have hlast := d.trails
      rw [← hsplit, List.getLast?_concat] at hlast
      exact hlast rfl
    simp only [hpoint, List.drop_succ_cons, List.drop_zero, if_neg htrails, hsplit]
    split_ifs
    · rfl
    · rfl
    · rw [hform]
      simp

theorem head_ne_minus (d : Decimal) {n : Nat} (hn : 0 < n) (rest : List Char) :
    (d.digits.take n ++ rest).head? ≠ some '-' := by
  obtain ⟨c, cs, hcs, -, hdigit, -⟩ := d.valid_integer [] (fun _ hc => absurd hc List.not_mem_nil) n hn
  rw [List.append_nil] at hcs
  rw [hcs, List.cons_append, List.head?_cons]
  intro hminus
  rw [Option.some.inj hminus] at hdigit
  exact absurd hdigit (by decide)

theorem ne_zero_of_trails (d : Decimal) {front last : List Char} (h : front ++ last = d.digits) :
    last ≠ ['0'] := by
  rintro rfl
  have htrails := d.trails
  rw [← h, List.getLast?_concat] at htrails
  exact htrails rfl

theorem serialize_small :
    serializeUnsigned ('0' :: '.' :: (Decimal.zeros (-d.point) ++ d.digits)) =
      '0' :: '.' :: (Decimal.zeros (-d.point) ++ d.digits) := by
  have hlast : ∀ x ∈ Decimal.zeros (-d.point) ++ d.digits, x.isDigit = true := by
    intro x hx
    obtain hx | hx := List.mem_append.mp hx
    · exact Decimal.isDigit_zeros _ x hx
    · exact d.areDigits x hx
  have hplain := serializeUnsigned_plain Decimal.isDigit_zero (List.cons_ne_nil _ _) hlast
  have htrails : Decimal.zeros (-d.point) ++ d.digits ≠ ['0'] := by
    intro hzero
    have hends := congrArg List.getLast? hzero
    rw [List.getLast?_append_of_ne_nil _ d.nonempty] at hends
    exact d.trails hends
  rw [if_neg htrails] at hplain
  exact hplain

theorem serialize_split (hpoint : 0 < d.point) :
    serializeUnsigned (d.digits.take d.point.toNat ++ '.' :: d.digits.drop d.point.toNat) =
      d.digits.take d.point.toNat ++ '.' :: d.digits.drop d.point.toNat := by
  have hnonempty : d.digits.take d.point.toNat ≠ [] := by
    intro hnone
    obtain h | h := List.take_eq_nil_iff.mp hnone
    · omega
    · exact d.nonempty h
  rw [serializeUnsigned_plain (fun x hx => d.areDigits x (List.mem_of_mem_take hx)) hnonempty
    fun x hx => d.areDigits x (List.mem_of_mem_drop hx), if_neg]
  exact ne_zero_of_trails d (List.take_append_drop _ _)

theorem serialize_whole :
    serializeUnsigned (d.digits ++ (Decimal.zeros (d.point - d.digits.length) ++ ['.', '0'])) =
      d.digits ++ Decimal.zeros (d.point - d.digits.length) := by
  have hfirst : ∀ x ∈ d.digits ++ Decimal.zeros (d.point - d.digits.length), x.isDigit = true := by
    intro x hx
    obtain hx | hx := List.mem_append.mp hx
    · exact d.areDigits x hx
    · exact Decimal.isDigit_zeros _ x hx
  rw [← List.append_assoc, serializeUnsigned_plain hfirst
    (List.append_ne_nil_of_left_ne_nil d.nonempty _) Decimal.isDigit_zero, if_pos rfl]

/-- A Python text becomes the ECMAScript text of the same digits. -/
theorem serializeRendered_pythonRepr (d : Decimal) :
    serializeRendered d.pythonRepr = d.ecmaScript := by
  have hpositive := d.digits_pos
  have hshort := d.short
  unfold Decimal.pythonRepr Decimal.ecmaScript
  by_cases hpositional : -4 < d.point ∧ d.point ≤ 16
  · rw [if_pos hpositional]
    by_cases hsmall : d.point ≤ 0
    · have hwhole : ¬ ((d.digits.length : Int) ≤ d.point ∧ d.point ≤ 21) := by omega
      have hsplit : ¬ (0 < d.point ∧ d.point ≤ 21) := by omega
      have htiny : -6 < d.point ∧ d.point ≤ 0 := by omega
      rw [if_pos hsmall, if_neg hwhole, if_neg hsplit, if_pos htiny,
        serializeRendered_sign (by simp), serialize_small]
    · have hpoint : 0 < d.point := not_le.mp hsmall
      rw [if_neg hsmall]
      by_cases hlength : d.point < d.digits.length
      · have hwhole : ¬ ((d.digits.length : Int) ≤ d.point ∧ d.point ≤ 21) := by omega
        have hsplit : 0 < d.point ∧ d.point ≤ 21 := by omega
        rw [if_pos hlength, if_neg hwhole, if_pos hsplit,
          serializeRendered_sign (head_ne_minus d (by omega) _), serialize_split hpoint]
      · have hwhole : (d.digits.length : Int) ≤ d.point ∧ d.point ≤ 21 := by omega
        have hhead := head_ne_minus d hpositive
          (Decimal.zeros (d.point - d.digits.length) ++ ['.', '0'])
        rw [List.take_length] at hhead
        rw [if_neg hlength, if_pos hwhole, serializeRendered_sign hhead, serialize_whole]
  · -- Python writes an exponent from 16 on and from -5 down.
    rw [if_neg hpositional]
    have hhead : (d.mantissa ++ 'e' :: d.exponentSign :: Decimal.padded d.exponentDigits).head? ≠
        some '-' := by
      unfold Decimal.mantissa
      rw [List.append_assoc]
      exact head_ne_minus d Nat.one_pos _
    rw [serializeRendered_sign hhead, serializeUnsigned_exponent (by omega)]
    congr 1
    by_cases hlarge : 0 < d.point - 1 ∧ d.point - 1 < 21
    · have hwhole : (d.digits.length : Int) ≤ d.point ∧ d.point ≤ 21 := by omega
      have hpad : (d.point - 1 - (d.digits.length : Int) + 1).toNat =
          (d.point - d.digits.length).toNat := by omega
      rw [if_pos hlarge, if_pos hwhole, appendZeros_eq, hpad]
      rfl
    · have hwhole : ¬ ((d.digits.length : Int) ≤ d.point ∧ d.point ≤ 21) := by omega
      have hsplit : ¬ (0 < d.point ∧ d.point ≤ 21) := by omega
      rw [if_neg hlarge, if_neg hwhole, if_neg hsplit]
      by_cases hsmall : -7 < d.point - 1 ∧ d.point - 1 < 0
      · have htiny : -6 < d.point ∧ d.point ≤ 0 := by omega
        have hpad : (-1 - (d.point - 1)).toNat = (-d.point).toNat := by omega
        rw [if_pos hsmall, if_pos htiny, prependZeros_eq, hpad]
        rfl
      · have htiny : ¬ (-6 < d.point ∧ d.point ≤ 0) := by omega
        rw [if_neg hsmall, if_neg htiny]

/-- What stands in a Python text besides digits. -/
theorem mem_pythonRepr (d : Decimal) (hc : c ∈ d.pythonRepr) :
    c.isDigit = true ∨ c = '-' ∨ c = '+' ∨ c = '.' ∨ c = 'e' := by
  have hzeros : ∀ n, ∀ x ∈ Decimal.zeros n, x.isDigit = true := fun n => Decimal.isDigit_zeros _
  have hpadded := Decimal.isDigit_padded d.isDigit_exponentDigits
  have htake : ∀ n, ∀ x ∈ d.digits.take n, x.isDigit = true :=
    fun n x hx => d.areDigits x (List.mem_of_mem_take hx)
  have hdrop : ∀ n, ∀ x ∈ d.digits.drop n, x.isDigit = true :=
    fun n x hx => d.areDigits x (List.mem_of_mem_drop hx)
  have hmantissa : ∀ x ∈ d.mantissa, x.isDigit = true ∨ x = '.' := by
    intro x hx
    unfold Decimal.mantissa at hx
    obtain hx | hx := List.mem_append.mp hx
    · exact Or.inl (htake 1 x hx)
    · split_ifs at hx
      · cases hx
      · obtain rfl | hx := List.mem_cons.mp hx
        · exact Or.inr rfl
        · exact Or.inl (hdrop 1 x hx)
  have hsign : d.exponentSign = '-' ∨ d.exponentSign = '+' := by
    unfold Decimal.exponentSign
    split_ifs
    · exact Or.inl rfl
    · exact Or.inr rfl
  unfold Decimal.pythonRepr Decimal.sign at hc
  obtain hc | hc := List.mem_append.mp hc
  · split_ifs at hc
    · exact Or.inr (Or.inl (List.mem_singleton.mp hc))
    · cases hc
  · split_ifs at hc
    all_goals simp only [List.mem_append, List.mem_cons, List.not_mem_nil, or_false] at hc
    · obtain rfl | rfl | hc | hc := hc
      · exact Or.inl (by decide)
      · exact Or.inr (Or.inr (Or.inr (Or.inl rfl)))
      · exact Or.inl (hzeros _ c hc)
      · exact Or.inl (d.areDigits c hc)
    · obtain hc | rfl | hc := hc
      · exact Or.inl (htake _ c hc)
      · exact Or.inr (Or.inr (Or.inr (Or.inl rfl)))
      · exact Or.inl (hdrop _ c hc)
    · obtain hc | hc | rfl | rfl := hc
      · exact Or.inl (d.areDigits c hc)
      · exact Or.inl (hzeros _ c hc)
      · exact Or.inr (Or.inr (Or.inr (Or.inl rfl)))
      · exact Or.inl (by decide)
    · obtain hc | rfl | rfl | hc := hc
      · obtain hdigit | rfl := hmantissa c hc
        · exact Or.inl hdigit
        · exact Or.inr (Or.inr (Or.inr (Or.inl rfl)))
      · exact Or.inr (Or.inr (Or.inr (Or.inr rfl)))
      · obtain hminus | hplus := hsign
        · exact Or.inr (Or.inl hminus)
        · exact Or.inr (Or.inr (Or.inl hplus))
      · exact Or.inl (hpadded c hc)

/-- The number that Python prints as `d` is serialised as ECMAScript prints it, and denotes the
same rational. -/
theorem serializeBinary64_ecmaScript {repr : Binary64 → List Char} {x : Binary64} {d : Decimal}
    (hfinite : x.isFinite = true) (hnonzero : isZero x = false) (hrepr : repr x = d.pythonRepr) :
    serializeBinary64 repr x = .ok d.ecmaScript ∧
      numeralValue d.ecmaScript = numeralValue (repr x) ∧
      numeralValue d.ecmaScript = some d.value := by
  have hletter : 'n' ∉ d.pythonRepr := by
    intro hmem
    obtain hdigit | hc | hc | hc | hc := mem_pythonRepr d hmem
    · exact absurd hdigit (by decide)
    · exact absurd hc (by decide)
    · exact absurd hc (by decide)
    · exact absurd hc (by decide)
    · exact absurd hc (by decide)
  refine ⟨?_, ?_, d.numeralValue_ecmaScript⟩
  · simp only [serializeBinary64, hfinite, not_true_eq_false, if_false, hnonzero,
      Bool.false_eq_true, if_neg hletter, hrepr, serializeRendered_pythonRepr]
  · rw [hrepr, d.numeralValue_ecmaScript, d.numeralValue_pythonRepr]

/-- `1.5e+16` and the number it is the text of. -/
theorem serializeBinary64_ecmaScript_trial :
    serializeBinary64 (fun _ => "1.5e+16".toList) 0x434AA535D3D0C000#64 =
      .ok "15000000000000000".toList := by
  let d : Decimal :=
    ⟨false, ['1', '5'], 17, List.all_eq_true.mp rfl, by decide, by decide, by decide, by decide⟩
  have htext := (@serializeBinary64_ecmaScript (fun _ => "1.5e+16".toList) 0x434AA535D3D0C000#64 d
    (by decide) (by decide) (by decide)).1
  rw [htext]
  decide

end ResearchOs.Jcs
