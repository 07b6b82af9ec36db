import Mathlib.Data.List.GetD
import Mathlib.Order.Basic

/-! URL-safe Base64 without padding, and the decoder that skips what is not in its alphabet. -/
namespace Base64

def alphabet : List Char := "ABCDEFGHIJKLMNOPQRSTUVWXYZabcdefghijklmnopqrstuvwxyz0123456789-_".toList

def digit (n : Nat) : Char := alphabet.getD n 'A'

/-- The value of a character; the signs of the common alphabet count too. -/
def sextet (c : Char) : Option Nat :=
  if c = '+' then some 62
  else if c = '/' then some 63
  else alphabet.idxOf? c

/-- `urlsafe_b64encode(…).rstrip("=")` -/
def encode : List Nat → List Char
  | a :: b :: c :: rest =>
    digit (a / 4) :: digit (a % 4 * 16 + b / 16) :: digit (b % 16 * 4 + c / 64) ::
      digit (c % 64) :: encode rest
  | [a, b] => [digit (a / 4), digit (a % 4 * 16 + b / 16), digit (b % 16 * 4)]
  | [a] => [digit (a / 4), digit (a % 4 * 16)]
  | [] => []

/-- The bytes from a position in a group of four on: `left` are the bits that no byte has taken. -/
def decodeFrom : Nat → Nat → Nat → List Char → Option (List Nat)
  | position, _, _, [] => if position = 0 then some [] else none
  | position, left, pads, c :: cs =>
    if c = '=' then
      if 2 ≤ position ∧ 4 ≤ position + (pads + 1) then some []
      else decodeFrom position left (if 2 ≤ position then pads + 1 else pads) cs
    else
      match sextet c with
      | none => decodeFrom position left pads cs
      | some value =>
        match position with
        | 0 => decodeFrom 1 value 0 cs
        | 1 => (decodeFrom 2 (value % 16) 0 cs).map ((left * 4 + value / 16) :: ·)
        | 2 => (decodeFrom 3 (value % 4) 0 cs).map ((left * 16 + value / 4) :: ·)
        | _ => (decodeFrom 0 0 0 cs).map ((left * 64 + value) :: ·)

/-- `urlsafe_b64decode(text + "=" * (-len(text) % 4))` -/
def decode (text : List Char) : Option (List Nat) :=
  decodeFrom 0 0 0 (text ++ List.replicate ((4 - text.length % 4) % 4) '=')

theorem alphabet_eq :
    alphabet =
      ['A', 'B', 'C', 'D', 'E', 'F', 'G', 'H', 'I', 'J', 'K', 'L', 'M', 'N', 'O', 'P', 'Q', 'R',
        'S', 'T', 'U', 'V', 'W', 'X', 'Y', 'Z', 'a', 'b', 'c', 'd', 'e', 'f', 'g', 'h', 'i', 'j',
        'k', 'l', 'm', 'n', 'o', 'p', 'q', 'r', 's', 't', 'u', 'v', 'w', 'x', 'y', 'z', '0', '1',
        '2', '3', '4', '5', '6', '7', '8', '9', '-', '_'] :=
  String.toList_ofList

theorem sextet_digit : ∀ n, n < 64 → sextet (digit n) = some n ∧ digit n ≠ '=' := by
  simp only [sextet, digit, alphabet_eq]
  decide +kernel

variable {n position left pads : Nat} {cs : List Char}

/-- One digit at each position of a group. -/
theorem decodeFrom_digit (h : n < 64) :
    decodeFrom position left pads (digit n :: cs) =
      match position with
      | 0 => decodeFrom 1 n 0 cs
      | 1 => (decodeFrom 2 (n % 16) 0 cs).map ((left * 4 + n / 16) :: ·)
      | 2 => (decodeFrom 3 (n % 4) 0 cs).map ((left * 16 + n / 4) :: ·)
      | _ => (decodeFrom 0 0 0 cs).map ((left * 64 + n) :: ·) := by
  obtain ⟨hvalue, hpad⟩ := sextet_digit n h
  simp only [decodeFrom, if_neg hpad, hvalue]

theorem decodeFrom_zero (h : n < 64) :
    decodeFrom 0 left pads (digit n :: cs) = decodeFrom 1 n 0 cs :=
  decodeFrom_digit h

theorem decodeFrom_one (h : n < 64) :
    decodeFrom 1 left pads (digit n :: cs) =
      (decodeFrom 2 (n % 16) 0 cs).map ((left * 4 + n / 16) :: ·) :=
  decodeFrom_digit h

theorem decodeFrom_two (h : n < 64) :
    decodeFrom 2 left pads (digit n :: cs) =
      (decodeFrom 3 (n % 4) 0 cs).map ((left * 16 + n / 4) :: ·) :=
  decodeFrom_digit h

theorem decodeFrom_three (h : n < 64) :
    decodeFrom 3 left pads (digit n :: cs) = (decodeFrom 0 0 0 cs).map ((left * 64 + n) :: ·) :=
  decodeFrom_digit h

theorem decodeFrom_encode {bytes : List Nat} (h : ∀ b ∈ bytes, b < 256) :
    decodeFrom 0 0 0 (encode bytes ++
      List.replicate ((4 - (encode bytes).length % 4) % 4) '=') = some bytes := by
  induction bytes using encode.induct with
  | case1 a b c rest ih =>
    have ha := h a (by simp)
    have hb := h b (by simp)
    have hc := h c (by simp)
    have hrest := ih fun d hd => h d (by simp [hd])
    have hlength : (encode (a :: b :: c :: rest)).length % 4 = (encode rest).length % 4 := by
      simp only [encode, List.length_cons]
      omega
    rw [hlength]
    simp only [encode, List.cons_append]
    rw [decodeFrom_zero (by omega), decodeFrom_one (by omega), decodeFrom_two (by omega),
      decodeFrom_three (by omega), hrest]
    simp only [Option.map_some]
    congr 2
    · omega
    · congr 1
      · omega
      · congr 1
        omega
  | case2 a b =>
    have ha := h a (by simp)
    have hb := h b (by simp)
    have hpadding : (4 - (encode [a, b]).length % 4) % 4 = 1 := rfl
    rw [hpadding]
    simp only [encode, List.cons_append, List.nil_append, List.replicate_one]
    rw [decodeFrom_zero (by omega), decodeFrom_one (by omega), decodeFrom_two (by omega)]
    have hstop : ∀ left, decodeFrom 3 left 0 ['='] = some [] := fun _ => rfl
    rw [hstop]
    simp only [Option.map_some]
    congr 2
    · omega
    · congr 1
      omega
  | case3 a =>
    have ha := h a (by simp)
    have hpadding : (4 - (encode [a]).length % 4) % 4 = 2 := rfl
    rw [hpadding]
    simp only [encode, List.cons_append, List.nil_append]
    rw [decodeFrom_zero (by omega), decodeFrom_one (by omega)]
    have hstop : ∀ left, decodeFrom 2 left 0 (List.replicate 2 '=') = some [] := fun _ => rfl
    rw [hstop]
    simp only [Option.map_some]
    congr 2
    omega
  | case4 => rfl

theorem decode_encode {bytes : List Nat} (h : ∀ b ∈ bytes, b < 256) :
    decode (encode bytes) = some bytes :=
  decodeFrom_encode h

/-- One digit for each group of six bits. -/
theorem encode_digits (bytes : List Nat) :
    ∃ digits : List Nat, encode bytes = digits.map digit ∧ digits.length ≤ 4 * bytes.length := by
  induction bytes using encode.induct with
  | case1 a b c rest ih =>
    obtain ⟨digits, hdigits, hlength⟩ := ih
    refine ⟨a / 4 :: (a % 4 * 16 + b / 16) :: (b % 16 * 4 + c / 64) :: c % 64 :: digits, ?_, ?_⟩
    · rw [encode, hdigits]
      rfl
    · simp only [List.length_cons]
      omega
  | case2 a b => exact ⟨[a / 4, a % 4 * 16 + b / 16, b % 16 * 4], rfl, by simp⟩
  | case3 a => exact ⟨[a / 4, a % 4 * 16], rfl, by simp⟩
  | case4 => exact ⟨[], rfl, by simp⟩

theorem length_encode (bytes : List Nat) : (encode bytes).length ≤ 4 * bytes.length := by
  obtain ⟨digits, hdigits, hlength⟩ := encode_digits bytes
  rw [hdigits, List.length_map]
  exact hlength

theorem digit_mem_alphabet (n : Nat) : digit n ∈ alphabet := by
  by_cases hn : n < alphabet.length
  · rw [digit, List.getD_eq_getElem _ _ hn]
    exact List.getElem_mem hn
  · rw [digit, List.getD_eq_default _ _ (Nat.le_of_not_lt hn), alphabet_eq]
    exact List.mem_cons_self

theorem mem_alphabet_of_mem_encode {bytes : List Nat} : ∀ c ∈ encode bytes, c ∈ alphabet := by
  obtain ⟨digits, hdigits, -⟩ := encode_digits bytes
  intro c hc
  rw [hdigits] at hc
  obtain ⟨n, -, rfl⟩ := List.mem_map.mp hc
  exact digit_mem_alphabet n

theorem plain_of_mem_encode {bytes : List Nat} : ∀ c ∈ encode bytes, c.toNat < 128 ∧ c ≠ '.' := by
  have halphabet : (alphabet.all fun c => decide (c.toNat < 128 ∧ c ≠ '.')) = true := by
    rw [alphabet_eq]
    decide +kernel
  intro c hc
  exact of_decide_eq_true (List.all_eq_true.mp halphabet c (mem_alphabet_of_mem_encode c hc))

theorem isAscii_encode {bytes : List Nat} : ∀ c ∈ encode bytes, c.toNat < 128 :=
  fun c hc => (plain_of_mem_encode c hc).1

theorem point_not_mem_encode {bytes : List Nat} : '.' ∉ encode bytes :=
  fun hmem => (plain_of_mem_encode _ hmem).2 rfl

end Base64
