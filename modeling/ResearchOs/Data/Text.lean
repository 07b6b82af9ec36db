import Mathlib.Algebra.GroupWithZero.Nat
import Mathlib.Data.List.Basic

/-! Texts as bytes: ASCII texts, decimals, and UTF-8 in both directions. -/
namespace Text

def bytesOf (text : String) : List Nat := text.toUTF8.data.toList.map UInt8.toNat

def textOf (bytes : List Nat) : Option String :=
  String.fromUTF8? ⟨(bytes.map UInt8.ofNat).toArray⟩

theorem utf8ByteSize_ofList {cs : List Char} (h : ∀ c ∈ cs, c.toNat < 128) :
    (String.ofList cs).utf8ByteSize = cs.length := by
  induction cs with
  | nil => rfl
  | cons c cs ih =>
    have hascii := h c List.mem_cons_self
    have hsize : c.utf8Size = 1 := by
      rw [Char.utf8Size_eq_one_iff]
      exact UInt32.le_iff_toNat_le.mpr (Nat.le_of_lt_succ hascii)
    have hrest := ih fun d hd => h d (List.mem_cons_of_mem c hd)
    rw [← List.singleton_append, String.ofList_append, String.utf8ByteSize_append, hrest,
      ← String.singleton_eq_ofList, String.utf8ByteSize_singleton, hsize, List.length_append,
      List.length_singleton]

theorem isDigit_iff {c : Char} : c.isDigit = true ↔ 48 ≤ c.toNat ∧ c.toNat ≤ 57 := by
  simp only [Char.isDigit, Char.toNat, Bool.and_eq_true, decide_eq_true_eq, UInt32.le_iff_toNat_le,
    ge_iff_le]
  rfl

/-- The number that digits spell is below the next power of ten. -/
theorem ofDigitChars_lt {cs : List Char} (h : ∀ c ∈ cs, c.isDigit = true) (acc : Nat) :
    Nat.ofDigitChars 10 cs acc < (acc + 1) * 10 ^ cs.length := by
  induction cs generalizing acc with
  | nil => simp
  | cons c cs ih =>
    have hc := isDigit_iff.mp (h c List.mem_cons_self)
    have hrest := ih (fun d hd => h d (List.mem_cons_of_mem c hd)) (10 * acc + (c.toNat - 48))
    have hone : (10 * acc + (c.toNat - 48) + 1) * 10 ^ cs.length ≤
        (acc + 1) * 10 * 10 ^ cs.length := Nat.mul_le_mul_right _ (by omega)
    rw [Nat.ofDigitChars_cons, List.length_cons, Nat.pow_succ']
    have hzero : '0'.toNat = 48 := rfl
    rw [hzero]
    calc Nat.ofDigitChars 10 cs (10 * acc + (c.toNat - 48))
        < (10 * acc + (c.toNat - 48) + 1) * 10 ^ cs.length := hrest
      _ ≤ (acc + 1) * 10 * 10 ^ cs.length := hone
      _ = (acc + 1) * (10 * 10 ^ cs.length) := by rw [Nat.mul_assoc]

theorem toNat_lt_of_isDigit {c : Char} (h : c.isDigit = true) : c.toNat < 128 := by
  simp only [Char.isDigit, Bool.and_eq_true, decide_eq_true_eq] at h
  have hnine := UInt32.le_iff_toNat_le.mp h.2
  exact Nat.lt_of_le_of_lt hnine (by decide)

theorem utf8ByteSize_toString (n : Nat) :
    (toString n).utf8ByteSize = (Nat.toDigits 10 n).length := by
  rw [Nat.toString_eq_ofList_toDigits]
  refine utf8ByteSize_ofList fun c hc => ?_
  exact toNat_lt_of_isDigit (Nat.isDigit_of_mem_toDigits (by decide) (by decide) hc)

theorem utf8ByteSize_toString_succ (n : Nat) :
    (toString (n + 1)).utf8ByteSize ≤ (toString n).utf8ByteSize + 1 := by
  rw [utf8ByteSize_toString, utf8ByteSize_toString]
  have hpositive : 0 < (Nat.toDigits 10 n).length := Nat.length_toDigits_pos
  have hn : n < 10 ^ (Nat.toDigits 10 n).length :=
    (Nat.length_toDigits_le_iff (by decide) hpositive).mp (Nat.le_refl _)
  refine (Nat.length_toDigits_le_iff (by decide) (Nat.succ_pos _)).mpr ?_
  rw [Nat.pow_succ]
  omega

theorem length_bytesOf (text : String) : (bytesOf text).length = text.utf8ByteSize := by
  rw [bytesOf, List.length_map, Array.length_toList]
  rfl

theorem lt_of_mem_bytesOf {text : String} : ∀ b ∈ bytesOf text, b < 256 := by
  intro b hb
  obtain ⟨byte, -, rfl⟩ := List.mem_map.mp hb
  exact byte.toNat_lt

theorem textOf_bytesOf (text : String) : textOf (bytesOf text) = some text := by
  have hbytes : (bytesOf text).map UInt8.ofNat = text.toUTF8.data.toList := by
    rw [bytesOf, List.map_map]
    refine Eq.trans (List.map_congr_left fun byte _ => ?_) (List.map_id _)
    exact UInt8.ofNat_toNat
  have harray : ByteArray.mk (text.toUTF8.data.toList.toArray) = text.toUTF8 := by
    rw [Array.toArray_toList]
  rw [textOf, hbytes, harray]
  exact dif_pos text.isValidUTF8

end Text
