import ResearchOs.Data.Base64
import ResearchOs.Data.Sha256
import ResearchOs.Data.Text
import ResearchOs.Events.Scalars

/-! The page tokens of the local API: a last-seen sequence, a frozen mark and a digest of the scope. -/
namespace ResearchOs.Web

inductive ApiError where
  | badRequest (code message : String)
  | unavailable
  /-- A `ValueError` of the store that no handler converts. -/
  | value (message : String)
  deriving DecidableEq, Repr

def cursorPrefix : String := "seq:"

def maxCursorLength : Nat := 2048

def invalidCursor : ApiError := .badRequest "parameter-invalid" "The cursor is not a valid page token."

def invalidScope : ApiError := .badRequest "parameter-invalid" "The cursor scope is not valid."

def unavailableSnapshot : ApiError :=
  .badRequest "parameter-invalid" "The cursor snapshot is not available."

/-- `text.split(":", n)` -/
def splitColons : Nat → List Char → List (List Char)
  | 0, cs => [cs]
  | n + 1, cs =>
    match cs.dropWhile (· ≠ ':') with
    | [] => [cs]
    | _ :: rest => cs.takeWhile (· ≠ ':') :: splitColons n rest

/-- A decimal of at most 16 digits. -/
def isShortDecimal (cs : List Char) : Bool :=
  !cs.isEmpty && cs.all Char.isDigit && decide (cs.length ≤ 16)

def intOf (cs : List Char) : Nat := Nat.ofDigitChars 10 cs 0

/-- The raw token of a page under a frozen mark. -/
def issued (sequence highWater : Nat) (scope : String) : String :=
  cursorPrefix ++ toString sequence ++ ":" ++ toString highWater ++ ":" ++ Sha256.hexdigest scope

/-- `encode_cursor` under a frozen mark -/
def encodeCursor (sequence highWater : Nat) (scope : String) : String :=
  String.ofList (Base64.encode (Text.bytesOf (issued sequence highWater scope)))

/-- The raw token, if the text is ASCII, Base64 and UTF-8. -/
def rawOf (cursor : String) : Option String :=
  if cursor.toList.all fun c => c.toNat < 128 then
    (Base64.decode cursor.toList).bind Text.textOf
  else none

/-- What follows the prefix, cut at two colons. -/
def partsOf (raw : String) : List (List Char) :=
  splitColons 2 (raw.toList.drop cursorPrefix.length)

/-- `decode_cursor` -/
def decodeCursor : Option String → Except ApiError Nat
  | none => .ok 0
  | some cursor =>
    if cursor = "" then .ok 0
    else if maxCursorLength < cursor.length then .error invalidCursor
    else
      match rawOf cursor with
      | none => .error invalidCursor
      | some raw =>
        if raw.toList.take cursorPrefix.length ≠ cursorPrefix.toList then .error invalidCursor
        else
          let tail := (partsOf raw).headD []
          if ¬ isShortDecimal tail then .error invalidCursor
          else if cloudEventsIntegerMax < intOf tail then .error invalidCursor
          else .ok (intOf tail)

/-- `_bounds`; `live` is the last sequence of the store. -/
def bounds (cursor : Option String) (scope : String) (live : Nat) : Except ApiError (Nat × Nat) := do
  let after ← decodeCursor cursor
  match cursor with
  | none => pure (after, live)
  | some text =>
    if text = "" then pure (after, live)
    else
      match (rawOf text).map partsOf with
      | some [_] => pure (after, live)
      | some [_, middle, last] =>
        if ¬ (last = scope.toList ∨ last = (Sha256.hexdigest scope).toList) ∨ ¬ isShortDecimal middle
        then throw invalidScope
        else if live < intOf middle ∨ intOf middle < after then throw unavailableSnapshot
        else pure (after, intOf middle)
      | _ => throw invalidScope

/-! What a cursor that was issued decodes to. -/

variable {sequence highWater live : Nat} {scope scope' : String}

theorem splitColons_append {n : Nat} {head rest : List Char} (h : ':' ∉ head) :
    splitColons (n + 1) (head ++ ':' :: rest) = head :: splitColons n rest := by
  have hhead : ∀ c ∈ head, decide (c ≠ ':') = true := by
    intro c hc
    refine decide_eq_true fun hcolon => ?_
    exact h (hcolon ▸ hc)
  have hdrop : (head ++ ':' :: rest).dropWhile (fun c => decide (c ≠ ':')) = ':' :: rest := by
    rw [List.dropWhile_append_of_pos hhead]
    simp
  have htake : (head ++ ':' :: rest).takeWhile (fun c => decide (c ≠ ':')) = head := by
    rw [List.takeWhile_append_of_pos hhead]
    simp
  simp only [splitColons, hdrop, htake]

theorem isShortDecimal_toDigits {n : Nat} (h : n ≤ cloudEventsIntegerMax) :
    isShortDecimal (Nat.toDigits 10 n) = true := by
  have hdigits : (Nat.toDigits 10 n).all Char.isDigit = true :=
    List.all_eq_true.mpr fun c hc => Nat.isDigit_of_mem_toDigits (by decide) (by decide) hc
  have hlength : (Nat.toDigits 10 n).length ≤ 16 := by
    refine (Nat.length_toDigits_le_iff (by decide) (by decide)).mpr ?_
    exact lt_of_le_of_lt h (by decide)
  have hnonempty : (Nat.toDigits 10 n).isEmpty = false := by
    rw [List.isEmpty_eq_false_iff]
    exact Nat.toDigits_ne_nil
  simp [isShortDecimal, hdigits, hlength, hnonempty]

theorem intOf_toDigits (n : Nat) : intOf (Nat.toDigits 10 n) = n := Nat.ofDigitChars_ten_toDigits

theorem colon_not_mem_toDigits (n : Nat) : ':' ∉ Nat.toDigits 10 n := by
  intro hmem
  have hdigit := Nat.isDigit_of_mem_toDigits (by decide) (by decide) hmem
  exact absurd hdigit (by decide)

theorem cursorPrefix_toList : cursorPrefix.toList = ['s', 'e', 'q', ':'] := rfl

theorem cursorPrefix_length : cursorPrefix.length = 4 := rfl

theorem issued_toList : (issued sequence highWater scope).toList =
    's' :: 'e' :: 'q' :: ':' :: (Nat.toDigits 10 sequence ++ ':' :: (Nat.toDigits 10 highWater ++
      ':' :: (Sha256.hexdigest scope).toList)) := by
  simp [issued, cursorPrefix, String.toList_append]

theorem rawOf_encodeCursor : rawOf (encodeCursor sequence highWater scope) =
    some (issued sequence highWater scope) := by
  have hascii : (Base64.encode (Text.bytesOf (issued sequence highWater scope))).all
      (fun c => decide (c.toNat < 128)) = true :=
    List.all_eq_true.mpr fun c hc => decide_eq_true (Base64.isAscii_encode c hc)
  rw [rawOf, encodeCursor, String.toList_ofList, if_pos hascii,
    Base64.decode_encode Text.lt_of_mem_bytesOf]
  exact Text.textOf_bytesOf _

theorem partsOf_issued : partsOf (issued sequence highWater scope) =
    [Nat.toDigits 10 sequence, Nat.toDigits 10 highWater, (Sha256.hexdigest scope).toList] := by
  rw [partsOf, issued_toList, cursorPrefix_length]
  simp only [List.drop_succ_cons, List.drop_zero]
  rw [splitColons_append (colon_not_mem_toDigits _),
    splitColons_append (colon_not_mem_toDigits _)]
  rfl

theorem length_encodeCursor (hsequence : sequence ≤ cloudEventsIntegerMax)
    (hhighWater : highWater ≤ cloudEventsIntegerMax) :
    (encodeCursor sequence highWater scope).length ≤ maxCursorLength := by
  have hdigits : ∀ n, n ≤ cloudEventsIntegerMax → (toString n).utf8ByteSize ≤ 10 := by
    intro n hn
    rw [Text.utf8ByteSize_toString]
    refine (Nat.length_toDigits_le_iff (by decide) (by decide)).mpr ?_
    exact lt_of_le_of_lt hn (by decide)
  have hhex : (Sha256.hexdigest scope).utf8ByteSize = 64 := by
    rw [Sha256.hexdigest, Text.utf8ByteSize_ofList fun c hc => ?_, Sha256.hex_length]
    obtain hdigit | ⟨-, hle⟩ := Sha256.mem_hex hc
    · exact Text.toNat_lt_of_isDigit hdigit
    · exact lt_of_le_of_lt (UInt32.le_iff_toNat_le.mp hle) (by decide)
  have hsize := Base64.length_encode (Text.bytesOf (issued sequence highWater scope))
  have hraw : (issued sequence highWater scope).utf8ByteSize ≤ 90 := by
    have hcolon : ":".utf8ByteSize = 1 := by decide +kernel
    have hprefix : cursorPrefix.utf8ByteSize = 4 := by decide +kernel
    have hfirst := hdigits sequence hsequence
    have hsecond := hdigits highWater hhighWater
    simp only [issued, String.utf8ByteSize_append, hcolon, hprefix, hhex]
    omega
  rw [Text.length_bytesOf] at hsize
  have hlimit : maxCursorLength = 2048 := rfl
  rw [encodeCursor, String.length_ofList, hlimit]
  change (Base64.encode (Text.bytesOf (issued sequence highWater scope))).length ≤ 2048
  omega

theorem encodeCursor_ne_empty : encodeCursor sequence highWater scope ≠ "" := by
  intro hempty
  have hraw : rawOf (encodeCursor sequence highWater scope) = some (issued sequence highWater scope) :=
    rawOf_encodeCursor
  have hnone : rawOf "" = some "" := Text.textOf_bytesOf ""
  rw [hempty, hnone] at hraw
  have hlist := congrArg String.toList (Option.some.inj hraw)
  rw [issued_toList] at hlist
  cases hlist

theorem decodeCursor_encodeCursor (hsequence : sequence ≤ cloudEventsIntegerMax)
    (hhighWater : highWater ≤ cloudEventsIntegerMax) :
    decodeCursor (some (encodeCursor sequence highWater scope)) = .ok sequence := by
  have hlength : (encodeCursor sequence highWater scope).length ≤ maxCursorLength :=
    length_encodeCursor hsequence hhighWater
  have hprefix : (issued sequence highWater scope).toList.take cursorPrefix.length =
      cursorPrefix.toList := by
    rw [issued_toList, cursorPrefix_length, cursorPrefix_toList]
    rfl
  have hbound : ¬ cloudEventsIntegerMax < sequence := not_lt.mpr hsequence
  simp only [decodeCursor, if_neg encodeCursor_ne_empty, if_neg (not_lt.mpr hlength),
    rawOf_encodeCursor, hprefix, ne_eq, not_true_eq_false, if_false, partsOf_issued,
    List.headD_cons, isShortDecimal_toDigits hsequence, intOf_toDigits, hbound]

/-- A cursor that was issued is taken under the scopes of its own digest, and refused elsewhere. -/
theorem bounds_encodeCursor (hsequence : sequence ≤ highWater) (hlive : highWater ≤ live)
    (hhighWater : highWater ≤ cloudEventsIntegerMax) :
    bounds (some (encodeCursor sequence highWater scope)) scope' live =
      if Sha256.hexdigest scope = scope' ∨ Sha256.hexdigest scope = Sha256.hexdigest scope'
      then .ok (sequence, highWater) else .error invalidScope := by
  have hdecode : decodeCursor (some (encodeCursor sequence highWater scope)) = .ok sequence :=
    decodeCursor_encodeCursor (hsequence.trans hhighWater) hhighWater
  have hsnapshot : ¬ (live < highWater ∨ highWater < sequence) := by omega
  have hscopes : ((Sha256.hexdigest scope).toList = scope'.toList ∨
      (Sha256.hexdigest scope).toList = (Sha256.hexdigest scope').toList) ↔
        (Sha256.hexdigest scope = scope' ∨ Sha256.hexdigest scope = Sha256.hexdigest scope') := by
    rw [String.toList_inj, String.toList_inj]
  generalize hhex : Sha256.hexdigest scope' = hex at hscopes ⊢
  simp only [bounds, hdecode, bind, Except.bind, pure, Except.pure, throw, throwThe,
    MonadExceptOf.throw, if_neg encodeCursor_ne_empty, rawOf_encodeCursor, Option.map_some,
    partsOf_issued, isShortDecimal_toDigits hhighWater, intOf_toDigits, not_true_eq_false,
    or_false, if_neg hsnapshot, hhex, hscopes]
  by_cases hsame : Sha256.hexdigest scope = scope' ∨ Sha256.hexdigest scope = hex
  · rw [if_pos hsame, if_neg (not_not_intro hsame)]
  · rw [if_neg hsame, if_pos hsame]

/-- The mark of a page is never above the store. -/
theorem bounds_highWater {cursor : Option String} {after : Nat}
    (h : bounds cursor scope live = .ok (after, highWater)) : highWater ≤ live := by
  unfold bounds at h
  cases hdecode : decodeCursor cursor with
  | error e =>
    rw [hdecode] at h
    cases h
  | ok value =>
    rw [hdecode] at h
    cases cursor with
    | none =>
      cases h
      exact le_refl _
    | some text =>
      simp only [bind, Except.bind, pure, Except.pure, throw, throwThe, MonadExceptOf.throw] at h
      by_cases hempty : text = ""
      · rw [if_pos hempty] at h
        cases h
        exact le_refl _
      · rw [if_neg hempty] at h
        split at h
        · cases h
          exact le_refl _
        · split_ifs at h with _ hsnapshot
          cases h
          omega
        · cases h

/-- A hexadecimal digest holds no bar. -/
theorem hexdigest_ne_of_bar {text : String} (h : '|' ∈ text.toList) :
    Sha256.hexdigest scope ≠ text := by
  intro hsame
  rw [← hsame, Sha256.hexdigest, String.toList_ofList] at h
  obtain hdigit | ⟨hle, hle'⟩ := Sha256.mem_hex h
  · exact absurd hdigit (by decide)
  · exact absurd hle' (by decide)

end ResearchOs.Web
