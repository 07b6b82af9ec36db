import Mathlib.Algebra.GroupWithZero.Nat
import ResearchOs.Data.Regex
import ResearchOs.Data.Strict

/-! The scalar types of event documents. -/
namespace ResearchOs

def cloudEventsIntegerMax : Nat := 2147483647

/-- Control, surrogate and noncharacter code points. -/
def isCloudEventsForbiddenCodePoint (code : Nat) : Bool :=
  code ≤ 0x1F || (0x7F ≤ code && code ≤ 0x9F) || (0xD800 ≤ code && code ≤ 0xDFFF) ||
    (0xFDD0 ≤ code && code ≤ 0xFDEF) || 0xFFFE ≤ code % 0x10000

def isCloudEventsString (s : String) : Bool :=
  s.toList != [] && s.toList.all fun c => !isCloudEventsForbiddenCodePoint c.toNat

def isIdentifierHead (c : Char) : Bool := c.isAlphanum

def isIdentifierTail (c : Char) : Bool :=
  c.isAlphanum || c == '.' || c == '_' || c == ':' || c == '-'

/-- `^[A-Za-z0-9][A-Za-z0-9._:-]*$`, at most 128 characters. -/
def isEventIdentifier (s : String) : Bool :=
  match s.toList with
  | [] => false
  | c :: cs => isIdentifierHead c && cs.all isIdentifierTail && decide (cs.length < 128)

def isLowerHex (c : Char) : Bool := c.isDigit || ('a' ≤ c && c ≤ 'f')

def isHexDigest (algorithm : String) (s : String) : Bool :=
  s.toList.take algorithm.length == algorithm.toList &&
    (s.toList.drop algorithm.length).length == 64 &&
    (s.toList.drop algorithm.length).all isLowerHex

/-- `^(?:jcs-sha256|sha256):[0-9a-f]{64}$` -/
def isSemanticDigest (s : String) : Bool := isHexDigest "jcs-sha256:" s || isHexDigest "sha256:" s

/-- `^sha256:[0-9a-f]{64}$` -/
def isSha256Digest (s : String) : Bool := isHexDigest "sha256:" s

/-- `^jcs-sha256:[0-9a-f]{64}$` -/
def isJcsDigest (s : String) : Bool := isHexDigest "jcs-sha256:" s

def inRange (low high : Nat) (n : Nat) : Bool := decide (low ≤ n) && decide (n ≤ high)

abbrev CloudEventsString := Checked isCloudEventsString
abbrev EventIdentifier := Checked isEventIdentifier
abbrev StrictDigest := Checked isSemanticDigest
abbrev Sha256Digest := Checked isSha256Digest
abbrev JcsDigest := Checked isJcsDigest

instance : LawfulBEq EventIdentifier := inferInstance

abbrev SequenceNumber := Checked (inRange 1 cloudEventsIntegerMax)
abbrev ExperimentRevision := Checked (inRange 1 cloudEventsIntegerMax)
abbrev StreamVersion := Checked (inRange 0 cloudEventsIntegerMax)

/-- `SEQUENCE_INTEGER_PATTERN`: a decimal from 1 to 2147483647 without leading zeros. -/
def sequenceInteger : Json → Option SequenceNumber
  | .str s =>
    let n := Nat.ofDigitChars 10 s.toList 0
    if toString n = s then Strict.checked _ n else none
  | _ => none

def sequenceText (n : SequenceNumber) : String := toString n.val

theorem sequenceInteger_sequenceText (n : SequenceNumber) :
    sequenceInteger (.str (sequenceText n)) = some n := by
  simp [sequenceInteger, sequenceText]

theorem inRange_iff {low high n : Nat} : inRange low high n = true ↔ low ≤ n ∧ n ≤ high := by
  simp [inRange]

theorem inRange_succ {n : Nat} (h : n < cloudEventsIntegerMax) :
    inRange 1 cloudEventsIntegerMax (n + 1) = true :=
  inRange_iff.mpr ⟨Nat.le_add_left 1 n, h⟩

theorem inRange_zero {n : Nat} (h : n ≤ cloudEventsIntegerMax) :
    inRange 0 cloudEventsIntegerMax n = true :=
  inRange_iff.mpr ⟨Nat.zero_le n, h⟩

theorem SequenceNumber.pos (n : SequenceNumber) : 1 ≤ n.val := (inRange_iff.mp n.property).1

theorem SequenceNumber.le_max (n : SequenceNumber) : n.val ≤ cloudEventsIntegerMax :=
  (inRange_iff.mp n.property).2

/-! Timestamps. -/

/-- The fields of an RFC 3339 timestamp; the offset is in minutes east of UTC. -/
structure Rfc3339 where
  year : Nat
  month : Nat
  day : Nat
  hour : Nat
  minute : Nat
  second : Nat
  fraction : List Char
  offset : Int

def takeDigits : Nat → Nat → List Char → Option (Nat × List Char)
  | 0, acc, cs => some (acc, cs)
  | n + 1, acc, c :: cs =>
    if c.isDigit then takeDigits n (10 * acc + (c.toNat - '0'.toNat)) cs else none
  | _ + 1, _, [] => none

def expectChar (c : Char) : List Char → Option (List Char)
  | d :: cs => if d = c then some cs else none
  | [] => none

def takeFraction : List Char → Option (List Char × List Char)
  | '.' :: cs =>
    if (cs.takeWhile Char.isDigit).isEmpty then none
    else some (cs.takeWhile Char.isDigit, cs.dropWhile Char.isDigit)
  | cs => some ([], cs)

def takeOffset : List Char → Option Int
  | ['Z'] => some 0
  | sign :: cs => do
    let (hour, cs) ← takeDigits 2 0 cs
    let cs ← expectChar ':' cs
    let (minute, cs) ← takeDigits 2 0 cs
    if cs = [] ∧ hour ≤ 23 ∧ minute ≤ 59 then
      if sign = '+' then some (60 * hour + minute : Nat)
      else if sign = '-' then some (-(60 * hour + minute : Nat))
      else none
    else none
  | [] => none

/-- `RFC3339_AWARE_PATTERN` -/
def parseRfc3339Fields (s : String) : Option Rfc3339 := do
  let (year, cs) ← takeDigits 4 0 s.toList
  let (month, cs) ← takeDigits 2 0 (← expectChar '-' cs)
  let (day, cs) ← takeDigits 2 0 (← expectChar '-' cs)
  let (hour, cs) ← takeDigits 2 0 (← expectChar 'T' cs)
  let (minute, cs) ← takeDigits 2 0 (← expectChar ':' cs)
  let (second, cs) ← takeDigits 2 0 (← expectChar ':' cs)
  let (fraction, cs) ← takeFraction cs
  let offset ← takeOffset cs
  if 1 ≤ month ∧ month ≤ 12 ∧ 1 ≤ day ∧ day ≤ 31 ∧ hour ≤ 23 ∧ minute ≤ 59 ∧ second ≤ 59 then
    some ⟨year, month, day, hour, minute, second, fraction, offset⟩
  else none

def isLeapYear (year : Nat) : Bool := year % 4 == 0 && (year % 100 != 0 || year % 400 == 0)

def daysInMonth (year month : Nat) : Nat :=
  if month = 2 then (if isLeapYear year then 29 else 28)
  else if month ∈ [4, 6, 9, 11] then 30
  else 31

def isRfc3339Timestamp (s : String) : Bool :=
  match parseRfc3339Fields s with
  | none => false
  | some t => decide (1 ≤ t.year) && decide (t.day ≤ daysInMonth t.year t.month)

abbrev Rfc3339Timestamp := Checked isRfc3339Timestamp

/-! The instants that timestamps name, in microseconds. -/

abbrev Instant := Int

def microsecondsPerDay : Int := 86400000000

/-- The proleptic Gregorian ordinal; 0001-01-01 is day 1. -/
def dayOrdinal (year month day : Nat) : Nat :=
  let past := year - 1
  365 * past + past / 4 - past / 100 + past / 400 +
    ((List.range' 1 (month - 1)).map (daysInMonth year)).sum + day

/-- Digits past the sixth are cut off. -/
def fractionMicroseconds (fraction : List Char) : Nat :=
  Nat.ofDigitChars 10 ((fraction ++ List.replicate 6 '0').take 6) 0

def Rfc3339.instant (t : Rfc3339) : Instant :=
  microsecondsPerDay * dayOrdinal t.year t.month t.day +
    1000000 * (60 * (60 * t.hour + t.minute - t.offset) + t.second) +
    fractionMicroseconds t.fraction

def Rfc3339Timestamp.instant (s : Rfc3339Timestamp) : Instant :=
  match parseRfc3339Fields s.val with
  | some t => t.instant
  | none => 0

/-- The instants that a UTC datetime can hold: years 1 to 9999. -/
def isUtcInstant (i : Instant) : Bool :=
  decide (microsecondsPerDay ≤ i ∧ i < microsecondsPerDay * 3652060)

example : dayOrdinal 9999 12 31 = 3652059 := by decide

end ResearchOs
