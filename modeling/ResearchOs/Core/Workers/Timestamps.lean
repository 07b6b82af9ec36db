import Mathlib.Data.List.TakeWhile
import Mathlib.Data.Rat.Floor
import ResearchOs.Data.Text
import ResearchOs.Core.Workers.Pollers

/-! The timestamps that events may hold, read back by `parse_rfc3339` of the worker plane. -/
namespace ResearchOs.Workers

open JsonText (FloatText)
open Storage (EventLog)

/-- `value.replace("Z", "+00:00")` -/
def replaceZulu (cs : List Char) : List Char :=
  cs.flatMap fun c => if c = 'Z' then ['+', '0', '0', ':', '0', '0'] else [c]

def isSign (c : Char) : Bool := c == '+' || c == '-'

def isoDate (cs : List Char) : Option (Nat × Nat × Nat) := do
  let (year, cs) ← takeDigits 4 0 cs
  let (month, cs) ← takeDigits 2 0 (← expectChar '-' cs)
  let (day, cs) ← takeDigits 2 0 (← expectChar '-' cs)
  if cs = [] then some (year, month, day) else none

/-- The digits behind a point; none where the clock ends at the seconds. -/
def isoFraction : List Char → Option (List Char)
  | [] => some []
  | '.' :: digits => if digits ≠ [] ∧ digits.all Char.isDigit then some digits else none
  | _ => none

def isoClock (cs : List Char) : Option (Nat × Nat × Nat × List Char) := do
  let (hour, cs) ← takeDigits 2 0 cs
  let (minute, cs) ← takeDigits 2 0 (← expectChar ':' cs)
  let (second, cs) ← takeDigits 2 0 (← expectChar ':' cs)
  let fraction ← isoFraction cs
  some (hour, minute, second, fraction)

/-- The offset in minutes, or none of a naive datetime. -/
def isoZone : List Char → Option (Option Int)
  | [] => some none
  | sign :: cs => do
    let (hour, cs) ← takeDigits 2 0 cs
    let (minute, cs) ← takeDigits 2 0 (← expectChar ':' cs)
    if cs = [] ∧ 60 * hour + minute < 1440 then
      some (some (if sign = '-' then -(60 * hour + minute : Nat) else (60 * hour + minute : Nat)))
    else none

/-- `datetime.fromisoformat` of the extended form to the second, which is the form of every
timestamp of an event; the date ends at the tenth character and the clock at the sign. -/
def fromIsoformatExtended (cs : List Char) : Option (Rfc3339 × Bool) := do
  let (year, month, day) ← isoDate (cs.take 10)
  let time := cs.drop 11
  let (hour, minute, second, fraction) ← isoClock (time.takeWhile fun c => !isSign c)
  let offset ← isoZone (time.dropWhile fun c => !isSign c)
  if 1 ≤ year ∧ 1 ≤ month ∧ month ≤ 12 ∧ 1 ≤ day ∧ day ≤ daysInMonth year month ∧ hour ≤ 23 ∧
      minute ≤ 59 ∧ second ≤ 59 then
    some (⟨year, month, day, hour, minute, second, fraction, offset.getD 0⟩, offset.isSome)
  else none

/-- `parse_rfc3339` -/
def parseRfc3339Text (value : String) : Except WorkerError Instant :=
  match fromIsoformatExtended (replaceZulu value.toList) with
  | none => .error (.grant "timestamp is not RFC3339" "grant-exp-invalid")
  | some (parsed, aware) =>
    if aware = false then
      .error (.grant "timestamp must be timezone-aware" "grant-exp-invalid")
    else if isUtcInstant parsed.instant then .ok parsed.instant
    else .error .overflow

/-! The two parsers read the same fields. -/

variable {n v acc : Nat} {cs rest digits : List Char} {t : Rfc3339} {s : String} {o : Int}

theorem takeDigits_some (h : takeDigits n acc cs = some (v, rest)) :
    ∃ digits, cs = digits ++ rest ∧ digits.length = n ∧ (∀ c ∈ digits, c.isDigit = true) ∧
      ∀ other, takeDigits n acc (digits ++ other) = some (v, other) := by
  induction n generalizing acc cs with
  | zero =>
    cases h
    exact ⟨[], rfl, rfl, by simp, fun other => rfl⟩
  | succ n ih =>
    cases cs with
    | nil => cases h
    | cons c cs =>
      rw [takeDigits] at h
      split_ifs at h with hdigit
      obtain ⟨digits, rfl, hlength, hdigits, hagain⟩ := ih h
      refine ⟨c :: digits, rfl, by rw [List.length_cons, hlength],
        List.forall_mem_cons.mpr ⟨hdigit, hdigits⟩, fun other => ?_⟩
      rw [List.cons_append, takeDigits, if_pos hdigit, hagain]

theorem expectChar_some {c : Char} (h : expectChar c cs = some rest) : cs = c :: rest := by
  cases cs with
  | nil => cases h
  | cons d cs =>
    rw [expectChar] at h
    split_ifs at h with hsame
    cases h
    rw [hsame]

/-- A clock's characters: no sign, and no `Z`. -/
def IsPlain (cs : List Char) : Prop := ∀ c ∈ cs, isSign c = false ∧ c ≠ 'Z'

theorem isPlain_of_digits (h : ∀ c ∈ digits, c.isDigit = true) : IsPlain digits := by
  intro c hc
  have hdigit := Text.isDigit_iff.mp (h c hc)
  refine ⟨?_, ?_⟩
  · rw [isSign, Bool.or_eq_false_iff, beq_eq_false_iff_ne, beq_eq_false_iff_ne]
    constructor <;> rintro rfl <;> exact absurd hdigit (by decide)
  · rintro rfl
    exact absurd hdigit (by decide)

theorem IsPlain.append {more : List Char} (h : IsPlain cs) (hmore : IsPlain more) :
    IsPlain (cs ++ more) :=
  List.forall_mem_append.mpr ⟨h, hmore⟩

theorem replaceZulu_append {more : List Char} :
    replaceZulu (cs ++ more) = replaceZulu cs ++ replaceZulu more := List.flatMap_append

/-- Without a `Z` nothing is replaced. -/
theorem replaceZulu_eq_self (h : 'Z' ∉ cs) : replaceZulu cs = cs := by
  induction cs with
  | nil => rfl
  | cons c cs ih =>
    rw [List.mem_cons, not_or] at h
    rw [replaceZulu, List.flatMap_cons, if_neg (Ne.symm h.1), List.singleton_append]
    exact congrArg _ (ih h.2)

theorem takeFraction_some {fraction : List Char} (h : takeFraction cs = some (fraction, rest)) :
    ∃ point, cs = point ++ rest ∧ IsPlain point ∧ isoFraction point = some fraction := by
  unfold takeFraction at h
  split at h
  · rename_i digits
    split_ifs at h with hempty
    cases h
    have hdigits : ∀ c ∈ digits.takeWhile Char.isDigit, c.isDigit = true :=
      fun c hc => List.mem_takeWhile_imp hc
    refine ⟨'.' :: digits.takeWhile Char.isDigit, ?_, ?_, ?_⟩
    · rw [List.cons_append, List.takeWhile_append_dropWhile]
    · exact List.forall_mem_cons.mpr ⟨by decide, isPlain_of_digits hdigits⟩
    · rw [isoFraction, if_pos ⟨by simpa using hempty, List.all_eq_true.mpr hdigits⟩]
  · cases h
    exact ⟨[], rfl, by simp [IsPlain], rfl⟩

/-- An offset of digits behind a sign. -/
theorem isoZone_of_digits {sign : Char} {hourDigits minuteDigits : List Char} {hour minute : Nat}
    (hhour : ∀ other, takeDigits 2 0 (hourDigits ++ other) = some (hour, other))
    (hminute : ∀ other, takeDigits 2 0 (minuteDigits ++ other) = some (minute, other))
    (hday : 60 * hour + minute < 1440) :
    isoZone (sign :: (hourDigits ++ ':' :: minuteDigits)) =
      some (some (if sign = '-' then -((60 * hour + minute : Nat) : Int)
        else ((60 * hour + minute : Nat) : Int))) := by
  have hend : takeDigits 2 0 minuteDigits = some (minute, []) := by simpa using hminute []
  simp [isoZone, hhour, expectChar, hend, hday]

theorem zone_without_zulu {sign : Char} {hourDigits minuteDigits : List Char}
    (hsign : isSign sign = true) (hhour : ∀ c ∈ hourDigits, c.isDigit = true)
    (hminute : ∀ c ∈ minuteDigits, c.isDigit = true) :
    'Z' ∉ sign :: (hourDigits ++ ':' :: minuteDigits) := by
  intro hmem
  rcases List.mem_cons.mp hmem with rfl | hmem
  · exact absurd hsign (by decide)
  · rcases List.mem_append.mp hmem with hmem | hmem
    · exact (isPlain_of_digits hhour _ hmem).2 rfl
    · rcases List.mem_cons.mp hmem with hsame | hmem
      · exact absurd hsame (by decide)
      · exact (isPlain_of_digits hminute _ hmem).2 rfl

/-- A zone starts with a sign once its `Z` is replaced, and is read as the same offset. -/
theorem takeOffset_some (h : takeOffset cs = some o) :
    ∃ sign zone, replaceZulu cs = sign :: zone ∧ isSign sign = true ∧
      isoZone (sign :: zone) = some (some o) := by
  unfold takeOffset at h
  split at h
  · cases h
    exact ⟨'+', ['0', '0', ':', '0', '0'], by decide, rfl, by decide⟩
  · rename_i sign zone _
    simp only [Option.bind_eq_bind, Option.bind_eq_some_iff, Prod.exists] at h
    obtain ⟨hour, afterHour, hhour, afterColon, hcolon, minute, ending, hminute, h⟩ := h
    obtain ⟨hourDigits, rfl, -, hhourDigits, hhourAgain⟩ := takeDigits_some hhour
    obtain rfl := expectChar_some hcolon
    obtain ⟨minuteDigits, rfl, -, hminuteDigits, hminuteAgain⟩ := takeDigits_some hminute
    split_ifs at h with hends hplus hminus
    · obtain ⟨rfl, hhours, hminutes⟩ := hends
      rw [List.append_nil]
      have hsign : isSign sign = true := by rw [hplus]; rfl
      refine ⟨sign, _, replaceZulu_eq_self (zone_without_zulu hsign hhourDigits hminuteDigits),
        hsign, ?_⟩
      rw [isoZone_of_digits hhourAgain hminuteAgain (by omega), if_neg (by rw [hplus]; decide)]
      exact congrArg some h
    · obtain ⟨rfl, hhours, hminutes⟩ := hends
      rw [List.append_nil]
      have hsign : isSign sign = true := by rw [hminus]; rfl
      refine ⟨sign, _, replaceZulu_eq_self (zone_without_zulu hsign hhourDigits hminuteDigits),
        hsign, ?_⟩
      rw [isoZone_of_digits hhourAgain hminuteAgain (by omega), if_pos hminus]
      exact congrArg some h
  · cases h

theorem length_of_isoDate {yearDigits monthDigits dayDigits : List Char}
    (hyear : yearDigits.length = 4) (hmonth : monthDigits.length = 2) (hday : dayDigits.length = 2) :
    (yearDigits ++ '-' :: (monthDigits ++ '-' :: dayDigits)).length = 10 := by
  simp [hyear, hmonth, hday]

theorem isPlain_isoDate {yearDigits monthDigits dayDigits : List Char}
    (hyear : ∀ c ∈ yearDigits, c.isDigit = true) (hmonth : ∀ c ∈ monthDigits, c.isDigit = true)
    (hday : ∀ c ∈ dayDigits, c.isDigit = true) :
    'Z' ∉ yearDigits ++ '-' :: (monthDigits ++ '-' :: (dayDigits ++ ['T'])) := by
  simp only [List.mem_append, List.mem_cons, List.not_mem_nil, or_false, not_or]
  refine ⟨fun hmem => (isPlain_of_digits hyear _ hmem).2 rfl, by decide,
    fun hmem => (isPlain_of_digits hmonth _ hmem).2 rfl, by decide,
    fun hmem => (isPlain_of_digits hday _ hmem).2 rfl, by decide⟩

/-- What the pattern accepts, part by part. -/
theorem parseRfc3339Fields_some (h : parseRfc3339Fields s = some t) :
    ∃ month day hour minute second fraction offset : List Char,
      takeDigits 4 0 s.toList = some (t.year, '-' :: month) ∧
      takeDigits 2 0 month = some (t.month, '-' :: day) ∧
      takeDigits 2 0 day = some (t.day, 'T' :: hour) ∧
      takeDigits 2 0 hour = some (t.hour, ':' :: minute) ∧
      takeDigits 2 0 minute = some (t.minute, ':' :: second) ∧
      takeDigits 2 0 second = some (t.second, fraction) ∧
      takeFraction fraction = some (t.fraction, offset) ∧ takeOffset offset = some t.offset ∧
      1 ≤ t.month ∧ t.month ≤ 12 ∧ 1 ≤ t.day ∧ t.day ≤ 31 ∧ t.hour ≤ 23 ∧ t.minute ≤ 59 ∧
      t.second ≤ 59 := by
  unfold parseRfc3339Fields at h
  obtain ⟨⟨year, _⟩, hy, h⟩ := Option.bind_eq_some_iff.mp h
  obtain ⟨_, hdash, h⟩ := Option.bind_eq_some_iff.mp h
  obtain ⟨⟨month, _⟩, hm, h⟩ := Option.bind_eq_some_iff.mp h
  obtain ⟨_, hdash', h⟩ := Option.bind_eq_some_iff.mp h
  obtain ⟨⟨day, _⟩, hd, h⟩ := Option.bind_eq_some_iff.mp h
  obtain ⟨_, hsep, h⟩ := Option.bind_eq_some_iff.mp h
  obtain ⟨⟨hour, _⟩, hh, h⟩ := Option.bind_eq_some_iff.mp h
  obtain ⟨_, hcolon, h⟩ := Option.bind_eq_some_iff.mp h
  obtain ⟨⟨minute, _⟩, hmin, h⟩ := Option.bind_eq_some_iff.mp h
  obtain ⟨_, hcolon', h⟩ := Option.bind_eq_some_iff.mp h
  obtain ⟨⟨second, _⟩, hsec, h⟩ := Option.bind_eq_some_iff.mp h
  obtain ⟨⟨fraction, _⟩, hfraction, h⟩ := Option.bind_eq_some_iff.mp h
  obtain ⟨offset, hoffset, h⟩ := Option.bind_eq_some_iff.mp h
  split_ifs at h with hranges
  cases h
  obtain rfl := expectChar_some hdash
  obtain rfl := expectChar_some hdash'
  obtain rfl := expectChar_some hsep
  obtain rfl := expectChar_some hcolon
  obtain rfl := expectChar_some hcolon'
  exact ⟨_, _, _, _, _, _, _, hy, hm, hd, hh, hmin, hsec, hfraction, hoffset, hranges⟩

/-- What the event model accepts is read by `fromisoformat` as the same fields. -/
theorem fromIsoformatExtended_of_fields (h : parseRfc3339Fields s = some t) (hyear : 1 ≤ t.year)
    (hday : t.day ≤ daysInMonth t.year t.month) :
    fromIsoformatExtended (replaceZulu s.toList) = some (t, true) := by
  obtain ⟨_, _, _, _, _, _, _, hy, hm, hd, hh, hmin, hsec, hfraction, hoffset, hranges⟩ :=
    parseRfc3339Fields_some h
  obtain ⟨year, month, day, hour, minute, second, fraction, offset⟩ := t
  obtain ⟨yearDigits, hs, hyl, hyd, hya⟩ := takeDigits_some hy
  obtain ⟨monthDigits, rfl, hml, hmd, hma⟩ := takeDigits_some hm
  obtain ⟨dayDigits, rfl, hdl, hdd, hda⟩ := takeDigits_some hd
  obtain ⟨hourDigits, rfl, -, hhd, hha⟩ := takeDigits_some hh
  obtain ⟨minuteDigits, rfl, -, hmind, hmina⟩ := takeDigits_some hmin
  obtain ⟨secondDigits, rfl, -, hsecd, hseca⟩ := takeDigits_some hsec
  obtain ⟨point, rfl, hpoint, hiso⟩ := takeFraction_some hfraction
  obtain ⟨sign, zone, hzulu, hsign, hzone⟩ := takeOffset_some hoffset
  set date := yearDigits ++ '-' :: (monthDigits ++ '-' :: dayDigits) with hdate
  set clock := hourDigits ++ ':' :: (minuteDigits ++ ':' :: (secondDigits ++ point)) with hclock
  have hplain : IsPlain clock := by
    refine (isPlain_of_digits hhd).append (List.forall_mem_cons.mpr ⟨by decide, ?_⟩)
    refine (isPlain_of_digits hmind).append (List.forall_mem_cons.mpr ⟨by decide, ?_⟩)
    exact (isPlain_of_digits hsecd).append hpoint
  have htext : replaceZulu s.toList = (date ++ ['T']) ++ (clock ++ sign :: zone) := by
    have hdateZulu := replaceZulu_eq_self (isPlain_isoDate hyd hmd hdd)
    have hclockZulu := replaceZulu_eq_self fun hmem => (hplain _ hmem).2 rfl
    rw [← hzulu, ← hclockZulu, ← replaceZulu_append, hs]
    have hdateT : date ++ ['T'] = yearDigits ++ '-' :: (monthDigits ++ '-' :: (dayDigits ++ ['T'])) := by
      simp [hdate]
    rw [hdateT, ← hdateZulu, ← replaceZulu_append]
    simp [hclock]
  have hlength : date.length = 10 := length_of_isoDate hyl hml hdl
  have htake : (replaceZulu s.toList).take 10 = date := by
    rw [htext, List.append_assoc]
    exact List.take_left' hlength
  have hdrop : (replaceZulu s.toList).drop 11 = clock ++ sign :: zone := by
    rw [htext]
    exact List.drop_left' (by rw [List.length_append, hlength]; rfl)
  have hclockEnd : (clock ++ sign :: zone).takeWhile (fun c => !isSign c) = clock := by
    rw [List.takeWhile_append_of_pos fun c hc => by rw [(hplain c hc).1]; rfl]
    simp [hsign]
  have hzoneStart : (clock ++ sign :: zone).dropWhile (fun c => !isSign c) = sign :: zone := by
    rw [List.dropWhile_append_of_pos fun c hc => by rw [(hplain c hc).1]; rfl]
    simp [hsign]
  have hisoDate : isoDate date = some (year, month, day) := by
    have hdend : takeDigits 2 0 dayDigits = some (day, []) := by simpa using hda []
    simp [isoDate, hdate, hya, expectChar, hma, hdend]
  have hisoClock : isoClock clock = some (hour, minute, second, fraction) := by
    simp [isoClock, hclock, hha, expectChar, hmina, hseca, hiso]
  obtain ⟨hm1, hm12, hd1, -, hh23, hmin59, hsec59⟩ := hranges
  simp only [fromIsoformatExtended, htake, hdrop, hclockEnd, hzoneStart, hisoDate, hisoClock, hzone,
    Option.bind_eq_bind, Option.bind_some]
  rw [if_pos ⟨hyear, hm1, hm12, hd1, hday, hh23, hmin59, hsec59⟩]
  rfl

/-- The worker plane reads an accepted timestamp as the datetime that its fields spell, and raises
only where UTC cannot hold it. -/
theorem parseRfc3339Text_val (value : Rfc3339Timestamp) :
    parseRfc3339Text value.val = parseRfc3339 value := by
  have haccepted := value.property
  unfold isRfc3339Timestamp at haccepted
  split at haccepted
  · cases haccepted
  · rename_i t hfields
    obtain ⟨hyear, hday⟩ : 1 ≤ t.year ∧ t.day ≤ daysInMonth t.year t.month := by
      simpa using haccepted
    have hinstant : value.instant = t.instant := by rw [Rfc3339Timestamp.instant, hfields]
    rw [parseRfc3339Text, fromIsoformatExtended_of_fields hfields hyear hday, parseRfc3339, hinstant]
    rfl

end ResearchOs.Workers
