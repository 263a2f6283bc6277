import SourceAudit.Decimal.Bound
import SourceAudit.Text.Blank
import SourceAudit.Text.Case
import SourceAudit.Text.Number
import SourceAudit.Text.Reader

/-!
# Instants

Points in time in UTC to the nanosecond, and their texts. A leap second counts as nanoseconds from a
thousand million on within the second in front of it.
-/

namespace SourceAudit

open Text

/-- A point in time. -/
structure Instant where
  /-- The days since 1 January 1970. -/
  day : Int
  /-- The seconds since midnight. -/
  second : Nat
  nano : Nat
deriving DecidableEq, Repr

/-- A date of the Gregorian calendar. -/
structure Date where
  year : Int
  month : Nat
  day : Nat
deriving DecidableEq, Repr

namespace Date

/-- A year with 29 February. -/
def isLeapYear (year : Int) : Bool :=
  year % 4 = 0 && (year % 100 ≠ 0 || year % 400 = 0)

/-- The days of a month. -/
def monthLength (year : Int) (month : Nat) : Nat :=
  if month = 2 then if isLeapYear year then 29 else 28
  else if month ∈ [4, 6, 9, 11] then 30
  else 31

/-- The date exists. -/
def isValid (d : Date) : Bool :=
  1 ≤ d.month && d.month ≤ 12 && 1 ≤ d.day && d.day ≤ monthLength d.year d.month

/-- The days since 1 January 1970. Years are taken to start in March, so that a leap day ends one,
in cycles of 400 years with 146097 days. -/
def toDays (d : Date) : Int :=
  let y := if d.month ≤ 2 then d.year - 1 else d.year
  let cycle := y / 400
  let yearOfCycle := y - cycle * 400
  let monthFromMarch : Int := ((d.month + 9) % 12 : Nat)
  let dayOfYear := (153 * monthFromMarch + 2) / 5 + d.day - 1
  let dayOfCycle := yearOfCycle * 365 + yearOfCycle / 4 - yearOfCycle / 100 + dayOfYear
  cycle * 146097 + dayOfCycle - 719468

/-- The date of a day counted from 1 January 1970. -/
def ofDays (days : Int) : Date :=
  let z := days + 719468
  let cycle := z / 146097
  let dayOfCycle := z - cycle * 146097
  let yearOfCycle :=
    (dayOfCycle - dayOfCycle / 1460 + dayOfCycle / 36524 - dayOfCycle / 146096) / 365
  let dayOfYear := dayOfCycle - (365 * yearOfCycle + yearOfCycle / 4 - yearOfCycle / 100)
  let monthFromMarch := (5 * dayOfYear + 2) / 153
  let day := dayOfYear - (153 * monthFromMarch + 2) / 5 + 1
  let month := if monthFromMarch < 10 then monthFromMarch + 3 else monthFromMarch - 9
  let year := yearOfCycle + cycle * 400 + if month ≤ 2 then 1 else 0
  ⟨year, month.toNat, day.toNat⟩

end Date

namespace Instant

/-- The nanoseconds since the start of 1970 as 64 bits can hold them, or zero if they cannot. -/
def sinceEpoch (t : Instant) : Int :=
  let n := (t.day * 86400 + t.second) * 1000000000 + t.nano
  if Decimal.fitsSigned n then n else 0

/-- The instant this many nanoseconds after the start of 1970. -/
def ofSinceEpoch (n : Nat) : Instant :=
  let seconds := n / 1000000000
  ⟨seconds / 86400, seconds % 86400, n % 1000000000⟩

/-! ### Writing -/

/-- The text of a year: four digits, with a sign if that is not enough. -/
def yearText (year : Int) : List Char :=
  if 0 ≤ year ∧ year ≤ 9999 then decimalPadded 4 year.toNat
  else (if year < 0 then '-' else '+') :: decimalPadded 4 year.natAbs

/-- The text of a date. -/
def dateText (t : Instant) : List Char :=
  let d := Date.ofDays t.day
  yearText d.year ++ '-' :: decimalPadded 2 d.month ++ '-' :: decimalPadded 2 d.day

/-- The text of a time of day in whole seconds. -/
def timeText (t : Instant) : List Char :=
  let second := t.second % 60 + t.nano / 1000000000
  decimalPadded 2 (t.second / 3600) ++ ':' :: decimalPadded 2 (t.second / 60 % 60) ++
    ':' :: decimalPadded 2 second

/-- The fraction of a second in as few groups of three digits as are exact. -/
def fractionText (t : Instant) : List Char :=
  let n := t.nano % 1000000000
  if n = 0 then []
  else if n % 1000000 = 0 then '.' :: decimalPadded 3 (n / 1000000)
  else if n % 1000 = 0 then '.' :: decimalPadded 6 (n / 1000)
  else '.' :: decimalPadded 9 n

/-- The text of an instant with a mark for UTC. -/
def textWith (zone : String) (t : Instant) : String :=
  String.ofList (t.dateText ++ 'T' :: t.timeText ++ t.fractionText ++ zone.toList)

/-- The text of an instant in records. -/
def render (t : Instant) : String :=
  t.textWith "Z"

/-- The text of an instant in reports. -/
def renderOffset (t : Instant) : String :=
  t.textWith "+00:00"

/-- The text of an instant in whole seconds for people. -/
def renderPlain (t : Instant) : String :=
  String.ofList (t.dateText ++ ' ' :: t.timeText)

/-! ### Reading -/

open Reader

/-- White space between the parts of an instant. -/
def gap : Reader Unit := do
  let _ ← Reader.takeWhile isBlank

/-- A number of one to `width` digits after a gap. -/
def digitsUpTo (width : Nat) : Reader Nat := do
  gap
  let digits ← takeWithin width
  if digits.isEmpty then refuse else pure (natOfDigits 10 digits)
where
  /-- At most `width` digits. -/
  takeWithin (width : Nat) : Reader (List Char) := fun s =>
    let digits := (s.take width).takeWhile Char.isDigit
    some (digits, s.drop digits.length)

/-- A year: up to four digits, or any number of them behind a sign. -/
def year : Reader Int := do
  gap
  match ← peek with
  | some '-' => do
    char '-'
    pure (-(natOfDigits 10 (← takeWhile1 Char.isDigit) : Int))
  | some '+' => do
    char '+'
    pure (natOfDigits 10 (← takeWhile1 Char.isDigit))
  | _ => do pure (← digitsUpTo 4)

/-- A divider after a gap. -/
def divider (c : Char) : Reader Unit := do
  gap
  char c

/-- A fraction of a second in nanoseconds; digits beyond the ninth do not count. -/
def fraction : Reader Nat := do
  char '.'
  let digits ← takeWhile1 Char.isDigit
  let kept := digits.take 9
  pure (natOfDigits 10 kept * Decimal.tenTo (9 - kept.length))

/-- The minutes that a zone is ahead of UTC. -/
def zone : Reader Int :=
  (do
    let name ← exactly 3 fun _ => true
    if eqIgnoringAsciiCase name "utc".toList then pure 0 else refuse) <|>
  (do
    let _ ← satisfy fun c => c = 'Z' || c = 'z'
    pure 0) <|>
  (do
    let sign ← satisfy fun c => c = '+' || c = '-' || c = '\u2212'
    let hours := natOfDigits 10 (← exactly 2 Char.isDigit)
    let _ ← Reader.takeWhile fun c => c = ':' || isBlank c
    let minutes := natOfDigits 10 (← exactly 2 Char.isDigit)
    if hours < 24 && minutes < 60 then
      let ahead : Int := hours * 60 + minutes
      pure (if sign = '+' then ahead else -ahead)
    else refuse)

/-- The years that an instant may be in, in its zone as well as in UTC. -/
def isYear (y : Int) : Bool :=
  -262143 ≤ y && y ≤ 262142

/-- An instant with its zone. -/
def read : Reader Instant := do
  let y ← year
  divider '-'
  let month ← digitsUpTo 2
  divider '-'
  let day ← digitsUpTo 2
  let _ ← satisfy fun c => c = 'T' || c = 't' || c = ' '
  let hour ← digitsUpTo 2
  divider ':'
  let minute ← digitsUpTo 2
  divider ':'
  let second ← digitsUpTo 2
  let nano ← maybe fraction
  gap
  let ahead ← zone
  gap
  let date : Date := ⟨y, month, day⟩
  if date.isValid && isYear y && hour < 24 && minute < 60 && second ≤ 60 then
    let minutes := date.toDays * 1440 + (hour * 60 + minute : Nat) - ahead
    let days := minutes / 1440
    let leap := if second = 60 then 1 else 0
    if isYear (Date.ofDays days).year then
      pure ⟨days, (minutes % 1440).toNat * 60 + (second - leap), nano.getD 0 + leap * 1000000000⟩
    else refuse
  else refuse

/-- Reads an instant. -/
def parse? (text : String) : Option Instant :=
  read.all text.toList

end Instant

end SourceAudit
