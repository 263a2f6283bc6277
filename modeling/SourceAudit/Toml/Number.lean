import SourceAudit.Decimal.Bound
import SourceAudit.Text.Number
import SourceAudit.Text.Reader
import SourceAudit.Toml.Basic

/-!
# Numbers and dates of TOML

Integers must fit in 64 bits with a sign, floats must be finite unless they say otherwise, and dates
must be in the calendar.
-/

namespace SourceAudit.Toml

open Reader Text

/-- Digits with single underscores between them. -/
def digitRuns (isDigit : Char → Bool) : Reader (List Char) := do
  let runs ← sepBy1 (takeWhile1 isDigit) (char '_')
  pure runs.flatten

/-- An optional sign; the outcome says whether it is a minus. -/
def sign : Reader Bool := do
  match ← maybe (satisfy fun c => c == '+' || c == '-') with
  | some '-' => pure true
  | _ => pure false

/-- Decimal digits without a leading zero, or a single zero. -/
def wholeDigits : Reader (List Char) := do
  match ← peek with
  | some '0' => do char '0'; pure ['0']
  | _ => digitRuns Char.isDigit

/-- An integer in the range of 64 bits with a sign. -/
def inRange (n : Int) : Reader Node :=
  if Decimal.fitsSigned n then pure (.integer n) else refuse

/-- An integer in a base other than ten. -/
def prefixedInteger (mark : String) (base : Nat) (isDigit : Char → Bool) : Reader Node := do
  text mark
  let digits ← digitRuns isDigit
  inRange (natOfDigits base digits)

/-- An integer. -/
def integer : Reader Node :=
  prefixedInteger "0x" 16 isHexDigit <|>
  prefixedInteger "0o" 8 (fun c => '0' ≤ c && c ≤ '7') <|>
  prefixedInteger "0b" 2 (fun c => c == '0' || c == '1') <|> do
    let negative ← sign
    let n := natOfDigits 10 (← wholeDigits)
    inRange (if negative then -n else n)

/-- The exponent part of a float. -/
def exponent : Reader Int := do
  let _ ← satisfy fun c => c == 'e' || c == 'E'
  let negative ← sign
  let n := natOfDigits 10 (← digitRuns Char.isDigit)
  pure (if negative then -n else n)

/-- A float with a fraction, an exponent or both. -/
def plainFloat : Reader Node := do
  let negative ← sign
  let whole ← wholeDigits
  let fraction ← maybe (do char '.'; digitRuns Char.isDigit)
  let e ← maybe exponent
  if fraction.isNone && e.isNone then refuse
  else
    let decimals := fraction.getD []
    let digits := natOfDigits 10 (whole ++ decimals)
    if negative || Decimal.isFinite digits (e.getD 0 - decimals.length) then pure .float else refuse

/-- A float. -/
def float : Reader Node :=
  plainFloat <|> do
    let _ ← sign
    text "inf" <|> text "nan"
    pure .float

/-- A number of exactly `n` digits in a range. -/
def field (n low high : Nat) : Reader Nat := do
  let v := natOfDigits 10 (← exactly n Char.isDigit)
  if low ≤ v && v ≤ high then pure v else refuse

/-- The number of days in a month. -/
def daysIn (year month : Nat) : Nat :=
  if month = 2 then
    if (year % 4 = 0 && year % 100 ≠ 0) || year % 400 = 0 then 29 else 28
  else if month = 4 || month = 6 || month = 9 || month = 11 then 30
  else 31

/-- A date. -/
def fullDate : Reader Unit := do
  let year ← field 4 0 9999
  char '-'
  let month ← field 2 1 12
  char '-'
  let _ ← field 2 1 (daysIn year month)

/-- A time of day. -/
def clockTime : Reader Unit := do
  let _ ← field 2 0 23
  char ':'
  let _ ← field 2 0 59
  char ':'
  let _ ← field 2 0 60
  let _ ← maybe (do char '.'; takeWhile1 Char.isDigit)

/-- An offset from universal time. -/
def offset : Reader Unit :=
  (do let _ ← satisfy fun c => c == 'Z' || c == 'z') <|> do
    let _ ← satisfy fun c => c == '+' || c == '-'
    let _ ← field 2 0 23
    char ':'
    let _ ← field 2 0 59

/-- A date, a time or both. -/
def date : Reader Node :=
  (do
    fullDate
    let _ ← maybe do
      let _ ← satisfy fun c => c == 'T' || c == 't' || c == ' '
      clockTime
      maybe offset
    pure .date) <|> do
    clockTime
    pure .date

/-- A number or a date. -/
def numberOrDate : Reader Node :=
  date <|> float <|> integer

end SourceAudit.Toml
