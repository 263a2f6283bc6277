/-!
# Digits and Base64

The values of digit texts, and bytes as text in Base64: three bytes are four digits of six bits each,
and a group that is not full is filled up with equals signs.
-/

/-! ## Digits -/

namespace SourceAudit.Text

/-- The value of a digit in bases up to 16; anything else counts as zero. -/
def digitValue (c : Char) : Nat :=
  if '0' ≤ c ∧ c ≤ '9' then c.toNat - '0'.toNat
  else if 'a' ≤ c ∧ c ≤ 'f' then c.toNat - 'a'.toNat + 10
  else if 'A' ≤ c ∧ c ≤ 'F' then c.toNat - 'A'.toNat + 10
  else 0

/-- A hexadecimal digit. -/
def isHexDigit (c : Char) : Bool :=
  c.isDigit || ('a' ≤ c && c ≤ 'f') || ('A' ≤ c && c ≤ 'F')

/-- The number that a text of digits stands for. -/
def natOfDigits (base : Nat) (digits : List Char) : Nat :=
  digits.foldl (fun n c => n * base + digitValue c) 0

/-- The decimal digits of a number. -/
def decimal (n : Nat) : List Char :=
  (Nat.repr n).toList

/-- The decimal digits of a number, with zeros in front up to a width. -/
def decimalPadded (width n : Nat) : List Char :=
  let digits := decimal n
  List.replicate (width - digits.length) '0' ++ digits

/-- The hexadecimal digits of a number in the given letter case, with zeros in front up to a
width. -/
def hexPadded (upper : Bool) (width n : Nat) : List Char :=
  let digits := (Nat.toDigits 16 n).map fun c => if upper then c.toUpper else c
  List.replicate (width - digits.length) '0' ++ digits

/-- A Unicode scalar value. -/
def isScalar (n : Nat) : Bool :=
  n < 0xD800 || (0xDFFF < n && n < 0x110000)

end SourceAudit.Text

/-! ## Base64 -/

namespace SourceAudit.Text.Base64

/-- The digit of a value below 64. -/
def digit (n : Nat) : Char :=
  if n < 26 then Char.ofNat ('A'.toNat + n)
  else if n < 52 then Char.ofNat ('a'.toNat + (n - 26))
  else if n < 62 then Char.ofNat ('0'.toNat + (n - 52))
  else if n = 62 then '+'
  else '/'

/-- The first digits of a group of three bytes. -/
def digits (count : Nat) (a b c : UInt8) : List Char :=
  let n := (a.toNat * 256 + b.toNat) * 256 + c.toNat
  [n / 262144, n / 4096 % 64, n / 64 % 64, n % 64].take count |>.map digit

/-- The text of bytes. -/
def encode : List UInt8 → List Char
  | a :: b :: c :: r => digits 4 a b c ++ encode r
  | [a, b] => digits 3 a b 0 ++ ['=']
  | [a] => digits 2 a 0 0 ++ ['=', '=']
  | [] => []

end SourceAudit.Text.Base64
