import SourceAudit.Text.Case
import SourceAudit.Text.Utf8

/-!
# Character sets

The texts of bytes in the character sets that answers come in. A byte order mark tells the set and is
dropped.
-/

namespace SourceAudit.Text

/-- A character set. -/
inductive Charset where
  | utf8
  | utf16 (bigEndian : Bool)
  | latin
deriving DecidableEq, Repr

namespace Charset

/-- The characters of the bytes from 128 to 159 in the Latin set. -/
def latinUpper : List Nat :=
  [0x20AC, 0x81, 0x201A, 0x192, 0x201E, 0x2026, 0x2020, 0x2021, 0x2C6, 0x2030, 0x160, 0x2039,
   0x152, 0x8D, 0x17D, 0x8F, 0x90, 0x2018, 0x2019, 0x201C, 0x201D, 0x2022, 0x2013, 0x2014, 0x2DC,
   0x2122, 0x161, 0x203A, 0x153, 0x9D, 0x17E, 0x178]

/-- The character of a byte in the Latin set. -/
def latinChar (b : UInt8) : Char :=
  let n := b.toNat
  Char.ofNat (if 0x80 ≤ n ∧ n < 0xA0 then (latinUpper[n - 0x80]?).getD n else n)

/-- The units of two bytes each; `none` for a byte left over. -/
def units (bigEndian : Bool) : List UInt8 → List (Option Nat)
  | a :: b :: r =>
    some (if bigEndian then a.toNat * 256 + b.toNat else b.toNat * 256 + a.toNat) ::
      units bigEndian r
  | [_] => [none]
  | [] => []

/-- The characters of units; half a pair becomes a replacement character. -/
def ofUnits : List (Option Nat) → List Char
  | some h :: some l :: r =>
    if 0xD800 ≤ h ∧ h < 0xDC00 ∧ 0xDC00 ≤ l ∧ l < 0xE000 then
      Char.ofNat (0x10000 + (h - 0xD800) * 0x400 + (l - 0xDC00)) :: ofUnits r
    else (if isScalar h then Char.ofNat h else '\ufffd') :: ofUnits (some l :: r)
  | some h :: r => (if isScalar h then Char.ofNat h else '\ufffd') :: ofUnits r
  | none :: r => '\ufffd' :: ofUnits r
  | [] => []

/-- The text of bytes in a character set. -/
def decodeIn : Charset → List UInt8 → List Char
  | utf8, bs => Utf8.decodeLossy bs
  | utf16 bigEndian, bs => ofUnits (units bigEndian bs)
  | latin, bs => bs.map latinChar

/-- The text of bytes, whose byte order mark counts more than the character set. -/
def decode (set : Charset) : List UInt8 → List Char
  | 0xEF :: 0xBB :: 0xBF :: r => decodeIn utf8 r
  | 0xFE :: 0xFF :: r => decodeIn (utf16 true) r
  | 0xFF :: 0xFE :: r => decodeIn (utf16 false) r
  | bs => decodeIn set bs

/-- The names of the Latin set. -/
def latinNames : List String :=
  ["ansi_x3.4-1968", "ascii", "cp1252", "cp819", "csisolatin1", "ibm819", "iso-8859-1",
   "iso-ir-100", "iso8859-1", "iso88591", "iso_8859-1", "iso_8859-1:1987", "l1", "latin1",
   "us-ascii", "windows-1252", "x-cp1252"]

/-- The names of units of two bytes with the lower byte first. -/
def lowFirstNames : List String :=
  ["csunicode", "iso-10646-ucs-2", "ucs-2", "unicode", "unicodefeff", "utf-16", "utf-16le"]

/-- The names of units of two bytes with the higher byte first. -/
def highFirstNames : List String :=
  ["unicodefffe", "utf-16be"]

/-- The character set with a name. -/
def ofName (name : List Char) : Charset :=
  let name := String.ofList ((trim name).map asciiLower)
  if name ∈ latinNames then latin
  else if name ∈ lowFirstNames then utf16 false
  else if name ∈ highFirstNames then utf16 true
  else utf8

/-- The character set that the type of an answer names, or UTF-8. -/
def ofContentType (type : List Char) : Charset :=
  let parameters := ((cut ';' type).drop 1).map trim
  match parameters.find? fun p => eqIgnoringAsciiCase (p.takeWhile (· ≠ '=')) "charset".toList with
  | some p => ofName (trimWhile (· == '"') ((p.dropWhile (· ≠ '=')).drop 1))
  | none => utf8

end Charset

end SourceAudit.Text
