import SourceAudit.Text.Utf8
import SourceAudit.Text.Word

/-!
# Percent encoding

The bytes of characters that have no place in a part of a URL are written as a percent sign and two
hexadecimal digits. Which characters these are depends on the part.
-/

namespace SourceAudit.Url

open Text

/-- Control characters and all that is not ASCII. -/
def outsideText (c : Char) : Bool :=
  c.toNat < 0x20 || 0x7E < c.toNat

/-- What is encoded in a fragment. -/
def outsideFragment (c : Char) : Bool :=
  outsideText c || c ∈ [' ', '"', '<', '>', '\x60']

/-- What is encoded in a path. -/
def outsidePath (c : Char) : Bool :=
  outsideFragment c || c ∈ ['#', '?', '\x7b', '\x7d']

/-- What is encoded in a single name of a path. -/
def outsideName (c : Char) : Bool :=
  outsidePath c || c ∈ ['/', '%', '\\']

/-- What is encoded in any query. -/
def outsideAnyQuery (c : Char) : Bool :=
  outsideText c || c ∈ [' ', '"', '#', '<', '>']

/-- What is encoded in a query of a known scheme. -/
def outsideQuery (c : Char) : Bool :=
  outsideAnyQuery c || c = '\''

/-- What is encoded in the name and password of a user. -/
def outsideUser (c : Char) : Bool :=
  outsidePath c || c ∈ ['/', ':', ';', '=', '@', '[', '\\', ']', '^', '|']

/-- A byte as a percent sign and two digits. -/
def percentByte (b : UInt8) : List Char :=
  '%' :: hexPadded true 2 b.toNat

/-- The text with the characters that satisfy `outside` encoded. -/
def percentEncode (outside : Char → Bool) (cs : List Char) : List Char :=
  cs.flatMap fun c => if outside c then (String.utf8EncodeChar c).flatMap percentByte else [c]

/-- The characters of bytes with those that satisfy `outside` encoded. -/
def percentEncodeBytes (outside : Char → Bool) (bs : List UInt8) : List Char :=
  bs.flatMap fun b =>
    let c := Char.ofNat b.toNat
    if outside c then percentByte b else [c]

/-- The bytes of a text after decoding. A percent sign without two digits stays. -/
def percentDecodeBytes : List UInt8 → List UInt8
  | b :: h :: l :: r =>
    let high := Char.ofNat h.toNat
    let low := Char.ofNat l.toNat
    if b = 0x25 ∧ isHexDigit high ∧ isHexDigit low then
      UInt8.ofNat (natOfDigits 16 [high, low]) :: percentDecodeBytes r
    else b :: percentDecodeBytes (h :: l :: r)
  | bs => bs

/-- The text after decoding. -/
def percentDecode (cs : List Char) : List Char :=
  Utf8.decodeLossy (percentDecodeBytes (Utf8.encode cs))

/-- The text after decoding, or `none` if its bytes are no text. -/
def percentDecode? (cs : List Char) : Option (List Char) :=
  Utf8.decode? (percentDecodeBytes (Utf8.encode cs))

/-- A character that a form field keeps as it is. -/
def keptInForm (c : Char) : Bool :=
  isAsciiAlphanumeric c || c ∈ ['*', '-', '.', '_']

/-- A name or a value of a form field; a space becomes a plus sign. -/
def formEncode (cs : List Char) : List Char :=
  cs.flatMap fun c =>
    if c = ' ' then ['+']
    else if keptInForm c then [c]
    else (String.utf8EncodeChar c).flatMap percentByte

end SourceAudit.Url
