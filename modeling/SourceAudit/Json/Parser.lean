import SourceAudit.Decimal.Scaled
import SourceAudit.Json.Basic
import SourceAudit.Text.Number
import SourceAudit.Text.Reader

/-!
# Reading JSON

The grammar of JSON documents. A document holds one value with white space around it.
-/

namespace SourceAudit.Json

open Reader Text

/-- White space between the parts of a document. -/
def isSpace (c : Char) : Bool :=
  c = ' ' || c = '\n' || c = '\t' || c = '\r'

/-- Passes over white space. -/
def space : Reader Unit := do
  let _ ← Reader.takeWhile isSpace

/-- The code that four hexadecimal digits give. -/
def code : Reader Nat := do
  pure (natOfDigits 16 (← exactly 4 isHexDigit))

/-- A first half of a surrogate pair. -/
def isHighHalf (n : Nat) : Bool :=
  0xD800 ≤ n && n ≤ 0xDBFF

/-- A second half of a surrogate pair. -/
def isLowHalf (n : Nat) : Bool :=
  0xDC00 ≤ n && n ≤ 0xDFFF

/-- The character that the rest of a `\u` escape stands for; `none` for half a surrogate pair. -/
def unicodeEscape : Reader (Option Char) := do
  let high ← code
  if isHighHalf high then
    let low? ← maybe do
      Reader.text "\\u"
      let low ← code
      if isLowHalf low then pure low else refuse
    match low? with
    | some low => pure (some (Char.ofNat (0x10000 + (high - 0xD800) * 0x400 + (low - 0xDC00))))
    | none => pure none
  else if isLowHalf high then pure none
  else pure (some (Char.ofNat high))

/-- The character that the rest of an escape stands for. -/
def escape : Reader (Option Char) := do
  match ← satisfy fun _ => true with
  | '"' => pure (some '"')
  | '\\' => pure (some '\\')
  | '/' => pure (some '/')
  | 'b' => pure (some '\x08')
  | 'f' => pure (some '\x0c')
  | 'n' => pure (some '\n')
  | 'r' => pure (some '\r')
  | 't' => pure (some '\t')
  | 'u' => unicodeEscape
  | _ => refuse

/-- One character of a text: an escape, or any other but quotes and control characters. -/
def textChar : Reader (Option Char) :=
  (do char '\\'; escape) <|>
    some <$> satisfy fun c => c ≠ '"' && c ≠ '\\' && 0x20 ≤ c.toNat

/-- A text in quotes; `none` if it has half a surrogate pair. -/
def quoted : Reader (Option String) := do
  char '"'
  let cs ← many textChar
  char '"'
  pure ((cs.mapM id).map String.ofList)

/-- Digits of an integer: no zero in front of others. -/
def integerDigits : Reader (List Char) := do
  let digits ← takeWhile1 Char.isDigit
  if digits.head? = some '0' && 1 < digits.length then refuse else pure digits

/-- An exponent. -/
def exponent : Reader Int := do
  let _ ← satisfy fun c => c = 'e' || c = 'E'
  let sign? ← maybe (satisfy fun c => c = '+' || c = '-')
  let digits ← takeWhile1 Char.isDigit
  let n : Int := natOfDigits 10 digits
  pure (if sign? = some '-' then -n else n)

/-- A number. -/
def number : Reader Json := do
  let sign? ← maybe (char '-')
  let whole ← integerDigits
  let fraction? ← maybe do char '.'; takeWhile1 Char.isDigit
  let exponent? ← maybe exponent
  -- a point or an exponent that is started must be complete
  match ← peek with
  | some '.' | some 'e' | some 'E' => refuse
  | _ =>
    let n := natOfDigits 10 whole
    if sign?.isNone && fraction?.isNone && exponent?.isNone && Decimal.fitsUnsigned n then
      pure (.natural n)
    else
      pure (.otherNumber
        (Decimal.Scaled.ofDigits whole (fraction?.getD []) (exponent?.getD 0)).isFinite)

/-- The object with these fields. -/
def ofFields (fields : List (Option String × Json)) : Json :=
  match fields.mapM fun f => f.1.map (·, f.2) with
  | some fields => .object fields
  | none => .brokenObject (fields.map (·.2))

/-- A value, nested less than `fuel` levels deep. -/
def value : (fuel : Nat) → Reader Json
  | 0 => refuse
  | fuel + 1 => do
    match ← peek with
    | some '"' =>
      match ← quoted with
      | some s => pure (.text s)
      | none => pure .brokenText
    | some '[' =>
      char '['
      space
      let first? ← maybe (value fuel)
      let rest ← if first?.isSome then many (do space; char ','; space; value fuel) else pure []
      space
      char ']'
      pure (.array (first?.toList ++ rest))
    | some '\x7b' =>
      char '\x7b'
      space
      let field := do
        let key? ← quoted
        space
        char ':'
        space
        let v ← value fuel
        pure (key?, v)
      let first? ← maybe field
      let rest ← if first?.isSome then many (do space; char ','; space; field) else pure []
      space
      char '\x7d'
      pure (ofFields (first?.toList ++ rest))
    | some 't' => do Reader.text "true"; pure (.flag true)
    | some 'f' => do Reader.text "false"; pure (.flag false)
    | some 'n' => do Reader.text "null"; pure .null
    | _ => number

/-- Reads a document. -/
def parse? (document : List Char) : Option Json :=
  (do space; let v ← value (document.length + 1); space; pure v : Reader Json).all document

/-- The arrays and objects inside one another that a document may have where every value of it
counts. -/
def depthLimit : Nat := 127

/-- Reads a document of which every value counts. -/
def parseStrict? (document : List Char) : Option Json :=
  (parse? document).filter fun v => v.depth ≤ depthLimit && v.isPlain

end SourceAudit.Json
