import SourceAudit.Text.Number
import SourceAudit.Text.Reader

/-!
# Quoted text of TOML

The four quoted forms and their reading. Literal forms, in single quotes, have no escapes; the forms
in triple quotes may hold line breaks.
-/

namespace SourceAudit.Toml

open Reader Text

/-- A control character that no quoted text and no comment may hold. -/
def isForbidden (c : Char) : Bool :=
  (c.toNat ≤ 0x1F && c != '\t') || c.toNat == 0x7F

/-- A line break. -/
def newline : Reader Unit :=
  char '\n' <|> text "\r\n"

/-- Spaces and tabs. -/
def blanks : Reader Unit := do
  let _ ← takeWhile fun c => c == ' ' || c == '\t'

/-- The character with the code that `n` hexadecimal digits give. -/
def codePoint (n : Nat) : Reader Char := do
  let v := natOfDigits 16 (← exactly n isHexDigit)
  if isScalar v then pure (Char.ofNat v) else refuse

/-- The character that stands after a backslash. -/
def escaped : Reader Char := do
  match ← satisfy fun _ => true with
  | 'b' => pure (Char.ofNat 8)
  | 't' => pure '\t'
  | 'n' => pure '\n'
  | 'f' => pure (Char.ofNat 12)
  | 'r' => pure '\r'
  | '"' => pure '"'
  | '\\' => pure '\\'
  | 'u' => codePoint 4
  | 'U' => codePoint 8
  | _ => refuse

/-- A character of a basic text: an escape, or any other than a quote. -/
def basicChar : Reader Char :=
  (do char '\\'; escaped) <|> satisfy fun c => c != '"' && c != '\\' && !isForbidden c

/-- Text in double quotes. -/
def basic : Reader (List Char) := do
  char '"'
  let cs ← many basicChar
  char '"'
  pure cs

/-- Text in single quotes. -/
def literal : Reader (List Char) := do
  char '\''
  let cs ← takeWhile fun c => c != '\'' && !isForbidden c
  char '\''
  pure cs

/-- A backslash at the end of a line, with the blank text up to the next character. -/
def lineContinuation : Reader (List Char) := do
  char '\\'
  blanks
  newline
  let _ ← many ((do let _ ← satisfy fun c => c == ' ' || c == '\t') <|> newline)
  pure []

/-- The closing quotes of a text in triple quotes; up to two more quotes before them belong to the
text. -/
def closing (q : Char) : Reader (List Char) := do
  let quotes ← takeWhile (· == q)
  if 3 ≤ quotes.length && quotes.length ≤ 5 then pure (List.replicate (quotes.length - 3) q)
  else refuse

/-- One or two quotes inside a text in triple quotes. -/
def innerQuotes (q : Char) : Reader (List Char) := do
  let quotes ← takeWhile1 (· == q)
  if quotes.length ≤ 2 then pure quotes else refuse

/-- A text in triple quotes, given how its pieces other than quotes and line breaks read. -/
def tripled (q : Char) (piece : Reader (List Char)) : Reader (List Char) := do
  char q
  char q
  char q
  let _ ← maybe newline
  let pieces ← many (piece <|> innerQuotes q <|> do newline; pure ['\n'])
  let last ← closing q
  pure (pieces.flatten ++ last)

/-- Text in three double quotes. -/
def tripledBasic : Reader (List Char) :=
  tripled '"' (lineContinuation <|> do let c ← basicChar; pure [c])

/-- Text in three single quotes. -/
def tripledLiteral : Reader (List Char) :=
  tripled '\'' (takeWhile1 fun c => c != '\'' && !isForbidden c)

/-- Quoted text in any form. -/
def quoted : Reader (List Char) :=
  tripledBasic <|> basic <|> tripledLiteral <|> literal

end SourceAudit.Toml
