import SourceAudit.Text.Blank

/-!
# Code and comment

A line is read as code with an optional trailing comment. String literals keep their delimiters and
lose what stands between them, so a comment sign inside a literal starts no comment.
-/

namespace SourceAudit.Line

/-- The code of a line and its trailing comment. -/
structure Parts where
  code : List Char
  comment : Option (List Char)
deriving DecidableEq, Repr

/-- The character opens and closes string literals. -/
def isQuote (c : Char) : Bool :=
  c == '"' || c == '\'' || c == '\x60'

/-- A comment starts here: a hash sign, or a slash followed by a slash or a star. -/
def startsComment : List Char → Bool
  | '#' :: _ => true
  | '/' :: '/' :: _ => true
  | '/' :: '*' :: _ => true
  | _ => false

/-- Where the reader of a line stands: in code, or in a literal with the given delimiter, just after
a backslash or not. -/
inductive Context where
  | code
  | literal (quote : Char) (escaped : Bool)
deriving DecidableEq, Repr

/-- Puts a character in front of the code. -/
def Parts.consCode (c : Char) (p : Parts) : Parts :=
  { p with code := c :: p.code }

/-- Reads the rest of a line. -/
def splitFrom : Context → List Char → Parts
  | _, [] => ⟨[], none⟩
  | .literal q true, _ :: r => splitFrom (.literal q false) r
  | .literal q false, c :: r =>
    if c = '\\' then splitFrom (.literal q true) r
    else if c = q then (splitFrom .code r).consCode c
    else splitFrom (.literal q false) r
  | .code, c :: r =>
    if startsComment (c :: r) then ⟨[], some (c :: r)⟩
    else if isQuote c then (splitFrom (.literal c false) r).consCode c
    else (splitFrom .code r).consCode c

/-- Splits a line into its code and its comment. -/
def split (line : List Char) : Parts :=
  splitFrom .code line

/-- The code of a line. -/
def code (line : List Char) : List Char :=
  (split line).code

/-- The line holds nothing but a comment, or continues one with a star. -/
def isComment (line : List Char) : Bool :=
  match Text.trimStart line with
  | '#' :: _ => true
  | '/' :: '/' :: _ => true
  | '/' :: '*' :: _ => true
  | '*' :: _ => true
  | _ => false

/-- A line with a NUL or a replacement character is taken for binary data. -/
def looksBinary (line : List Char) : Bool :=
  line.contains '\x00' || line.contains '\uFFFD'

example : split "x = \"a#b\"  # note".toList = ⟨"x = \"\"  ".toList, some "# note".toList⟩ := by
  decide

end SourceAudit.Line
