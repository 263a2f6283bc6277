import SourceAudit.Toml.Number
import SourceAudit.Toml.Quoted

/-!
# Reading TOML documents

`parse?` reads a document into the entries of its root table. A document that repeats a key, or adds
to a table that is complete, is refused, and so is one that nests values too deeply.
-/

namespace SourceAudit.Toml

open Reader Text

/-- A character of a key without quotes. -/
def isBareKeyChar (c : Char) : Bool :=
  c.isAlphanum || c == '_' || c == '-'

/-- A key without dots. -/
def simpleKey : Reader String := do
  let cs ← takeWhile1 isBareKeyChar <|> basic <|> literal
  pure (String.ofList cs)

/-- The most arrays and tables in braces that are one inside the other, and the most parts of a
dotted key. -/
def maxDepth : Nat := 79

/-- A dotted key. -/
def dottedKey : Reader (List String) := do
  let keys ← sepBy1 (do blanks; let k ← simpleKey; blanks; pure k) (char '.')
  if keys.length ≤ maxDepth then pure keys else refuse

/-- A comment without the end of its line. -/
def comment : Reader Unit := do
  char '#'
  let _ ← takeWhile fun c => c == '\t' || !isForbidden c

/-- Blank text, line breaks and comments between the items of an array. -/
def arrayGap : Reader Unit := do
  let _ ← many
    ((do let _ ← satisfy fun c => c == ' ' || c == '\t') <|> newline <|> (do comment; newline))

/-- The table in braces with these entries. -/
def tableOf (pairs : List (List String × Node)) : Option Entries :=
  pairs.foldlM (fun t p => Entries.insertDotted t p.2 p.1) []

/-- A value other than an array or a table. -/
def scalar : Reader Node := do
  match ← peek with
  | some '"' | some '\'' => do pure (.string (String.ofList (← quoted)))
  | some 't' => do text "true"; pure (.boolean true)
  | some 'f' => do text "false"; pure (.boolean false)
  | _ => numberOrDate

/-- A value with at most `depth` arrays and tables one inside the other. -/
def value : (depth : Nat) → Reader Node
  | 0 => scalar
  | depth + 1 => do
    match ← peek with
    | some '[' => do
      char '['
      arrayGap
      let items ← maybe do
        let first ← value depth
        let rest ← many (do arrayGap; char ','; arrayGap; value depth)
        arrayGap
        let _ ← maybe (do char ','; arrayGap)
        pure (first :: rest)
      char ']'
      pure (.array (items.getD []))
    | some '\x7b' => do
      char '\x7b'
      blanks
      let pair := do
        let k ← dottedKey
        char '='
        blanks
        let v ← value depth
        blanks
        pure (k, v)
      let pairs ← maybe (sepBy1 pair (char ','))
      char '\x7d'
      match tableOf (pairs.getD []) with
      | some t => pure (.table .braces t)
      | none => refuse
    | _ => scalar

/-- The end of a line: blank text, maybe a comment, and a line break unless the text ends. -/
def lineEnd : Reader Unit := do
  blanks
  let _ ← maybe comment
  newline <|> finish

/-- A line of a document: blank, a header, a header in double brackets, or a key with its value. -/
inductive Line where
  | blank
  | header (path : List String)
  | nextHeader (path : List String)
  | entry (path : List String) (v : Node)

/-- Reads a line with its end. -/
def line : Reader Line := do
  blanks
  match ← peek with
  | some '[' =>
    (do
      text "[["
      let path ← dottedKey
      text "]]"
      lineEnd
      pure (.nextHeader path)) <|> do
      char '['
      let path ← dottedKey
      char ']'
      lineEnd
      pure (.header path)
  | some '#' | some '\n' | some '\r' | none => do lineEnd; pure .blank
  | _ => do
    let path ← dottedKey
    char '='
    blanks
    let v ← value maxDepth
    lineEnd
    pure (.entry path v)

/-- A document under construction: the root table, and the path of the table that entries go to. -/
structure Draft where
  root : Entries
  path : List String

/-- Adds a line to a document. -/
def Draft.add (d : Draft) : Line → Option Draft
  | .blank => some d
  | .header path => (d.root.openTable path).map fun t => ⟨t, path⟩
  | .nextHeader path => (d.root.openNextTable path).map fun t => ⟨t, path⟩
  | .entry key v =>
    (d.root.modifyAt (fun t => t.insertDotted v key) d.path).map fun t => { d with root := t }

/-- Reads a document. -/
def parse? (document : String) : Option Entries :=
  let body := match document.toList with
    | '\uFEFF' :: r => r
    | cs => cs
  match (many line).all body with
  | none => none
  | some ls => (ls.foldlM Draft.add ⟨[], []⟩).map (·.root)

end SourceAudit.Toml
