import SourceAudit.Json.Basic
import SourceAudit.Text.Number

/-!
# Writing JSON

Documents are written with a line for every item and every field, and two spaces for each level.
-/

namespace SourceAudit.Json

open Text

/-- A character as it stands in quotes. -/
def escapeChar (c : Char) : List Char :=
  if c = '"' then ['\\', '"']
  else if c = '\\' then ['\\', '\\']
  else if c = '\x08' then ['\\', 'b']
  else if c = '\x0c' then ['\\', 'f']
  else if c = '\n' then ['\\', 'n']
  else if c = '\r' then ['\\', 'r']
  else if c = '\t' then ['\\', 't']
  else if c.toNat < 0x20 then '\\' :: 'u' :: hexPadded false 4 c.toNat
  else [c]

/-- A text in quotes. -/
def quote (s : String) : List Char :=
  '"' :: s.toList.flatMap escapeChar ++ ['"']

/-- A line break and the spaces of a level. -/
def lineBreak (level : Nat) : List Char :=
  '\n' :: List.replicate (2 * level) ' '

mutual

/-- The text of a value whose lines are at this level. -/
def write (level : Nat) : Json → List Char
  | null => "null".toList
  | flag b => (if b then "true" else "false").toList
  | natural n => decimal n
  | otherNumber _ => ['0']
  | text s => quote s
  | brokenText => quote ""
  | array [] => "[]".toList
  | array (v :: rest) =>
    '[' :: lineBreak (level + 1) ++ write (level + 1) v ++ writeItems (level + 1) rest ++
      lineBreak level ++ [']']
  | object [] | brokenObject _ => ['\x7b', '\x7d']
  | object ((key, v) :: rest) =>
    '\x7b' :: lineBreak (level + 1) ++ quote key ++ ": ".toList ++ write (level + 1) v ++
      writeFields (level + 1) rest ++ lineBreak level ++ ['\x7d']

/-- The text of the items behind the first. -/
def writeItems (level : Nat) : List Json → List Char
  | [] => []
  | v :: rest => ',' :: lineBreak level ++ write level v ++ writeItems level rest

/-- The text of the fields behind the first. -/
def writeFields (level : Nat) : List (String × Json) → List Char
  | [] => []
  | (key, v) :: rest =>
    ',' :: lineBreak level ++ quote key ++ ": ".toList ++ write level v ++ writeFields level rest

end

/-- The text of a document. -/
def render (v : Json) : String :=
  String.ofList (write 0 v)

end SourceAudit.Json
