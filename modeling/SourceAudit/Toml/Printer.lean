import SourceAudit.Text.Number

/-!
# Writing TOML documents

A document is written as sections, each with a header and keys. A text takes the plainest quoted form
that needs no escapes: double quotes, single quotes, then the triple forms; only if none will do it
is escaped.
-/

namespace SourceAudit.Toml

open Text

/-- What a document is made of here. -/
inductive Plain where
  | text (s : String)
  | number (n : Nat)
  | flag (b : Bool)
  | texts (ss : List String)
deriving DecidableEq, Repr

/-- A table with the keys of its path. -/
structure Section where
  path : List String
  entries : List (String × Plain)
deriving DecidableEq, Repr

/-- The length of the longest run of a character. -/
def longestRun (q : Char) (s : List Char) : Nat :=
  (s.foldl (fun (best, now) c =>
    if c == q then (Nat.max best (now + 1), now + 1) else (best, 0)) (0, 0)).1

/-- A control character that only an escape can stand for. -/
def needsCode (c : Char) : Bool :=
  (c.toNat ≤ 0x1F && c != '\t' && c != '\n') || c.toNat == 0x7F

/-- A character as it is written between double quotes, with line breaks as they are in the triple
form. -/
def escape (triple : Bool) (c : Char) : List Char :=
  match c with
  | '\t' => ['\\', 't']
  | '\n' => if triple then ['\n'] else ['\\', 'n']
  | '\r' => ['\\', 'r']
  | '\\' => ['\\', '\\']
  | _ =>
    if c.toNat = 8 then ['\\', 'b']
    else if c.toNat = 12 then ['\\', 'f']
    else if needsCode c then '\\' :: 'u' :: hexPadded true 4 c.toNat
    else [c]

/-- A text between double quotes, of which at most `allowed` in a row stay without an escape; `run`
is the number just written. -/
def escapeFrom (triple : Bool) (allowed run : Nat) : List Char → List Char
  | [] => []
  | c :: r =>
    if c = '"' then
      if run < allowed then '"' :: escapeFrom triple allowed (run + 1) r
      else '\\' :: '"' :: escapeFrom triple allowed 0 r
    else escape triple c ++ escapeFrom triple allowed 0 r

/-- The plainest single-line form that needs no escape, if there is one. -/
def plainQuoted? (s : List Char) : Option (List Char) :=
  if s.any needsCode || s.contains '\n' then none
  else if !s.contains '\\' && !s.contains '"' then some ('"' :: (escapeFrom false 0 0 s ++ ['"']))
  else if !s.contains '\'' then some ('\'' :: (s ++ ['\'']))
  else none

/-- Three quotes around a text. A text with line breaks starts on a line of its own. -/
def tripleQuoted (q : Char) (s body : List Char) : List Char :=
  let quotes := List.replicate 3 q
  quotes ++ (if s.contains '\n' then ['\n'] else []) ++ body ++ quotes

/-- The text in its plainest form. -/
def quote (s : List Char) : List Char :=
  match plainQuoted? s with
  | some q => q
  | none =>
    let coded := s.any needsCode
    if !coded && !s.contains '\\' && longestRun '"' s ≤ 2 then
      tripleQuoted '"' s (escapeFrom true 2 0 s)
    else if !coded && longestRun '\'' s ≤ 2 then tripleQuoted '\'' s s
    else if s.contains '\n' then tripleQuoted '"' s (escapeFrom true 2 0 s)
    else '"' :: (escapeFrom false 0 0 s ++ ['"'])

/-- A key: bare if its characters allow, else quoted on one line. -/
def key (k : String) : List Char :=
  let s := k.toList
  if !s.isEmpty && s.all fun c => c.isAlphanum || c == '_' || c == '-' then s
  else (plainQuoted? s).getD ('"' :: (escapeFrom false 0 0 s ++ ['"']))

/-- A value. A list of two or more texts has a line for each. -/
def Plain.render : Plain → List Char
  | .text s => quote s.toList
  | .number n => decimal n
  | .flag b => if b then "true".toList else "false".toList
  | .texts [] => "[]".toList
  | .texts [s] => '[' :: (quote s.toList ++ [']'])
  | .texts ss =>
    "[\n".toList ++ (ss.flatMap fun s => "    ".toList ++ quote s.toList ++ ",\n".toList) ++ [']']

/-- A section with its header. -/
def Section.render (s : Section) : List Char :=
  '[' :: (((s.path.map key).intersperse ['.']).flatten ++ "]\n".toList) ++
    s.entries.flatMap fun e => key e.1 ++ " = ".toList ++ e.2.render ++ ['\n']

/-- A document: its sections with a blank line between them. -/
def render (sections : List Section) : String :=
  String.ofList ((sections.map Section.render).intersperse ['\n']).flatten

end SourceAudit.Toml
