import SourceAudit.Pattern.Build
import SourceAudit.Rule.Basic
import SourceAudit.Text.Lines

/-!
# Rules on style

Mixed indentation, doubled or pointless statements, and names in the wrong letter case.
-/

namespace SourceAudit.Rule

open Pattern

/-- What a line is indented with. -/
inductive Indentation where
  | tabs
  | spaces
deriving DecidableEq, Repr

/-- The name of an indentation. -/
def Indentation.name : Indentation → String
  | tabs => "tabs"
  | spaces => "spaces"

/-- The run of spaces and tabs at the start of a line. -/
def indentRun (line : Text.Line) : List Char :=
  line.takeWhile fun c => c == ' ' || c == '\t'

/-- Judges the indentation of a line in a file that uses `fileStyle` so far. The outcome is the
style that the file uses from then on and what is wrong with the line. -/
def judgeIndent (fileStyle : Option Indentation) (line : Text.Line) :
    Option Indentation × Option String :=
  let run := indentRun line
  if (Text.trim line).isEmpty || Line.looksBinary line || run.isEmpty then (fileStyle, none)
  else if run.contains '\t' && run.contains ' ' then
    (fileStyle, some "Indentation mixes tabs and spaces")
  else
    let style : Indentation := if run.contains '\t' then .tabs else .spaces
    match fileStyle with
    | none => (some style, none)
    | some established =>
      if established = style then (fileStyle, none)
      else
        (fileStyle, some ("Indentation uses " ++ style.name ++ " but the file uses " ++
          established.name))

/-- Reports the indentation in a list of lines that starts at line `n`. -/
def indentReports : Nat → Option Indentation → List Text.Line → List Report
  | _, _, [] => []
  | n, fileStyle, l :: r =>
    match judgeIndent fileStyle l with
    | (next, some description) => ⟨n, description⟩ :: indentReports (n + 1) next r
    | (next, none) => indentReports (n + 1) next r

/-- Tabs and spaces mixed on a line, or against the first indentation of the file. -/
def mixedIndentation : Rule where
  key := "style/indentation"
  id := "STY001"
  category := .indentation
  severity := .low
  reports _ := indentReports 1 none

/-- Two statement terminators with nothing but white space between them. The header `(;;)` of an
endless loop does not count. -/
def hasDoubleTerminator (code : List Char) : Bool :=
  Text.occurs [';', ';']
    ((Text.remove ['(', ';', ';', ')'] code).filter fun c => !Text.isBlank c)

/-- A control statement whose block is empty. -/
def emptyControlBlock : Pattern :=
  indented ++ optional (lit "\x7d" ++ gap) ++
    choice [
      optional (lit "else" ++ space) ++ words ["if", "for", "while", "switch", "catch"] ++ gap ++
        lit "(" ++ anything ++ lit ")",
      lit "else", lit "try", lit "finally", lit "do"] ++
    gap ++ lit "\x7b" ++ gap ++ lit "\x7d" ++ gap ++ optional (lit ";") ++ blankEnd

/-- A handler that catches every exception; its indentation is group 1, and group 2 takes part if its
body is a `pass` on the same line. -/
def catchAll : Pattern :=
  start ++ group 1 gap ++ lit "except" ++ gap ++
    optional
      (optional (lit "(") ++ gap ++ words ["Exception", "BaseException"] ++ gap ++
        optional (lit ")") ++ optional (space ++ lit "as" ++ space ++ word)) ++
    gap ++ lit ":" ++ gap ++ optional (group 2 (lit "pass")) ++ blankEnd

/-- The width of an indentation: one for a space and four for a tab. -/
def indentWidth (line : List Char) : Nat :=
  (indentRun line).foldr (fun c n => (if c == '\t' then 4 else 1) + n) 0

/-- The body of a handler at the given indentation is a lone `pass`. Blank lines and comments do not
count. -/
def bodyIsPass (headerIndent : Nat) (later : List Text.Line) : Bool :=
  let statements := later.filter fun l =>
    !(Text.trim l).isEmpty && (Text.trim l).head? != some '#'
  match statements with
  | [] => false
  | first :: rest =>
    Text.trim first == "pass".toList &&
      match rest with
      | [] => true
      | next :: _ => indentWidth next ≤ headerIndent

/-- Doubled terminators, empty control blocks and swallowed exceptions. -/
def statementTerminators : Rule where
  key := "style/terminators"
  id := "STY002"
  category := .terminators
  severity := .medium
  reports _ := perLine fun line later =>
    let code := Line.code line
    if hasDoubleTerminator code then some "Double statement terminator ';;'"
    else if emptyControlBlock.occursIn code then some "Empty block after control statement"
    else
      match catchAll.find? code with
      | none => none
      | some f =>
        if (f.group? 2).isSome || bodyIsPass (indentWidth (f.group 1)) later then
          some "Exception silently swallowed: 'except' block only contains 'pass'"
        else none

/-- A small letter of ASCII. -/
def isSmall (c : Char) : Bool := c.isLower

/-- A small letter or digit of ASCII. -/
def isSmallOrDigit (c : Char) : Bool := c.isLower || c.isDigit

/-- A Python function named in camel case; the name is group 1. -/
def camelFunction : Pattern :=
  indented ++ optional (lit "async" ++ space) ++ lit "def" ++ space ++
    group 1 (one isSmall ++ many isSmallOrDigit ++ one Char.isUpper ++ many Text.isWord) ++ gap ++
    lit "("

/-- A class named with a small first letter; the name is group 1. -/
def smallClass : Pattern :=
  indented ++ lit "class" ++ space ++ group 1 (one isSmall ++ many Text.isWord) ++ gap ++
    one (among "(:\x7b")

/-- An assignment to a variable named in camel case; the name is group 1. -/
def camelVariable : Pattern :=
  indented ++
    group 1 (one isSmall ++ many isSmallOrDigit ++ one Char.isUpper ++ many Char.isAlphanum) ++
    gap ++ lit "=" ++ one (· != '=')

/-- Function, class or variable named in the wrong letter case. -/
def namingConvention : Rule where
  key := "style/naming"
  id := "STY003"
  category := .namingConventions
  severity := .low
  reports _ := perLine fun line _ =>
    match camelFunction.find? line with
    | some f =>
      some ("Function '" ++ String.ofList (f.group 1) ++ "' uses camelCase; use snake_case")
    | none =>
      match smallClass.find? line with
      | some f => some ("Class '" ++ String.ofList (f.group 1) ++ "' should use PascalCase")
      | none =>
        (camelVariable.find? line).map fun f =>
          "Variable '" ++ String.ofList (f.group 1) ++ "' uses camelCase; use snake_case"

end SourceAudit.Rule
