import SourceAudit.Line.Import
import SourceAudit.Rule.Basic

/-!
# Rules on code quality

Functions without effect, debug output left in place, and numbers without a name.
-/

namespace SourceAudit.Rule

open Pattern

/-- A parameter list in parentheses. -/
def parameters : Pattern :=
  lit "(" ++ many (· != ')') ++ lit ")"

/-- Braces with nothing in them. -/
def emptyBraces : Pattern :=
  lit "\x7b" ++ gap ++ lit "\x7d"

/-- An optional semicolon, then the end of the text. -/
def statementEnd : Pattern :=
  gap ++ optional (lit ";") ++ blankEnd

/-- The whole lines that define something without effect: a Python function that passes, a JavaScript
function with an empty body, and exported arrows and defaults that are null or empty. -/
def emptyDefinitions : List Pattern :=
  [indented ++ optional (lit "async" ++ space) ++ lit "def" ++ space ++ word ++ gap ++ parameters ++
      gap ++ optional (lit "->" ++ gap ++ some1 (· != ':')) ++ lit ":" ++ gap ++
      words ["pass", "..."] ++ gap ++ optional (lit "#" ++ anything) ++ finish,
   indented ++ optional (lit "export" ++ space ++ optional (lit "default" ++ space)) ++
      optional (lit "async" ++ space) ++ lit "function" ++ gap ++ many Text.isWord ++ gap ++
      parameters ++ gap ++ emptyBraces ++ statementEnd,
   indented ++ lit "export" ++ space ++ optional (lit "default" ++ space) ++
      words ["const", "let", "var"] ++ space ++ word ++ gap ++ lit "=" ++ gap ++ parameters ++ gap ++
      lit "=>" ++ gap ++
      choice [lit "null", emptyBraces, lit "<>" ++ gap ++ lit "</>"] ++ statementEnd,
   indented ++ lit "export" ++ space ++ lit "default" ++ space ++
      choice [lit "null", emptyBraces,
        parameters ++ gap ++ lit "=>" ++ gap ++ choice [lit "null", emptyBraces]] ++
      statementEnd]

/-- Function or component without effect. -/
def emptyExport : Rule where
  key := "quality/empty-export"
  id := "QUAL001"
  category := .codeQuality
  severity := .low
  reports _ := perLine fun line _ =>
    if emptyDefinitions.any fun p => p.occursIn line then
      some "Empty function or component has no effect"
    else none

/-- The statements that show values or stop in a debugger, with the names that they are reported
under. -/
def debugStatements : List (Pattern × String) :=
  [(freeStart ++ lit "print" ++ gap ++ lit "(", "print()"),
   (wordEdge ++ lit "console." ++ words ["log", "debug", "trace", "dir", "table"] ++ gap ++ lit "(",
    "console.log()"),
   (wordEdge ++ optional (lit "i") ++ lit "pdb.set_trace" ++ gap ++ lit "(", "pdb.set_trace()"),
   (indented ++ lit "import" ++ space ++ optional (lit "i") ++ lit "pdb" ++ wordEdge, "pdb import"),
   (freeStart ++ lit "breakpoint" ++ gap ++ lit "(" ++ gap ++ lit ")", "breakpoint()"),
   (indented ++ lit "debugger" ++ statementEnd, "debugger statement")]

/-- Debug output left in place. -/
def debugLogging : Rule where
  key := "quality/debug-logging"
  id := "QUAL002"
  category := .debugCode
  severity := .low
  reports _ := perLine fun line _ =>
    (debugStatements.find? fun d => d.1.occursIn (Line.code line)).map fun d =>
      "Debug statement left in code: " ++ d.2

/-- The start of a line that names a value: a constant declaration, or an assignment to a name in
capitals. -/
def constantDefinition : Pattern :=
  indented ++
    choice [
      optional (lit "export" ++ space) ++ words ["const", "final", "static"] ++ space,
      one Char.isUpper ++ many (fun c => c.isUpper || c.isDigit || c == '_') ++ gap ++
        optional (lit ":" ++ some1 (· != '=')) ++ lit "=" ++ one (· != '=')]

/-- A number that is no part of a word or of a longer number; its text is group 1. -/
def numericLiteral : Pattern :=
  freeStart ++ group 1 (some1 Text.isDigit ++ optional (lit "." ++ some1 Text.isDigit)) ++ wordEdge

/-- The numbers that need no name. -/
def trivialNumbers : List (List Char) :=
  ["0", "1", "2", "0.0", "1.0", "0.5"].map String.toList

/-- Number that should be a named constant. Definitions, imports and lines with a comment are passed
over. -/
def magicNumber : Rule where
  key := "quality/magic-numbers"
  id := "QUAL003"
  category := .magicNumbers
  severity := .low
  reports _ := perLine fun line _ =>
    if Line.isComment line || constantDefinition.occursIn line || (Import.parse? line).isSome then
      none
    else
      let parts := Line.split line
      if parts.comment.isSome then none
      else
        (((numericLiteral.findAll parts.code).map (·.group 1)).find? fun n =>
          !trivialNumbers.contains n).map fun n =>
            "Magic number " ++ String.ofList n ++ " should be a named constant"

end SourceAudit.Rule
