import SourceAudit.Line.Literal
import SourceAudit.Line.Marker
import SourceAudit.Pattern.Build
import SourceAudit.Rule.Basic

/-!
# Rules on security

Values that are hardcoded, and code that evaluates text as a program or inserts it as markup.
-/

namespace SourceAudit.Rule

/-! ## Hardcoded values

A line of code that holds a value of one of the catalogued kinds. A line whose work is put off is
passed over: its author has marked the value for replacement. -/

/-- The most specific kind of hardcoded value on a line. -/
def literalKind? (line : Text.Line) : Option LiteralKind :=
  LiteralKind.catalogue.find? fun k => (k.find? line).isSome

/-- Value of a catalogued kind. -/
def hardcodedValue : Rule where
  key := "hardcoded/values"
  id := "HCV001"
  category := .hardcodedValues
  severity := .medium
  reports _ := perLine fun line _ =>
    if Line.isComment line || Line.isDeferred line then none
    else
      (literalKind? line).map fun k =>
        "Hardcoded " ++ String.ofList (Text.lower k.name.toList) ++ ": " ++ k.description

/-! ## Dynamic evaluation

Only the code part of a line counts. -/

open Pattern

/-- The constructs that evaluate text, with the names that they are reported under. A method call
such as `cursor.execute()` or `regex.exec()` is none of them. -/
def unsafeConstructs : List (Pattern × String) :=
  [(freeStart ++ lit "eval" ++ gap ++ lit "(", "eval()"),
   (freeStart ++ lit "exec" ++ gap ++ lit "(", "exec()"),
   (wordEdge ++ lit "new" ++ space ++ lit "Function" ++ gap ++ lit "(", "new Function()"),
   (lit "." ++ words ["inner", "outer"] ++ lit "HTML" ++ gap ++ lit "=" ++
      choice [one (· != '='), finish], "innerHTML assignment"),
   (wordEdge ++ lit "dangerouslySetInnerHTML" ++ wordEdge, "dangerouslySetInnerHTML"),
   (wordEdge ++ lit "document.write" ++ optional (lit "ln") ++ gap ++ lit "(",
    "document.write()")]

/-- Evaluation of text. -/
def dynamicEvaluation : Rule where
  key := "security/dynamic-eval"
  id := "SEC001"
  category := .security
  severity := .critical
  reports _ := perLine fun line _ =>
    (unsafeConstructs.find? fun u => u.1.occursIn (Line.code line)).map fun u =>
      "Unsafe dynamic evaluation: " ++ u.2

end SourceAudit.Rule
