import SourceAudit.Finding
import SourceAudit.Line.Code
import SourceAudit.Policy

/-!
# Rules

A rule looks at the lines of a file and reports line numbers with descriptions. Most rules judge one
line at a time, with the lines after it in view; they pass over lines that look binary.
-/

namespace SourceAudit

namespace Rule

/-- What a rule may consult besides the file: the policy of the repository, the modules that the
repository itself defines, and how many lines to look ahead for error handling. -/
structure Context where
  policy : Policy
  firstParty : NameSet
  lookahead : Nat

/-- A line number, counting from 1, and what is wrong there. -/
structure Report where
  line : Nat
  description : String
deriving DecidableEq, Repr

end Rule

/-- A rule: the key that configures it, the identifier, category and severity of its hits, and what
it reports for the lines of a file. -/
structure Rule where
  key : String
  id : String
  category : Category
  severity : Severity
  reports : Rule.Context → List Text.Line → List Rule.Report

namespace Rule

/-- Judges each line of a list that starts at line `n`, given the lines after it; a line that looks
binary is passed over. -/
def perLineFrom (judge : Text.Line → List Text.Line → Option String) :
    Nat → List Text.Line → List Report
  | _, [] => []
  | n, l :: r =>
    let later := perLineFrom judge (n + 1) r
    if Line.looksBinary l then later
    else
      match judge l r with
      | some description => ⟨n, description⟩ :: later
      | none => later

/-- Judges each line, given the lines after it. -/
def perLine (judge : Text.Line → List Text.Line → Option String) (lines : List Text.Line) :
    List Report :=
  perLineFrom judge 1 lines

/-- The hit for a report. -/
def hitOf (r : Rule) (report : Report) : Hit :=
  { ruleId := r.id
    line := report.line
    category := r.category
    severity := r.severity
    description := report.description }

/-- The hits of a rule in the lines of a file. -/
def hits (r : Rule) (c : Context) (lines : List Text.Line) : List Hit :=
  (r.reports c lines).map r.hitOf

end Rule

end SourceAudit
