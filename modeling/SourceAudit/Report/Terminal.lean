import SourceAudit.Report.Json
import SourceAudit.Text.Style

/-!
# Reports for terminals
-/

namespace SourceAudit.Report.Terminal

open Text (Style)

/-- The first so many bytes of a text, unless they end within a character. -/
def cutBytes : List Char → (count : Nat) → Option (List Char)
  | _, 0 => some []
  | [], _ + 1 => none
  | c :: r, count + 1 =>
    if c.utf8Size ≤ count + 1 then (cutBytes r (count + 1 - c.utf8Size)).map (c :: ·) else none

/-- The first twelve digits of an identity. -/
def shortId (id : String) : String :=
  ((cutBytes id.toList 12).map String.ofList).getD id

variable (inColor : Bool)

/-- A text that stands back. -/
def faint (text : String) : String := Style.faint.apply inColor text

/-- The name of the program, the repository and the audit. -/
def header (repository : Repository) (audit : Audit) : String :=
  "\n" ++ (Style.strongColored .cyan).apply inColor "complyscan" ++ " v" ++ version ++ "\n\n" ++
    faint inColor "Repository:" ++ " " ++
    (Style.strongColored .white).apply inColor repository.fullName ++ "\n" ++
    faint inColor "Audit:" ++ " " ++ (Style.colored .yellow).apply inColor (shortId audit.id) ++ "\n"

/-- The title of a section. -/
def sectionTitle (title : String) : String :=
  "\n" ++ faint inColor (String.ofList (List.replicate 50 '━')) ++ "\n" ++
    Style.strong.apply inColor title ++ "\n\n"

/-- The heading of a severity. -/
def heading (s : Severity) : String :=
  match s with
  | .critical => (Style.strongColored .red).apply inColor "❌ CRITICAL"
  | .high => (Style.colored .red).apply inColor "🔴 HIGH"
  | .medium => (Style.strongColored .yellow).apply inColor "⚠️  MEDIUM"
  | .low => (Style.strongColored .blue).apply inColor "ℹ️  LOW"

/-- The lines of a violation. -/
def entry (v : Violation) : String :=
  let location := match v.lineNumber with
    | some n => v.filePath ++ ":" ++ n.repr
    | none => v.filePath
  "  " ++ faint inColor "•" ++ " [" ++ (Style.colored .cyan).apply inColor v.ruleId ++ "] " ++
    v.description ++ "\n    " ++ faint inColor "└─" ++ " " ++ faint inColor location ++ "\n"

/-- The violations of a severity under their heading, unless there are none. -/
def group (violations : List Violation) (s : Severity) : String :=
  let matching := violations.filter (·.severity == s)
  if matching.isEmpty then ""
  else
    heading inColor s ++ " (" ++ matching.length.repr ++ ")\n" ++
      String.join (matching.map (entry inColor)) ++ "\n"

/-- The section of the violations. -/
def violationsSection (violations : List Violation) : String :=
  sectionTitle inColor "  VIOLATIONS" ++
    if violations.isEmpty then
      "  " ++ (Style.colored .green).apply inColor "✓ No violations found" ++ "\n"
    else String.join (Severity.all.map (group inColor violations))

/-- A line with a faint label. -/
def labelled (label text : String) : String :=
  "  " ++ faint inColor label ++ " " ++ text ++ "\n"

/-- A line with a note. -/
def note (text : String) : String :=
  "  " ++ (Style.colored .yellow).apply inColor "Note:" ++ " " ++ text ++ "\n"

/-- The section of the summary. -/
def summary (r : Report) : String :=
  let counts := Severity.all.map fun s => (r.count s).repr ++ " " ++ s.name
  sectionTitle inColor "  SUMMARY" ++
    labelled inColor "Manifest:" r.manifest ++
    labelled inColor "Policy:"
      (r.policy.allowed.size.repr ++ " allowed, " ++ r.policy.forbidden.size.repr ++ " forbidden") ++
    labelled inColor "Files:"
      (r.analyzed.length.repr ++ " of " ++ r.audit.totalFiles.repr ++ " candidates analyzed, " ++
        r.audit.compliantFiles.repr ++ " compliant") ++
    labelled inColor "Violations:"
      (r.audit.violationCount.repr ++ " (" ++ ", ".intercalate counts ++ ")") ++
    (if r.truncated then
      note inColor
        (r.skipped.length.repr ++ " candidate files beyond the analysis limit were not scanned")
    else "") ++
    (if r.failed.isEmpty then "" else note inColor ("could not fetch " ++ ", ".intercalate r.failed)) ++
    (if r.unreadable.isEmpty then ""
    else note inColor ("could not list " ++ ", ".intercalate r.unreadable))

/-- The report for a terminal. -/
def render (r : Report) : String :=
  header inColor r.repository r.audit ++ violationsSection inColor r.violations ++ summary inColor r

/-- The colour of a status. -/
def statusStyle : AuditStatus → Style
  | .completed => Style.colored .green
  | .failed => Style.colored .red
  | .pending => Style.colored .yellow

/-- The lines of an audit in a history. -/
def historyEntry (a : Audit) : String :=
  "  " ++ (Style.colored .yellow).apply inColor (shortId a.id) ++ " " ++
    faint inColor a.startedAt.renderPlain ++ " " ++
    (statusStyle a.status).applyPadded inColor 9 a.status.name ++ " " ++ a.totalFiles.repr ++
    " files, " ++ a.compliantFiles.repr ++ " compliant, " ++ a.violationCount.repr ++
    " violations\n" ++
    match a.failureReason with
    | some reason =>
      "    " ++ faint inColor "└─" ++ " " ++ (Style.colored .red).apply inColor reason ++ "\n"
    | none => ""

/-- The audits of a repository for a terminal. -/
def history (repository : Repository) (audits : List Audit) : String :=
  "\n" ++ faint inColor "Audit history for" ++ " " ++
    (Style.strongColored .white).apply inColor repository.fullName ++ "\n" ++
    sectionTitle inColor "  AUDITS" ++
    if audits.isEmpty then "  " ++ faint inColor "No audits recorded." ++ "\n"
    else String.join (audits.map (historyEntry inColor))

/-- One audit of a repository for a terminal. -/
def audit (repository : Repository) (a : Audit) (violations : List Violation) : String :=
  header inColor repository a ++
    faint inColor "Status:" ++ " " ++ (statusStyle a.status).apply inColor a.status.name ++ "\n" ++
    violationsSection inColor violations

end SourceAudit.Report.Terminal
