import SourceAudit.Report.Json

/-!
# Reports as Markdown

The violations stand in one table for each severity. A cell of a table holds no bar and no line break
of its own.
-/

namespace SourceAudit.Report.Markdown

/-- The text of a cell: bars are escaped, and line breaks become spaces. -/
def cell (text : String) : String :=
  String.ofList (text.toList.flatMap fun c =>
    if c = '|' then ['\\', '|'] else if c = '\n' then [' '] else [c])

/-- A text as code. -/
def code (text : String) : String :=
  "\x60" ++ text ++ "\x60"

/-- The row of a violation. -/
def row (v : Violation) : String :=
  let line := (v.lineNumber.map Nat.repr).getD "-"
  "| " ++ code v.ruleId ++ " | " ++ v.category.name ++ " | " ++ cell v.filePath ++ " | " ++
    code line ++ " | " ++ cell v.description ++ " |\n"

/-- A list of files with its title, unless it is empty. -/
def fileList (title : String) (files : List String) : String :=
  if files.isEmpty then ""
  else
    "### " ++ title ++ " (" ++ files.length.repr ++ ")\n\n" ++
      String.join (files.map fun f => "- " ++ code f ++ "\n") ++ "\n"

/-- What the audit was about and how it ended. -/
def overview (r : Report) : String :=
  let line (name value : String) := "| " ++ name ++ " | " ++ value ++ " |\n"
  "# Compliance Audit: " ++ r.repository.fullName ++ "\n\n| | |\n|---|---|\n" ++
    line "Repository" ("<" ++ r.repository.url ++ ">") ++
    line "Audit" (code r.audit.id) ++
    line "Status" r.audit.status.name ++
    line "Started" r.audit.startedAt.renderOffset ++
    line "Manifest" (code r.manifest) ++
    line "Files" (r.analyzed.length.repr ++ " analyzed of " ++ r.audit.totalFiles.repr ++
      " candidates, " ++ r.audit.compliantFiles.repr ++ " compliant") ++
    line "Violations" r.audit.violationCount.repr ++ "\n"

/-- The number of violations of each severity. -/
def summary (r : Report) : String :=
  "## Summary\n\n| Severity | Count |\n|---|---|\n" ++
    String.join (Severity.all.map fun s =>
      "| " ++ s.name ++ " | " ++ (r.count s).repr ++ " |\n") ++ "\n"

/-- The table of the violations of a severity, unless there are none. -/
def table (violations : List Violation) (s : Severity) : String :=
  let matching := violations.filter (·.severity == s)
  if matching.isEmpty then ""
  else
    "### " ++ s.name ++ " (" ++ matching.length.repr ++ ")\n\n" ++
      "| Rule | Category | File | Line | Description |\n|---|---|---|---|---|\n" ++
      String.join (matching.map row) ++ "\n"

/-- The report as Markdown, with its lists of files if it is to be detailed. -/
def render (detailed : Bool) (r : Report) : String :=
  overview r ++ summary r ++
    (if r.truncated then
      "> **Note:** " ++ r.skipped.length.repr ++
        " candidate files beyond the analysis limit were not scanned.\n\n"
    else "") ++
    "## Violations\n\n" ++
    (if r.violations.isEmpty then "No violations found.\n\n"
    else String.join (Severity.all.map (table r.violations))) ++
    (if detailed then
      "## Files\n\n" ++ fileList "Analyzed" r.analyzed ++ fileList "Failed to fetch" r.failed ++
        fileList "Skipped" r.skipped ++ fileList "Unreadable directories" r.unreadable
    else "") ++
    "---\n_Generated by complyscan v" ++ version ++ "_\n"

end SourceAudit.Report.Markdown
