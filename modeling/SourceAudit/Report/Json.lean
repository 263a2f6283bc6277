import SourceAudit.Report.Basic
import SourceAudit.Store.Document

/-!
# Reports as JSON
-/

namespace SourceAudit

/-- The version of the program. -/
def version : String := "0.1.0"

/-- The number of violations of each severity. -/
def severityCounts (violations : List Violation) : Json :=
  .object (Severity.all.map fun s => (s.name, .natural (countOf violations s)))

/-- A policy as fields. -/
def Policy.fields (p : Policy) : List (String × Json) :=
  [("allowed", .texts p.allowed.toList), ("forbidden", .texts p.forbidden.toList)]

namespace Report

/-- A report as fields. -/
def fields (r : Report) : List (String × Json) :=
  [("repository", r.repository.toJson), ("audit", r.audit.toJson), ("manifest", .text r.manifest),
    ("policy", .object r.policy.fields), ("violations", .array (r.violations.map Violation.toJson)),
    ("analyzed_files", .texts r.analyzed), ("failed_files", .texts r.failed),
    ("skipped_files", .texts r.skipped), ("truncated", .flag r.truncated),
    ("unreadable_dirs", .texts r.unreadable)]

/-- The document of a report. -/
def toDocument (r : Report) : String :=
  (Json.object ([("version", .text version)] ++ r.fields ++
    [("summary", severityCounts r.violations)])).render

end Report

/-- The document of the audits of a repository. -/
def historyDocument (repository : Repository) (audits : List Audit) : String :=
  (Json.object [("repository", repository.toJson),
    ("audits", .array (audits.map Audit.toJson))]).render

/-- The document of one audit of a repository. -/
def auditDocument (repository : Repository) (audit : Audit) (violations : List Violation) :
    String :=
  (Json.object [("repository", repository.toJson), ("audit", audit.toJson),
    ("summary", severityCounts violations),
    ("violations", .array (violations.map Violation.toJson))]).render

end SourceAudit
