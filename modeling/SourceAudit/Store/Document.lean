import SourceAudit.Json.Fields
import SourceAudit.Json.Parser
import SourceAudit.Json.Printer
import SourceAudit.Store.Basic

/-!
# Store documents

A store and its records as JSON.
-/

namespace SourceAudit

open Json (Fields)

/-- Reads an instant. -/
def Instant.ofJson? : Json → Option Instant
  | .text s => Instant.parse? s
  | _ => none

/-- An instant as JSON. -/
def Instant.toJson (t : Instant) : Json :=
  .text t.render

namespace Repository

/-- A repository as JSON. -/
def toJson (r : Repository) : Json :=
  .object [("id", .text r.id), ("owner", .text r.owner), ("name", .text r.name),
    ("url", .text r.url), ("created_at", r.createdAt.toJson),
    ("last_synced_at", r.lastSyncedAt.toJson)]

/-- Reads a repository. -/
def ofJson? (v : Json) : Option Repository := do
  let f ← v.fields? 6
  pure
    { id := ← f.required 0 "id" Json.text?
      owner := ← f.required 1 "owner" Json.text?
      name := ← f.required 2 "name" Json.text?
      url := ← f.required 3 "url" Json.text?
      createdAt := ← f.required 4 "created_at" Instant.ofJson?
      lastSyncedAt := ← f.required 5 "last_synced_at" Instant.ofJson? }

end Repository

namespace Audit

/-- An audit as JSON. A reason is written only if there is one. -/
def toJson (a : Audit) : Json :=
  .object ([("id", .text a.id), ("repository_id", .text a.repositoryId),
    ("status", .text a.status.name), ("total_files", .natural a.totalFiles),
    ("compliant_files", .natural a.compliantFiles), ("violation_count", .natural a.violationCount),
    ("started_at", a.startedAt.toJson),
    ("completed_at", (a.completedAt.map Instant.toJson).getD .null)] ++
    (a.failureReason.map fun r => ("failure_reason", Json.text r)).toList)

/-- Reads an audit. -/
def ofJson? (v : Json) : Option Audit := do
  let f ← v.fields? 9
  pure
    { id := ← f.required 0 "id" Json.text?
      repositoryId := ← f.required 1 "repository_id" Json.text?
      status := ← f.required 2 "status" (Json.case? AuditStatus.ofName?)
      totalFiles := ← f.required 3 "total_files" Json.natural?
      compliantFiles := ← f.required 4 "compliant_files" Json.natural?
      violationCount := ← f.required 5 "violation_count" Json.natural?
      startedAt := ← f.required 6 "started_at" Instant.ofJson?
      completedAt := ← f.nullable 7 "completed_at" Instant.ofJson?
      failureReason := ← f.withDefault 8 "failure_reason" reason? none }
where
  /-- A reason or null. -/
  reason? : Json → Option (Option String)
    | .null => some none
    | v => some <$> v.text?

end Audit

namespace Violation

/-- A violation as JSON. -/
def toJson (v : Violation) : Json :=
  .object [("id", .text v.id), ("audit_id", .text v.auditId),
    ("repository_id", .text v.repositoryId), ("file_path", .text v.filePath),
    ("line_number", (v.lineNumber.map Json.natural).getD .null), ("rule_id", .text v.ruleId),
    ("category", .text v.category.name), ("severity", .text v.severity.name),
    ("description", .text v.description), ("created_at", v.createdAt.toJson)]

/-- Reads a violation. -/
def ofJson? (v : Json) : Option Violation := do
  let f ← v.fields? 10
  pure
    { id := ← f.required 0 "id" Json.text?
      auditId := ← f.required 1 "audit_id" Json.text?
      repositoryId := ← f.required 2 "repository_id" Json.text?
      filePath := ← f.required 3 "file_path" Json.text?
      lineNumber := ← f.nullable 4 "line_number" Json.natural?
      ruleId := ← f.required 5 "rule_id" Json.text?
      category := ← f.required 6 "category" (Json.case? Category.ofName?)
      severity := ← f.required 7 "severity" (Json.case? Severity.ofName?)
      description := ← f.required 8 "description" Json.text?
      createdAt := ← f.required 9 "created_at" Instant.ofJson? }

end Violation

namespace Store

/-- A store as JSON. -/
def toJson (s : Store) : Json :=
  .object [("repositories", .array (s.repositories.map Repository.toJson)),
    ("audits", .array (s.audits.map Audit.toJson)),
    ("violations", .array (s.violations.map Violation.toJson)), ("sequence", .natural s.sequence)]

/-- Reads a store. What is missing is empty. -/
def ofJson? (v : Json) : Option Store := do
  let f ← v.fields? 4
  pure
    { repositories := ← f.withDefault 0 "repositories" (Json.list? Repository.ofJson?) []
      audits := ← f.withDefault 1 "audits" (Json.list? Audit.ofJson?) []
      violations := ← f.withDefault 2 "violations" (Json.list? Violation.ofJson?) []
      sequence := ← f.withDefault 3 "sequence" Json.natural? 0 }

/-- The document of a store. -/
def render (s : Store) : String :=
  s.toJson.render

/-- Reads the document of a store. -/
def parse? (document : String) : Option Store :=
  (Json.parse? document.toList).bind ofJson?

end Store

end SourceAudit
