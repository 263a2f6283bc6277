import SourceAudit.Finding
import SourceAudit.Instant

/-!
# Stored records

What a store keeps: repositories, their audits, and the violations that audits found.
-/

namespace SourceAudit

/-- A repository. -/
structure Repository where
  id : String
  owner : String
  name : String
  url : String
  createdAt : Instant
  lastSyncedAt : Instant
deriving DecidableEq, Repr

/-- Owner and name of a repository. -/
def Repository.fullName (r : Repository) : String :=
  r.owner ++ "/" ++ r.name

/-- How far an audit has come. It starts out pending and is left only once. -/
inductive AuditStatus where
  | pending
  | completed
  | failed
deriving DecidableEq, Repr

namespace AuditStatus

/-- The name of a status. -/
def name : AuditStatus → String
  | pending => "pending"
  | completed => "completed"
  | failed => "failed"

/-- The status with exactly this name. -/
def ofName? (text : String) : Option AuditStatus :=
  [pending, completed, failed].find? fun s => s.name == text

end AuditStatus

/-- One audit of a repository. -/
structure Audit where
  id : String
  repositoryId : String
  status : AuditStatus := .pending
  /-- The candidate files found. -/
  totalFiles : Nat := 0
  /-- The files scanned without a violation. -/
  compliantFiles : Nat := 0
  violationCount : Nat := 0
  startedAt : Instant
  completedAt : Option Instant := none
  failureReason : Option String := none
deriving DecidableEq, Repr

/-- A violation to be recorded. -/
structure NewViolation where
  auditId : String
  repositoryId : String
  filePath : String
  lineNumber : Option Nat
  ruleId : String
  category : Category
  severity : Severity
  description : String
deriving DecidableEq, Repr

/-- A recorded violation. -/
structure Violation extends NewViolation where
  id : String
  createdAt : Instant
deriving DecidableEq, Repr

/-- The violation that a hit in a file of an audit is. -/
def NewViolation.ofHit (audit : Audit) (filePath : String) (h : Hit) : NewViolation where
  auditId := audit.id
  repositoryId := audit.repositoryId
  filePath := filePath
  lineNumber := some h.line
  ruleId := h.ruleId
  category := h.category
  severity := h.severity
  description := h.description

end SourceAudit
