import SourceAudit.Command.Host
import SourceAudit.Identity
import SourceAudit.Report.Terminal
import SourceAudit.Text.Case

/-!
# The history command
-/

namespace SourceAudit

/-- The only audit whose identity starts as a text tells, letter case and white space around it
aside. A blank text tells nothing. -/
def findAudit (audits : List Audit) (start : String) : Except AuditError Audit :=
  let start := (Text.trim start.toList).map Text.asciiLower
  match audits.filter fun a => !start.isEmpty && start.isPrefixOf a.id.toList with
  | [audit] => .ok audit
  | matching => .error (.ambiguousId (String.ofList start) matching.length)

namespace HistoryArguments

/-- The settings with what the arguments say instead. -/
def override (a : HistoryArguments) (s : Settings) : Settings :=
  { s with store := { s.store with path := a.store.getD s.store.path } }

variable {m : Type → Type} [Monad m]

/-- An audit with its violations. -/
def renderOne (inColor : Bool) (repository : Repository) (audit : Audit)
    (violations : List Violation) : OutputFormat → String
  | .json => auditDocument repository audit violations
  | .terminal | .markdown => Report.Terminal.audit inColor repository audit violations

/-- Audits of a repository. -/
def renderList (inColor : Bool) (repository : Repository) (audits : List Audit) :
    OutputFormat → String
  | .json => historyDocument repository audits
  | .terminal | .markdown => Report.Terminal.history inColor repository audits

/-- Deletes an audit. -/
def delete (host : Host m) (gateway : Gateway m) (audits : List Audit) (start : String) :
    m (Except AuditError Unit) := do
  match findAudit audits start with
  | .error e => pure (.error e)
  | .ok audit =>
    match ← gateway.deleteAudit audit.id with
    | .error e => pure (.error (.store e))
    | .ok _ => do
      host.noteWith .green "Success:" ("Deleted audit " ++ host.named audit.id)
      pure (.ok ())

/-- Shows an audit with its violations. -/
def showOne (host : Host m) (gateway : Gateway m) (repository : Repository)
    (audits : List Audit) (start : String) (format : OutputFormat) :
    m (Except AuditError Unit) := do
  match findAudit audits start with
  | .error e => pure (.error e)
  | .ok audit =>
    match ← gateway.listViolations audit.id with
    | .error e => pure (.error (.store e))
    | .ok violations =>
      host.emit (renderOne host.inColor repository audit violations format) none

/-- Does what is wanted of the audits of a repository. -/
def handle (host : Host m) (a : HistoryArguments) (gateway : Gateway m) (repository : Repository)
    (audits : List Audit) : m (Except AuditError Unit) :=
  match a.request with
  | .delete start => delete host gateway audits start
  | .show start => showOne host gateway repository audits start a.format
  | .list limit =>
    host.emit (renderList host.inColor repository (audits.take limit) a.format) none

/-- Runs the command. -/
def run [MonadStateOf Store m] (host : Host m) (a : HistoryArguments) (s : Settings) :
    m (Except AuditError ExitStatus) := do
  match ← host.target a.source with
  | .error e => pure (.error e)
  | .ok target =>
    match ← host.openStoreFile (a.override s) with
    | .error e => pure (.error e)
    | .ok gateway =>
      match ← gateway.repository? (repositoryId target.owner target.name) with
      | .error e => pure (.error (.store e))
      | .ok none => do
        host.noteWith .blue "Info:" ("No audits recorded for " ++ host.named target.fullName)
        pure (.ok .success)
      | .ok (some repository) =>
        match ← gateway.listAudits repository.id with
        | .error e => pure (.error (.store e))
        | .ok audits =>
          pure ((← a.handle host gateway repository audits).map fun () => .success)

end HistoryArguments

end SourceAudit
