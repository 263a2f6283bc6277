import SourceAudit.Audit.Run
import SourceAudit.Command.Host
import SourceAudit.Report.Markdown
import SourceAudit.Report.Terminal

/-!
# The audit command
-/

namespace SourceAudit

open Text (Style)

/-- A report in a form. -/
def Report.renderAs (inColor detailed : Bool) (r : Report) : OutputFormat → String
  | .terminal => Report.Terminal.render inColor r
  | .json => r.toDocument
  | .markdown => Report.Markdown.render detailed r

namespace AuditArguments

/-- The settings with what the arguments say instead. -/
def override (a : AuditArguments) (s : Settings) : Settings :=
  { s with
    analysis :=
      { s.analysis with
        maxFiles := a.maxFiles.getD s.analysis.maxFiles
        maxDepth := a.maxDepth.getD s.analysis.maxDepth
        concurrency := a.concurrency.getD s.analysis.concurrency }
    manifest :=
      { s.manifest with
        branches := if a.branches.isEmpty then s.manifest.branches else a.branches }
    store := { s.store with path := a.store.getD s.store.path } }

variable {m : Type → Type} [Monad m]

/-- The store to keep the audit in. -/
def openStore [MonadStateOf Store m] (host : Host m) (a : AuditArguments) (s : Settings) :
    m (Except AuditError (Gateway m)) := do
  if a.noStore then pure (.ok (← host.openMemory)) else host.openStoreFile s

/-- Tells that the audit begins, unless only the report may be seen. -/
def announce (host : Host m) (a : AuditArguments) (target : Target) : m Unit := do
  if a.format = .terminal && a.output.isNone then
    host.note (Style.faint.apply host.inColor "Auditing" ++ " " ++
      (Style.strongColored .cyan).apply host.inColor target.fullName ++ "\n")

/-- Audits a target and writes the report. -/
def audit (host : Host m) (a : AuditArguments) (s : Settings) (target : Target)
    (gateway : Gateway m) : m (Except AuditError ExitStatus) := do
  match AuditOptions.ofSettings s with
  | .error e => pure (.error (.settings e))
  | .ok options => do
    let provider ← host.provider s a.source
    match ← Audit.run provider gateway options Schedule.oldestFirst target with
    | .error e => pure (.error e)
    | .ok report =>
      match ← host.emit (report.renderAs host.inColor a.detailed a.format) a.output with
      | .error e => pure (.error e)
      | .ok () => pure (.ok (ExitStatus.ofWorst report.worst?))

/-- Runs the command. -/
def run [MonadStateOf Store m] (host : Host m) (a : AuditArguments) (s : Settings) :
    m (Except AuditError ExitStatus) := do
  let s := a.override s
  match ← host.target a.source with
  | .error e => pure (.error e)
  | .ok target =>
    match ← a.openStore host s with
    | .error e => pure (.error e)
    | .ok gateway => do
      a.announce host target
      a.audit host s target gateway

end AuditArguments

end SourceAudit
