import SourceAudit.Audit.Fetches
import SourceAudit.Report.Basic
import SourceAudit.Manifest
import SourceAudit.Scan
import SourceAudit.Store.Gateway
import SourceAudit.Target
import SourceAudit.Walk

/-!
# Audits

An audit records the repository, opens an audit, finds the manifest or else fails the audit, walks
the repository, fetches and scans the first candidates, records every violation, and completes the
audit with its counts.
-/

namespace SourceAudit

/-- What an audit does. -/
structure AuditOptions where
  /-- The candidates to fetch and scan. -/
  maxFiles : Nat
  /-- The fetches to have under way at a time. -/
  concurrency : Nat
  sourceRoots : List String
  branches : List String
  manifestNames : List String
  walk : WalkOptions
  /-- The scanner, which knows no modules of the repository yet. -/
  scanner : Scanner

/-- The options in settings. -/
def AuditOptions.ofSettings (s : Settings) : Except SettingsError AuditOptions :=
  s.excludeGlobs.map fun exclude =>
    { maxFiles := s.analysis.maxFiles
      concurrency := s.analysis.concurrency
      sourceRoots := s.analysis.sourceRoots
      branches := s.manifest.branches
      manifestNames := s.manifest.filenames
      walk := WalkOptions.ofSettings s.analysis exclude
      scanner := Scanner.ofSettings s }

namespace Audit

/-- How far the files of an audit have come. -/
structure Progress where
  analyzed : List String := []
  failed : List String := []
  violations : List Violation := []
  /-- The files scanned without a hit. -/
  compliant : Nat := 0

variable {m : Type → Type} [Monad m]

/-- Records hits in a file. One that cannot be recorded is left out. -/
def logHits (gateway : Gateway m) (audit : Audit) (path : String) : List Hit → m (List Violation)
  | [] => pure []
  | h :: rest => do
    match ← gateway.logViolation (NewViolation.ofHit audit path h) with
    | .ok v => pure (v :: (← logHits gateway audit path rest))
    | .error _ => logHits gateway audit path rest

/-- Scans a file that was fetched. -/
def takeFile (gateway : Gateway m) (audit : Audit) (scanner : Scanner) (policy : Policy)
    (s : Progress) (path : String) (fetched : Except ProviderError (Option String)) :
    m Progress := do
  match fetched with
  | .ok (some content) =>
    let hits := scanner.scan policy content
    let logged ← logHits gateway audit path hits
    pure
      { s with
        analyzed := s.analyzed ++ [path]
        violations := s.violations ++ logged
        compliant := if hits.isEmpty then s.compliant + 1 else s.compliant }
  | _ => pure { s with failed := s.failed ++ [path] }

/-- Walks, scans and completes an audit whose manifest was found. -/
def examine (provider : Provider m) (gateway : Gateway m) (options : AuditOptions)
    (schedule : Schedule) (target : Target) (repository : Repository) (audit : Audit)
    (manifest : Manifest) : m (Except AuditError Report) := do
  let policy := manifest.policy
  let walk ← Walk.roots provider target.owner target.name options.walk {} options.sourceRoots
  let selected := walk.files.take options.maxFiles
  let skipped := walk.files.drop options.maxFiles
  let scanner := options.scanner.withFirstParty walk.moduleNames
  let done ← Fetches.run options.concurrency schedule
    (provider.fetchAny target.owner target.name · options.branches)
    (takeFile gateway audit scanner policy) {} selected
  match ← gateway.completeAudit audit.id walk.files.length done.violations.length
      done.compliant with
  | .error e => pure (.error (.store e))
  | .ok audit =>
    pure (.ok
      { repository, audit, manifest := manifest.path, policy
        violations := done.violations
        analyzed := done.analyzed
        failed := done.failed
        skipped
        truncated := !skipped.isEmpty
        unreadable := walk.unreadable })

/-- Runs one audit. -/
def run (provider : Provider m) (gateway : Gateway m) (options : AuditOptions)
    (schedule : Schedule) (target : Target) : m (Except AuditError Report) := do
  match ← gateway.upsertRepository target.owner target.name target.url with
  | .error e => pure (.error (.store e))
  | .ok repository =>
    match ← gateway.createAudit repository.id with
    | .error e => pure (.error (.store e))
    | .ok audit =>
      match ← Manifest.locate provider target.owner target.name options.manifestNames
          options.branches with
      | .error e => do
        let _ ← gateway.failAudit audit.id e.message
        pure (.error e)
      | .ok manifest => examine provider gateway options schedule target repository audit manifest

end Audit

end SourceAudit
