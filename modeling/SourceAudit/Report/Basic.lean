import SourceAudit.Policy
import SourceAudit.Store.Record

/-!
# Reports

The outcome of a completed audit.
-/

namespace SourceAudit

/-- The outcome of a completed audit. -/
structure Report where
  repository : Repository
  audit : Audit
  /-- The name of the manifest. -/
  manifest : String
  policy : Policy
  /-- The violations that were recorded, in the order of their recording. -/
  violations : List Violation
  /-- The files that were fetched and scanned. -/
  analyzed : List String
  /-- The files that could not be fetched. -/
  failed : List String
  /-- The candidates beyond those that were to be scanned. -/
  skipped : List String
  /-- There are such candidates. -/
  truncated : Bool
  /-- The directories that could not be listed. -/
  unreadable : List String
deriving DecidableEq

/-- The number of violations of a severity. -/
def countOf (violations : List Violation) (s : Severity) : Nat :=
  (violations.filter (·.severity == s)).length

/-- The severity of the worst violation. -/
def worstOf? : List Violation → Option Severity
  | [] => none
  | v :: rest =>
    match worstOf? rest with
    | none => some v.severity
    | some s => some (v.severity.max s)

namespace Report

/-- The number of violations of a severity. -/
def count (r : Report) (s : Severity) : Nat :=
  countOf r.violations s

/-- The severity of the worst violation. -/
def worst? (r : Report) : Option Severity :=
  worstOf? r.violations

end Report

end SourceAudit
