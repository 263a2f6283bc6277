import SourceAudit.Finding

/-!
# Exit statuses

How a finished command tells its caller what came out.
-/

namespace SourceAudit

/-- What came out of a command. -/
inductive ExitStatus where
  /-- All went well and no violation was found. -/
  | success
  /-- A violation of high or critical severity was found. -/
  | blocking
  /-- Only violations of low or medium severity were found. -/
  | warnings
  /-- The command failed. -/
  | failure
  /-- The command was given arguments that it cannot use. -/
  | badArguments
deriving DecidableEq, Repr

namespace ExitStatus

/-- The number of a status. -/
def code : ExitStatus → Nat
  | success => 0
  | blocking => 1
  | warnings => 2
  | failure => 3
  | badArguments => 4

/-- The status of an audit whose worst violation has this severity. -/
def ofWorst : Option Severity → ExitStatus
  | none => success
  | some s => if Severity.high.rank ≤ s.rank then blocking else warnings

end ExitStatus

end SourceAudit
