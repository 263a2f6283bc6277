import SourceAudit.ExitStatus
import SourceAudit.Provider.Basic
import SourceAudit.Settings.Load
import SourceAudit.Store.Basic

/-!
# Audit errors

Everything that can go wrong in an audit or in a command around one.
-/

namespace SourceAudit

/-- Why an audit or a command fails. -/
inductive AuditError where
  /-- There is no manifest under any of the names. -/
  | manifestNotFound (tried : List String)
  | provider (e : ProviderError)
  | store (e : StoreError)
  | settings (e : SettingsError)
  /-- Not exactly one audit has an identity that starts so. -/
  | ambiguousId (start : String) (matching : Nat)
  /-- A result cannot be written. -/
  | unwritable (path : String) (fault : FileFault)
deriving DecidableEq, Repr

namespace AuditError

/-- The text of an error. -/
def message : AuditError → String
  | manifestNotFound tried => "No manifest found (tried: " ++ ", ".intercalate tried ++ ")"
  | provider e => "Provider error: " ++ e.message
  | store e => "Persistence error: " ++ e.message
  | settings e => "Configuration error: " ++ e.message
  | ambiguousId start matching =>
    "Audit id '" ++ start ++ "' matches " ++ matching.repr ++ " audits"
  | unwritable path fault => "Failed to write '" ++ path ++ "': " ++ fault.message

/-- The status of a command that fails so. -/
def exitStatus : AuditError → ExitStatus
  | provider (.badRepository _) | provider (.badPath _) | ambiguousId .. => .badArguments
  | _ => .failure

end AuditError

end SourceAudit
