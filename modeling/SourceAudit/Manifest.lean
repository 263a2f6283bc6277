import SourceAudit.Audit.Error
import SourceAudit.Policy
import SourceAudit.Provider.Basic

/-!
# Manifests

A repository declares its policy in a manifest at its root.
-/

namespace SourceAudit

/-- A manifest that was found. -/
structure Manifest where
  path : String
  content : String
deriving DecidableEq, Repr

namespace Manifest

/-- The policy that a manifest declares. -/
def policy (f : Manifest) : Policy :=
  Policy.parse f.content

variable {m : Type → Type} [Monad m]

/-- The first of the files that is there on a branch; `last` is the last error so far, and `tried`
holds all the names. -/
def locateFrom (p : Provider m) (owner repo : String) (branches tried : List String)
    (last : Option ProviderError) : List String → m (Except AuditError Manifest)
  | [] =>
    match last with
    | some e => pure (.error (.provider e))
    | none => pure (.error (.manifestNotFound tried))
  | name :: rest => do
    match ← p.fetchAny owner repo name branches with
    | .ok (some content) => pure (.ok ⟨name, content⟩)
    | .ok none => locateFrom p owner repo branches tried last rest
    | .error e => locateFrom p owner repo branches tried (some e) rest

/-- The first of the files that is there on a branch. Without any the last error stands. -/
def locate (p : Provider m) (owner repo : String) (names branches : List String) :
    m (Except AuditError Manifest) :=
  locateFrom p owner repo branches names none names

end Manifest

end SourceAudit
