import SourceAudit.Sha256
import SourceAudit.Text.Case

/-!
# Identities

Every stored record has an identity: the SHA-256 digest of the parts that it is derived from.
-/

namespace SourceAudit

/-- The identity derived from parts, which a slash divides. -/
def deriveId (parts : List String) : String :=
  Sha256.hex ("/".intercalate parts)

/-- The identity of a repository. Letter case does not matter in owner and name. -/
def repositoryId (owner name : String) : String :=
  deriveId [String.ofList (Text.lower owner.toList), String.ofList (Text.lower name.toList)]

end SourceAudit
