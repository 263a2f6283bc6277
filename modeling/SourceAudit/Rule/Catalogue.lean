import SourceAudit.Rule.Import
import SourceAudit.Rule.Network
import SourceAudit.Rule.Quality
import SourceAudit.Rule.Security
import SourceAudit.Rule.Stub
import SourceAudit.Rule.Style

/-!
# The catalogue of rules

Every rule, in the order in which hits on one line are reported.
-/

namespace SourceAudit.Rule

/-- Every rule. -/
def catalogue : List Rule :=
  [forbiddenImport, unauthorizedImport, hardcodedValue, stubbedAuthentication, stubbedDataCall,
   missingErrorHandling, dynamicEvaluation, emptyExport, brokenNavigation, duplicateImport,
   mixedIndentation, statementTerminators, debugLogging, magicNumber, namingConvention]

/-- The rule with a key. -/
def ofKey? (key : String) : Option Rule :=
  catalogue.find? fun r => r.key == key

end SourceAudit.Rule
