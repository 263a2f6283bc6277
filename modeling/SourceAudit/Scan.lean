import SourceAudit.Rule.Catalogue
import SourceAudit.Settings.Basic

/-!
# Scans

A scanner holds the rules that run, with the severities that their hits get. Its hits are in line
order; hits on one line are in the order of the catalogue.
-/

namespace SourceAudit

/-- The rules that run and what they consult besides file and policy. -/
structure Scanner where
  rules : List Rule
  firstParty : NameSet
  lookahead : Nat

namespace Scanner

/-- Every rule at its own severity. -/
def default : Scanner :=
  ⟨Rule.catalogue, ∅, 5⟩

/-- The rule with the severity that the settings give it. -/
def withSeverity (s : Settings) (r : Rule) : Rule :=
  { r with severity := (s.severityOf? r.key).getD r.severity }

/-- The rules that the settings leave on. -/
def ofSettings (s : Settings) : Scanner where
  rules := (Rule.catalogue.filter fun r => s.isRuleEnabled r.key).map (withSeverity s)
  firstParty := ∅
  lookahead := s.analysis.errorLookahead

/-- The scanner for a repository that defines these modules. -/
def withFirstParty (s : Scanner) (modules : NameSet) : Scanner :=
  { s with firstParty := modules }

/-- What the rules consult under a policy. -/
def context (s : Scanner) (policy : Policy) : Rule.Context :=
  ⟨policy, s.firstParty, s.lookahead⟩

/-- The hits in a list of lines. -/
def scanLines (s : Scanner) (policy : Policy) (lines : List Text.Line) : List Hit :=
  (s.rules.flatMap fun r => r.hits (s.context policy) lines).mergeSort fun a b => a.line ≤ b.line

/-- The hits in the text of a file. -/
def scan (s : Scanner) (policy : Policy) (content : String) : List Hit :=
  s.scanLines policy (Text.lines content.toList)

end Scanner

end SourceAudit
