import SourceAudit.Text.Case

/-!
# Findings

The severities and categories of rule violations, and a hit: one violation at a line of a text.
-/

namespace SourceAudit

/-- How urgent a violation is. -/
inductive Severity where
  | low
  | medium
  | high
  | critical
deriving DecidableEq, Repr

namespace Severity

/-- The severities, most urgent first. -/
def all : List Severity := [critical, high, medium, low]

/-- The rank of a severity: the more urgent, the larger. -/
def rank : Severity → Nat
  | low => 0
  | medium => 1
  | high => 2
  | critical => 3

/-- The name of a severity. -/
def name : Severity → String
  | low => "low"
  | medium => "medium"
  | high => "high"
  | critical => "critical"

/-- The severity with exactly this name. -/
def ofName? (text : String) : Option Severity :=
  all.find? fun s => s.name == text

/-- The severity that a text names, in any letter case and with white space around it. -/
def parse? (text : String) : Option Severity :=
  ofName? (String.ofList (Text.lower (Text.trim text.toList)))

/-- The more urgent of two severities. -/
def max (a b : Severity) : Severity :=
  if a.rank ≤ b.rank then b else a

end Severity

/-- The topic of a violation. -/
inductive Category where
  | forbiddenImports
  | hardcodedValues
  | authentication
  | general
  | errorHandling
  | security
  | codeQuality
  | indentation
  | terminators
  | debugCode
  | magicNumbers
  | namingConventions
deriving DecidableEq, Repr

namespace Category

/-- Every category. -/
def all : List Category :=
  [forbiddenImports, hardcodedValues, authentication, general, errorHandling, security, codeQuality,
   indentation, terminators, debugCode, magicNumbers, namingConventions]

/-- The name of a category. -/
def name : Category → String
  | forbiddenImports => "forbidden_imports"
  | hardcodedValues => "hardcoded_values"
  | authentication => "authentication"
  | general => "general"
  | errorHandling => "error_handling"
  | security => "security"
  | codeQuality => "code_quality"
  | indentation => "indentation"
  | terminators => "syntax"
  | debugCode => "debug_code"
  | magicNumbers => "magic_numbers"
  | namingConventions => "naming_conventions"

/-- The category with exactly this name. -/
def ofName? (text : String) : Option Category :=
  all.find? fun c => c.name == text

end Category

/-- A violation found at a line; lines count from 1. -/
structure Hit where
  ruleId : String
  line : Nat
  category : Category
  severity : Severity
  description : String
deriving DecidableEq, Repr

end SourceAudit
