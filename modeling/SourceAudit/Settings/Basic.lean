import SourceAudit.Finding

/-!
# Settings

What a user can configure, with the defaults.
-/

namespace SourceAudit

/-- The settings of one rule: whether it runs, and the name of the severity to report instead of its
own. -/
structure RuleSettings where
  enabled : Bool := true
  severity : Option String := none
deriving DecidableEq, Repr

/-- The bounds and filters of the walk and of the analysis. -/
structure AnalysisSettings where
  /-- The directory levels to walk below each source root. -/
  maxDepth : Nat := 3
  /-- The candidate files to fetch and scan. -/
  maxFiles : Nat := 15
  /-- The candidate files to collect. -/
  maxCandidates : Nat := 500
  /-- The fetches to have under way at a time. -/
  concurrency : Nat := 4
  /-- The directories to walk, in order; the empty path is the root of the repository. -/
  sourceRoots : List String := ["", "src", "app", "lib"]
  /-- The extensions of candidate files, without the dot. -/
  extensions : List String := ["py"]
  /-- The names of directories never entered. -/
  ignoreDirs : List String :=
    ["node_modules", "__pycache__", "venv", "env", "build", "dist", "target", "site-packages",
     "coverage", "htmlcov"]
  /-- The glob patterns of paths that are no candidates. -/
  exclude : List String := []
  /-- The lines after a network call to search for error handling. -/
  errorLookahead : Nat := 5
deriving DecidableEq, Repr

/-- Where the manifest is looked for. -/
structure ManifestSettings where
  /-- The file names of a manifest, in order. -/
  filenames : List String := ["requirements.txt", "Requirements.txt", "REQUIREMENTS.txt"]
  /-- The branches to fetch from, in order. -/
  branches : List String := ["main", "master"]
deriving DecidableEq, Repr

/-- How the remote API is reached. -/
structure RemoteSettings where
  /-- The base URL of the API. -/
  apiUrl : String := "https://api.github.com"
  /-- The environment variable that holds the access token. -/
  tokenEnv : String := "GITHUB_TOKEN"
  /-- The seconds after which a request is given up. -/
  timeoutSecs : Nat := 30
deriving DecidableEq, Repr

/-- Where audits are stored. -/
structure StoreSettings where
  /-- The path of the store file; `~/` stands for the home directory. -/
  path : String := ".complyscan/store.json"
deriving DecidableEq, Repr

/-- All settings. -/
structure Settings where
  analysis : AnalysisSettings := {}
  manifest : ManifestSettings := {}
  remote : RemoteSettings := {}
  store : StoreSettings := {}
  /-- The settings of rules, under their keys. -/
  rules : List (String × RuleSettings) := []
deriving DecidableEq, Repr

namespace Settings

/-- The settings of a rule, if there are any. -/
def rule? (s : Settings) (key : String) : Option RuleSettings :=
  (s.rules.find? fun e => e.1 == key).map (·.2)

/-- The rule runs. -/
def isRuleEnabled (s : Settings) (key : String) : Bool :=
  match s.rule? key with
  | some r => r.enabled
  | none => true

/-- The severity that the hits of a rule get instead of its own. A text that names no severity
counts as none. -/
def severityOf? (s : Settings) (key : String) : Option Severity :=
  (s.rule? key).bind fun r => r.severity.bind Severity.parse?

end Settings

end SourceAudit
