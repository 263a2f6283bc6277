import SourceAudit.Settings.Basic
import SourceAudit.Toml.Parser
import SourceAudit.Toml.Printer

/-!
# Settings documents

Settings are written as a TOML document. Keys that are missing keep their defaults and unknown keys
are passed over, but a value of the wrong kind is refused. A group of settings may also be written as
an array of its values in order.
-/

namespace SourceAudit.Settings

open Toml

/-- The values of a group by key or by position. A date stands for a group without keys. -/
inductive Group where
  | keyed (entries : Entries)
  | listed (items : List Node)

/-- The values of a group. -/
def Group.ofNode? : Node → Option Group
  | .table _ t => some (.keyed t)
  | .date => some (.keyed [])
  | .array items => some (.listed items)
  | .tables latestFirst => some (.listed (latestFirst.reverse.map (.table .header)))
  | _ => none

/-- The value that has this key and this position. -/
def Group.get? (g : Group) (position : Nat) (key : String) : Option Node :=
  match g with
  | .keyed t => t.get? key
  | .listed items => items[position]?

/-- A natural number. -/
def number? : Node → Option Nat
  | .integer n => if 0 ≤ n then some n.toNat else none
  | _ => none

/-- A text. -/
def text? : Node → Option String
  | .string s => some s
  | _ => none

/-- A list of texts. -/
def texts? : Node → Option (List String)
  | .array items => items.mapM text?
  | _ => none

/-- A truth value. -/
def flag? : Node → Option Bool
  | .boolean b => some b
  | _ => none

/-- The value at a place of a group, or the default if there is none; refused if of another kind. -/
def Group.read {α : Type} (g : Group) (position : Nat) (key : String) (kind : Node → Option α)
    (default : α) : Option α :=
  match g.get? position key with
  | none => some default
  | some v => kind v

/-- The settings of the analysis. -/
def readAnalysis? (v : Node) : Option AnalysisSettings := do
  let g ← Group.ofNode? v
  let d : AnalysisSettings := {}
  pure
    { maxDepth := ← g.read 0 "max_depth" number? d.maxDepth
      maxFiles := ← g.read 1 "max_files" number? d.maxFiles
      maxCandidates := ← g.read 2 "max_candidates" number? d.maxCandidates
      concurrency := ← g.read 3 "concurrency" number? d.concurrency
      sourceRoots := ← g.read 4 "source_roots" texts? d.sourceRoots
      extensions := ← g.read 5 "extensions" texts? d.extensions
      ignoreDirs := ← g.read 6 "ignore_dirs" texts? d.ignoreDirs
      exclude := ← g.read 7 "exclude" texts? d.exclude
      errorLookahead := ← g.read 8 "error_lookahead" number? d.errorLookahead }

/-- The settings of the manifest. -/
def readManifest? (v : Node) : Option ManifestSettings := do
  let g ← Group.ofNode? v
  let d : ManifestSettings := {}
  pure
    { filenames := ← g.read 0 "filenames" texts? d.filenames
      branches := ← g.read 1 "branches" texts? d.branches }

/-- The settings of the remote API. -/
def readRemote? (v : Node) : Option RemoteSettings := do
  let g ← Group.ofNode? v
  let d : RemoteSettings := {}
  pure
    { apiUrl := ← g.read 0 "api_url" text? d.apiUrl
      tokenEnv := ← g.read 1 "token_env" text? d.tokenEnv
      timeoutSecs := ← g.read 2 "timeout_secs" number? d.timeoutSecs }

/-- The settings of the store. -/
def readStore? (v : Node) : Option StoreSettings := do
  let g ← Group.ofNode? v
  pure { path := ← g.read 0 "path" text? ({} : StoreSettings).path }

/-- The settings of one rule. As an array they must be complete. -/
def readRule? (v : Node) : Option RuleSettings := do
  let g ← Group.ofNode? v
  let severity ←
    match g, g.get? 1 "severity" with
    | .listed _, none => none
    | _, none => some none
    | _, some s => (text? s).map some
  pure { enabled := ← g.read 0 "enabled" flag? true, severity := severity }

/-- The settings of rules under their keys. -/
def readRules? : Node → Option (List (String × RuleSettings))
  | .table _ t => t.mapM fun e => (readRule? e.2).map fun r => (e.1, r)
  | _ => none

/-- The settings of a document. -/
def ofEntries? (t : Entries) : Option Settings := do
  let g := Group.keyed t
  pure
    { analysis := ← g.read 0 "analysis" readAnalysis? {}
      manifest := ← g.read 1 "manifest" readManifest? {}
      remote := ← g.read 2 "github" readRemote? {}
      store := ← g.read 3 "store" readStore? {}
      rules := ← g.read 4 "rules" readRules? [] }

/-- Reads settings. -/
def parse? (document : String) : Option Settings :=
  (Toml.parse? document).bind ofEntries?

/-- The section of one rule. -/
def ruleSection (e : String × RuleSettings) : Section :=
  { path := ["rules", e.1]
    entries := ("enabled", .flag e.2.enabled) ::
      (e.2.severity.toList.map fun s => ("severity", .text s)) }

/-- The sections of a document with these settings. -/
def sections (s : Settings) : List Section :=
  [{ path := ["analysis"]
     entries :=
       [("max_depth", .number s.analysis.maxDepth), ("max_files", .number s.analysis.maxFiles),
        ("max_candidates", .number s.analysis.maxCandidates),
        ("concurrency", .number s.analysis.concurrency),
        ("source_roots", .texts s.analysis.sourceRoots),
        ("extensions", .texts s.analysis.extensions),
        ("ignore_dirs", .texts s.analysis.ignoreDirs), ("exclude", .texts s.analysis.exclude),
        ("error_lookahead", .number s.analysis.errorLookahead)] },
   { path := ["manifest"]
     entries :=
       [("filenames", .texts s.manifest.filenames), ("branches", .texts s.manifest.branches)] },
   { path := ["github"]
     entries :=
       [("api_url", .text s.remote.apiUrl), ("token_env", .text s.remote.tokenEnv),
        ("timeout_secs", .number s.remote.timeoutSecs)] },
   { path := ["store"], entries := [("path", .text s.store.path)] }] ++
    if s.rules.isEmpty then [{ path := ["rules"], entries := [] }] else s.rules.map ruleSection

/-- Writes settings. -/
def render (s : Settings) : String :=
  Toml.render s.sections

end SourceAudit.Settings
