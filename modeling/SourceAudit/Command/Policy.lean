import SourceAudit.Command.Host
import SourceAudit.Manifest
import SourceAudit.Report.Json

/-!
# The policy command
-/

namespace SourceAudit

open Text (Style)

namespace PolicyArguments

/-- The names of a set under a title. -/
def nameList (inColor : Bool) (color : Text.Color) (title mark : String) (names : List String) :
    String :=
  (Style.strongColored color).apply inColor title ++ " (" ++ names.length.repr ++ ")\n" ++
    String.join (names.map fun name =>
      "  " ++ (Style.colored color).apply inColor mark ++ " " ++ name ++ "\n")

/-- The policy of a repository for terminals. -/
def render (inColor : Bool) (target : Target) (manifest : Manifest) : String :=
  let p := manifest.policy
  "\n" ++ Style.faint.apply inColor "Repository:" ++ " " ++
    (Style.strongColored .white).apply inColor target.fullName ++ "\n" ++
    Style.faint.apply inColor "Manifest:" ++ " " ++
    (Style.colored .cyan).apply inColor manifest.path ++ "\n\n" ++
    nameList inColor .green "Allowed" "+" p.allowed.toList ++ "\n" ++
    nameList inColor .red "Forbidden" "-" p.forbidden.toList

/-- The document of the policy of a repository. -/
def document (target : Target) (manifest : Manifest) : String :=
  (Json.object ([("repository", .text target.fullName), ("manifest", .text manifest.path)] ++
    manifest.policy.fields)).render

variable {m : Type → Type} [Monad m]

/-- Runs the command. -/
def run (host : Host m) (a : PolicyArguments) (s : Settings) :
    m (Except AuditError ExitStatus) := do
  match ← host.target a.source with
  | .error e => pure (.error e)
  | .ok target => do
    let provider ← host.provider s a.source
    match ← Manifest.locate provider target.owner target.name s.manifest.filenames
        s.manifest.branches with
    | .error e => pure (.error e)
    | .ok manifest => do
      let rendered := match a.format with
        | .json => document target manifest
        | .terminal | .markdown => render host.inColor target manifest
      pure ((← host.emit rendered none).map fun () => .success)

end PolicyArguments

end SourceAudit
