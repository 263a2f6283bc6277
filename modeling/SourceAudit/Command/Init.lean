import SourceAudit.Command.Host

/-!
# The init command
-/

namespace SourceAudit

namespace InitArguments

variable {m : Type → Type} [Monad m]

/-- What to do with a file of settings that has been made. -/
def nextSteps (host : Host m) (path : String) : String :=
  (Text.Style.strongColored .green).apply host.inColor "Success:" ++ " Created " ++
    host.named path ++ "\n\nNext steps:\n" ++
    "  1. Review the manifest filenames and analysis limits in " ++ host.named path ++ "\n" ++
    "  2. Run " ++ host.named "complyscan audit" ++ " to audit the working directory\n" ++
    "  3. Run " ++ host.named "complyscan history" ++ " to list past audits\n"

/-- Runs the command. -/
def run (host : Host m) (a : InitArguments) : m (Except AuditError ExitStatus) := do
  let path := a.output.getD Settings.fileName
  if (← host.files.isThere path) && !a.force then
    host.noteWith .red "Error:" (path ++ " already exists. Use --force to overwrite.")
    pure (.ok .failure)
  else
    match ← host.writeFile path ({} : Settings).render with
    | .error e => pure (.error e)
    | .ok () => do
      host.say (nextSteps host path)
      pure (.ok .success)

end InitArguments

end SourceAudit
