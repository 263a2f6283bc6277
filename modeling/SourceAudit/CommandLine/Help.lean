import SourceAudit.CommandLine.Usage
import SourceAudit.Report.Json

/-!
# Help

What the program tells when a command line is no command.
-/

namespace SourceAudit

/-- The name and the version of the program. -/
def versionText : String := "complyscan " ++ version ++ "\n"

/-- How the program is used. -/
def helpText : String :=
  "Audit repository code against its declared dependency manifest\n\n" ++
  "Usage: complyscan [OPTIONS] <COMMAND>\n\n" ++
  "Commands:\n" ++
  "  audit    Audit a repository against its dependency manifest\n" ++
  "  policy   Show the dependency policy parsed from a repository's manifest\n" ++
  "  history  List past audits of a repository\n" ++
  "  init     Write a default configuration file\n" ++
  "  help     Print this message\n\n" ++
  "Options:\n" ++
  "  -v, --verbose              Increase verbosity level (-v, -vv, -vvv)\n" ++
  "  -c, --config <FILE>        Path to configuration file\n" ++
  "      --log-format <FORMAT>  Log line format: text or json\n" ++
  "  -h, --help                 Print help\n" ++
  "  -V, --version              Print version\n"

/-- What a command line that is no command asks to see. -/
def Usage.answer? : Usage → Option String
  | .help => some helpText
  | .version => some versionText
  | _ => none

/-- What to tell about a command line that is no command for a fault. -/
def Usage.complaint? : Usage → Option String
  | .nothing => some helpText
  | u => u.fault?.map fun fault => "error: " ++ fault ++ "\n\n" ++ helpText

end SourceAudit
