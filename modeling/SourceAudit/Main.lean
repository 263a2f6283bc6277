import SourceAudit.CommandLine.Help
import SourceAudit.Program
import Std.Time.DateTime.Timestamp

/-!
# The program on a real system
-/

namespace SourceAudit.Main

/-- What the program runs in: the store, and the system. -/
abbrev System := StateT Store IO

/-- The number and the text of an error of the system, if it has a number, which may be negative. -/
def numbered? : IO.Error → Option (UInt32 × String)
  | .alreadyExists _ n text | .otherError n text | .resourceBusy n text
  | .resourceVanished n text | .unsupportedOperation n text | .hardwareFault n text
  | .unsatisfiedConstraints n text | .illegalOperation n text | .protocolError n text
  | .timeExpired n text | .interrupted _ n text | .noFileOrDirectory _ n text
  | .invalidArgument _ n text | .permissionDenied _ n text | .resourceExhausted _ n text
  | .inappropriateType _ n text | .noSuchThing _ n text => some (n, text)
  | .unexpectedEof | .userError _ => none

/-- The fault that an error of the system is. -/
def fault (e : IO.Error) : FileFault :=
  match numbered? e with
  | none => .other e.toString
  | some (n, text) =>
    let n := n.toInt32.toInt.natAbs
    match n with
    | 2 => .notFound
    | 16 => .busy
    | 17 => .exists
    | 20 => .notDirectory
    | 21 => .isDirectory
    | 36 => .nameTooLong
    | 40 => .tooManyLinks
    | _ => .other (text.capitalize ++ " (os error " ++ n.repr ++ ")")

/-- Does something with a path of the system. -/
def attempt {α : Type} (path : String) (act : IO α) : System (Except FileFault α) :=
  if path.toList.contains '\x00' then pure (.error .nulInPath)
  else do
    match ← act.toBaseIO with
    | .ok a => pure (.ok a)
    | .error e => pure (.error (fault e))

/-- What a path leads to. -/
def kind (path : String) : IO EntryKind := do
  let data ← (← IO.FS.realPath path).metadata
  pure (if data.type == .dir then .directory else .file)

/-- The kind of a directory entry that is no link. -/
def entryKind? (entry : IO.FS.DirEntry) : IO (Option EntryKind) := do
  let data ← entry.path.symlinkMetadata
  pure (match data.type with
    | .dir => some .directory
    | .file => some .file
    | _ => none)

/-- The files and directories in a directory. -/
def entries (path : String) : IO (List (String × EntryKind)) := do
  let found ← (← IO.FS.realPath path).readDir
  let kinds ← found.toList.mapM fun e => do
    pure ((← entryKind? e).map fun kind => (e.fileName, kind))
  pure ((kinds.filterMap id).mergeSort fun a b => a.1 ≤ b.1)

/-- The files of the system. -/
def files : Files System where
  kind? path := do pure ((← attempt path (kind path)).toOption)
  read path := do
    pure ((← attempt path (IO.FS.readBinFile path)).map fun bytes => bytes.data.toList)
  write path bytes := attempt path (IO.FS.writeBinFile path ⟨bytes.toArray⟩)
  makeDirectory path := attempt path (IO.FS.createDir path)
  rename path target := attempt path (IO.FS.rename path target)
  list path := attempt path (entries path)
  canonical path := attempt path do pure (← IO.FS.realPath path).toString

/-- The clock of the system. -/
def clock : System Instant := do
  let now ← Std.Time.Timestamp.now
  pure (Instant.ofSinceEpoch now.toNanosecondsSinceUnixEpoch.val.toNat)

/-- No request gets an answer: the system has no transport for any. -/
def transport : Transport System := fun _ =>
  pure (.error (.unreachable "no transport is available"))

/-- The system as the program sees it. -/
def host : IO (Host System) := do
  let output ← IO.getStdout
  let messages ← IO.getStderr
  let home ← IO.getEnv "HOME"
  let force ← IO.getEnv "CLICOLOR_FORCE"
  let forbid ← IO.getEnv "NO_COLOR"
  let wish ← IO.getEnv "CLICOLOR"
  let inColor := Text.Style.isWanted force forbid wish (← output.isTty)
  pure
    { files, transport, clock, inColor
      environment := fun name => do pure (← IO.getEnv name)
      home := home.filter (· ≠ "")
      say := fun text => output.putStr text
      note := fun text => messages.putStr text }

/-- Runs the program on the words of its command line. -/
def run (words : List String) : IO UInt32 := do
  let host ← host
  let (ending, _) ← (Program.start host words).run {}
  if let .usage u := ending then
    (u.answer?.forM host.say).run' {}
    (u.complaint?.forM host.note).run' {}
  pure (UInt32.ofNat ending.code)

end SourceAudit.Main

/-- Runs the program. -/
def main (words : List String) : IO UInt32 :=
  SourceAudit.Main.run words
