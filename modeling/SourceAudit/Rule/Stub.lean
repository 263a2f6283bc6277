import SourceAudit.Line.Marker
import SourceAudit.Rule.Basic

/-!
# Rules on stubs

Authentication and data access that carry a stub marker, and links that lead nowhere.
-/

namespace SourceAudit.Rule

open Pattern

/-- Two words in any letter case with an optional underscore between them. -/
def joined (first second : String) : Pattern :=
  anyCase first ++ optional (lit "_") ++ anyCase second

/-- A term of signing in and of sessions. -/
def authenticationTerm : Pattern :=
  choice [joined "log" "in", joined "log" "out", joined "sign" "in", joined "sign" "out",
    joined "sign" "up", anyCase "authenticat", anyCase "authoriz", anyCase "session",
    joined "verify" "password", joined "check" "password", joined "current" "user",
    joined "access" "token", joined "auth" "token"]

/-- Authentication logic with a stub marker. -/
def stubbedAuthentication : Rule where
  key := "stubs/authentication"
  id := "AUTH001"
  category := .authentication
  severity := .high
  reports _ := perLine fun line _ =>
    match authenticationTerm.find? line with
    | none => none
    | some term =>
      if Line.hasStubMarker line then
        some ("Authentication logic ('" ++ String.ofList (Text.lower term.text) ++
          "') is stubbed out")
      else none

/-- A call that reads or writes data. -/
def dataCall : Pattern :=
  choice [
    lit "." ++
      choice [anyCase "query", anyCase "execute", anyCase "executemany",
        anyCase "fetch" ++ optional (anyCaseWords ["one", "all", "many"]),
        anyCase "find" ++ optional (anyCaseWords ["_one", "one"]),
        anyCase "insert" ++ optional (anyCaseWords ["_one", "_many"]),
        anyCase "update" ++ optional (anyCaseWords ["_one", "_many"]),
        anyCase "delete" ++ optional (anyCaseWords ["_one", "_many"]),
        anyCase "save", anyCase "commit", anyCase "aggregate", anyCase "select", anyCase "from_"] ++
      gap ++ lit "(",
    wordEdge ++ anyCase "fetch" ++ gap ++ lit "(",
    wordEdge ++ anyCase "axios." ++ word ++ gap ++ lit "("]

/-- Data access with a stub marker. -/
def stubbedDataCall : Rule where
  key := "stubs/data-layer"
  id := "DATA001"
  category := .general
  severity := .medium
  reports _ := perLine fun line _ =>
    if dataCall.occursIn line && Line.hasStubMarker line then
      some "Data-layer call is stubbed or returns placeholder data"
    else none

/-- A link or redirect to a target that is empty or a placeholder; the attribute is group 1 and the
target is group 2. -/
def brokenLink : Pattern :=
  group 1
    (wordEdge ++
      choice [anyCase "href", anyCase "to", anyCase "redirect" ++ optional (anyCase "_to"),
        anyCase "navigate", anyCase "location" ++ optional (anyCase ".href")]) ++
    gap ++ one (among "=(:") ++ gap ++ optional (lit "\x7b") ++ gap ++ one (among "'\"") ++
    group 2
      (choice [lit "#", anyCase "javascript:" ++ gap ++ anyCase "void(0)" ++ optional (lit ";"),
        anyCase "todo", anyCase "tbd", anyCase "placeholder", nothing]) ++
    one (among "'\"")

/-- Link or redirect that leads nowhere. -/
def brokenNavigation : Rule where
  key := "stubs/navigation"
  id := "NAV001"
  category := .general
  severity := .low
  reports _ := perLine fun line _ =>
    (brokenLink.find? line).map fun f =>
      "Broken navigation target: " ++ String.ofList (f.group 1) ++ " \"" ++
        String.ofList (Text.joinWith [' '] (Text.words (f.group 2))) ++ "\""

end SourceAudit.Rule
