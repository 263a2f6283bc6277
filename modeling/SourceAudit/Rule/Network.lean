import SourceAudit.Pattern.Build
import SourceAudit.Rule.Basic

/-!
# Rule on network calls

A network call with no sign of error handling on its line or on the lines that follow.
-/

namespace SourceAudit.Rule

open Pattern

/-- A call over the network, up to its opening parenthesis. -/
def networkCall : Pattern :=
  choice [
    wordEdge ++
      anyCaseWords ["requests", "httpx", "aiohttp", "urllib3", "session", "client", "http",
        "axios"] ++
      lit "." ++
      anyCaseWords ["get", "post", "put", "patch", "delete", "head", "request", "urlopen",
        "fetch"] ++
      gap ++ lit "(",
    wordEdge ++ anyCase "urlopen" ++ gap ++ lit "(",
    wordEdge ++ anyCase "fetch" ++ gap ++ lit "("]

/-- A sign of error handling. -/
def errorHandling : Pattern :=
  anyCaseWords ["catch", "try", "error", "except"]

/-- The start of a function definition. -/
def definition : Pattern :=
  indented ++ optional (lit "async" ++ space) ++ words ["def", "function"] ++ one Text.isBlank

/-- Network call without error handling on its line or on the lookahead lines after it. -/
def missingErrorHandling : Rule where
  key := "errors/network-call"
  id := "ERR001"
  category := .errorHandling
  severity := .medium
  reports c := perLine fun line later =>
    if Line.isComment line || definition.occursIn line then none
    else
      match networkCall.find? line with
      | none => none
      | some call =>
        if errorHandling.occursIn line || (later.take c.lookahead).any errorHandling.occursIn then
          none
        else
          let name := Text.dropEndWhile (fun d => d == '(' || Text.isBlank d) call.text
          some ("Network call '" ++ String.ofList name ++ "' has no error handling")

end SourceAudit.Rule
