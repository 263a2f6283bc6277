import SourceAudit.Line.Code
import SourceAudit.Pattern.Build

/-!
# Markers of unfinished work

A stub marker is a word of the stub vocabulary inside a comment, or code that raises a
not-implemented error. A deferred marker is one of two words anywhere on the line.
-/

namespace SourceAudit.Line

open Pattern

/-- The stub vocabulary, looked for in comments. -/
def stubComment : Pattern :=
  wordEdge ++
    choice [anyCase "todo", anyCase "fixme", anyCase "stub" ++ optional (anyCase "bed"),
      anyCase "mock" ++ optional (anyCase "ed"), anyCase "placeholder", anyCase "not implemented",
      anyCase "hack", anyCase "xxx", anyCase "dummy", anyCase "fake"] ++
    wordEdge

/-- A raised not-implemented error, looked for in code. -/
def notImplemented : Pattern :=
  wordEdge ++ lit "raise" ++ space ++ lit "NotImplementedError" ++ wordEdge

/-- A thrown error, looked for in code. -/
def thrownError : Pattern :=
  wordEdge ++ lit "throw" ++ space ++ lit "new" ++ space ++ lit "Error("

/-- A thrown error that says it is not implemented, looked for in the whole line. -/
def thrownNotImplemented : Pattern :=
  wordEdge ++ anyCase "throw" ++ space ++ anyCase "new" ++ space ++ anyCase "Error(" ++ gap ++
    one isQuote ++ anyCase "not implemented"

/-- A marker that puts work off. -/
def deferredMarker : Pattern :=
  wordEdge ++ words ["TODO", "FIXME"] ++ wordEdge

/-- The line carries a stub marker. The contents of string literals count only as the message of a
thrown error. -/
def hasStubMarker (line : List Char) : Bool :=
  let parts := split line
  parts.comment.any stubComment.occursIn || notImplemented.occursIn parts.code ||
    (thrownError.occursIn parts.code && thrownNotImplemented.occursIn line)

/-- The line puts work off. -/
def isDeferred (line : List Char) : Bool :=
  deferredMarker.occursIn line

end SourceAudit.Line
