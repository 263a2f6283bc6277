import SourceAudit.Glob.Basic

/-!
# Matching globs

A path is matched by carrying, token by token, the places of the path that some match has reached.
All ways to match advance together, so the work is the length of the path times the size of the glob.
-/

namespace SourceAudit

namespace Glob

/-- The places of a path that are reached: one mark in front of each byte and one at the end. -/
abbrev Marks := List Bool

namespace Marks

/-- The start of a path is reached. -/
def start (path : List Char) : Marks :=
  true :: path.map fun _ => false

/-- The end of the path is reached. -/
def finished (m : Marks) : Bool :=
  m.getLast? == some true

/-- What is reached in either way. -/
def union (m n : Marks) : Marks :=
  List.zipWith (· || ·) m n

/-- What one accepted byte leads to. -/
def one (accepts : Char → Bool) (path : List Char) (m : Marks) : Marks :=
  false :: List.zipWith (fun b marked => marked && accepts b) path m

/-- What any bytes lead to, where `reached` says that a place in front is reached. -/
def spread (reached : Bool) : Marks → Marks
  | [] => []
  | m :: r => (reached || m) :: spread (reached || m) r

end Marks

/-- The byte ranges of a range of characters: all bytes of its ends, and what lies between the last
byte of the one and the first byte of the other. -/
def byteRanges (r : Char × Char) : List (Char × Char) :=
  let low := bytesOf r.1
  let high := bytesOf r.2
  let single (b : Char) : Char × Char := (b, b)
  if r.1 = r.2 then low.map single
  else
    match low.getLast?, high with
    | some l, h :: hs => low.dropLast.map single ++ (l, h) :: hs.map single
    | _, _ => []

/-- The byte is in one of the ranges. -/
def inByteRanges (ranges : List (Char × Char)) (b : Char) : Bool :=
  ranges.any fun r => r.1 ≤ b && b ≤ r.2

mutual

/-- What a token leads to. -/
def Token.advance (path : List Char) : Token → Marks → Marks
  | .literal c, m => (bytesOf c).foldl (fun m b => m.one (· == b) path) m
  | .any, m => m.one (fun _ => true) path
  | .zeroOrMore, m => m.spread false
  | .recursivePrefix, m => m.union ((m.spread false).one (· == '/') path)
  | .recursiveSuffix, m => (m.one (· == '/') path).spread false
  | .recursiveMiddle, m =>
    let entered := m.one (· == '/') path
    entered.union ((entered.spread false).one (· == '/') path)
  | .range negated ranges, m =>
    let ranges := ranges.flatMap byteRanges
    m.one (fun b => inByteRanges ranges b != negated) path
  | .alternates [], m => m
  | .alternates (branch :: branches), m =>
    (advanceAll path branch m).union (advanceAny path branches m)

/-- What tokens one after the other lead to. -/
def advanceAll (path : List Char) : List Token → Marks → Marks
  | [], m => m
  | t :: r, m => advanceAll path r (t.advance path m)

/-- What one of several branches leads to. -/
def advanceAny (path : List Char) : List (List Token) → Marks → Marks
  | [], m => m.map fun _ => false
  | branch :: r, m => (advanceAll path branch m).union (advanceAny path r m)

end

/-- Tokens match a path. -/
def matchesTokens (tokens : List Token) (path : List Char) : Bool :=
  match tokens with
  | [.recursivePrefix] => true
  | _ => (advanceAll path tokens (Marks.start path)).finished

end Glob

end SourceAudit
