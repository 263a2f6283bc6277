import SourceAudit.Glob.Basic

/-!
# Reading globs
-/

namespace SourceAudit

namespace Glob

/-- Ends the last range of a class, given latest first, at a character. -/
def endRange (c : Char) : List (Char × Char) → Except Fault (List (Char × Char))
  | [] => .ok [(c, c)]
  | (low, _) :: r => if c < low then .error (.invalidRange low c) else .ok ((low, c) :: r)

/-- Reads a class up to its bracket. `ranges` holds what was read, latest first; `first` says that
nothing was read, and `open` that a hyphen waits for the end of its range. -/
def readClass (first openRange : Bool) (ranges : List (Char × Char)) :
    List Char → Except Fault (List (Char × Char) × List Char)
  | [] => .error .unclosedClass
  | c :: r =>
    if c = ']' && !first then
      .ok ((if openRange then ('-', '-') :: ranges else ranges).reverse, r)
    else if openRange then
      match endRange c ranges with
      | .error e => .error e
      | .ok ranges => readClass false false ranges r
    else if c = '-' && !first then readClass false true ranges r
    else readClass false false ((c, c) :: ranges) r

/-- The state of reading: the branches of the open groups, innermost and latest first, each with its
tokens latest first; the number of branches below each open group; and the character just read. -/
structure Draft where
  branch : List Token
  outer : List (List Token)
  groups : List Nat
  before : Option Char

/-- Adds a token to the branch in progress. -/
def Draft.push (d : Draft) (t : Token) : Draft :=
  { d with branch := t :: d.branch }

/-- Two stars as two wildcards of their own. -/
def Draft.pushStars (d : Draft) : Draft :=
  (d.push .zeroOrMore).push .zeroOrMore

/-- Closes the innermost group. -/
def Draft.close (d : Draft) : Except Fault Draft :=
  match d.groups with
  | [] => .error .unopenedAlternates
  | below :: groups =>
    let branches := d.branch :: d.outer
    let inside := branches.take (branches.length - below)
    match branches.drop (branches.length - below) with
    | [] => .error .unopenedAlternates
    | branch :: outer =>
      .ok { d with
        branch := .alternates ((inside.reverse.map List.reverse).filter (!·.all Token.isVoid)) :: branch
        outer := outer
        groups := groups }

/-- Reads two stars; `prior` is the character before them and `next` the one after them. The
outcome says whether the separator after the stars belongs to them. -/
def Draft.doubleStar (d : Draft) (prior next : Option Char) : Draft × Bool :=
  let nested := !d.outer.isEmpty
  if d.branch.isEmpty then
    match next with
    | none => (d.push .recursivePrefix, false)
    | some '/' => (d.push .recursivePrefix, true)
    | some _ => (d.pushStars, false)
  else if prior != some '/' && (!nested || (prior != some ',' && prior != some '\x7b')) then
    (d.pushStars, false)
  else
    let replaceLast (t : Token) : Draft :=
      match d.branch with
      | .recursivePrefix :: r => { d with branch := .recursivePrefix :: r }
      | .recursiveSuffix :: r => { d with branch := .recursiveSuffix :: r }
      | _ :: r => { d with branch := t :: r }
      | [] => d
    match next with
    | none => (replaceLast .recursiveSuffix, false)
    | some '/' => (replaceLast .recursiveMiddle, true)
    | some c =>
      if nested && (c == ',' || c == '\x7d') then (replaceLast .recursiveSuffix, false)
      else (d.pushStars, false)

/-- Reads the rest of a glob; `fuel` bounds the number of steps. -/
def readFrom : (fuel : Nat) → Draft → List Char → Except Fault Draft
  | 0, d, _ => .ok d
  | _, d, [] => .ok d
  | n + 1, d, c :: r =>
    let now (d : Draft) (last : Char) : Draft := { d with before := some last }
    match c with
    | '?' => readFrom n (now (d.push .any) c) r
    | '*' =>
      match r with
      | '*' :: r =>
        match d.doubleStar d.before r.head? with
        | (d, true) => readFrom n (now d '/') (r.drop 1)
        | (d, false) => readFrom n (now d '*') r
      | _ => readFrom n (now (d.push .zeroOrMore) c) r
    | '[' =>
      let (negated, r) :=
        match r with
        | '!' :: r => (true, r)
        | '^' :: r => (true, r)
        | _ => (false, r)
      match readClass true false [] r with
      | .error e => .error e
      | .ok (ranges, r) => readFrom n (now (d.push (.range negated ranges)) ']') r
    | '\x7b' =>
      readFrom n
        { branch := []
          outer := d.branch :: d.outer
          groups := (d.outer.length + 1) :: d.groups
          before := some c } r
    | '\x7d' =>
      match d.close with
      | .error e => .error e
      | .ok d => readFrom n (now d c) r
    | ',' =>
      if d.groups.isEmpty then readFrom n (now (d.push (.literal c)) c) r
      else readFrom n { d with branch := [], outer := d.branch :: d.outer, before := some c } r
    | '\\' =>
      match r with
      | [] => .error .danglingEscape
      | e :: r => readFrom n (now (d.push (.literal e)) e) r
    | _ => readFrom n (now (d.push (.literal c)) c) r

/-- Reads the tokens of a glob. -/
def readTokens (glob : String) : Except Fault (List Token) :=
  let cs := glob.toList
  match readFrom (cs.length + 1) ⟨[], [], [], none⟩ cs with
  | .error e => .error e
  | .ok d => if d.outer.isEmpty then .ok d.branch.reverse else .error .unclosedAlternates

/-- Reads a glob. -/
def parse (glob : String) : Except Fault Glob :=
  (readTokens glob).map Glob.mk

end Glob

end SourceAudit
