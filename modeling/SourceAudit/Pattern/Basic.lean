import SourceAudit.Text.Word

/-!
# Patterns

A pattern describes pieces of text. `attempt` tries the ways in which a pattern can match at a spot,
in order of preference, and takes the first that its continuation accepts. A choice prefers its left side and a repetition prefers to go on, so the match that
`find?` reports is the leftmost one and of those the most preferred.
-/

namespace SourceAudit

/-- A pattern over the characters of a text. -/
inductive Pattern where
  /-- The empty text. -/
  | nothing
  /-- One character that is accepted. -/
  | one (accepts : Char → Bool)
  /-- A run of accepted characters, as long as possible first. -/
  | many (accepts : Char → Bool)
  /-- The start of the text. -/
  | start
  /-- The end of the text. -/
  | finish
  /-- A place with a word character on exactly one side. -/
  | wordEdge
  /-- One pattern and then another. -/
  | seq (first second : Pattern)
  /-- The first pattern or else the second. -/
  | alt (first second : Pattern)
  /-- Any number of matches that each take at least one character. -/
  | repeated (body : Pattern)
  /-- A match whose text is kept under a number. -/
  | group (number : Nat) (body : Pattern)

namespace Pattern

/-- A place in a text: the character before it, the text after it, and the text that each group
matched so far, latest first. -/
structure Spot where
  before : Option Char
  rest : List Char
  groups : List (Nat × List Char)

/-- The text between a spot and a later one. -/
def Spot.upTo (s t : Spot) : List Char :=
  s.rest.take (s.rest.length - t.rest.length)

/-- The spot holds a word character on exactly one side. -/
def Spot.atWordEdge (s : Spot) : Bool :=
  s.before.any Text.isWord != s.rest.head?.any Text.isWord

variable {β : Type}

/-- Tries the run of accepted characters at the start of `rest`, longest first. -/
def attemptRun (accepts : Char → Bool) (groups : List (Nat × List Char)) (k : Spot → Option β) :
    Option Char → List Char → Option β
  | before, [] => k ⟨before, [], groups⟩
  | before, c :: r =>
    if accepts c then
      match attemptRun accepts groups k (some c) r with
      | some b => some b
      | none => k ⟨before, c :: r, groups⟩
    else k ⟨before, c :: r, groups⟩

/-- Tries at most `n` rounds of `body`, each taking at least one character, most rounds first. -/
def attemptRounds (body : Spot → (Spot → Option β) → Option β) (k : Spot → Option β) :
    Nat → Spot → Option β
  | 0, s => k s
  | n + 1, s =>
    match body s fun t =>
        if t.rest.length < s.rest.length then attemptRounds body k n t else none with
    | some b => some b
    | none => k s

/-- The first outcome that the continuation accepts among the matches at a spot. -/
def attempt : Pattern → Spot → (Spot → Option β) → Option β
  | nothing, s, k => k s
  | one accepts, s, k =>
    match s.rest with
    | [] => none
    | c :: r => if accepts c then k ⟨some c, r, s.groups⟩ else none
  | many accepts, s, k => attemptRun accepts s.groups k s.before s.rest
  | start, s, k => if s.before.isNone then k s else none
  | finish, s, k => if s.rest.isEmpty then k s else none
  | wordEdge, s, k => if s.atWordEdge then k s else none
  | seq p q, s, k => p.attempt s fun t => q.attempt t k
  | alt p q, s, k =>
    match p.attempt s k with
    | some b => some b
    | none => q.attempt s k
  | repeated p, s, k => attemptRounds (fun t next => p.attempt t next) k s.rest.length s
  | group n p, s, k => p.attempt s fun t => k { t with groups := (n, s.upTo t) :: t.groups }

/-- What was found: the matched text, the text of each group, and the character before and the text
after the place where the match ends. -/
structure Found where
  text : List Char
  groups : List (Nat × List Char)
  last : Option Char
  rest : List Char

/-- The text that a group matched, if it took part. -/
def Found.group? (f : Found) (n : Nat) : Option (List Char) :=
  (f.groups.find? fun g => g.1 == n).map (·.2)

/-- The text that a group matched, empty if it took no part. -/
def Found.group (f : Found) (n : Nat) : List Char :=
  (f.group? n).getD []

/-- The preferred match at one place. -/
def matchAt (p : Pattern) (before : Option Char) (rest : List Char) : Option Found :=
  let s : Spot := ⟨before, rest, []⟩
  p.attempt s fun t => some ⟨s.upTo t, t.groups, t.before, t.rest⟩

/-- The leftmost match in a text that has `before` in front of it. -/
def findFrom (p : Pattern) (before : Option Char) : List Char → Option Found
  | [] => p.matchAt before []
  | c :: r =>
    match p.matchAt before (c :: r) with
    | some f => some f
    | none => p.findFrom (some c) r

/-- The leftmost match in a text. -/
def find? (p : Pattern) (text : List Char) : Option Found :=
  p.findFrom none text

/-- The pattern occurs in the text. -/
def occursIn (p : Pattern) (text : List Char) : Bool :=
  (p.find? text).isSome

/-- At most `n` matches from left to right, each after the end of the one before it. -/
def findAllFrom (p : Pattern) : Nat → Option Char → List Char → List Found
  | 0, _, _ => []
  | n + 1, before, text =>
    match p.findFrom before text with
    | none => []
    | some f =>
      f :: if f.rest.length < text.length then p.findAllFrom n f.last f.rest else []

/-- The matches of a pattern that takes at least one character, none overlapping another. -/
def findAll (p : Pattern) (text : List Char) : List Found :=
  p.findAllFrom (text.length + 1) none text

end Pattern

end SourceAudit
