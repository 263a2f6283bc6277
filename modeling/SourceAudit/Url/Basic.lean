import SourceAudit.Text.Case
import SourceAudit.Url.Address
import SourceAudit.Url.Domain
import SourceAudit.Url.Percent

/-!
# URLs

Absolute URLs of the schemes that the URL standard knows, read by its rules: slashes may be missing
or turned round, characters that have no place are encoded, and `.` and `..` are taken out of the
path. Those of `http`, `https` and `file` are of use here.
-/

namespace SourceAudit

open Text

/-- A URL in its normal form. -/
structure Url where
  scheme : String
  user : List Char := []
  host : List Char
  port : Option Nat := none
  /-- The names between the slashes of the path, at least one. -/
  segments : List (List Char)
  query : Option (List Char) := none
  fragment : Option (List Char) := none
deriving DecidableEq, Repr

namespace Url

/-- Why a text is no URL that can be used. -/
inductive Fault where
  | emptyHost
  | badDomain
  | badAddress4
  | badAddress6
  | badPort
  | badCharacter
  | noScheme
  | otherScheme
deriving DecidableEq, Repr

/-- The text of a fault. -/
def Fault.message : Fault → String
  | emptyHost => "empty host"
  | badDomain => "invalid international domain name"
  | badAddress4 => "invalid IPv4 address"
  | badAddress6 => "invalid IPv6 address"
  | badPort => "invalid port number"
  | badCharacter => "invalid domain character"
  | noScheme => "relative URL without a base"
  | otherScheme => "URL scheme is not allowed"

/-- Drops spaces and control characters around a URL, and tabs and line breaks anywhere. -/
def clean (text : List Char) : List Char :=
  (trimWhile (fun c => c.toNat ≤ 0x20) text).filter fun c => c ∉ ['\t', '\n', '\r']

/-- Takes the scheme off the front. -/
def cutScheme? (text : List Char) : Option (List Char × List Char) :=
  match text with
  | c :: _ =>
    if !isAsciiLetter c then none
    else
      let isPart := fun c => isAsciiAlphanumeric c || c ∈ ['+', '-', '.']
      match text.dropWhile isPart with
      | ':' :: rest => some ((text.takeWhile isPart).map asciiLower, rest)
      | _ => none
  | [] => none

/-- A slash or a backslash. -/
def isSlash (c : Char) : Bool :=
  c = '/' || c = '\\'

/-- A character that ends the part in front of the path. -/
def endsAuthority (c : Char) : Bool :=
  isSlash c || c = '?' || c = '#'

/-- Reads a host. -/
def host? (text : List Char) : Except Fault (List Char) :=
  match text with
  | '[' :: inner =>
    if inner.getLast? = some ']' then
      match address6? inner.dropLast with
      | some groups => .ok ('[' :: address6Text groups ++ [']'])
      | none => .error .badAddress6
    else .error .badAddress6
  | _ =>
    match Domain.toAscii? (percentDecode text) with
    | none => .error .badDomain
    | some [] => .error .emptyHost
    | some domain =>
      if endsInNumber domain then
        match address4? domain with
        | some n => .ok (address4Text n)
        | none => .error .badAddress4
      else .ok domain

/-- Cuts the user off the front of an authority: all up to its last at sign. -/
def cutUser (authority : List Char) : Option (List Char) × List Char :=
  if authority.contains '@' then
    let back := authority.reverse
    (some (back.dropWhile (· ≠ '@')).tail.reverse, (back.takeWhile (· ≠ '@')).reverse)
  else (none, authority)

/-- Cuts the host off the front: all up to a colon outside brackets. -/
def cutHost (inBrackets : Bool) : List Char → List Char × List Char
  | [] => ([], [])
  | c :: r =>
    if c = ':' ∧ inBrackets = false then ([], c :: r)
    else
      let inner := if c = '[' then true else if c = ']' then false else inBrackets
      (c :: (cutHost inner r).1, (cutHost inner r).2)

/-- The port that a scheme has without being told. -/
def usualPort? (scheme : String) : Option Nat :=
  if scheme ∈ ["http", "ws"] then some 80
  else if scheme ∈ ["https", "wss"] then some 443
  else if scheme = "ftp" then some 21
  else none

/-- Reads a port after its colon. -/
def port? (scheme : String) (digits : List Char) : Except Fault (Option Nat) :=
  if digits.all Char.isDigit then
    let n := natOfDigits 10 digits
    if 65535 < n then .error .badPort
    else if digits.isEmpty || usualPort? scheme = some n then .ok none
    else .ok (some n)
  else .error .badPort

/-- The segment stands for the directory it is in. -/
def isDot (segment : List Char) : Bool :=
  segment.map asciiLower ∈ [".", "%2e"].map String.toList

/-- The segment stands for the directory one level up. -/
def isDoubleDot (segment : List Char) : Bool :=
  segment.map asciiLower ∈ ["..", "%2e.", ".%2e", "%2e%2e"].map String.toList

/-- Takes dots out of segments; `above` holds the segments so far, last first. -/
def settleDots (above : List (List Char)) : List (List Char) → List (List Char)
  | [] => above.reverse
  | s :: rest =>
    if isDoubleDot s then
      if rest.isEmpty then ([] :: above.tail).reverse else settleDots above.tail rest
    else if isDot s then
      if rest.isEmpty then ([] :: above).reverse else settleDots above rest
    else settleDots (percentEncode outsidePath s :: above) rest

/-- The segments of a path, which may start with a slash. -/
def pathSegments (path : List Char) : List (List Char) :=
  let path := match path with
    | c :: r => if isSlash c then r else c :: r
    | [] => []
  settleDots [] (cutWhere isSlash path)

/-- Cuts path, query and fragment apart. -/
def cutTail (text : List Char) : List Char × Option (List Char) × Option (List Char) :=
  let front := text.takeWhile (· ≠ '#')
  let fragment := match text.dropWhile (· ≠ '#') with
    | _ :: f => some f
    | [] => none
  let path := front.takeWhile (· ≠ '?')
  let query := match front.dropWhile (· ≠ '?') with
    | _ :: q => some q
    | [] => none
  (path, query, fragment)

/-- The URL with the path, query and fragment of a text. -/
def withTail (u : Url) (text : List Char) : Url :=
  let (path, query, fragment) := cutTail text
  { u with
    segments := pathSegments path
    query := query.map (percentEncode outsideQuery)
    fragment := fragment.map (percentEncode outsideFragment) }

/-- The name and password of a user with what has no place in them encoded. -/
def encodeUser (user : List Char) : List Char :=
  let name := percentEncode outsideUser (user.takeWhile (· ≠ ':'))
  match user.dropWhile (· ≠ ':') with
  | [] | [_] => name
  | _ :: password => name ++ ':' :: percentEncode outsideUser password

/-- Reads what follows the scheme of a URL that leads to a host. -/
def parseHosted (scheme : String) (rest : List Char) : Except Fault Url :=
  let rest := rest.dropWhile isSlash
  let (user, place) := cutUser (rest.takeWhile fun c => !endsAuthority c)
  let (host, port) := cutHost false place
  if host.isEmpty then .error .emptyHost
  else
    match host? host with
    | .error e => .error e
    | .ok host =>
      match port? scheme port.tail with
      | .error e => .error e
      | .ok port =>
        .ok (Url.withTail
          { scheme, user := encodeUser (user.getD []), host, port, segments := [[]] }
          (rest.dropWhile fun c => !endsAuthority c))

/-- A drive letter, which is no host. -/
def isDrive (text : List Char) : Bool :=
  match text with
  | [c, d] => isAsciiLetter c && (d = ':' || d = '|')
  | _ => false

/-- The host between the slashes of a file URL, if there is any, and what follows it. -/
def cutFileHost (rest : List Char) : List Char × List Char :=
  match rest with
  | a :: b :: r =>
    if isSlash a && isSlash b then
      let host := r.takeWhile fun c => !endsAuthority c
      if isDrive host then ([], r) else (host, r.drop host.length)
    else ([], rest)
  | _ => ([], rest)

/-- Reads what follows the scheme of a file URL. -/
def parseFile (rest : List Char) : Except Fault Url :=
  let (host, tail) := cutFileHost rest
  if host.isEmpty then .ok (Url.withTail { scheme := "file", host := [], segments := [[]] } tail)
  else
    match host? host with
    | .error e => .error e
    | .ok host =>
      let host := if host = "localhost".toList then [] else host
      .ok (Url.withTail { scheme := "file", host, segments := [[]] } tail)

/-- Reads a URL of a scheme that the standard knows. -/
def parseKnown (text : List Char) : Except Fault Url :=
  match cutScheme? (clean text) with
  | none => .error .noScheme
  | some (scheme, rest) =>
    let scheme := String.ofList scheme
    if (usualPort? scheme).isSome then parseHosted scheme rest
    else if scheme = "file" then parseFile rest
    else .error .otherScheme

/-- The URL leads to the web. -/
def isWeb (u : Url) : Bool :=
  u.scheme = "http" || u.scheme = "https"

/-- Reads a URL that leads to the web or to a file. -/
def parse (text : List Char) : Except Fault Url :=
  match parseKnown text with
  | .error e => .error e
  | .ok u => if u.isWeb || u.scheme = "file" then .ok u else .error .otherScheme

/-- The path of a URL. -/
def path (u : Url) : List Char :=
  '/' :: joinWith ['/'] u.segments

/-- The path and the query of a URL, as a request asks for them. -/
def target (u : Url) : List Char :=
  u.path ++ (u.query.map ('?' :: ·)).getD []

/-- The text of a URL up to its path. -/
def origin (u : Url) : List Char :=
  u.scheme.toList ++ "://".toList ++ (if u.user.isEmpty then [] else u.user ++ ['@']) ++ u.host ++
    (u.port.map fun p => ':' :: decimal p).getD []

/-- The text of a URL. -/
def toText (u : Url) : List Char :=
  u.origin ++ u.target ++ (u.fragment.map ('#' :: ·)).getD []

/-- A query with more fields. One that is left empty is dropped. -/
def addFields (query : Option (List Char)) (fields : List (List Char × List Char)) :
    Option (List Char) :=
  let fields := fields.map fun f => formEncode f.1 ++ '=' :: formEncode f.2
  match query.getD [], fields with
  | [], [] => none
  | [], fields => some (joinWith ['&'] fields)
  | query, fields => some (joinWith ['&'] (query :: fields))

/-- The URL with more fields in its query. -/
def withFields (u : Url) (fields : List (List Char × List Char)) : Url :=
  { u with query := addFields u.query fields }

/-- The URL of the directory that names, as bytes, lead to from the root. -/
def ofDirectory (names : List (List UInt8)) : List Char :=
  "file://".toList ++ names.flatMap (fun n => '/' :: percentEncodeBytes outsideName n) ++ ['/']

end Url

end SourceAudit
