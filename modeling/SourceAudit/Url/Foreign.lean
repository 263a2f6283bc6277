import SourceAudit.Url.Basic

/-!
# URLs of unknown schemes

What the rules of the URL standard make of a text whose scheme they do not know. Its host is not
looked into, only forward slashes count, and without a slash all of the path is one text.
-/

namespace SourceAudit

open Text

/-- A URL of an unknown scheme in its normal form. -/
structure ForeignUrl where
  scheme : List Char
  /-- Two slashes stand in front of the user and the host. -/
  hasAuthority : Bool
  user : List Char := []
  host : List Char := []
  port : Option Nat := none
  path : List Char
  query : Option (List Char)
  fragment : Option (List Char)
deriving DecidableEq, Repr

namespace ForeignUrl

open Url

/-- A character that ends the part in front of the path. -/
def endsAuthority (c : Char) : Bool :=
  c ∈ ['/', '?', '#']

/-- A character that no host holds. -/
def isForbidden (c : Char) : Bool :=
  c ∈ ['\x00', ' ', '#', '/', ':', '<', '>', '?', '@', '[', '\\', ']', '^', '|']

/-- Reads a host, which may be empty. -/
def host? (text : List Char) : Except Fault (List Char) :=
  if text.head? = some '[' then Url.host? text
  else if text.any isForbidden then .error .badCharacter
  else .ok (percentEncode outsideText text)

/-- The path of a text that starts with a slash or is empty. -/
def rootedPath (text : List Char) : List Char :=
  if text.isEmpty then [] else '/' :: joinWith ['/'] (settleDots [] (cut '/' text.tail))

/-- The path of a text without a host in front. -/
def barePath (text : List Char) : List Char :=
  if text.head? = some '/' then rootedPath text else percentEncode outsideText text

/-- Reads what follows the two slashes in front of a host. -/
def parseAuthority (scheme rest : List Char) : Except Fault ForeignUrl :=
  let (user, place) := cutUser (rest.takeWhile fun c => !endsAuthority c)
  let (host, port) := cutHost false place
  match host? host with
  | .error e => .error e
  | .ok host =>
    if host.isEmpty && (user.isSome || !port.isEmpty) then .error .emptyHost
    else
      match port? (String.ofList scheme) port.tail with
      | .error e => .error e
      | .ok port =>
        let (path, query, fragment) := cutTail (rest.dropWhile fun c => !endsAuthority c)
        .ok { scheme, hasAuthority := true, user := encodeUser (user.getD []), host, port,
              path := rootedPath path, query, fragment }

/-- Reads what follows the scheme. -/
def parseRest (scheme rest : List Char) : Except Fault ForeignUrl :=
  match rest with
  | '/' :: '/' :: rest => parseAuthority scheme rest
  | rest =>
    let (path, query, fragment) := cutTail rest
    .ok { scheme, hasAuthority := false, path := barePath path, query, fragment }

/-- Reads a URL as one of an unknown scheme. -/
def parse (text : List Char) : Except Fault ForeignUrl :=
  match cutScheme? (clean text) with
  | none => .error .noScheme
  | some (scheme, rest) =>
    (parseRest scheme rest).map fun u =>
      { u with
        query := u.query.map (percentEncode outsideAnyQuery)
        fragment := u.fragment.map (percentEncode outsideFragment) }

/-- What stands between the colon of the scheme and the path. A path that starts with two slashes is
kept apart from them by a dot. -/
def authorityText (u : ForeignUrl) : List Char :=
  if u.hasAuthority then
    "//".toList ++ (if u.user.isEmpty then [] else u.user ++ ['@']) ++ u.host ++
      (u.port.map fun p => ':' :: decimal p).getD []
  else if "//".toList.isPrefixOf u.path then "/.".toList
  else []

/-- The text of a URL. -/
def toText (u : ForeignUrl) : List Char :=
  u.scheme ++ ':' :: u.authorityText ++ u.path ++ (u.query.map ('?' :: ·)).getD [] ++
    (u.fragment.map ('#' :: ·)).getD []

/-- The URL with more fields in its query. -/
def withFields (u : ForeignUrl) (fields : List (List Char × List Char)) : ForeignUrl :=
  { u with query := addFields u.query fields }

end ForeignUrl

end SourceAudit
