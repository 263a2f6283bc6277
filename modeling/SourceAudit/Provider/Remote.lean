import SourceAudit.Decimal.Bound
import SourceAudit.Json.Fields
import SourceAudit.Json.Parser
import SourceAudit.Provider.Basic
import SourceAudit.Settings.Basic
import SourceAudit.Text.Number
import SourceAudit.Text.Charset
import SourceAudit.Url.Foreign

/-!
# Remote repositories

The content of repositories behind the contents API of a code host. Requests are values, and a
transport answers them.
-/

namespace SourceAudit

open Text

/-- A request for a URL. -/
structure Request where
  url : Url
  accept : String
  userAgent : String
  authorization : Option String := none
deriving DecidableEq, Repr

/-- An answer. Redirects have been followed. -/
structure Response where
  status : Nat
  headers : List (String × String)
  body : Bytes
deriving DecidableEq, Repr

/-- Why a request got no answer. -/
inductive TransportFault where
  /-- No connection could be made. -/
  | unreachable (reason : String)
  /-- The connection was lost. -/
  | interrupted (reason : String)
deriving DecidableEq, Repr

/-- The text of a fault of a request. -/
def TransportFault.message (url : Url) : TransportFault → String
  | unreachable reason =>
    "error sending request for url (" ++ String.ofList url.toText ++
      "): error trying to connect: " ++ reason
  | interrupted reason =>
    "error sending request for url (" ++ String.ofList url.toText ++ "): " ++ reason

/-- Why no request for a URL is made. -/
inductive RequestFault where
  | unreadable (fault : Url.Fault)
  /-- The URL does not lead to the web. -/
  | badScheme (url : List Char)
  /-- The URL is none that a request can hold. -/
  | badForm (url : List Char)
deriving DecidableEq, Repr

/-- The text of a fault of what was to be requested. -/
def RequestFault.message : RequestFault → String
  | unreadable fault => "builder error: " ++ fault.message
  | badScheme url =>
    "builder error for url (" ++ String.ofList url ++ "): " ++ Url.Fault.otherScheme.message
  | badForm url => "builder error for url (" ++ String.ofList url ++ "): Parsed Url is not a valid Uri"

/-- What answers requests. -/
abbrev Transport (m : Type → Type) := Request → m (Except TransportFault Response)

namespace Response

/-- The first header with a name, in any letter case. -/
def header? (headers : List (String × String)) (name : String) : Option String :=
  (headers.find? fun h => eqIgnoringAsciiCase h.1.toList name.toList).map (·.2)

/-- A character of a header that is read as a text. -/
def isPlain (c : Char) : Bool :=
  c = '\t' || (0x20 ≤ c.toNat && c.toNat < 0x7F)

/-- Reads an integer of 64 bits: digits with or without a sign. -/
def integer? (text : List Char) : Option Int :=
  let (negative, digits) := match text with
    | '-' :: r => (true, r)
    | '+' :: r => (false, r)
    | r => (false, r)
  if digits.isEmpty || !digits.all Char.isDigit then none
  else
    let n : Int := natOfDigits 10 digits
    let n := if negative then -n else n
    if Decimal.fitsSigned n then some n else none

/-- The header with a name as an integer. -/
def integerHeader? (headers : List (String × String)) (name : String) : Option Int := do
  let value ← header? headers name
  if value.toList.all isPlain then integer? value.toList else none

/-- The answer says that too much was asked for: by its status, or by a status of refusal with
nothing remaining. -/
def isRateLimited (status : Nat) (headers : List (String × String)) : Bool :=
  status = 429 || (status = 403 && integerHeader? headers "x-ratelimit-remaining" = some 0)

/-- The text of an answer. -/
def text (r : Response) : String :=
  let set := match header? r.headers "content-type" with
    | some type => Charset.ofContentType type.toList
    | none => .utf8
  String.ofList (Charset.decode set r.body)

end Response

/-- The access to a contents API. -/
structure Remote where
  /-- The base of all URLs, without a slash at its end. -/
  apiUrl : String
  /-- A token that is more than white space. -/
  token : Option String
deriving DecidableEq, Repr

namespace Remote

/-- The access by the base of all URLs and a token, which may be blank. -/
def new (apiUrl : String) (token : Option String) : Remote where
  apiUrl := String.ofList (dropEndWhile (· == '/') apiUrl.toList)
  token := token.filter fun t => !(trim t.toList).isEmpty

/-- The access that settings describe, with the token that the environment holds. -/
def ofSettings (s : RemoteSettings) (token : Option String) : Remote :=
  new s.apiUrl token

/-- Requests identify whom they are for. -/
def isAuthenticated (r : Remote) : Bool :=
  r.token.isSome

/-- The URL of a path of a repository. -/
def contentsUrl (r : Remote) (owner repo path : String) : String :=
  let path := String.ofList (trimWhile (· == '/') path.toList)
  let base := r.apiUrl ++ "/repos/" ++ owner ++ "/" ++ repo ++ "/contents"
  if path = "" then base else base ++ "/" ++ path

/-- A text that a header can hold. -/
def fitsHeader (value : String) : Bool :=
  value.toList.all fun c => c = '\t' || (0x20 ≤ c.toNat && c.toNat ≠ 0x7F)

/-- The header that identifies whom requests are for. -/
def authorization (r : Remote) : Option String :=
  (r.token.map ("Bearer " ++ ·)).filter fitsHeader

/-- The type of file contents. -/
def rawType : String := "application/vnd.github.raw"

/-- The type of listings. -/
def listingType : String := "application/vnd.github+json"

/-- How requests name the program. -/
def userAgent : String := "complyscan/0.1.0"

/-- Name and password of the user in a URL. -/
def credentials? (user : List Char) : Option (List Char × Option (List Char)) :=
  let password := match user.dropWhile (· ≠ ':') with
    | _ :: p => Url.percentDecode? p
    | [] => none
  match Url.percentDecode? (user.takeWhile (· ≠ ':')), password with
  | none, _ | some [], none => none
  | some name, password => some (name, password)

/-- The header that name and password stand for. -/
def basicAuthorization (name : List Char) (password : Option (List Char)) : String :=
  let bytes := Utf8.encode (name ++ ':' :: password.getD [])
  "Basic " ++ String.ofList (Base64.encode bytes)

/-- The longest URL that is requested. -/
def maxUrlLength : Nat := 65534

/-- A URL that a request can hold: it is not too long, and its host is made of plain characters. -/
def fitsRequest (u : Url) : Bool :=
  u.toText.length ≤ maxUrlLength && u.host.all fun c => c ∉ ['"', '\x60', '\x7b', '\x7d']

/-- The request for a URL that has been read. The user in it becomes a header, unless there is a
token. -/
def requestFor (r : Remote) (accept : String) (u : Url) : Except RequestFault Request :=
  let (u, basic) := match credentials? u.user with
    | some (name, password) => ({ u with user := [] }, some (basicAuthorization name password))
    | none => (u, none)
  if !u.isWeb then .error (.badScheme u.toText)
  else if !fitsRequest u then .error (.badForm u.toText)
  else .ok { url := u, accept, userAgent, authorization := r.authorization <|> basic }

/-- The request for a URL with fields in its query. A URL without a host is refused before it gets
any. -/
def request (r : Remote) (accept url : String) (fields : List (String × String)) :
    Except RequestFault Request :=
  let fields := fields.map fun f => (f.1.toList, f.2.toList)
  match Url.parseKnown url.toList with
  | .ok u =>
    if u.host.isEmpty then .error (.badScheme u.toText)
    else r.requestFor accept (u.withFields fields)
  | .error .otherScheme =>
    match ForeignUrl.parse url.toList with
    | .ok u =>
      if u.host.isEmpty then .error (.badScheme u.toText)
      else
        let user := if (credentials? u.user).isSome then [] else u.user
        .error (.badScheme { u.withFields fields with user }.toText)
    | .error fault => .error (.unreadable fault)
  | .error fault => .error (.unreadable fault)

/-- What an answer comes to: `none` if there is nothing under the URL. -/
def judge (url : String) (r : Response) : Except ProviderError (Option Response) :=
  if 200 ≤ r.status ∧ r.status < 300 then .ok (some r)
  else if r.status = 404 then .ok none
  else if Response.isRateLimited r.status r.headers then
    .error (.rateLimited (Response.integerHeader? r.headers "x-ratelimit-reset"))
  else .error (.status r.status url)

variable {m : Type → Type} [Monad m]

/-- Asks for a URL. -/
def get (r : Remote) (transport : Transport m) (accept url : String)
    (fields : List (String × String)) : m (Except ProviderError (Option Response)) := do
  match r.request accept url fields with
  | .error fault => pure (.error (.network url fault.message))
  | .ok request =>
    match ← transport request with
    | .error fault => pure (.error (.network url (fault.message request.url)))
    | .ok response => pure (judge url response)

/-- The text of a file on a branch. -/
def fetch (r : Remote) (transport : Transport m) (owner repo path branch : String) :
    m (Except ProviderError (Option String)) := do
  match ← r.get transport rawType (r.contentsUrl owner repo path) [("ref", branch)] with
  | .error e => pure (.error e)
  | .ok response? => pure (.ok (response?.map (·.text)))

/-- Reads an item of a listing. -/
def readItem? (v : Json) : Option (String × String × String) := do
  let f ← v.fields? 3
  pure (← f.required 0 "name" Json.text?, ← f.required 1 "path" Json.text?,
    ← f.required 2 "type" Json.text?)

/-- The entry of an item, which may be something else than a file or a directory. -/
def entry? (item : String × String × String) : Option DirectoryEntry :=
  (EntryKind.ofName? item.2.2).map fun kind => ⟨item.1, item.2.1, kind⟩

/-- Of fields with one key the last counts. -/
def lastFields : List (String × Json) → List (String × Json)
  | [] => []
  | f :: rest => if rest.any fun g => g.1 == f.1 then lastFields rest else f :: lastFields rest

/-- An item without repeated keys. -/
def withLastFields : Json → Json
  | .object fields => .object (lastFields fields)
  | v => v

/-- Reads the body of a listing. Anything but a list stands for a file, which has no entries. -/
def parseListing? (body : Bytes) : Option (List DirectoryEntry) := do
  match ← Json.parseStrict? (← Utf8.decode? body) with
  | .array items => do
    let items ← items.mapM fun v => readItem? (withLastFields v)
    pure (items.filterMap entry?)
  | _ => pure []

/-- The entries of a directory. -/
def list (r : Remote) (transport : Transport m) (owner repo path : String) :
    m (Except ProviderError (List DirectoryEntry)) := do
  let url := r.contentsUrl owner repo path
  match ← r.get transport listingType url [] with
  | .error e => pure (.error e)
  | .ok none => pure (.ok [])
  | .ok (some response) =>
    match parseListing? response.body with
    | some entries => pure (.ok entries)
    | none => pure (.error (.undecodable url "not a listing"))

/-- The content of repositories behind a transport. -/
def provider (r : Remote) (transport : Transport m) : Provider m where
  fetch := r.fetch transport
  list := r.list transport

end Remote

end SourceAudit
