import SourceAudit.NameSet
import SourceAudit.Text.Case
import SourceAudit.Text.Lines
import SourceAudit.Text.Word

/-!
# Dependency policies

A manifest lists the packages that a repository uses, one on a line, and denies others on lines that
start with a negation keyword. `Policy.parse` reads a manifest into the set of allowed and the set
of forbidden packages; names are compared in a normal form.
-/

namespace SourceAudit

open Text

/-- The normal form of a package or module name: no white space around it, lower case, and a hyphen
for every underscore and dot. -/
def normalizeChars (name : List Char) : List Char :=
  (lower (trim name)).map fun c => if c == '_' || c == '.' then '-' else c

/-- The normal form of a name. -/
def normalizeName (name : String) : String :=
  String.ofList (normalizeChars name.toList)

/-- Modules whose package is published under another name: the module in normal form, and the
package. -/
def packageAliases : List (String × String) :=
  [("sklearn", "scikit-learn"), ("skimage", "scikit-image"), ("cv2", "opencv-python"),
   ("yaml", "pyyaml"), ("pil", "pillow"), ("bs4", "beautifulsoup4"),
   ("dateutil", "python-dateutil"), ("dotenv", "python-dotenv"), ("jwt", "pyjwt"),
   ("attr", "attrs"), ("magic", "python-magic"), ("serial", "pyserial"), ("usb", "pyusb"),
   ("crypto", "pycryptodome"), ("google", "google-api-python-client"),
   ("psycopg2", "psycopg2-binary"), ("mysqldb", "mysqlclient"), ("zmq", "pyzmq")]

/-- The keywords that make a manifest line a denial. -/
def negationKeywords : List (List Char) :=
  ["no ".toList, "forbidden ".toList]

/-- A character of a package name. -/
def isPackageChar (c : Char) : Bool :=
  isAsciiAlphanumeric c || c == '.' || c == '_' || c == '-'

/-- What one line of a manifest says. -/
inductive ManifestItem where
  | allow (name : String)
  | deny (name : String)
deriving DecidableEq, Repr

/-- The text after the first `n` bytes of its UTF-8 form, if these end with a character. -/
def dropBytes : Nat → List Char → Option (List Char)
  | 0, s => some s
  | _ + 1, [] => none
  | n + 1, c :: r => if c.utf8Size ≤ n + 1 then dropBytes (n + 1 - c.utf8Size) r else none

/-- What a denial denies: the text after the keyword that the lower case of the line starts with.
The keyword's length is taken from the line itself, whose bytes may be fewer or more than those of
its lower case. -/
def afterNegation (line : List Char) : Option (List Char) :=
  match negationKeywords.find? fun k => k.isPrefixOf (lower line) with
  | none => none
  | some k => (dropBytes k.length line).map trim

/-- What a line of a manifest says, if it says anything. -/
def ManifestItem.parse? (raw : List Char) : Option ManifestItem :=
  let line := trim raw
  if line.isEmpty || line.head? == some '#' then none
  else
    match afterNegation line with
    | some rest =>
      let name := trim (rest.takeWhile (· != '#'))
      if name.isEmpty then none else some (.deny (String.ofList (normalizeChars name)))
    | none =>
      if line.head? == some '-' then none
      else
        let name := line.takeWhile isPackageChar
        if name.isEmpty then none else some (.allow (String.ofList (normalizeChars name)))

/-- The packages that a manifest allows and those that it forbids, in normal form. -/
structure Policy where
  allowed : NameSet
  forbidden : NameSet
deriving DecidableEq

namespace Policy

/-- The policy of an empty manifest. -/
def empty : Policy := ⟨∅, ∅⟩

/-- The policy with one more item. -/
def add (p : Policy) : ManifestItem → Policy
  | .allow name => { p with allowed := p.allowed.insert name }
  | .deny name => { p with forbidden := p.forbidden.insert name }

/-- The policy of the items of a manifest. -/
def ofItems (items : List ManifestItem) : Policy :=
  items.foldl add empty

/-- Reads a manifest. -/
def parse (manifest : String) : Policy :=
  ofItems ((lines manifest.toList).filterMap ManifestItem.parse?)

/-- The package is allowed. -/
def isAllowed (p : Policy) (name : String) : Bool :=
  p.allowed.contains (normalizeName name)

/-- The package is forbidden. -/
def isForbidden (p : Policy) (name : String) : Bool :=
  p.forbidden.contains (normalizeName name)

/-- The packages under whose name a module may be published besides its own. -/
def aliasesOf (module : String) : List String :=
  (packageAliases.filter fun a => a.1 == normalizeName module).map (·.2)

/-- The module belongs to an allowed package. -/
def declares (p : Policy) (module : String) : Bool :=
  p.isAllowed module || (aliasesOf module).any p.allowed.contains

/-- The module belongs to a forbidden package. -/
def denies (p : Policy) (module : String) : Bool :=
  p.isForbidden module || (aliasesOf module).any p.forbidden.contains

end Policy

end SourceAudit
