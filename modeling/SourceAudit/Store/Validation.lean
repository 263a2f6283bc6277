import SourceAudit.Store.Record
import SourceAudit.Text.Blank
import SourceAudit.Url.Basic

/-!
# Validation

What a store requires of the fields that it is given.
-/

namespace SourceAudit

/-- Why a field is refused. -/
inductive ValidationError where
  | empty (field : String)
  | tooLong (field : String) (max length : Nat)
  | controlCharacters (field : String)
  | badCharacters (field value : String)
  | badIdentifier (field value : String)
deriving DecidableEq, Repr

/-- The text of an error. -/
def ValidationError.message : ValidationError → String
  | empty field => "Field '" ++ field ++ "' must not be empty"
  | tooLong field max length =>
    "Field '" ++ field ++ "' is " ++ length.repr ++ " characters long (max " ++ max.repr ++ ")"
  | controlCharacters field => "Field '" ++ field ++ "' contains control characters"
  | badCharacters field value =>
    "Field '" ++ field ++ "' contains invalid characters: '" ++ value ++ "'"
  | badIdentifier field value => "Malformed identifier for '" ++ field ++ "': '" ++ value ++ "'"

namespace Validation

/-- The longest owner, name or rule. -/
def maxName : Nat := 100

/-- The longest path of a file. -/
def maxPath : Nat := 1024

/-- The longest description or reason. -/
def maxDescription : Nat := 2000

/-- The longest URL. -/
def maxUrl : Nat := 2048

/-- The digits of an identity. -/
def idLength : Nat := 64

/-- A text has more than white space, is not too long and is free of control characters. -/
def text (field value : String) (max : Nat) : Except ValidationError Unit :=
  if (Text.trim value.toList).isEmpty then .error (.empty field)
  else if max < value.length then .error (.tooLong field max value.length)
  else if value.toList.any Text.isControl then .error (.controlCharacters field)
  else .ok ()

/-- A character of owners and names. -/
def isNameChar (c : Char) : Bool :=
  Text.isAsciiAlphanumeric c || c ∈ ['-', '_', '.']

/-- An owner or name is made of name characters and does not stand for a directory. -/
def name (field value : String) : Except ValidationError Unit :=
  match text field value maxName with
  | .error e => .error e
  | .ok () =>
    if value.toList.all isNameChar && value ≠ "." && value ≠ ".." then .ok ()
    else .error (.badCharacters field value)

/-- A URL leads to the web or to a file. -/
def url (value : String) : Except ValidationError Unit :=
  match text "url" value maxUrl with
  | .error e => .error e
  | .ok () =>
    match Url.parse value.toList with
    | .ok _ => .ok ()
    | .error _ => .error (.badCharacters "url" value)

/-- The path of a file is a text. -/
def path (value : String) : Except ValidationError Unit :=
  text "file_path" value maxPath

/-- A description or a reason is a text. -/
def description (field value : String) : Except ValidationError Unit :=
  text field value maxDescription

/-- A hexadecimal digit in lower case. -/
def isIdDigit (c : Char) : Bool :=
  Text.isAsciiDigit c || ('a' ≤ c && c ≤ 'f')

/-- An identity is made of the right number of digits. -/
def id (field value : String) : Except ValidationError Unit :=
  if value.utf8ByteSize = idLength && value.toList.all isIdDigit then .ok ()
  else .error (.badIdentifier field (String.ofList (value.toList.take (idLength + 8))))

/-- A violation is fit to be recorded. -/
def newViolation (v : NewViolation) : Except ValidationError Unit := do
  id "audit_id" v.auditId
  id "repository_id" v.repositoryId
  path v.filePath
  text "rule_id" v.ruleId maxName
  description "description" v.description
  if v.lineNumber = some 0 then .error (.badIdentifier "line_number" "0") else .ok ()

end Validation

end SourceAudit
