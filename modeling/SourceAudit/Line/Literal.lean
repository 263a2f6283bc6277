import SourceAudit.Pattern.Build

/-!
# Hardcoded values

The kinds of literal that do not belong in source: credentials, addresses, paths and long numbers.
`catalogue` lists them from the most to the least specific. What looks random is known by its Shannon
entropy, the information content of a text in bits per character.
-/

/-! ## Shannon entropy -/

namespace SourceAudit.Entropy

/-- The distinct characters of a text, in order of first appearance. -/
def distinct (text : List Char) : List Char :=
  text.foldl (fun seen c => if seen.contains c then seen else seen ++ [c]) []

/-- What a character that occurs `count` times in `length` adds to the sum. -/
def share (length count : Nat) : Float :=
  let p := count.toFloat / length.toFloat
  (-p) * p.log2

/-- The Shannon entropy of a text. The sum starts from negative zero, so a text of one repeated
character has negative zero and only the empty text has zero. -/
def shannon (text : List Char) : Float :=
  if text.isEmpty then 0
  else (distinct text).foldl (fun sum c => sum + share text.length (text.count c)) (-0.0)

end SourceAudit.Entropy

/-! ## Hardcoded values -/

namespace SourceAudit

/-- A kind of literal: its name, what it is, the text it looks like, and a further test of that
text. -/
structure LiteralKind where
  name : String
  description : String
  pattern : Pattern
  confirms : List Char → Bool := fun _ => true

namespace LiteralKind

open Pattern Text

/-- The first text on the line that is of this kind. -/
def find? (k : LiteralKind) (line : List Char) : Option (List Char) :=
  ((k.pattern.findAll line).map (·.text)).find? k.confirms

/-- An ASCII letter, digit or one of the given marks. -/
def asciiOr (marks : String) (c : Char) : Bool :=
  isAsciiAlphanumeric c || among marks c

/-- As `asciiOr`, with the two characters that equal a letter when case is ignored. -/
def asciiOrAnyCase (marks : String) (c : Char) : Bool :=
  asciiOr marks c || c == 'ſ' || c.toNat == 0x212A

/-- A single or double quote. -/
def isStringQuote : Char → Bool :=
  among "'\""

/-- One to three decimal digits. -/
def octet : Pattern :=
  between 1 3 isDigit

/-- The least entropy of a generated credential, in bits per character. -/
def tokenEntropy : Float := 3.5

/-- The quoted token holds letters and digits and looks random. -/
def looksGenerated (quoted : List Char) : Bool :=
  let token := trimWhile isStringQuote quoted
  token.any isAsciiDigit && token.any isAsciiLetter && Entropy.shannon token ≥ tokenEntropy

/-- A secret, key or token that is assigned a quoted value. A match starts where a word starts,
since the words around the keyword are part of it. -/
def credential : Pattern :=
  wordEdge ++ many isWord ++
    choice [anyCase "password", anyCase "passwd", anyCase "pwd", anyCase "secret",
      anyCase "api" ++ optional (one (among "_-")) ++ anyCase "key", anyCase "apikey",
      anyCase "access" ++ optional (one (among "_-")) ++ anyCase "key",
      anyCase "auth" ++ optional (one (among "_-")) ++ anyCase "token", anyCase "token"] ++
    many isWord ++ optional (one isStringQuote) ++ gap ++ one (among ":=") ++ gap ++
    optional (one (among "fbrFBR")) ++ one isStringQuote ++
    atLeast 4 (fun c => !isStringQuote c && !isBlank c) ++ one isStringQuote

/-- An address of the local machine or of a private network. -/
def privateAddress : Pattern :=
  wordEdge ++
    choice [lit "127.0.0.1", lit "0.0.0.0",
      lit "10." ++ octet ++ lit "." ++ octet ++ lit "." ++ octet,
      lit "192.168." ++ octet ++ lit "." ++ octet,
      lit "172." ++
        choice [lit "1" ++ one (among "6789"), lit "2" ++ one isDigit, lit "3" ++ one (among "01")] ++
        lit "." ++ octet ++ lit "." ++ octet] ++
    wordEdge

/-- A quoted absolute path below a well-known directory or on a drive. -/
def absolutePath : Pattern :=
  one isStringQuote ++
    choice [
      lit "/" ++ words ["var", "etc", "usr", "home", "opt", "tmp", "srv", "root", "mnt", "data",
        "backup", "Users"] ++
        optional (lit "/" ++ many fun c => !isStringQuote c && !isBlank c),
      one isAsciiLetter ++ lit ":\\" ++ many fun c => !isStringQuote c] ++
    one isStringQuote

/-- Every kind of hardcoded value, most specific first. -/
def catalogue : List LiteralKind :=
  [{ name := "Private key"
     description := "PEM encoded private key material"
     pattern := lit "-----BEGIN " ++ optional (words ["RSA ", "DSA ", "EC ", "OPENSSH "]) ++
       lit "PRIVATE KEY-----" },
   { name := "GitHub token"
     description := "GitHub tokens start with 'ghp_', 'gho_', 'ghu_', 'ghs_' or 'ghr_'"
     pattern := lit "gh" ++ one (among "pousr") ++ lit "_" ++ times 36 (one (asciiOr "")) },
   { name := "AWS access key ID"
     description := "AWS access keys start with 'AKIA'"
     pattern := lit "AKIA" ++ times 16 (one fun c => isAsciiDigit c || c.isUpper) },
   { name := "Stripe secret key"
     description := "Stripe secret keys start with 'sk_live_' or 'sk_test_'"
     pattern := one (among "sr") ++ lit "k_" ++ words ["live", "test"] ++ lit "_" ++
       atLeast 24 (asciiOr "") },
   { name := "API secret key"
     description := "Secret keys of the form 'sk-...'"
     pattern := wordEdge ++ lit "sk-" ++ atLeast 20 (asciiOr "") },
   { name := "Slack token"
     description := "Slack tokens start with 'xox'"
     pattern := lit "xox" ++ one (among "baprs") ++ lit "-" ++ between 10 48 (asciiOr "-") },
   { name := "Google API key"
     description := "Google API keys start with 'AIza'"
     pattern := lit "AIza" ++ times 35 (one (asciiOr "-_")) },
   { name := "Bearer token"
     description := "Authorization header value embedded in source"
     pattern := wordEdge ++ anyCase "bearer" ++ space ++ atLeast 16 (asciiOrAnyCase "-_.=") },
   { name := "JWT"
     description := "JSON Web Token embedded in source"
     pattern := lit "eyJ" ++ atLeast 10 (asciiOr "_=-") ++ lit ".eyJ" ++ some1 (asciiOr "_=-") ++
       lit "." ++ many (asciiOr "_.+/=-") },
   { name := "Database connection string"
     description := "Connection URL for a database or broker"
     pattern := wordEdge ++
       choice [anyCase "postgres" ++ optional (anyCase "ql"), anyCase "mysql", anyCase "mariadb",
         anyCase "mongodb" ++ optional (anyCase "+srv"), anyCase "redis", anyCase "amqp",
         anyCase "mssql"] ++
       lit "://" ++ some1 fun c => !isBlank c && !isStringQuote c },
   { name := "Credential assignment"
     description := "Password, secret, key or token assigned a literal value"
     pattern := credential },
   { name := "Loopback or private IP address"
     description := "Network address literal tied to one environment"
     pattern := privateAddress },
   { name := "Localhost hostname"
     description := "Loopback hostname literal"
     pattern := one (among "'\"/@") ++ lit "localhost" ++ wordEdge },
   { name := "Embedded URL"
     description := "Service endpoint written into source"
     pattern := wordEdge ++ lit "http" ++ optional (lit "s") ++ lit "://" ++
       some1 fun c => !isBlank c && notAmong "'\"<>)" c },
   { name := "Absolute file path"
     description := "Filesystem location tied to one machine layout"
     pattern := absolutePath },
   { name := "Long numeric literal"
     description := "Account, phone or size value written inline"
     pattern := wordEdge ++ atLeast 6 isDigit ++ wordEdge },
   { name := "High-entropy token"
     description := "Quoted string that looks like a generated credential"
     pattern := one isStringQuote ++ atLeast 32 (asciiOr "+/_-") ++ atMost 2 (lit "=") ++
       one isStringQuote
     confirms := looksGenerated }]

end LiteralKind

end SourceAudit
