/-!
# JSON values

The values of JSON documents, as far as anything here depends on them.
-/

namespace SourceAudit

/-- A value of a JSON document. Of a number that is no natural number below `2 ^ 64` only the order
of magnitude is kept, of a text with half a surrogate pair nothing, and of an object with such a key
only the values. -/
inductive Json where
  | null
  | flag (b : Bool)
  | natural (n : Nat)
  | otherNumber (isFinite : Bool)
  | text (s : String)
  | brokenText
  | array (items : List Json)
  | object (fields : List (String × Json))
  | brokenObject (values : List Json)

namespace Json

/-- The list of texts as a value. -/
def texts (l : List String) : Json :=
  array (l.map text)

/-- The values under a key, in order. -/
def underKey (fields : List (String × Json)) (key : String) : List Json :=
  (fields.filter fun f => f.1 == key).map (·.2)

mutual

/-- How many arrays and objects are inside one another at most. -/
def depth : Json → Nat
  | array items => depthOfItems items + 1
  | object fields => depthOfFields fields + 1
  | brokenObject values => depthOfItems values + 1
  | _ => 0

/-- The greatest depth of a list of values. -/
def depthOfItems : List Json → Nat
  | [] => 0
  | v :: rest => max (depth v) (depthOfItems rest)

/-- The greatest depth of the values of fields. -/
def depthOfFields : List (String × Json) → Nat
  | [] => 0
  | (_, v) :: rest => max (depth v) (depthOfFields rest)

end

mutual

/-- Every number of a value is finite and every text of it is well-formed. -/
def isPlain : Json → Bool
  | otherNumber isFinite => isFinite
  | brokenText | brokenObject _ => false
  | array items => arePlainItems items
  | object fields => arePlainFields fields
  | _ => true

/-- Every value of a list is plain. -/
def arePlainItems : List Json → Bool
  | [] => true
  | v :: rest => isPlain v && arePlainItems rest

/-- Every value of fields is plain. -/
def arePlainFields : List (String × Json) → Bool
  | [] => true
  | (_, v) :: rest => isPlain v && arePlainFields rest

end

end Json

end SourceAudit
