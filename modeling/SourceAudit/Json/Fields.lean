import SourceAudit.Json.Basic

/-!
# Records in JSON

A record is written as an object. It is read from an object, where keys of no field are passed over
and those of a field must not be repeated, or from the array of its values in order.
-/

namespace SourceAudit.Json

/-- The values of a record by key or by position. -/
inductive Fields where
  | keyed (fields : List (String × Json))
  | listed (items : List Json)

/-- The values of a record with `count` fields. -/
def fields? (count : Nat) : Json → Option Fields
  | object fields => some (.keyed fields)
  | array items => if items.length ≤ count then some (.listed items) else none
  | _ => none

/-- The value of a field, or `none` for it if it is missing; refused if it is repeated. -/
def Fields.value? (f : Fields) (position : Nat) (key : String) : Option (Option Json) :=
  match f with
  | .listed items => some items[position]?
  | .keyed fields =>
    match underKey fields key with
    | [] => some none
    | [v] => some (some v)
    | _ => none

variable {α : Type}

/-- A field that must be there. -/
def Fields.required (f : Fields) (position : Nat) (key : String) (kind : Json → Option α) :
    Option α := do
  kind (← ← f.value? position key)

/-- A field with a default. -/
def Fields.withDefault (f : Fields) (position : Nat) (key : String) (kind : Json → Option α)
    (default : α) : Option α := do
  match ← f.value? position key with
  | none => pure default
  | some v => kind v

/-- A field that is null if it has no value; an object may leave it out. -/
def Fields.nullable (f : Fields) (position : Nat) (key : String) (kind : Json → Option α) :
    Option (Option α) := do
  match ← f.value? position key, f with
  | none, .keyed _ => pure none
  | none, .listed _ => failure
  | some .null, _ => pure none
  | some v, _ => some <$> kind v

/-- A text. -/
def text? : Json → Option String
  | text s => some s
  | _ => none

/-- A natural number below `2 ^ 64`. -/
def natural? : Json → Option Nat
  | natural n => some n
  | _ => none

/-- A truth value. -/
def flag? : Json → Option Bool
  | flag b => some b
  | _ => none

/-- A list. -/
def list? (kind : Json → Option α) : Json → Option (List α)
  | array items => items.mapM kind
  | _ => none

/-- The name of a case: a text, or an object with null under the name. -/
def case? (ofName? : String → Option α) : Json → Option α
  | text s => ofName? s
  | object [(s, null)] => ofName? s
  | _ => none

end SourceAudit.Json
