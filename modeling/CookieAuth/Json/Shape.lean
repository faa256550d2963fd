import CookieAuth.Json.Printer

/-!
# Records in JSON

Reading a record with declared fields from a JSON value: an object is read by names, an array by
positions.

## Main definitions

* `Kind`: what a field holds;
* `Shape`: the declared fields of a record;
* `ReadError`: why a value cannot be read;
* `Shape.values`: the values of a record in the declared order.
-/

namespace CookieAuth.Json

open Text

/-- What a field holds. -/
inductive Kind where
  | text
  | optionalText
  | flag
  | integer
  deriving DecidableEq, Repr

/-- The declared fields of a record. -/
structure Shape where
  /-- The name of the record in messages. -/
  name : String
  /-- The fields in the declared order. -/
  fields : List (String × Kind)
  deriving DecidableEq, Repr

/-- Why a value cannot be read. -/
inductive ReadError where
  /-- The value is of another kind. -/
  | wrongKind (found : Json) (expected : String)
  /-- A whole number does not fit into a signed word. -/
  | outOfRange (n : Int)
  /-- An object has no field of this name. -/
  | missing (name : String)
  /-- An array is too short. -/
  | tooShort (length : Nat) (shape : Shape)
  /-- An array is too long. -/
  | tooLong (length : Nat)
  deriving Repr

/-- A value in an error message. -/
def describe : Json → String
  | .null => "null"
  | .bool b => "boolean `" ++ (if b then "true" else "false") ++ "`"
  | .int n => "integer `" ++ toString n ++ "`"
  | .float bits => "floating point `" ++ (Json.float bits).render ++ "`"
  | .str s => "string " ++ quote s
  | .arr _ => "sequence"
  | .obj _ => "map"

/-- The text of an error. -/
def ReadError.message : ReadError → String
  | .wrongKind found expected => "invalid type: " ++ found.describe ++ ", expected " ++ expected
  | .outOfRange n => "invalid value: " ++ (Json.int n).describe ++ ", expected i64"
  | .missing name => "missing field `" ++ name ++ "`"
  | .tooShort length shape =>
    "invalid length " ++ toString length ++ ", expected struct " ++ shape.name ++ " with "
      ++ toString shape.fields.length ++ " elements"
  | .tooLong length => "invalid length " ++ toString length ++ ", expected fewer elements in array"

/-- Why a value is not of a kind. -/
def Kind.error? : Kind → Json → Option ReadError
  | .text, .str _ => none
  | .text, j => some (.wrongKind j "a string")
  | .optionalText, .str _ => none
  | .optionalText, .null => none
  | .optionalText, j => some (.wrongKind j "a string")
  | .flag, .bool _ => none
  | .flag, j => some (.wrongKind j "a boolean")
  | .integer, .int n =>
    if -0x8000000000000000 ≤ n && n < 0x8000000000000000 then none else some (.outOfRange n)
  | .integer, j => some (.wrongKind j "i64")

/-- The first error in the fields of an object, in their order; unknown fields are ignored. -/
def Shape.fieldError? (shape : Shape) (fields : List (String × Json)) : Option ReadError :=
  fields.findSome? fun (name, value) =>
    (shape.fields.lookup name).bind fun kind => kind.error? value

/-- The values of the declared fields of an object; an optional one may be missing. -/
def Shape.collect (shape : Shape) (fields : List (String × Json)) : Except ReadError (List Json) :=
  shape.fields.mapM fun (name, kind) =>
    match fields.lookup name with
    | some value => .ok value
    | none => if kind = .optionalText then .ok .null else .error (.missing name)

/-- The first error in the items of an array. -/
def Shape.itemError? (shape : Shape) (items : List Json) : Option ReadError :=
  (shape.fields.zip items).findSome? fun ((_, kind), value) => kind.error? value

/-- The values of a record in the declared order. -/
def Shape.values (shape : Shape) : Json → Except ReadError (List Json)
  | .obj fields =>
    match shape.fieldError? fields with
    | some e => .error e
    | none => shape.collect fields
  | .arr items =>
    match shape.itemError? items with
    | some e => .error e
    | none =>
      if items.length < shape.fields.length then .error (.tooShort items.length shape)
      else if shape.fields.length < items.length then .error (.tooLong items.length)
      else .ok items
  | j => .error (.wrongKind j ("struct " ++ shape.name))

end CookieAuth.Json
