import CookieAuth.Text.Base64
import CookieAuth.Text.Integer
import CookieAuth.Text.Split

/-!
# Stored password hashes

The text form in which a password hash is kept: fields between dollar signs, in the order algorithm,
version, parameters, salt and output, of which only the algorithm is required.

## Main definitions

* `StoredHash`: the fields of a stored hash;
* `StoredHash.parse`: the fields of a text, or the first thing that is wrong with it;
* `StoredHash.render`: the text of a stored hash;
* `HashError`: what can be wrong, with its wording in `HashError.message`.
-/

namespace CookieAuth.Password

open Text

/-- What can be wrong with a value: a version, a parameter's value or a salt. -/
inductive ValueError where
  | tooShort
  | tooLong
  | invalidChar (c : Char)
  | malformed
  | invalidFormat
  deriving DecidableEq, Repr

/-- The wording of a value error. -/
def ValueError.message : ValueError → String
  | .tooShort => "value to short"
  | .tooLong => "value to long"
  | .invalidChar c => "contains invalid character: '" ++ c.toString ++ "'"
  | .malformed => "value malformed"
  | .invalidFormat => "value format is invalid"

/-- What can be wrong with the text of a stored hash. -/
inductive HashError where
  | missingField
  | trailingField
  | invalidName
  | tooManyParams
  | invalidValue (e : ValueError)
  | invalidSalt (e : ValueError)
  | outputLength
  | outputEncoding
  | outputTooShort
  deriving DecidableEq, Repr

/-- The wording of an error. -/
def HashError.message : HashError → String
  | .missingField => "password hash string missing field"
  | .trailingField => "password hash string contains trailing characters"
  | .invalidName => "invalid parameter name"
  | .tooManyParams => "maximum number of parameters reached"
  | .invalidValue e => "invalid parameter value: " ++ e.message
  | .invalidSalt e => "salt invalid: " ++ e.message
  | .outputLength => "invalid Base64 length"
  | .outputEncoding => "invalid Base64 encoding"
  | .outputTooShort => "output size too short, expected at least 10 bytes"

/-- The fields of a stored hash.  The salt stays in its written form, because reading one does not
decode it. -/
structure StoredHash where
  /-- The name of the algorithm. -/
  algorithm : String
  /-- The version of the algorithm. -/
  version : Option Nat
  /-- The parameters in order. -/
  params : List (String × String)
  /-- The salt as written. -/
  salt : Option String
  /-- The output. -/
  output : Option (List UInt8)
  deriving DecidableEq, Repr

/-! ### Reading -/

/-- The characters of names. -/
def isNameChar (c : Char) : Bool :=
  ('a' ≤ c && c ≤ 'z') || ('0' ≤ c && c ≤ '9') || c = '-'

/-- The characters of values. -/
def isValueChar (c : Char) : Bool :=
  ('a' ≤ c && c ≤ 'z') || ('A' ≤ c && c ≤ 'Z') || ('0' ≤ c && c ≤ '9')
    || c = '/' || c = '+' || c = '.' || c = '-'

/-- A name has between 1 and 32 characters. -/
def readName (s : String) : Except HashError String :=
  if s.isEmpty || 32 < s.utf8ByteSize || !s.toList.all isNameChar then .error .invalidName
  else .ok s

/-- The first thing that is wrong with a value. -/
def checkValue (s : String) : Except ValueError Unit :=
  if 64 < s.utf8ByteSize then .error .tooLong
  else
    match s.toList.find? (!isValueChar ·) with
    | some c => .error (.invalidChar c)
    | none => .ok ()

/-- The number that a value stands for: digits without a superfluous zero, below `2 ^ 32`. -/
def readDecimal (s : String) : Except ValueError Nat :=
  if s.isEmpty then .error .malformed
  else
    match s.toList.find? (fun c => (Integer.digit? c).isNone) with
    | some c => .error (.invalidChar c)
    | none =>
      if s.startsWith "0" && 1 < s.length then .error .invalidFormat
      else
        match Integer.read ⟨0, 4294967295⟩ s with
        | .ok n => .ok n.toNat
        | .error _ => .error .invalidFormat

/-- A version field, without the letter and the equality sign. -/
def readVersion (s : String) : Except HashError Nat :=
  match checkValue s with
  | .error e => .error (.invalidValue e)
  | .ok () =>
    match readDecimal s with
    | .error e => .error (.invalidValue e)
    | .ok n => .ok n

/-- One parameter: a name, an equality sign and a value, which may be empty. -/
def readParam (s : String) : Except HashError (String × String) :=
  match splitAll '=' s.toList with
  | [] => .error .invalidName
  | name :: rest =>
    match readName (String.ofList name) with
    | .error e => .error e
    | .ok name =>
      match rest with
      | [] => .error (.invalidValue .malformed)
      | value :: more =>
        match checkValue (String.ofList value) with
        | .error e => .error (.invalidValue e)
        | .ok () =>
          -- a second equality sign is looked at only after the value before it
          if more.isEmpty then .ok (name, String.ofList value)
          else .error (.invalidValue .malformed)

/-- A field of parameters between commas, at most 127 bytes long. -/
def readParams (s : String) : Except HashError (List (String × String)) :=
  if 127 < s.utf8ByteSize then .error .tooManyParams
  else (splitAll ',' s.toList).mapM fun cs => readParam (String.ofList cs)

/-- A salt has between 4 and 64 characters. -/
def readSalt (s : String) : Except HashError String :=
  if s.utf8ByteSize < 4 then .error (.invalidSalt .tooShort)
  else
    match checkValue s with
    | .error e => .error (.invalidSalt e)
    | .ok () => .ok s

/-- The number of bytes that so many letters can hold. -/
def decodedLength (letters : Nat) : Nat :=
  3 * (letters / 4) + 3 * (letters % 4) / 4

/-- An output has between 10 and 64 bytes. -/
def readOutput (s : String) : Except HashError (List UInt8) :=
  if 64 < decodedLength s.utf8ByteSize then .error .outputLength
  else
    match Base64.decode? Base64.standard s with
    | none => .error .outputEncoding
    | some bytes => if bytes.length < 10 then .error .outputTooShort else .ok bytes

/-- Whether a field is a version: it starts like one and is not a list of parameters. -/
def isVersionField (s : String) : Bool :=
  s.startsWith "v=" && !s.toList.contains ','

/-- Read an optional field: no field, no value. -/
def readOptional {α : Type} (read : String → Except HashError α) :
    Option String → Except HashError (Option α)
  | none => .ok none
  | some s => (read s).map some

/-- Take the next field as a version if it is one. -/
def takeVersion : List String → Except HashError (Option Nat × List String)
  | [] => .ok (none, [])
  | field :: rest =>
    if isVersionField field then
      (readVersion (String.ofList (field.toList.drop 2))).map fun v => (some v, rest)
    else .ok (none, field :: rest)

/-- Take the next field as parameters if it has an equality sign. -/
def takeParams : List String → Except HashError (List (String × String) × List String)
  | [] => .ok ([], [])
  | field :: rest =>
    if field.toList.contains '=' then (readParams field).map fun ps => (ps, rest)
    else .ok ([], field :: rest)

/-- The fields after the algorithm. -/
def readFields (algorithm : String) (fields : List String) : Except HashError StoredHash := do
  let (version, fields) ← takeVersion fields
  let (params, fields) ← takeParams fields
  let salt ← readOptional readSalt fields[0]?
  let output ← readOptional readOutput fields[1]?
  -- errors in the salt and the output come before the one about what follows them
  if 2 < fields.length then .error .trailingField
  else .ok { algorithm, version, params, salt, output }

namespace StoredHash

/-- The stored hash that a text stands for. -/
def parse (s : String) : Except HashError StoredHash :=
  match (splitAll '$' s.toList).map String.ofList with
  | before :: algorithm :: fields =>
    if before.isEmpty then (readName algorithm).bind fun name => readFields name fields
    else .error .missingField
  | _ => .error .missingField

/-- The text of a stored hash. -/
def render (h : StoredHash) : String :=
  let version := h.version.map fun v => "v=" ++ toString v
  let params := if h.params.isEmpty then none
    else some (",".intercalate (h.params.map fun (name, value) => name ++ "=" ++ value))
  let output := h.output.map (Base64.encode Base64.standard)
  let fields := [version, params, h.salt, output].filterMap id
  "$" ++ "$".intercalate (h.algorithm :: fields)

end StoredHash

end CookieAuth.Password
