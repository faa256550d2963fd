import CookieAuth.Form.Errors
import CookieAuth.Form.Urlencoded
import CookieAuth.Http.Request

/-!
# Submitted forms

The fields of a form in a request: in the query of a retrieval and in the body otherwise.

## Main definitions

* `InputError`: why a request holds no form;
* `submitted`: the names and values in a request;
* `firstRepeated?`: the first known field that occurs twice;
* `read`: the submitted values of the known fields of a form.
-/

namespace CookieAuth.Form

open Http

/-- The type of an encoded form. -/
def formType : String := "application/x-www-form-urlencoded"

/-- The greatest length of a body. -/
def bodyLimit : Nat := 2097152

/-- Why a request holds no form. -/
inductive InputError where
  /-- The body is not said to be a form. -/
  | wrongType
  /-- The body is too long. -/
  | tooLong
  /-- A field occurs twice, in the body or in the query. -/
  | repeated (inBody : Bool) (field : String)
  deriving DecidableEq, Repr

/-- The text of an error. -/
def InputError.message : InputError → String
  | .wrongType => "Form requests must have `Content-Type: application/x-www-form-urlencoded`"
  | .tooLong => "Failed to buffer the request body: length limit exceeded"
  | .repeated inBody field =>
    "Failed to deserialize form" ++ (if inBody then " body" else "") ++ ": duplicate field `"
      ++ field ++ "`"

/-- Whether the body is said to be a form. -/
def hasFormType (r : Request) : Bool :=
  match (r.values "content-type").head?.bind visibleText? with
  | some text => formType.toList.isPrefixOf text.toList
  | none => false

/-- The names and values in a request. -/
def submitted (r : Request) : Except InputError (List (String × String)) :=
  if r.method = "GET" then .ok (Urlencoded.pairs (Text.bytesOf r.query))
  else if !hasFormType r then .error .wrongType
  else if bodyLimit < r.body.length then .error .tooLong
  else .ok (Urlencoded.pairs r.body)

/-- The first known field that occurred before, where the fields `seen` have occurred. -/
def firstRepeatedFrom? (known seen : List String) : List (String × String) → Option String
  | [] => none
  | (name, _) :: rest =>
    if known.contains name then
      if seen.contains name then some name else firstRepeatedFrom? known (name :: seen) rest
    else firstRepeatedFrom? known seen rest

/-- The first known field that occurs twice. -/
def firstRepeated? (known : List String) (pairs : List (String × String)) : Option String :=
  firstRepeatedFrom? known [] pairs

/-- The submitted names and values, if no known field occurs twice. -/
def readPairs (known : List String) (r : Request) : Except InputError (List (String × String)) :=
  match submitted r with
  | .error e => .error e
  | .ok pairs =>
    match firstRepeated? known pairs with
    | some field => .error (.repeated (r.method ≠ "GET" && r.method ≠ "HEAD") field)
    | none => .ok pairs

/-- The value of a field, empty if it was not submitted. -/
def value (pairs : List (String × String)) (field : String) : String :=
  (pairs.lookup field).getD ""

/-- The submitted names and values; a request without a form is an error of the form as a whole. -/
def read (known : List String) (r : Request) : Except FormErrors (List (String × String)) :=
  match readPairs known r with
  | .ok pairs => .ok pairs
  | .error e => .error (.nonField e.message)

end CookieAuth.Form
