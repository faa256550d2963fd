import CookieAuth.Json.Basic
import CookieAuth.Text.Blank
import CookieAuth.Text.Quoted

/-!
# Errors in forms

The messages about a form, by field.  Fields stand in increasing order and messages in the order in
which they were added.

## Main definitions

* `FormErrors`: messages by field;
* `FormErrors.add`, `FormErrors.require`, `FormErrors.merge`: recording messages;
* `FormErrors.has`, `FormErrors.get?`: asking for them.
-/

namespace CookieAuth

open Text

/-- Messages by field, in increasing order of fields. -/
structure FormErrors where
  /-- The fields with their messages. -/
  entries : List (String × List String) := []
  deriving DecidableEq, Repr

/-- What a check reports about a field: a code, and a message unless the code says it all. -/
structure Finding where
  /-- The field. -/
  field : String
  /-- What kind of check failed. -/
  code : String
  /-- The message. -/
  message : Option String := none
  deriving DecidableEq, Repr

/-- The message of a finding. -/
def Finding.text (f : Finding) : String :=
  f.message.getD f.code

namespace FormErrors

/-- Where messages about the form as a whole stand. -/
def wholeForm : String := "__all__"

/-- The message about a blank field. -/
def required : String := "This field is required."

/-- No messages. -/
def empty : FormErrors := {}

/-- Add a message to the entry of a field, keeping the order of fields. -/
def insert (field message : String) : List (String × List String) → List (String × List String)
  | [] => [(field, [message])]
  | (other, messages) :: rest =>
    if field < other then (field, [message]) :: (other, messages) :: rest
    else if field = other then (other, messages ++ [message]) :: rest
    else (other, messages) :: insert field message rest

/-- Record a message about a field. -/
def add (errors : FormErrors) (field message : String) : FormErrors :=
  ⟨insert field message errors.entries⟩

/-- A single message about the form as a whole. -/
def nonField (message : String) : FormErrors :=
  empty.add wholeForm message

/-- Record that a field is required if its value is blank. -/
def require (errors : FormErrors) (field value : String) : FormErrors :=
  if isBlankText value then errors.add field required else errors

/-- The messages about a field. -/
def get? (errors : FormErrors) (field : String) : Option (List String) :=
  errors.entries.lookup field

/-- Whether there are messages about a field. -/
def has (errors : FormErrors) (field : String) : Bool :=
  (errors.get? field).isSome

/-- Whether there are no messages. -/
def isEmpty (errors : FormErrors) : Bool :=
  errors.entries.isEmpty

/-- Record findings in order, except for fields that had messages before. -/
def merge (errors : FormErrors) (findings : List Finding) : FormErrors :=
  (findings.filter fun f => !errors.has f.field).foldl (fun e f => e.add f.field f.text) errors

/-- The messages as a JSON object. -/
def toJson (errors : FormErrors) : Json :=
  .obj (errors.entries.map fun (field, messages) => (field, .arr (messages.map .str)))

/-- A list of texts, each in quotes. -/
def quotedList (texts : List String) : String :=
  "[" ++ ", ".intercalate (texts.map quote) ++ "]"

/-- The text of all messages. -/
def text (errors : FormErrors) : String :=
  let entry := fun (field, messages) => quote field ++ ": " ++ quotedList messages
  "FormErrors(\x7b" ++ ", ".intercalate (errors.entries.map entry) ++ "\x7d)"

end FormErrors

end CookieAuth
