import CookieAuth.Text.Lowercase
import CookieAuth.Text.Split
import CookieAuth.Text.Utf8

/-!
# Requests

## Main definitions

* `Request`: a method, a target, headers and a body;
* `Request.path`, `Request.query`: the parts of the target;
* `Request.values`: the values of a header;
* `visibleText?`: a header value as text, if all its characters are visible.
-/

namespace CookieAuth.Http

open Text

/-- A request. -/
structure Request where
  /-- The method, as it is written. -/
  method : String
  /-- The target, with a query and a fragment if there are any. -/
  target : String
  /-- The headers in order. -/
  headers : List (String × List UInt8) := []
  /-- The body. -/
  body : List UInt8 := []
  deriving DecidableEq, Repr

/-- The part of a list before a separator, or all of it. -/
def before (sep : Char) (cs : List Char) : List Char :=
  ((splitFirst? sep cs).map (·.1)).getD cs

/-- The part of a list after a separator, or nothing. -/
def after (sep : Char) (cs : List Char) : List Char :=
  ((splitFirst? sep cs).map (·.2)).getD []

/-- The path of a location without query: a location that names a scheme and a host has its path
after these. -/
def pathOf (cs : List Char) : List Char :=
  match splitFirst? ':' cs with
  | some (_, '/' :: '/' :: rest) =>
    if cs.head? = some '/' then cs else '/' :: after '/' rest
  | _ => cs

/-- The path, neither decoded nor normalized. -/
def Request.path (r : Request) : String :=
  String.ofList (pathOf (before '?' (before '#' r.target.toList)))

/-- The query, empty if there is none. -/
def Request.query (r : Request) : String :=
  String.ofList (after '?' (before '#' r.target.toList))

/-- Whether a header is of a name, whatever its case. -/
def isNamed (name header : String) : Bool :=
  header.toList.map lowerAscii == name.toList

/-- The values of a header in order. -/
def Request.values (r : Request) (name : String) : List (List UInt8) :=
  (r.headers.filter fun (header, _) => isNamed name header).map (·.2)

/-- Whether a byte is a visible character, a blank or a tabulator. -/
def isVisible (b : UInt8) : Bool :=
  b == 9 || (0x20 ≤ b && b < 0x7F)

/-- A header value as text, if all its characters are visible. -/
def visibleText? (value : List UInt8) : Option String :=
  if value.all isVisible then some (String.ofList (value.map fun b => Char.ofNat b.toNat)) else none

end CookieAuth.Http
