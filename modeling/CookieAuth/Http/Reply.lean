import CookieAuth.Http.SetCookie
import CookieAuth.Json.Printer

/-!
# Replies

## Main definitions

* `Reply`: a status, headers and a body;
* `Reply.headers`: the headers, sorted by name;
* `Reply.ofJson`: a reply with a JSON body.
-/

namespace CookieAuth.Http

/-- A reply. -/
structure Reply where
  /-- The status. -/
  status : Nat
  /-- The type of the body. -/
  contentType : Option String := none
  /-- The methods that would be allowed. -/
  allow : Option String := none
  /-- The body. -/
  body : String := ""
  /-- The length of the body in bytes, or of the one that was left out. -/
  length : Nat := body.utf8ByteSize
  /-- What happens to the session cookie. -/
  setCookie : Option SetCookie := none
  deriving DecidableEq, Repr

namespace Reply

/-- The headers, sorted by name. -/
def headers (r : Reply) : List (String × String) :=
  (r.allow.map ("allow", ·)).toList ++ [("content-length", toString r.length)]
    ++ (r.contentType.map ("content-type", ·)).toList

/-- A reply with a JSON body. -/
def ofJson (status : Nat) (body : Json) : Reply :=
  { status, contentType := some "application/json", body := body.render }

/-- A reply with a text. -/
def ofText (status : Nat) (body : String) : Reply :=
  { status, contentType := some "text/plain; charset=utf-8", body }

/-- The reply without its body, of which the length stays. -/
def withoutBody (r : Reply) : Reply :=
  { r with body := "" }

end Reply

end CookieAuth.Http
