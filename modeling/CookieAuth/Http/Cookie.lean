import CookieAuth.Http.Request
import CookieAuth.Text.Blank
import CookieAuth.Text.Percent

/-!
# Cookies of a request

A header holds segments with semicolons between them.  A segment is a name, an equals sign and a
value, with blanks around either; other segments, and those with an empty name, are skipped.

## Main definitions

* `cookiePairs`: the names and values in a header;
* `Request.firstCookie?`: the value of the first cookie of a name, as it is written;
* `Request.lastCookie?`: the value of the last cookie of a name, with escapes decoded.
-/

namespace CookieAuth.Http

open Text

/-- The name and the value in a segment. -/
def cookiePair? (segment : List Char) : Option (String × String) :=
  match splitFirst? '=' segment with
  | none => none
  | some (name, value) =>
    let name := trimList name
    if name.isEmpty then none
    else some (String.ofList name, String.ofList (trimList value))

/-- The names and values in a header. -/
def cookiePairs (header : String) : List (String × String) :=
  (splitAll ';' header.toList).filterMap cookiePair?

/-- The headers that hold cookies. -/
def cookieHeader : String := "cookie"

/-- The value of the first cookie of a name in the headers that consist of visible characters. -/
def Request.firstCookie? (r : Request) (name : String) : Option String :=
  (((r.values cookieHeader).filterMap visibleText?).flatMap cookiePairs).lookup name

/-- A text with its escapes decoded. -/
def unescape? (s : String) : Option String :=
  readText? (percentDecode (bytesOf s))

/-- A name and a value with their escapes decoded. -/
def unescapePair? : String × String → Option (String × String)
  | (name, value) =>
    match unescape? name, unescape? value with
    | some name, some value => some (name, value)
    | _, _ => none

/-- The value of the last cookie of a name, with escapes decoded, in the headers that are text. -/
def Request.lastCookie? (r : Request) (name : String) : Option String :=
  let pairs := ((r.values cookieHeader).filterMap readText?).flatMap cookiePairs
  (pairs.filterMap unescapePair?).reverse.lookup name

end CookieAuth.Http
