import CookieAuth.Http.Cookie

/-!
# Protection against forged requests

A request that may change something has to repeat the value of a cookie in a header: a page of
another site can make a browser send the cookie, but cannot read it.

## Main definitions

* `isSafe`: methods that change nothing;
* `Request.tokenMatches`: whether header and cookie agree;
* `Request.passesCsrf`: whether a request may go on.
-/

namespace CookieAuth.Http

/-- The cookie with the token. -/
def csrfCookie : String := "csrftoken"

/-- The header with the token. -/
def csrfHeader : String := "x-csrftoken"

/-- The answer to a request without the token. -/
def csrfFailure : String := "CSRF verification failed. Request aborted."

/-- The methods that change nothing. -/
def isSafe (method : String) : Bool :=
  ["GET", "HEAD", "OPTIONS", "TRACE"].contains method

/-- Whether the cookie is not empty and equals the first header. -/
def Request.tokenMatches (r : Request) : Bool :=
  match r.firstCookie? csrfCookie, (r.values csrfHeader).head?.bind visibleText? with
  | some cookie, some header => !cookie.isEmpty && cookie == header
  | _, _ => false

/-- Whether a request may go on. -/
def Request.passesCsrf (r : Request) (protection : Bool) : Bool :=
  !protection || isSafe r.method || r.tokenMatches

end CookieAuth.Http
