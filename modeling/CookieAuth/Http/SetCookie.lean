import CookieAuth.Session.Id

/-!
# Cookies of a reply

## Main definitions

* `SetCookie`: what a reply does with the session cookie of the sender;
* `SetCookie.text`: the value of the header.
-/

namespace CookieAuth.Http

/-- What a reply does with the session cookie of the sender. -/
inductive SetCookie where
  /-- The cookie is removed. -/
  | remove
  /-- The cookie is set to an identifier, for some seconds or until the browser is closed. -/
  | issue (id : SessionId) (maxAge : Option Int)
  deriving DecidableEq, Repr

/-- The name of the session cookie. -/
def sessionCookie : String := "id"

/-- The value of the header. -/
def SetCookie.text : SetCookie → String
  | .remove => sessionCookie ++ "=; Path=/; Max-Age=0"
  | .issue id maxAge =>
    sessionCookie ++ "=" ++ id.text ++ "; HttpOnly; SameSite=Strict; Secure; Path=/"
      ++ match maxAge with
        | none => ""
        | some seconds => "; Max-Age=" ++ toString seconds

end CookieAuth.Http
