import CookieAuth.Database.User
import CookieAuth.Log
import CookieAuth.Session.Basic

/-!
# Logging in and out

A session is either anonymous or bound to a user.  It is bound if it holds the identifier of a user,
beside the name of what checked the user.

## Main definitions

* `Live.userId`, `Live.backend`: whom the session is bound to, and by what;
* `Live.logIn`, `Live.logOut`: bind the session to a user, and clear it.
-/

namespace CookieAuth

/-- Where a session holds the identifier of the user. -/
def userIdKey : String := "_auth_user_id"

/-- Where a session holds what checked the user. -/
def backendKey : String := "_auth_user_backend"

/-- What checks users by their passwords. -/
def passwordBackend : String := "auth::backends::ModelBackend"

namespace Live

variable (σ : Setting)

/-- The identifier of the user whom the session is bound to. -/
def userId (l : Live) : Except SessionError (Option String) × Live :=
  l.getText σ userIdKey

/-- What checked the user. -/
def backend (l : Live) : Except SessionError (Option String) × Live :=
  l.getText σ backendKey

/-- Leave the state of the session that is bound to somebody, or nobody: the data of another user is
dropped, and otherwise the session gets a fresh identifier. -/
def leave (bound : Option String) (user : User) (l : Live) : Except SessionError Unit × Live :=
  if bound.any (· ≠ user.id) then l.flush else l.cycleId σ

/-- The event of a session being bound. -/
def boundEvent (user : User) (backend : String) : Event where
  level := .debug
  message := "session bound to user"
  fields := [("user_id", user.id), ("backend", backend)]

/-- Bind the session to a user. -/
def logIn (user : User) (backend : String) (l : Live) : Except SessionError Unit × Live :=
  match l.userId σ with
  | (.error e, l) => (.error e, l)
  | (.ok bound, l) =>
    match l.leave σ bound user with
    | (.error e, l) => (.error e, l)
    | (.ok (), l) =>
      match l.insert σ userIdKey (.str user.id) with
      | (.error e, l) => (.error e, l)
      | (.ok (), l) => l.insert σ backendKey (.str backend)

/-- Clear the session. -/
def logOut (l : Live) : Except SessionError Unit × Live :=
  l.flush

end Live

end CookieAuth
