import CookieAuth.Failure
import CookieAuth.Form.Input
import CookieAuth.Password.Basic
import CookieAuth.Database.Basic

/-!
# Checking credentials

## Main definitions

* `authenticate`: the user of a name and a password;
* `LoginForm`: a submitted name and password;
* `LoginForm.validate`: the active user whom a form names.
-/

namespace CookieAuth

open Text

/-- The user of a name and a password; nobody if the name is unknown or the password is wrong. -/
def authenticate (kdf : Password.KeyDerivation) (db : Database) (username password : String) :
    Except Failure (Option User) :=
  match db.findByUsername username with
  | .error e => .error (.database e)
  | .ok none => .ok none
  | .ok (some user) =>
    match Password.verifyPassword kdf password user.passwordHash with
    | .error e => .error (.passwordHash e.message)
    | .ok true => .ok (some user)
    | .ok false => .ok none

/-- A submitted name and password. -/
structure LoginForm where
  /-- The name. -/
  username : String := ""
  /-- The password. -/
  password : String := ""
  deriving DecidableEq, Repr

namespace LoginForm

/-- The message about a wrong name or password. -/
def invalidLogin : String :=
  "Please enter a correct username and password. Note that both fields may be case-sensitive."

/-- The message about an account that is not active. -/
def inactive : String := "This account is inactive."

/-- The fields of the form. -/
def fields : List String := ["username", "password"]

/-- The form with submitted values. -/
def ofPairs (pairs : List (String × String)) : LoginForm where
  username := Form.value pairs "username"
  password := Form.value pairs "password"

/-- The form in a request. -/
def read (r : Http.Request) : Except FormErrors LoginForm :=
  (Form.read fields r).map ofPairs

/-- The messages about blank fields. -/
def blanks (form : LoginForm) : FormErrors :=
  (FormErrors.empty.require "username" form.username).require "password" form.password

/-- The active user whom a form names.  Blanks around the name do not count. -/
def validate (kdf : Password.KeyDerivation) (db : Database) (form : LoginForm) :
    Except Failure User :=
  if !form.blanks.isEmpty then .error (.validation form.blanks)
  else
    match authenticate kdf db (trim form.username) form.password with
    | .error e => .error e
    | .ok none => .error (.validation (.nonField invalidLogin))
    | .ok (some user) =>
      if user.isActive then .ok user else .error (.validation (.nonField inactive))

end LoginForm

end CookieAuth
