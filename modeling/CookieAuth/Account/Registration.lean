import CookieAuth.Email.Address
import CookieAuth.Failure
import CookieAuth.Form.Input
import CookieAuth.Service.Basic
import CookieAuth.Text.Alphanumeric

/-!
# Registration

## Main definitions

* `RegistrationForm`: a submitted form;
* `RegistrationForm.validate`: the account that a form describes, or the messages about its fields;
* `World.createUser`: a new user;
* `World.register`: a new user with an account.
-/

namespace CookieAuth

open Text Email Time

/-- A submitted form. -/
structure RegistrationForm where
  /-- The name. -/
  username : String := ""
  /-- The mail address. -/
  email : String := ""
  /-- The password. -/
  password1 : String := ""
  /-- The password again. -/
  password2 : String := ""
  deriving DecidableEq, Repr

/-- An account that can be made. -/
structure NewAccount where
  /-- The name. -/
  username : String
  /-- The mail address. -/
  email : String
  /-- The password. -/
  password : String
  deriving DecidableEq, Repr

/-- Letters, digits and five signs make up names. -/
def isUsernameChar (c : Char) : Bool :=
  isAlphanumeric c || c = '@' || c = '.' || c = '+' || c = '-' || c = '_'

/-- The texts that consist of such characters. -/
def isValidUsername (s : String) : Bool :=
  s.toList.all isUsernameChar

namespace RegistrationForm

/-- The message about a name with other characters. -/
def invalidUsername : String :=
  "Enter a valid username. This value may contain only letters, numbers, and @/./+/-/_ characters."

/-- The message about a name that is too long. -/
def longUsername : String := "Ensure this value has at most 150 characters."

/-- The message about a name that is taken. -/
def duplicateUsername : String := "A user with that username already exists."

/-- The message about a malformed address. -/
def invalidEmail : String := "Enter a valid email address."

/-- The message about an address that is taken. -/
def duplicateEmail : String := "A user with that email address already exists."

/-- The message about a short password. -/
def shortPassword : String :=
  "This password is too short. It must contain at least 8 characters."

/-- The message about two different passwords. -/
def passwordMismatch : String := "The two password fields didn't match."

/-- The fields of the form. -/
def fields : List String := ["username", "email", "password1", "password2"]

/-- The form with submitted values. -/
def ofPairs (pairs : List (String × String)) : RegistrationForm where
  username := Form.value pairs "username"
  email := Form.value pairs "email"
  password1 := Form.value pairs "password1"
  password2 := Form.value pairs "password2"

/-- The form in a request. -/
def read (r : Http.Request) : Except FormErrors RegistrationForm :=
  (Form.read fields r).map ofPairs

/-- The form without blanks around name and address, and with the host in lower case. -/
def cleaned (form : RegistrationForm) : RegistrationForm :=
  { form with
    username := trim form.username
    email := normalizeEmail form.email }

/-- What is wrong with the fields, apart from blank fields and the characters of the name. -/
def findings (form : RegistrationForm) : List Finding :=
  (if 150 < form.username.length then [⟨"username", "length", some longUsername⟩] else [])
    ++ (if isEmail form.email then [] else [⟨"email", "email", some invalidEmail⟩])
    ++ (if form.password1.length < 8 then [⟨"password1", "length", some shortPassword⟩] else [])
    ++ (if form.password1 = form.password2 then []
      else [⟨"password2", "must_match", some passwordMismatch⟩])

/-- The messages about blank fields. -/
def blanks (form : RegistrationForm) : FormErrors :=
  (((FormErrors.empty.require "username" form.username).require "email" form.email).require
    "password1" form.password1).require "password2" form.password2

/-- The messages that do not depend on the database. -/
def fieldErrors (form : RegistrationForm) : FormErrors :=
  let errors := form.blanks
  let errors :=
    if !errors.has "username" && !isValidUsername form.username then
      errors.add "username" invalidUsername
    else errors
  errors.merge form.findings

/-- Add that the name is taken, if nothing else is wrong with it. -/
def checkUsername (db : Database) (form : RegistrationForm) (errors : FormErrors) :
    Except Failure FormErrors :=
  if errors.has "username" then .ok errors
  else
    match db.findByUsername form.username with
    | .error e => .error (.database e)
    | .ok none => .ok errors
    | .ok (some _) => .ok (errors.add "username" duplicateUsername)

/-- Add that the address is taken, if nothing else is wrong with it. -/
def checkEmail (db : Database) (form : RegistrationForm) (errors : FormErrors) :
    Except Failure FormErrors :=
  if errors.has "email" then .ok errors
  else
    match db.findByEmail form.email with
    | .error e => .error (.database e)
    | .ok none => .ok errors
    | .ok (some _) => .ok (errors.add "email" duplicateEmail)

/-- All messages about a cleaned form. -/
def errors (db : Database) (form : RegistrationForm) : Except Failure FormErrors :=
  match checkUsername db form form.fieldErrors with
  | .error e => .error e
  | .ok errors => checkEmail db form errors

/-- The account that a form describes, or the messages about its fields. -/
def validate (db : Database) (form : RegistrationForm) : Except Failure NewAccount :=
  let form := form.cleaned
  match form.errors db with
  | .error e => .error e
  | .ok errors =>
    if errors.isEmpty then
      .ok { username := form.username, email := form.email, password := form.password1 }
    else .error (.validation errors)

end RegistrationForm

/-- A new user with a stored hash. -/
def newUser (id username email passwordHash : String) (now : Instant) : User where
  id := id
  username := username
  email := email
  passwordHash := passwordHash
  isActive := true
  createdAt := now.text
  updatedAt := now.text

namespace World

variable (s : Service) (now : Instant)

/-- Make a user with a stored hash. -/
def createUser (username email passwordHash : String) (w : World) :
    Except DbError (User × World) :=
  let user := newUser (s.supply.userId w.draws.users) username email passwordHash now
  match w.db.insertUser user with
  | .error e => .error e
  | .ok db => .ok (user, { w with db, draws := { w.draws with users := w.draws.users + 1 } })

/-- The stored hash for the password of the next user. -/
def hashNext (password : String) (w : World) : String :=
  Password.hashPassword s.kdf (s.supply.salt w.draws.users) password

/-- The messages about a value that was taken in the meantime.  The text of the report tells which
one that is. -/
def takenErrors (report : Report) : FormErrors :=
  if occursIn "email".toList report.text.toList then
    FormErrors.empty.add "email" RegistrationForm.duplicateEmail
  else FormErrors.empty.add "username" RegistrationForm.duplicateUsername

/-- The failure of making a user: a value that was taken in the meantime is an error of the form. -/
def registrationFailure (e : DbError) : Failure :=
  match e.report?.filter Report.isDuplicate with
  | some report => .validation (takenErrors report)
  | none => .database e

/-- Make a user with an account. -/
def register (account : NewAccount) (w : World) : Except Failure (User × World) :=
  match w.createUser s now account.username account.email (w.hashNext s account.password) with
  | .error e => .error (registrationFailure e)
  | .ok result => .ok result

end World

end CookieAuth
