import CookieAuth.Email.Address
import CookieAuth.Failure
import CookieAuth.Form.Input
import CookieAuth.Service.Basic

/-!
# Forgotten passwords

## Main definitions

* `ResetForm`: a submitted mail address;
* `ResetForm.validate`: the active users of the address;
* `World.issueToken`: a token for a user;
* `World.sendResets`: a token and a mail for each user.
-/

namespace CookieAuth

open Text Email Time Mail

/-- A submitted mail address. -/
structure ResetForm where
  /-- The address. -/
  email : String := ""
  deriving DecidableEq, Repr

/-- The address as submitted, and its active users. -/
structure ResetRequest where
  /-- The address. -/
  email : String
  /-- The users. -/
  users : List User
  deriving DecidableEq, Repr

namespace ResetForm

/-- The message about a malformed address. -/
def invalidEmail : String := "Enter a valid email address."

/-- The message about an address that nobody has. -/
def unknownEmail : String :=
  "That email address doesn't have an associated user account. Are you sure you've registered?"

/-- The fields of the form. -/
def fields : List String := ["email"]

/-- The form with submitted values. -/
def ofPairs (pairs : List (String × String)) : ResetForm where
  email := Form.value pairs "email"

/-- The form in a request. -/
def read (r : Http.Request) : Except FormErrors ResetForm :=
  (Form.read fields r).map ofPairs

/-- The messages about an address. -/
def errors (email : String) : FormErrors :=
  (FormErrors.empty.require "email" email).merge
    (if isEmail email then [] else [⟨"email", "email", some invalidEmail⟩])

/-- The active users of the address, which is taken without blanks around it. -/
def validate (db : Database) (form : ResetForm) : Except Failure ResetRequest :=
  let email := trim form.email
  if !(errors email).isEmpty then .error (.validation (errors email))
  else
    match db.findActiveByEmail email with
    | .error e => .error (.database e)
    | .ok [] => .error (.validation (FormErrors.empty.add "email" unknownEmail))
    | .ok users => .ok { email, users }

end ResetForm

/-- What the mails are made from. -/
structure ResetMail where
  /-- The name of the site. -/
  siteName : String
  /-- The host in the link. -/
  domain : String
  /-- The name of the template of the subject. -/
  subject : String
  /-- The name of the template of the text. -/
  body : String
  deriving DecidableEq, Repr

/-- The mails of the service for a site of a name and a host. -/
def ResetMail.standard (siteName domain : String) : ResetMail where
  siteName := siteName
  domain := domain
  subject := resetSubject.name
  body := resetBody.name

/-- The values for the templates. -/
def ResetMail.context (m : ResetMail) (config : Config) (user : User) (token : String) : Json :=
  .obj [("domain", .str m.domain), ("email", .str user.email), ("protocol", .str config.protocol),
    ("site_name", .str m.siteName), ("token", .str token), ("uid", .str user.id),
    ("username", .str user.username)]

/-- The mail to a user about a token. -/
def ResetMail.message (m : ResetMail) (config : Config) (user : User) (token : String) :
    Except TemplateError Message :=
  match renderLine m.subject (m.context config user token) with
  | .error e => .error e
  | .ok subject =>
    match render m.body (m.context config user token) with
    | .error e => .error e
    | .ok body => .ok { sender := config.defaultFromEmail, recipient := user.email, subject, body }

/-- The event of a mail that was sent. -/
def dispatchedEvent (user : User) : Event where
  level := .info
  message := "password reset email dispatched"
  fields := [("user_id", user.id)]

namespace World

variable (s : Service) (now : Instant)

/-- Issue a token for a user that is valid for a number of minutes. -/
def issueToken (userId : String) (minutes : Int) (w : World) :
    Except Failure (ResetToken × World) :=
  match ResetToken.issue userId (s.supply.token w.draws.tokens) minutes now with
  | .error e => .error (.crash e)
  | .ok token =>
    match w.db.insertToken token with
    | .error e => .error (.database e)
    | .ok db =>
      .ok (token, { w with db, draws := { w.draws with tokens := w.draws.tokens + 1 } })

/-- Issue a token for a user and send it. -/
def sendReset (m : ResetMail) (user : User) (w : World) :
    Except Failure Unit × World × List Event :=
  match w.issueToken s now user.id s.config.passwordResetTimeoutMinutes.toInt with
  | .error e => (.error e, w, [])
  | .ok (token, w) =>
    match m.message s.config user token.token with
    | .error e => (.error (.template e), w, [])
    | .ok message =>
      match w.mailer.send message with
      | (.error e, mailer, events) => (.error (.mail e), { w with mailer }, events)
      | (.ok (), mailer, events) => (.ok (), { w with mailer }, events ++ [dispatchedEvent user])

/-- Issue and send a token for each of the users, up to the first failure. -/
def sendResets (m : ResetMail) : List User → World → Except Failure Unit × World × List Event
  | [], w => (.ok (), w, [])
  | user :: rest, w =>
    match w.sendReset s now m user with
    | (.error e, w, events) => (.error e, w, events)
    | (.ok (), w, events) =>
      match sendResets m rest w with
      | (result, w, more) => (result, w, events ++ more)

end World

end CookieAuth
