import CookieAuth.Database.Error
import CookieAuth.Form.Errors
import CookieAuth.Http.Reply
import CookieAuth.Log
import CookieAuth.Mail.Mailer
import CookieAuth.Mail.Template
import CookieAuth.Session.Store

/-!
# Failures

What can go wrong with a request.  The sender learns what is wrong with a form; all other causes are
written to the log, and the sender learns only that there was one.

## Main definitions

* `Failure`: the causes;
* `Answer`: a reply, unless a request had to be given up;
* `FormErrors.check`: going on only without messages about a form;
* `Failure.message`: the full text of a failure;
* `Failure.events`: what is written to the log;
* `Failure.answer`: what the sender receives.
-/

namespace CookieAuth

open Http

/-- What can go wrong with a request. -/
inductive Failure where
  /-- The database failed. -/
  | database (cause : DbError)
  /-- The session cannot be read or written. -/
  | session (cause : SessionError)
  /-- A mail was not accepted. -/
  | mail (cause : Mail.MailError)
  /-- A template cannot be rendered. -/
  | template (cause : Mail.TemplateError)
  /-- A stored hash cannot be read. -/
  | passwordHash (text : String)
  /-- A form has errors. -/
  | validation (errors : FormErrors)
  /-- The user of a session does not exist any more. -/
  | userLookup (text : String)
  /-- The request is refused. -/
  | forbidden (text : String)
  /-- Time cannot be computed; the request is given up without a reply. -/
  | crash (cause : Time.Overflow)
  deriving Repr

/-- Go on if there are no messages about a form. -/
def FormErrors.check (errors : FormErrors) : Except Failure Unit :=
  if errors.isEmpty then .ok () else .error (.validation errors)

/-- The answer to a request: a reply, or why the request had to be given up. -/
abbrev Answer := Except Time.Overflow Reply

namespace Failure

/-- The full text of a failure. -/
def message : Failure → String
  | .database cause => "Database error: " ++ cause.message
  | .session cause => "Session error: " ++ cause.message
  | .mail cause => "Mail error: " ++ cause.message
  | .template cause => "Template error: " ++ cause.message
  | .passwordHash text => "Password hash error: " ++ text
  | .validation errors => "Validation failed: " ++ errors.text
  | .userLookup text => "User lookup failed: " ++ text
  | .forbidden text => text
  | .crash cause => cause.message

/-- The text for the log.  Causes inside of the database, the session store and the templates are
not spelled out. -/
def logText : Failure → String
  | .database _ => "Database error:"
  | .session _ => "Session error:"
  | .template _ => "Template error:"
  | .mail cause => "Mail error: " ++ cause.logText
  | .validation errors => "Form validation failed: " ++ errors.text
  | f => f.message

/-- What is written to the log. -/
def events : Failure → List Event
  | .forbidden _ => []
  | .crash _ => []
  | .validation errors => [{ level := .debug, message := (validation errors).logText }]
  | f => [{ level := .error, message := f.logText }]

/-- The reply with an error text. -/
def errorReply (status : Nat) (text : String) : Reply :=
  .ofJson status (.obj [("error", .str text)])

/-- What the sender receives. -/
def answer : Failure → Answer
  | .validation errors =>
    .ok (.ofJson 400 (.obj [("errors", errors.toJson), ("result", .str "error")]))
  | .forbidden text => .ok (errorReply 403 text)
  | .database _ => .ok (errorReply 500 "Database error")
  | .session _ => .ok (errorReply 500 "Session error")
  | .mail _ => .ok (errorReply 500 "Mail error")
  | .template _ => .ok (errorReply 500 "Internal server error")
  | .passwordHash _ => .ok (errorReply 500 "Internal server error")
  | .userLookup _ => .ok (errorReply 500 "Internal server error")
  | .crash cause => .error cause

end Failure

end CookieAuth
