import CookieAuth.Log
import CookieAuth.Text.Quoted

/-!
# Outgoing mail

## Main definitions

* `Message`: a mail;
* `Mailer`: where mails go, with all mails accepted so far;
* `Mailer.send`: hand a mail over.
-/

namespace CookieAuth.Mail

/-- A mail. -/
structure Message where
  /-- Who sends it. -/
  sender : String
  /-- Who receives it. -/
  recipient : String
  /-- The subject, in one line. -/
  subject : String
  /-- The text. -/
  body : String
  deriving DecidableEq, Repr

/-- Why a mail is not accepted. -/
inductive MailError where
  | unavailable (reason : String)
  deriving DecidableEq, Repr

/-- The text of an error. -/
def MailError.message : MailError → String
  | .unavailable reason => "mail transport unavailable: " ++ reason

/-- The text of an error in the log. -/
def MailError.logText : MailError → String
  | .unavailable reason => "Unavailable(" ++ Text.quote reason ++ ")"

/-- Ways to handle mails. -/
inductive Transport where
  /-- Mails are written to the log and then forgotten. -/
  | log
  /-- Mails are kept, except for those attempts, counted from 0, that are refused for a reason. -/
  | memory (refusal : Nat → Option String)

/-- Where mails go. -/
structure Mailer where
  /-- How mails are handled. -/
  transport : Transport
  /-- How many mails were handed over, with or without success. -/
  attempts : Nat := 0
  /-- The mails that were kept, in order. -/
  outbox : List Message := []

namespace Mailer

/-- A mailer that writes mails to the log. -/
def toLog : Mailer := { transport := .log }

/-- A mailer that keeps all mails. -/
def inMemory : Mailer := { transport := .memory fun _ => none }

/-- A mailer that keeps `n` mails and refuses all others for a reason. -/
def limited (n : Nat) (reason : String) : Mailer :=
  { transport := .memory fun k => if k < n then none else some reason }

/-- The events of a mail that is written to the log.  The text stands at the lowest level because it
holds a secret. -/
def events (m : Message) : List Event :=
  [{ level := .info
     message := "outgoing email"
     fields := [("from", m.sender), ("to", m.recipient), ("subject", m.subject)] },
   { level := .debug
     message := "email body:\n" ++ m.body
     fields := [("to", m.recipient)] }]

/-- Hand a mail over. -/
def send (mailer : Mailer) (m : Message) : Except MailError Unit × Mailer × List Event :=
  match mailer.transport with
  | .log => (.ok (), { mailer with attempts := mailer.attempts + 1 }, events m)
  | .memory refusal =>
    match refusal mailer.attempts with
    | none =>
      (.ok (), { mailer with attempts := mailer.attempts + 1, outbox := mailer.outbox ++ [m] }, [])
    | some reason =>
      (.error (.unavailable reason), { mailer with attempts := mailer.attempts + 1 }, [])

end Mailer

end CookieAuth.Mail
