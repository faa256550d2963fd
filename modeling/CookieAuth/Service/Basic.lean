import CookieAuth.Config.Basic
import CookieAuth.Database.Basic
import CookieAuth.Mail.Mailer
import CookieAuth.Password.Basic
import CookieAuth.Session.Basic

/-!
# The service

## Main definitions

* `Supply`: the random values that are drawn, in order;
* `Service`: what stays the same while the service runs;
* `World`: what changes.
-/

namespace CookieAuth

/-- The random values that are drawn, in order. -/
structure Supply where
  /-- Identifiers of users. -/
  userId : Nat → String
  /-- Salts for the passwords of users. -/
  salt : Nat → List UInt8
  /-- Secrets of tokens for forgotten passwords. -/
  token : Nat → String
  /-- Session identifiers. -/
  sessionId : Nat → SessionId

/-- How many random values were used. -/
structure Draws where
  /-- How many users were made. -/
  users : Nat := 0
  /-- How many tokens were issued. -/
  tokens : Nat := 0
  /-- How many session identifiers were drawn. -/
  sessions : Nat := 0
  deriving DecidableEq, Repr

/-- What stays the same while the service runs. -/
structure Service where
  /-- The configuration. -/
  config : Config
  /-- How keys are derived from passwords. -/
  kdf : Password.KeyDerivation
  /-- The random values. -/
  supply : Supply
  /-- How long sessions live; nothing if there are no sessions. -/
  lifetime : Option Lifetime := some .browser

/-- What changes while the service runs. -/
structure World where
  /-- The database. -/
  db : Database := {}
  /-- The session store. -/
  sessions : SessionStore := {}
  /-- The mailer. -/
  mailer : Mail.Mailer := .inMemory
  /-- How many random values were used. -/
  draws : Draws := {}

end CookieAuth
