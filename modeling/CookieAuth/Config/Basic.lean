import CookieAuth.Config.Dotenv
import CookieAuth.Text.Blank
import CookieAuth.Text.Integer
import CookieAuth.Text.Quoted

/-!
# Configuration

The settings of the service, each read from a variable of its own and taken from the defaults where
the variable is not set.

## Main definitions

* `Config`: the settings, with their defaults;
* `Config.bindAddress`, `Config.protocol`: what is derived from them;
* `Config.read`: the settings of an environment, or the first variable whose text cannot be read;
* `Config.fromEnvironment`: the same after loading an environment file;
* `ConfigError`: which variable cannot be read, with its wording in `ConfigError.message`;
* `ConfigFailure`: why there are no settings.
-/

namespace CookieAuth

open Text

/-- The settings of the service. -/
structure Config where
  /-- The address that the server listens on. -/
  host : String := "127.0.0.1"
  /-- The port that the server listens on. -/
  port : UInt16 := 8080
  /-- Where the database is. -/
  databaseUrl : String := "sqlite:auth.db?mode=rwc"
  /-- The directory of the frontend. -/
  staticDir : String := "static"
  /-- Hours after which an unused session ends. -/
  sessionExpiryHours : Int64 := 24
  /-- The name of the site in mails. -/
  siteName : String := "localhost"
  /-- The public host of the site, for links. -/
  siteDomain : String := "localhost:8080"
  /-- Whether links are secure. -/
  useHttps : Bool := false
  /-- The sender of mails. -/
  defaultFromEmail : String := "webmaster@localhost"
  /-- Minutes after which a reset token expires. -/
  passwordResetTimeoutMinutes : Int64 := 4320
  /-- Whether form posts need a matching token. -/
  csrfProtection : Bool := true
  deriving DecidableEq, Repr

namespace Config

/-- Host and port as one text. -/
def bindAddress (config : Config) : String :=
  config.host ++ ":" ++ toString config.port.toNat

/-- The scheme of links. -/
def protocol (config : Config) : String :=
  if config.useHttps then "https" else "http"

/-- Why the text of a variable cannot be read. -/
inductive Cause where
  | integer (e : Integer.ReadError)
  | notBoolean
  deriving DecidableEq, Repr

/-- The wording of a cause. -/
def Cause.message : Cause → String
  | .integer e => e.message
  | .notBoolean => "provided string was not `true` or `false`"

end Config

/-- A variable whose text cannot be read. -/
structure ConfigError where
  /-- The variable. -/
  name : String
  /-- Its text. -/
  raw : String
  /-- What is wrong with it. -/
  cause : Config.Cause
  deriving DecidableEq, Repr

/-- The wording of an error. -/
def ConfigError.message (e : ConfigError) : String :=
  "invalid value for " ++ e.name ++ ": " ++ quote e.raw ++ ": " ++ e.cause.message

/-- Why there are no settings. -/
inductive ConfigFailure where
  /-- A variable cannot be read. -/
  | unreadable (e : ConfigError)
  /-- The process ends while it loads a file. -/
  | crash (cause : Config.Environment.Crash)
  deriving DecidableEq, Repr

/-- The wording of a failure. -/
def ConfigFailure.message : ConfigFailure → String
  | .unreadable e => e.message
  | .crash cause => cause.message

namespace Config

/-- A port. -/
def readPort (s : String) : Except Cause UInt16 :=
  match Integer.read Integer.word16 s with
  | .ok n => .ok (UInt16.ofNat n.toNat)
  | .error e => .error (.integer e)

/-- A number of hours or minutes. -/
def readCount (s : String) : Except Cause Int64 :=
  match Integer.read Integer.signed64 s with
  | .ok n => .ok (Int64.ofInt n)
  | .error e => .error (.integer e)

/-- A switch. -/
def readSwitch (s : String) : Except Cause Bool :=
  if s = "true" then .ok true else if s = "false" then .ok false else .error .notBoolean

/-- A variable that is read after trimming. -/
def readVar {α : Type} (env : Environment) (name : String) (read : String → Except Cause α)
    (default : α) : Except ConfigError α :=
  match env.get? name with
  | none => .ok default
  | some raw =>
    match read (trim raw) with
    | .ok a => .ok a
    | .error cause => .error { name, raw, cause }

/-- The settings of an environment. -/
def read (env : Environment) : Except ConfigError Config := do
  let defaults : Config := {}
  let text := fun name default => (env.get? name).getD default
  let port ← readVar env "PORT" readPort defaults.port
  let sessionExpiryHours ←
    readVar env "SESSION_EXPIRY_HOURS" readCount defaults.sessionExpiryHours
  let useHttps ← readVar env "USE_HTTPS" readSwitch defaults.useHttps
  let passwordResetTimeoutMinutes ←
    readVar env "PASSWORD_RESET_TIMEOUT_MINUTES" readCount defaults.passwordResetTimeoutMinutes
  let csrfProtection ← readVar env "CSRF_PROTECTION" readSwitch defaults.csrfProtection
  return {
    host := text "HOST" defaults.host
    port
    databaseUrl := text "DATABASE_URL" defaults.databaseUrl
    staticDir := text "STATIC_DIR" defaults.staticDir
    sessionExpiryHours
    siteName := text "SITE_NAME" defaults.siteName
    siteDomain := text "SITE_DOMAIN" defaults.siteDomain
    useHttps
    defaultFromEmail := text "DEFAULT_FROM_EMAIL" defaults.defaultFromEmail
    passwordResetTimeoutMinutes
    csrfProtection }

/-- The settings of an environment after loading an environment file, if there is one. -/
def fromEnvironment (env : Environment) (file : Option (List UInt8)) :
    Except ConfigFailure Config :=
  -- a file that cannot be read to its end is no failure, but a crash is
  match file.elim (.ok env) (Dotenv.load env) with
  | .error crash => .error (.crash crash)
  | .ok env => (read env).mapError .unreadable

end Config

end CookieAuth
