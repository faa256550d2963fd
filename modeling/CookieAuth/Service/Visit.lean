import CookieAuth.Account.Login
import CookieAuth.Account.PasswordReset
import CookieAuth.Account.Registration
import CookieAuth.Session.Login

/-!
# Visits

What a request does once it is known what it asks for.

## Main definitions

* `Visit`: the world, the session and the log during a request;
* `Visit.logIn`, `Visit.logOut`, `Visit.register`, `Visit.status`, `Visit.resetPassword`: the
  actions, each with the body of its reply or a failure.
-/

namespace CookieAuth

open Http Time

/-- The world, the session and the log during a request. -/
structure Visit where
  /-- The world. -/
  world : World
  /-- The session. -/
  session : Session := {}
  /-- What was written to the log. -/
  log : List Event := []

/-- What depends on the service, the lifetime of its sessions and the time. -/
structure Moment where
  /-- The service. -/
  service : Service
  /-- How long sessions live. -/
  lifetime : Lifetime
  /-- What time it is. -/
  now : Instant

/-- What the operations on the session depend on. -/
def Moment.setting (m : Moment) : Setting where
  draw := m.service.supply.sessionId
  lifetime := m.lifetime
  now := m.now

/-- The result of an action. -/
abbrev Outcome := Except Failure Json

namespace Visit

/-- The session with the store. -/
def live (v : Visit) : Live where
  session := v.session
  store := v.world.sessions
  drawn := v.world.draws.sessions

/-- The visit with another session and store. -/
def withLive (v : Visit) (l : Live) : Visit :=
  { v with
    world := { v.world with
      sessions := l.store
      draws := { v.world.draws with sessions := l.drawn } }
    session := l.session }

/-- The visit with another world. -/
def withWorld (v : Visit) (w : World) : Visit :=
  { v with world := w }

/-- The visit with another database. -/
def withDb (v : Visit) (db : Database) : Visit :=
  { v with world := { v.world with db } }

/-- The visit with more events. -/
def note (v : Visit) (events : List Event) : Visit :=
  { v with log := v.log ++ events }

variable (m : Moment)

/-- The identifier of the user whom the session is bound to. -/
def userId (v : Visit) : Except Failure (Option String) × Visit :=
  match v.live.userId m.setting with
  | (.error e, l) => (.error (.session e), v.withLive l)
  | (.ok id, l) => (.ok id, v.withLive l)

/-- Bind the session to a user. -/
def bindUser (user : User) (v : Visit) : Except Failure Unit × Visit :=
  match v.live.logIn m.setting user passwordBackend with
  | (.error e, l) => (.error (.session e), v.withLive l)
  | (.ok (), l) => (.ok (), (v.withLive l).note [Live.boundEvent user passwordBackend])

/-- The body of a reply that names a user. -/
def usernameBody (user : User) : Json :=
  .obj [("result", .str "success"), ("username", .str user.username)]

/-- An event about a user. -/
def userEvent (message : String) (user : User) : Event where
  level := .info
  message := message
  fields := [("user_id", user.id), ("username", user.username)]

/-- Log the user in whom a form names. -/
def logIn (form : LoginForm) (v : Visit) : Outcome × Visit :=
  match form.validate m.service.kdf v.world.db with
  | .error e => (.error e, v)
  | .ok user =>
    match v.bindUser m user with
    | (.error e, v) => (.error e, v)
    | (.ok (), v) => (.ok (usernameBody user), v.note [userEvent "user logged in" user])

/-- The event of somebody logging out. -/
def logOutEvent (userId : String) : Event where
  level := .info
  message := "user logged out"
  fields := [("user_id", userId)]

/-- Log out whoever is logged in. -/
def logOut (v : Visit) : Outcome × Visit :=
  match v.userId m with
  | (.error e, v) => (.error e, v)
  | (.ok bound, v) =>
    let v := v.note (bound.map logOutEvent).toList
    match v.live.logOut with
    | (.error e, l) => (.error (.session e), v.withLive l)
    | (.ok (), l) => (.ok (.obj [("result", .str "success")]), v.withLive l)

/-- Make an account and log it in. -/
def register (form : RegistrationForm) (v : Visit) : Outcome × Visit :=
  match form.validate v.world.db with
  | .error e => (.error e, v)
  | .ok account =>
    -- the user stays registered if binding the session fails
    match v.world.register m.service m.now account with
    | .error e => (.error e, v)
    | .ok (user, w) =>
      match (v.withWorld w).bindUser m user with
      | (.error e, v) => (.error e, v)
      | (.ok (), v) => (.ok (usernameBody user), v.note [userEvent "user registered" user])

/-- The user of an identifier; it is a failure if there is none. -/
def findUser (db : Database) (id : String) : Except Failure User :=
  match db.findById id with
  | .ok user => .ok user
  | .error .noRow => .error (.userLookup ("User with id '" ++ id ++ "' not found"))
  | .error e => .error (.database e)

/-- Add an audit entry. -/
def audit (userId : Option String) (v : Visit) : Except Failure Unit × Visit :=
  match v.world.db.insertEntry userId m.now with
  | .error e => (.error (.database e), v)
  | .ok (_, db) => (.ok (), v.withDb db)

/-- Tell whether somebody is logged in, which adds an audit entry. -/
def status (v : Visit) : Outcome × Visit :=
  match v.userId m with
  | (.error e, v) => (.error e, v)
  | (.ok none, v) =>
    match v.audit m none with
    | (.error e, v) => (.error e, v)
    | (.ok (), v) => (.ok (.obj [("authenticated", .bool false)]), v)
  | (.ok (some id), v) =>
    -- a session may outlive its user
    match findUser v.world.db id with
    | .error e => (.error e, v)
    | .ok user =>
      match v.audit m (some user.id) with
      | (.error e, v) => (.error e, v)
      | (.ok (), v) =>
        (.ok (.obj [("authenticated", .bool true), ("username", .str user.username)]), v)

/-- Send tokens to the users of an address. -/
def resetPassword (form : ResetForm) (v : Visit) : Outcome × Visit :=
  match form.validate v.world.db with
  | .error e => (.error e, v)
  | .ok request =>
    let mail := ResetMail.standard m.service.config.siteName m.service.config.siteDomain
    match v.world.sendResets m.service m.now mail request.users with
    | (.error e, w, events) => (.error e, (v.withWorld w).note events)
    | (.ok (), w, events) =>
      (.ok (.obj [("result", .str "success"), ("email", .str request.email)]),
        (v.withWorld w).note events)

end Visit

end CookieAuth
