import CookieAuth.Http.Csrf
import CookieAuth.Service.Route
import CookieAuth.Service.Visit

/-!
# Routing

A request is routed by its path and method.  The three routes with forms are protected against
forged requests.

## Main definitions

* `Route.run`: the action of a route;
* `Visit.conclude`: the answer to an outcome;
* `dispatch`: the answer to a request, before its session is saved.
-/

namespace CookieAuth

open Http Time

/-- The outcome of an action on a form, which may be faulty itself. -/
def withForm {α : Type} (form : Except FormErrors α) (action : α → Visit → Outcome × Visit)
    (v : Visit) : Outcome × Visit :=
  match form with
  | .error errors => (.error (.validation errors), v)
  | .ok form => action form v

/-- The action of a route. -/
def Route.run (m : Moment) (r : Request) : Route → Visit → Outcome × Visit
  | .health, v =>
    (.ok (.obj [("service", .str "session-auth-server"), ("status", .str "healthy")]), v)
  | .logIn, v => withForm (LoginForm.read r) (Visit.logIn m) v
  | .logOut, v => v.logOut m
  | .register, v => withForm (RegistrationForm.read r) (Visit.register m) v
  | .status, v => v.status m
  | .resetPassword, v => withForm (ResetForm.read r) (Visit.resetPassword m) v

/-- The answer to an outcome; failures are written to the log. -/
def Visit.conclude : Outcome × Visit → Answer × Visit
  | (.ok body, v) => (.ok (.ofJson 200 body), v)
  | (.error f, v) => (f.answer, v.note f.events)

/-- The answer where there are no sessions but one is needed. -/
def noSession : Reply :=
  .ofText 500 "Can't extract session. Is `SessionManagerLayer` enabled?"

/-- The event of a request that may be forged. -/
def csrfEvent (r : Request) : Event where
  level := .warn
  message := "CSRF check failed"
  fields := [("path", r.path)]

/-- The answer of a route to a request that may go on. -/
def Route.answer (m : Moment) (r : Request) (route : Route) (v : Visit) : Answer × Visit :=
  if !route.accepts r.method then (.ok { status := 405, allow := some route.allowed }, v)
  else if route.usesSession && m.service.lifetime.isNone then (.ok noSession, v)
  else Visit.conclude (route.run m r v)

/-- The answer to a request that may be forged. -/
def refuse (r : Request) (route : Route) (v : Visit) : Answer × Visit :=
  let reply := Failure.errorReply 403 csrfFailure
  let reply :=
    if route.accepts r.method then reply else { reply with allow := some route.allowed }
  (.ok reply, v.note [csrfEvent r])

/-- The answer to a request, with its body. -/
def respond (m : Moment) (r : Request) (v : Visit) : Answer × Visit :=
  match Route.ofPath? r.path with
  | none => (.ok { status := 404 }, v)
  | some route =>
    if route.isProtected && !r.passesCsrf m.service.config.csrfProtection then refuse r route v
    else route.answer m r v

/-- The answer to a request, before the session is saved.  The body is left out where only the
headers are asked for. -/
def dispatch (m : Moment) (r : Request) (v : Visit) : Answer × Visit :=
  match respond m r v with
  | (answer, v) => (if r.method = "HEAD" then answer.map Reply.withoutBody else answer, v)

end CookieAuth
