import CookieAuth.Service.Router

/-!
# Answering requests

A request brings its session identifier in a cookie.  After the action the session is saved if it
was changed, and the cookie of a session that ended is removed.

## Main definitions

* `Visit.start`: the visit of a request with a cookie;
* `Visit.finish`: saving the session after the action;
* `Service.handle`: the answer to a request.
-/

namespace CookieAuth

open Http Time

/-- How long the cookie of a session lives. -/
def Lifetime.maxAge : Lifetime → Option Int
  | .browser => none
  | .hours n => some (Lifetime.hours n).seconds

/-- Save the session, if that is called for, and set or remove the cookie.  If the session cannot be
saved, the reply is lost. -/
def Visit.finish (m : Moment) (sent : Bool) (reply : Reply) (v : Visit) : Reply × Visit :=
  if v.session.isEmpty then
    (if sent then { reply with setCookie := some .remove } else reply, v)
  else if v.session.modified && reply.status < 500 then
    match v.live.save m.setting with
    | (.error _, l) => ({ status := 500 }, v.withLive l)
    | (.ok (), l) =>
      ({ reply with setCookie := l.session.id.map (.issue · m.lifetime.maxAge) }, v.withLive l)
  else (reply, v)

/-- The visit of a request: its session has the identifier that the cookie holds. -/
def Visit.start (cookie : Option String) (w : World) : Visit where
  world := w
  session := { id := cookie.bind SessionId.parse? }

/-- The answer to a request. -/
structure Handled where
  /-- The reply; nothing if the request had to be given up. -/
  answer : Answer
  /-- The world afterwards. -/
  world : World
  /-- What was written to the log. -/
  log : List Event := []

/-- The answer to a request. -/
def Service.handle (s : Service) (now : Instant) (r : Request) (w : World) : Handled :=
  match s.lifetime with
  | none =>
    match dispatch ⟨s, .browser, now⟩ r { world := w } with
    | (answer, v) => { answer, world := v.world, log := v.log }
  | some lifetime =>
    let m : Moment := ⟨s, lifetime, now⟩
    let cookie := r.lastCookie? sessionCookie
    match dispatch m r (.start cookie w) with
    | (.error e, v) => { answer := .error e, world := v.world, log := v.log }
    | (.ok reply, v) =>
      match v.finish m cookie.isSome reply with
      | (reply, v) => { answer := .ok reply, world := v.world, log := v.log }

end CookieAuth
