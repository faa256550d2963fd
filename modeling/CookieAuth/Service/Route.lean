/-!
# Routes

## Main definitions

* `Route`: what a path stands for, with `Route.path` and `Route.ofPath?`;
* `Route.accepts`, `Route.allowed`: the methods of a route;
* `Route.isProtected`, `Route.usesSession`: what a route asks of a request.

## Main results

* `Route.ofPath?_path`: a route is found by its path.
-/

namespace CookieAuth

/-- What a path stands for. -/
inductive Route where
  | health
  | logIn
  | logOut
  | register
  | status
  | resetPassword
  deriving DecidableEq, Repr

namespace Route

/-- The path of a route. -/
def path : Route → String
  | .health => "/health"
  | .logIn => "/api/auth/login"
  | .logOut => "/api/auth/logout"
  | .register => "/api/auth/register"
  | .status => "/api/auth/user"
  | .resetPassword => "/api/auth/password_reset"

/-- All routes. -/
def all : List Route := [.health, .logIn, .logOut, .register, .status, .resetPassword]

/-- The route of a path. -/
def ofPath? (path : String) : Option Route :=
  all.find? (·.path = path)

/-- Whether a route only retrieves something. -/
def isRetrieval : Route → Bool
  | .health => true
  | .status => true
  | _ => false

/-- Whether a route is protected against forged requests. -/
def isProtected : Route → Bool
  | .logIn => true
  | .register => true
  | .resetPassword => true
  | _ => false

/-- Whether a route needs a session. -/
def usesSession : Route → Bool
  | .health => false
  | .resetPassword => false
  | _ => true

/-- The methods of a route, as they are listed in replies. -/
def allowed (route : Route) : String :=
  if route.isRetrieval then "GET,HEAD" else "POST"

/-- Whether a method fits a route. -/
def accepts (route : Route) (method : String) : Bool :=
  if route.isRetrieval then method = "GET" || method = "HEAD" else method = "POST"

theorem ofPath?_path (route : Route) : ofPath? route.path = some route := by
  cases route <;> rfl

end Route

end CookieAuth
