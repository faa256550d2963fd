/-!
# Log events

What the service reports about its work, as data.

## Main definitions

* `Level`: how important an event is;
* `Event`: a message with named fields.
-/

namespace CookieAuth

/-- How important an event is, in increasing order. -/
inductive Level where
  | debug
  | info
  | warn
  | error
  deriving DecidableEq, Repr

/-- The name of a level. -/
def Level.name : Level → String
  | .debug => "DEBUG"
  | .info => "INFO"
  | .warn => "WARN"
  | .error => "ERROR"

/-- A message with named fields. -/
structure Event where
  /-- How important the event is. -/
  level : Level
  /-- What happened. -/
  message : String
  /-- Details by name. -/
  fields : List (String × String) := []
  deriving DecidableEq, Repr

end CookieAuth
