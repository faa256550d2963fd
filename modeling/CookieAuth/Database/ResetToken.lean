import CookieAuth.Time.Instant

/-!
# Tokens for forgotten passwords

## Main definitions

* `ResetToken`: a secret that lets its owner choose a new password for some time;
* `ResetToken.issue`: a token for a number of minutes.
-/

namespace CookieAuth

open Time

/-- A secret that lets its owner choose a new password for some time. -/
structure ResetToken where
  /-- Whose token it is. -/
  userId : String
  /-- The secret. -/
  token : String
  /-- When the token was issued. -/
  created : Instant
  /-- When the token stops being valid. -/
  expires : Instant
  deriving DecidableEq, Repr

/-- A token that is issued now and is valid for a number of minutes. -/
def ResetToken.issue (userId token : String) (minutes : Int) (now : Instant) :
    Except Overflow ResetToken :=
  (now.addMinutes minutes).map fun expires => { userId, token, created := now, expires }

end CookieAuth
