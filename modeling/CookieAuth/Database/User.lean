import CookieAuth.Json.Shape

/-!
# Users

## Main definitions

* `User`: an account;
* `User.toJson`, `User.ofJson`: its JSON form, which hides the password's hash, and reading one.
-/

namespace CookieAuth

/-- An account. -/
structure User where
  /-- The identifier, unique and never changed. -/
  id : String
  /-- The unique name to log in with. -/
  username : String
  /-- The unique mail address. -/
  email : String
  /-- The stored hash of the password. -/
  passwordHash : String
  /-- Whether the account may log in and reset its password. -/
  isActive : Bool
  /-- When the account was made. -/
  createdAt : String
  /-- When the account was last changed. -/
  updatedAt : String
  deriving DecidableEq, Repr

namespace User

/-- The declared fields. -/
def shape : Json.Shape where
  name := "User"
  fields := [("id", .text), ("username", .text), ("email", .text), ("password_hash", .text),
    ("is_active", .flag), ("created_at", .text), ("updated_at", .text)]

/-- The JSON form, without the password's hash. -/
def toJson (u : User) : Json :=
  .obj [("id", .str u.id), ("username", .str u.username), ("email", .str u.email),
    ("is_active", .bool u.isActive), ("created_at", .str u.createdAt),
    ("updated_at", .str u.updatedAt)]

/-- The account in a JSON value. -/
def ofJson (j : Json) : Except Json.ReadError User :=
  match shape.values j with
  | .error e => .error e
  | .ok [.str id, .str username, .str email, .str passwordHash, .bool isActive, .str createdAt,
      .str updatedAt] =>
    .ok { id, username, email, passwordHash, isActive, createdAt, updatedAt }
  | .ok _ => .error (.wrongKind j shape.name)

end User

end CookieAuth
