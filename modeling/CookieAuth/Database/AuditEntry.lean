import CookieAuth.Json.Shape

/-!
# Audit entries

## Main definitions

* `AuditEntry`: the record of one status check;
* `AuditEntry.toJson`, `AuditEntry.ofJson`: its JSON form and reading one.
-/

namespace CookieAuth

/-- The record of one status check. -/
structure AuditEntry where
  /-- The number of the entry. -/
  id : Int
  /-- Who was logged in. -/
  userId : Option String
  /-- When the check happened. -/
  createdAt : String
  deriving DecidableEq, Repr

namespace AuditEntry

/-- The declared fields. -/
def shape : Json.Shape where
  name := "AuditEntry"
  fields := [("id", .integer), ("user_id", .optionalText), ("created_at", .text)]

/-- The JSON form. -/
def toJson (e : AuditEntry) : Json :=
  .obj [("id", .int e.id), ("user_id", (e.userId.map Json.str).getD .null),
    ("created_at", .str e.createdAt)]

/-- The entry in a JSON value. -/
def ofJson (j : Json) : Except Json.ReadError AuditEntry :=
  match shape.values j with
  | .error e => .error e
  | .ok [.int id, .str userId, .str createdAt] => .ok { id, userId := some userId, createdAt }
  | .ok [.int id, .null, .str createdAt] => .ok { id, userId := none, createdAt }
  | .ok _ => .error (.wrongKind j shape.name)

end AuditEntry

end CookieAuth
