import CookieAuth.Database.AuditEntry
import CookieAuth.Database.Collation
import CookieAuth.Database.Error
import CookieAuth.Database.ResetToken
import CookieAuth.Database.User

/-!
# The database

Three tables: users, audit entries and tokens for forgotten passwords.  The identifiers, names and
addresses of users and the secrets of tokens are unique, and audit entries and tokens refer to users
who exist.  A statement that fails changes nothing.

## Main definitions

* `Database`: the rows of the tables in the order of insertion;
* `Database.insertUser`, `Database.deleteUser`, `Database.setActive`: changes of users;
* `Database.findByUsername`, `Database.findByEmail`, `Database.findActiveByEmail`,
  `Database.findById`: looking up users;
* `Database.insertEntry`, `Database.listEntries`: the audit log;
* `Database.insertToken`, `Database.deleteExpired`: tokens.
-/

namespace CookieAuth

open Time

/-- The rows of the tables in the order of insertion. -/
structure Database where
  /-- The users. -/
  users : List User := []
  /-- The audit entries. -/
  entries : List AuditEntry := []
  /-- The tokens for forgotten passwords. -/
  tokens : List ResetToken := []
  /-- The greatest number that an audit entry ever had. -/
  lastEntry : Nat := 0
  /-- Whether the database was closed. -/
  closed : Bool := false
  /-- The tables that were taken away.  References between tables keep working without them. -/
  hidden : List Table := []
  deriving DecidableEq, Repr

namespace Database

/-- An empty database. -/
def empty : Database := {}

/-- A database without any table. -/
def bare : Database := { hidden := Table.all }

/-- Whether a statement on a table can be run. -/
def access (db : Database) (table : Table) : Except DbError Unit :=
  if db.closed then .error .closed
  else if db.hidden.contains table then .error (.noTable table.name)
  else .ok ()

/-- The result of a statement on a table. -/
def on {α : Type} (db : Database) (table : Table) (result : Except DbError α) : Except DbError α :=
  match db.access table with
  | .error e => .error e
  | .ok () => result

/-! ### Users -/

/-- Whether a user has this identifier. -/
def hasUser (db : Database) (id : String) : Bool :=
  db.users.any (·.id = id)

/-- The column in which a new user would repeat a value. -/
def duplicate? (db : Database) (user : User) : Option Column :=
  if db.users.any (·.email = user.email) then some .email
  else if db.users.any (·.username = user.username) then some .username
  else if db.hasUser user.id then some .userId
  else none

/-- Add a user. -/
def insertUser (db : Database) (user : User) : Except DbError Database :=
  db.on .users <|
    match db.duplicate? user with
    | some column => .error (.duplicate column)
    | none => .ok { db with users := db.users ++ [user] }

/-- How many users there are. -/
def countUsers (db : Database) : Except DbError Nat :=
  db.on .users (.ok db.users.length)

/-- The user of a name. -/
def findByUsername (db : Database) (username : String) : Except DbError (Option User) :=
  db.on .users (.ok (db.users.find? (·.username = username)))

/-- The users of an address, whatever its case. -/
def usersWithEmail (db : Database) (email : String) : List User :=
  db.users.filter (sameIgnoringCase ·.email email)

/-- The first user of an address, whatever its case. -/
def findByEmail (db : Database) (email : String) : Except DbError (Option User) :=
  db.on .users (.ok (db.users.find? (sameIgnoringCase ·.email email)))

/-- The active users of an address, whatever its case. -/
def findActiveByEmail (db : Database) (email : String) : Except DbError (List User) :=
  db.on .users (.ok ((db.usersWithEmail email).filter (·.isActive)))

/-- The user of an identifier. -/
def findById (db : Database) (id : String) : Except DbError User :=
  db.on .users <|
    match db.users.find? (·.id = id) with
    | some user => .ok user
    | none => .error .noRow

/-- A user after the user of an identifier was activated or deactivated. -/
def activated (id : String) (active : Bool) (user : User) : User :=
  if user.id = id then { user with isActive := active } else user

/-- Activate or deactivate a user; also how many rows that are. -/
def setActive (db : Database) (id : String) (active : Bool) : Except DbError (Nat × Database) :=
  db.on .users <|
    .ok (db.users.countP (·.id = id), { db with users := db.users.map (activated id active) })

/-- An audit entry after a user is gone. -/
def forgetUser (id : String) (e : AuditEntry) : AuditEntry :=
  if e.userId = some id then { e with userId := none } else e

/-- Delete a user together with the user's tokens; audit entries stay, without the user. -/
def deleteUser (db : Database) (id : String) : Except DbError Database :=
  db.on .users <|
    .ok { db with
      users := db.users.filter (·.id ≠ id)
      tokens := db.tokens.filter (·.userId ≠ id)
      entries := db.entries.map (forgetUser id) }

/-! ### The audit log -/

/-- Add an audit entry; also its number. -/
def insertEntry (db : Database) (userId : Option String) (now : Instant) :
    Except DbError (Nat × Database) :=
  db.on .auditEntries <|
    if userId.all db.hasUser then
      let id := db.lastEntry + 1
      .ok (id, { db with
        entries := db.entries ++ [{ id, userId, createdAt := now.text }]
        lastEntry := id })
    else .error .dangling

/-- All audit entries, the oldest first. -/
def listEntries (db : Database) : Except DbError (List AuditEntry) :=
  db.on .auditEntries (.ok db.entries)

/-! ### Tokens -/

/-- Add a token. -/
def insertToken (db : Database) (token : ResetToken) : Except DbError Database :=
  db.on .resetTokens <|
    if db.tokens.any (·.token = token.token) then .error (.duplicate .token)
    else if db.hasUser token.userId then .ok { db with tokens := db.tokens ++ [token] }
    else .error .dangling

/-- All tokens, the oldest first. -/
def listTokens (db : Database) : Except DbError (List ResetToken) :=
  db.on .resetTokens (.ok db.tokens)

/-- Whether the text of a token's end comes before the text of a point in time. -/
def isExpired (now : Instant) (token : ResetToken) : Bool :=
  token.expires.text < now.text

/-- Delete the expired tokens; also how many these are. -/
def deleteExpired (db : Database) (now : Instant) : Except DbError (Nat × Database) :=
  db.on .resetTokens <|
    .ok (db.tokens.countP (isExpired now),
      { db with tokens := db.tokens.filter (!isExpired now ·) })

/-! ### Faults -/

/-- Close the database. -/
def close (db : Database) : Database :=
  { db with closed := true }

/-- Take the table of a name away. -/
def hide (db : Database) (name : String) : Except DbError Database :=
  if db.closed then .error .closed
  else
    match Table.ofName? name with
    | none => .error (.noTable name)
    | some table =>
      if db.hidden.contains table then .error (.noTable name)
      else .ok { db with hidden := table :: db.hidden }

/-- Bring the table of a name back.  While it is away, its name has an addition. -/
def restore (db : Database) (name : String) : Except DbError Database :=
  let missing := DbError.noTable ("hidden_" ++ name)
  if db.closed then .error .closed
  else
    match Table.ofName? name with
    | none => .error missing
    | some table =>
      if db.hidden.contains table then .ok { db with hidden := db.hidden.erase table }
      else .error missing

end Database

end CookieAuth
