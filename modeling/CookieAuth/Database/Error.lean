import CookieAuth.Database.Collation

/-!
# Errors of the database

## Main definitions

* `Table`, `Column`: the tables, and the columns whose values are unique;
* `Report`: what the database reports by number and text;
* `DbError`: why a statement fails;
* `DbError.report?`: what the database reports about it;
* `DbError.message`: the text of an error.
-/

namespace CookieAuth

/-- The tables. -/
inductive Table where
  | users
  | auditEntries
  | resetTokens
  deriving DecidableEq, Repr

/-- The name of a table. -/
def Table.name : Table → String
  | .users => "users"
  | .auditEntries => "analysis_entries"
  | .resetTokens => "password_reset_tokens"

/-- All tables. -/
def Table.all : List Table :=
  [.users, .auditEntries, .resetTokens]

/-- The table of a name, whatever its case. -/
def Table.ofName? (name : String) : Option Table :=
  Table.all.find? (sameIgnoringCase ·.name name)

/-- The columns whose values are unique. -/
inductive Column where
  | userId
  | username
  | email
  | token
  deriving DecidableEq, Repr

/-- The name of a column. -/
def Column.name : Column → String
  | .userId => "users.id"
  | .username => "users.username"
  | .email => "users.email"
  | .token => "password_reset_tokens.token"

/-- What the database reports. -/
structure Report where
  /-- Its number. -/
  code : Nat
  /-- Its text. -/
  text : String
  deriving DecidableEq, Repr

/-- The number and the text of a report. -/
def Report.numbered (r : Report) : String :=
  "(code: " ++ toString r.code ++ ") " ++ r.text

/-- The text of an error that consists in a report. -/
def Report.message (r : Report) : String :=
  "error returned from database: " ++ r.numbered

/-- Why a statement fails. -/
inductive DbError where
  /-- A row that has to exist does not. -/
  | noRow
  /-- The database was closed. -/
  | closed
  /-- The database sent something unexpected. -/
  | garbled (text : String)
  /-- There is no connection, and none can be opened. -/
  | refused (report : Report)
  /-- There is no table of this name. -/
  | noTable (name : String)
  /-- A value of a unique column exists already. -/
  | duplicate (column : Column)
  /-- A row refers to a user who does not exist. -/
  | dangling
  deriving DecidableEq, Repr

/-- The number of the report about a repeated value. -/
def Column.code : Column → Nat
  | .userId => 1555
  | _ => 2067

namespace Report

/-- The report about a table that does not exist. -/
def noTable (name : String) : Report :=
  ⟨1, "no such table: " ++ name⟩

/-- The report about a repeated value. -/
def duplicate (column : Column) : Report :=
  ⟨column.code, "UNIQUE constraint failed: " ++ column.name⟩

/-- The report about a reference to nobody. -/
def dangling : Report :=
  ⟨787, "FOREIGN KEY constraint failed"⟩

/-- Whether a report is about a repeated value, judged by its number. -/
def isDuplicate (r : Report) : Bool :=
  r.code = 1555 || r.code = 2067

end Report

namespace DbError

/-- What the database reports, if an error consists in a report. -/
def report? : DbError → Option Report
  | .refused report => some report
  | .noTable name => some (.noTable name)
  | .duplicate column => some (.duplicate column)
  | .dangling => some .dangling
  | .noRow => none
  | .closed => none
  | .garbled _ => none

/-- The text of an error. -/
def message : DbError → String
  | .noRow => "no rows returned by a query that expected to return at least one row"
  | .closed => "attempted to acquire a connection on a closed pool"
  | .garbled text => "encountered unexpected or invalid data: " ++ text
  | .refused report => report.message
  | .noTable name => (Report.noTable name).message
  | .duplicate column => (Report.duplicate column).message
  | .dangling => Report.dangling.message

end DbError

end CookieAuth
