import CookieAuth.Database.Directory
import CookieAuth.Database.FileUri
import CookieAuth.Database.Location

/-!
# Opening the database

A location says how a database is to be opened, and parameters of its file name may narrow that.
The database is then in a file of a directory, in memory that all connections use, or in memory of
which every connection has its own.  The tables are made right after opening, over a first
connection.  Later statements use another one, which is opened anew, so that they find no tables
where every connection has its own memory.

## Main definitions

* `Opening`: how a database is to be opened, with `Location.opening`;
* `Storage`: where an opened database is, with `Directory.connect`;
* `Directory.openAt`: the database at a location;
* `Directory.keep`: the directory after a database was used;
* `StartError.message`: the text of an error.
-/

namespace CookieAuth

open Text

/-! ### Errors -/

/-- Why the database cannot be opened. -/
inductive StartError where
  /-- The location is malformed. -/
  | configuration (text : String)
  /-- The file name contains a zero byte. -/
  | zeroByte
  /-- The database cannot be opened. -/
  | refused (report : Report)
  /-- The tables cannot be made. -/
  | unusable (report : Report)
  deriving DecidableEq, Repr

/-- The text of an error together with its causes. -/
def StartError.message : StartError → String
  | .configuration text => "error with configuration: " ++ text ++ ": " ++ text
  | .zeroByte =>
    let text := "filename passed to SQLite must not contain nul bytes"
    "error communicating with database: " ++ text ++ ": " ++ text
  | .refused r => r.message ++ ": " ++ r.numbered
  | .unusable r =>
    "while executing migrations: " ++ r.message ++ ": " ++ r.message ++ ": " ++ r.numbered

/-- A file cannot be opened. -/
def Report.cannotOpen : Report := ⟨14, "unable to open database file"⟩

/-- A file cannot be read. -/
def Report.cannotRead : Report := ⟨266, "disk I/O error"⟩

/-- A file cannot be locked. -/
def Report.cannotLock : Report := ⟨3850, "disk I/O error"⟩

/-- A database cannot be written. -/
def Report.cannotWrite : Report := ⟨8, "attempt to write a readonly database"⟩

/-! ### How a database is to be opened -/

/-- What may be done with a file. -/
inductive Access where
  /-- Nothing: there is no file. -/
  | nothing
  /-- Reading. -/
  | read
  /-- Reading and writing. -/
  | write
  /-- Reading and writing, and making a missing file. -/
  | create
  deriving DecidableEq, Repr

/-- A number that grows with what is allowed. -/
def Access.rank : Access → Nat
  | .nothing => 0
  | .read => 1
  | .write => 2
  | .create => 3

/-- The access of a word. -/
def Access.ofWord? (word : String) : Option Access :=
  if word = "ro" then some .read
  else if word = "rw" then some .write
  else if word = "rwc" then some .create
  else if word = "memory" then some .nothing
  else none

/-- What files are kept in. -/
inductive Backend where
  /-- The directory. -/
  | disk
  /-- The directory, where a second file next to a file in use locks it. -/
  | diskWithLocks
  /-- The memory. -/
  | memory
  deriving DecidableEq, Repr

/-- The backend of a name. -/
def Backend.ofName? (name : String) : Option Backend :=
  if ["unix", "unix-none", "unix-excl"].contains name then some .disk
  else if name = "unix-dotfile" then some .diskWithLocks
  else if name = "memdb" then some .memory
  else none

/-- How a database is to be opened. -/
structure Opening where
  /-- The file name. -/
  file : List UInt8
  /-- What may be done with the file. -/
  access : Access
  /-- Whether the database is in memory. -/
  inMemory : Bool
  /-- Whether all connections use one copy of the data. -/
  shared : Bool
  /-- Whether the file name is one with parameters. -/
  byUri : Bool := false
  /-- Whether the file is taken never to change. -/
  immutable : Bool := false
  /-- What the file is kept in. -/
  backend : Backend := .disk
  deriving DecidableEq, Repr

namespace Opening

/-- The number of digits in a base; numbers that are too large count as zero. -/
def numberOf (base : Nat) (digits : List UInt8) : Nat :=
  let n := (digits.filterMap hexValue?).foldl (fun n digit => n * base + digit.toNat) 0
  if n ≤ 2147483647 then n else 0

/-- The decimal number with which a text starts, or the hexadecimal one after `0x`. -/
def leadingNumber (bytes : List UInt8) : Nat :=
  let decimal := numberOf 10 (bytes.takeWhile fun b => 0x30 ≤ b && b ≤ 0x39)
  match bytes with
  | 0x30 :: x :: rest =>
    if lowerByte x = 0x78 then numberOf 16 (rest.takeWhile fun b => (hexValue? b).isSome)
    else decimal
  | _ => decimal

/-- Whether a value stands for yes: a number whose last byte is not zero, or a word. -/
def isYes (value : List UInt8) : Bool :=
  leadingNumber value % 256 ≠ 0
    || ["on", "yes", "true"].contains (readLossy (value.map lowerByte))

/-- Narrow the access.  What was not allowed before cannot be asked for, unless there was no file
before. -/
def setAccess (o : Opening) (word : String) : Except Report Opening :=
  match Access.ofWord? word with
  | none => .error ⟨1, "no such access mode: " ++ word⟩
  | some .nothing => .ok { o with access := .nothing, inMemory := true }
  | some access =>
    if o.inMemory || access.rank ≤ o.access.rank then .ok { o with access, inMemory := false }
    else .error ⟨3, "access mode not allowed: " ++ word⟩

/-- Choose whether connections use one copy of the data. -/
def setShared (o : Opening) (word : String) : Except Report Opening :=
  if word = "shared" then .ok { o with shared := true }
  else if word = "private" then .ok { o with shared := false }
  else .error ⟨1, "no such cache mode: " ++ word⟩

/-- Take account of a parameter of the file name. -/
def set (o : Opening) (param : List UInt8 × List UInt8) : Except Report Opening :=
  if param.1 = bytesOf "cache" then o.setShared (readLossy param.2)
  else if param.1 = bytesOf "mode" then o.setAccess (readLossy param.2)
  else .ok o

/-- Choose the backend that the last parameter about it names. -/
def setBackend (o : Opening) (uri : FileUri) : Except Report Opening :=
  -- parameters are searched from the end here, while `immutable` is read from the start
  match uri.params.reverse.lookup (bytesOf "vfs") with
  | none => .ok o
  | some name =>
    match Backend.ofName? (readLossy name) with
    | some backend => .ok { o with backend }
    | none => .error ⟨1, "no such vfs: " ++ readLossy name⟩

/-- Take account of the parameters of the file name. -/
def ofUri (o : Opening) (uri : FileUri) : Except Report Opening :=
  (uri.params.foldlM set { o with
    file := uri.file
    byUri := true
    immutable := (uri.get? "immutable").any isYes }).bind (·.setBackend uri)

/-- Take account of parameters if the file name has any. -/
def refine (o : Opening) : Except Report Opening :=
  if FileUri.isUri o.file then
    match FileUri.parse o.file with
    | .error host => .error ⟨1, "invalid uri authority: " ++ readLossy host⟩
    | .ok uri => o.ofUri uri
  else .ok o

end Opening

/-- What a location allows. -/
def Location.access (l : Location) : Access :=
  if l.readOnly then .read else if l.create then .create else .write

/-- How the database at a location is to be opened. -/
def Location.opening (l : Location) : Except StartError Opening :=
  let file := l.fileText
  if file.contains 0 then .error .zeroByte
  else
    let o : Opening := { file, access := l.access, inMemory := l.inMemory, shared := l.shared }
    o.refine.mapError .refused

/-! ### Where an opened database is -/

/-- Where an opened database is. -/
inductive Storage where
  /-- In a file. -/
  | file (name : List UInt8)
  /-- In memory that all connections use. -/
  | common
  /-- In memory of which every connection has its own. -/
  | separate
  deriving DecidableEq, Repr

namespace Opening

/-- Whether there is no file: the database is in memory, or it has no name. -/
def withoutFile (o : Opening) : Bool :=
  o.inMemory || o.file = bytesOf ":memory:" || o.file.isEmpty

/-- Whether the database can only be read.  Where there is no file, it is free to change. -/
def isReadOnly (o : Opening) : Bool :=
  o.access = .read || (o.immutable && !o.withoutFile)

/-- The storage of a database without a file. -/
def memoryStorage (o : Opening) : Storage :=
  if o.shared && o.byUri && !o.file.isEmpty then .common else .separate

/-- The greatest length of the name of a file that is kept in memory. -/
def maxMemoryName : Nat := 1024

/-- Whether a file that is kept in memory is one for all connections: its name starts with a slash
or a backslash. -/
def isCommonName : List UInt8 → Bool
  | b :: _ :: _ => b = 0x2F || b = 0x5C
  | _ => false

/-- The storage of a file that is kept in memory. -/
def memoryFileStorage (o : Opening) : Except Report Storage :=
  if maxMemoryName < o.file.length + Directory.journalLength then .error .cannotOpen
  else .ok (if o.shared || isCommonName o.file then .common else .separate)

/-- Why the tables cannot be made: the database can only be read, or the name of the file leaves no
room for the longer names that are in use while the file is locked or being changed. -/
def obstacle? (o : Opening) (storage : Storage) : Option Report :=
  if o.isReadOnly then some .cannotWrite
  else
    match storage with
    | .file name =>
      if o.backend = .diskWithLocks && Directory.maxPart < name.length + Directory.lockLength then
        some .cannotLock
      else if Directory.maxPart < name.length + Directory.journalLength then some .cannotOpen
      else none
    | _ => none

end Opening

namespace Directory

/-- Open a file of the directory.  A missing one is made if that is allowed. -/
def connectFile (d : Directory) (o : Opening) : Except Report (Storage × Directory) :=
  match d.locate o.file with
  | .unreachable => .error .cannotOpen
  | .directory => .error (if o.access = .read then .cannotRead else .cannotOpen)
  | .file name =>
    if (d.get? name).isSome then .ok (.file name, d)
    else if o.access = .create then .ok (.file name, d.write name .bare)
    else .error .cannotOpen

/-- Open a connection: where its database is, and the directory afterwards. -/
def connect (d : Directory) (o : Opening) : Except Report (Storage × Directory) :=
  if o.withoutFile then .ok (o.memoryStorage, d)
  else
    match o.backend with
    | .memory => o.memoryFileStorage.map (·, d)
    | _ => d.connectFile o

/-- Make the tables of a file that has none. -/
def makeTables (d : Directory) : Storage → Directory
  | .file name => if d.get? name = some .bare then d.write name .empty else d
  | _ => d

/-- The database of a later connection, after the tables were made. -/
def later (d : Directory) (o : Opening) : Except DbError Database :=
  match d.connect o with
  | .error report => .error (.refused report)
  | .ok (.file name, d) => .ok ((d.get? name).getD .bare)
  -- common memory still has the tables of the first connection, separate memory never had any
  | .ok (.common, _) => .ok .empty
  | .ok (.separate, _) => .ok .bare

/-- Open the database at a location and make its tables: where it is and what later statements find,
and the directory afterwards. -/
def openAt (d : Directory) (location : String) :
    Except StartError (Storage × Except DbError Database) × Directory :=
  match Location.parse location with
  | .error text => (.error (.configuration text), d)
  | .ok l =>
    match l.opening with
    | .error e => (.error e, d)
    | .ok o =>
      match d.connect o with
      | .error report => (.error (.refused report), d)
      | .ok (storage, d) =>
        -- from here on a failure leaves behind the file that opening made
        match o.obstacle? storage with
        | some report => (.error (.unusable report), d)
        | none =>
          let d := d.makeTables storage
          (.ok (storage, d.later o), d)

/-- The directory after a database was used. -/
def keep (d : Directory) (storage : Storage) (db : Database) : Directory :=
  match storage with
  | .file name => d.write name db
  | _ => d

end Directory

end CookieAuth
