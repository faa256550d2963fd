import CookieAuth.Database.Basic
import CookieAuth.Text.Split

/-!
# A directory of databases

One directory whose files are databases, and the places that file names stand for.  A name is read
part by part, starting in the directory unless it starts with a slash.  Empty parts and single
points are skipped, and two points go up by one part, whether or not what is left exists.  Reading
stops where a part cannot be looked up at all: its name is too long, or it is sought in a file.

## Main definitions

* `Directory`: the directory, with its own place and its files;
* `Directory.resolve?`: the place of a file name, part by part;
* `Directory.locate`: what is at the place of a file name.
-/

namespace CookieAuth

/-- A directory of databases. -/
structure Directory where
  /-- The parts of its own place, the innermost first. -/
  place : List (List UInt8)
  /-- The names of its files and the databases in them. -/
  files : List (List UInt8 × Database) := []
  deriving DecidableEq, Repr

/-- What is at a place. -/
inductive Spot where
  /-- A directory. -/
  | directory
  /-- A file of the directory of databases, which may not exist yet. -/
  | file (name : List UInt8)
  /-- Nothing that can be reached. -/
  | unreachable
  deriving DecidableEq, Repr

namespace Directory

/-- The greatest length of a part of a place. -/
def maxPart : Nat := 255

/-- The bound on the length of a place. -/
def maxPlace : Nat := 512

/-- The length of what is added to the name of a file while it is being changed. -/
def journalLength : Nat := 8

/-- The length of what is added to the name of a file that is locked by a second file. -/
def lockLength : Nat := 5

/-- The length of a place, with a slash before every part. -/
def placeLength (place : List (List UInt8)) : Nat :=
  place.foldl (fun n part => n + 1 + part.length) 0

/-- The database in a file. -/
def get? (d : Directory) (name : List UInt8) : Option Database :=
  d.files.lookup name

/-- Whether a place is the directory itself or one around it. -/
def surrounds (d : Directory) (place : List (List UInt8)) : Bool :=
  place.isSuffixOf d.place

/-- Whether a place is that of a file that exists. -/
def isFile (d : Directory) : List (List UInt8) → Bool
  | name :: rest => rest = d.place && (d.get? name).isSome
  | [] => false

/-- Go on from a place by one part. -/
def enter? (d : Directory) (place : List (List UInt8)) (part : List UInt8) :
    Option (List (List UInt8)) :=
  if part = [] || part = [0x2E] then some place
  else if part = [0x2E, 0x2E] then some (place.drop 1)
  else if maxPlace ≤ placeLength place + 1 + part.length then none
  else if d.surrounds place && maxPart < part.length then none
  else if d.isFile place then none
  else some (part :: place)

/-- The place that a file name stands for. -/
def resolve? (d : Directory) (name : List UInt8) : Option (List (List UInt8)) :=
  let start := if name.head? = some 0x2F then [] else d.place
  (Text.splitAll 0x2F name).foldlM d.enter? start

/-- What is at the place of a file name.  The place leaves room for the longer names that are in use
while a file is being changed. -/
def locate (d : Directory) (name : List UInt8) : Spot :=
  match d.resolve? name with
  | none => .unreachable
  | some [] => .unreachable
  | some (part :: place) =>
    if maxPlace < placeLength (part :: place) + journalLength then .unreachable
    else if d.surrounds (part :: place) then .directory
    else if place = d.place then .file part
    else .unreachable

/-- The directory after a file was written. -/
def write (d : Directory) (name : List UInt8) (db : Database) : Directory :=
  { d with files := (name, db) :: d.files.filter (·.1 ≠ name) }

end Directory

end CookieAuth
