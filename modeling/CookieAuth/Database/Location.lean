import CookieAuth.Form.Urlencoded
import CookieAuth.Text.Quoted

/-!
# Where the database is

A location is a text with a scheme, a file name and parameters.

## Main definitions

* `Location`: a file name and how the file is to be used;
* `Location.parse`: the location in a text, or what is wrong with the text;
* `Location.fileText`: the file name that is handed to the database.
-/

namespace CookieAuth

open Text

/-- Where the database is and how it is to be used. -/
structure Location where
  /-- The name of the file. -/
  file : String
  /-- Whether the file may only be read. -/
  readOnly : Bool := false
  /-- Whether a missing file is made. -/
  create : Bool := false
  /-- Whether the database is in memory. -/
  inMemory : Bool := false
  /-- Whether all connections use one copy of the data. -/
  shared : Bool := false
  /-- Whether the file is taken never to change. -/
  immutable : Bool := false
  /-- The storage that is asked for by name. -/
  storage : Option String := none
  deriving DecidableEq, Repr

/-- The text for a gap in what has to be well-formed text. -/
def Text.Gap.message (gap : Gap) : String :=
  match gap.length with
  | some n =>
    "invalid utf-8 sequence of " ++ toString n ++ " bytes from index " ++ toString gap.position
  | none => "incomplete utf-8 byte sequence from index " ++ toString gap.position

namespace Location

/-- A list without all its beginnings of one kind. -/
def dropStarts (start : List Char) : Nat → List Char → List Char
  | 0, cs => cs
  | fuel + 1, cs =>
    if start.isPrefixOf cs then dropStarts start fuel (cs.drop start.length) else cs

/-- A location without its scheme. -/
def withoutScheme (cs : List Char) : List Char :=
  dropStarts "sqlite:".toList cs.length (dropStarts "sqlite://".toList cs.length cs)

/-- The text for a parameter with an unknown value. -/
def unknownValue (name value : String) : String :=
  "unknown value " ++ quote value ++ " for `" ++ name ++ "`"

/-- Take account of a parameter. -/
def set (l : Location) : String × String → Except String Location
  | (name, value) =>
    let unknown := unknownValue name value
    if name = "mode" then
      if value = "ro" then .ok { l with readOnly := true }
      else if value = "rw" then .ok l
      else if value = "rwc" then .ok { l with create := true }
      else if value = "memory" then .ok { l with inMemory := true, shared := true }
      else .error unknown
    else if name = "cache" then
      if value = "private" then .ok { l with shared := false }
      else if value = "shared" then .ok { l with shared := true }
      else .error unknown
    else if name = "immutable" then
      if value = "true" || value = "1" then .ok { l with immutable := true }
      else if value = "false" || value = "0" then .ok { l with immutable := false }
      else .error unknown
    else if name = "vfs" then .ok { l with storage := some value }
    else .error ("unknown query parameter `" ++ name ++ "` while parsing connection URL")

/-- The location of a file name with escapes.  One name stands for the memory. -/
def ofName (name : List Char) : Except String Location :=
  if name = ":memory:".toList then .ok { file := "file:memory", inMemory := true, shared := true }
  else
    let bytes := percentDecode (bytesOf (String.ofList name))
    match firstGap? bytes with
    | some gap => .error gap.message
    | none => .ok { file := readLossy bytes }

/-- The location in a text, or what is wrong with the text. -/
def parse (s : String) : Except String Location :=
  let cs := withoutScheme s.toList
  match splitFirst? '?' cs with
  | none => ofName cs
  | some (name, params) =>
    (ofName name).bind fun l =>
      (Form.Urlencoded.pairs (bytesOf (String.ofList params))).foldlM set l

/-- The parameters that go with the file name. -/
def fileParams (l : Location) : List String :=
  (if l.immutable then ["immutable=true"] else [])
    ++ (l.storage.map ("vfs=" ++ ·)).toList

/-- The file name that is handed to the database, with the parameters that it needs. -/
def fileText (l : Location) : List UInt8 :=
  let name := bytesOf l.file
  let params := l.fileParams
  if params.isEmpty then name
  else
    bytesOf "file:" ++ percentEncode name ++ bytesOf ("?" ++ String.intercalate "&" params)

end Location

end CookieAuth
