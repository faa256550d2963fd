import CookieAuth.Text.Percent

/-!
# File names with parameters

A file name that starts with `file:` may carry parameters: after a question mark come names and
values with ampersands between them.  An escape stands for its byte and never for a separator, a
number sign ends the text, and an escaped zero byte ends the name or value in which it stands.  Two
slashes at the start introduce the name of a host, which can only be the local one.

## Main definitions

* `FileUri`: a file name and its parameters;
* `FileUri.isUri`: whether a file name is to be read in this way;
* `FileUri.parse`: the file name and the parameters, or the name of a foreign host.
-/

namespace CookieAuth

open Text

/-- A file name and its parameters, in order. -/
structure FileUri where
  /-- The file name. -/
  file : List UInt8
  /-- The names and values of the parameters. -/
  params : List (List UInt8 × List UInt8) := []
  deriving DecidableEq, Repr

namespace FileUri

/-- What a reader is in. -/
inductive Part where
  /-- The file name. -/
  | file
  /-- The name of a parameter. -/
  | name
  /-- The value of a parameter. -/
  | value
  /-- A parameter without a name, which is skipped. -/
  | skipped
  deriving DecidableEq, Repr

/-- A reader.  All byte lists are in reverse order. -/
structure Reader where
  /-- What the reader is in. -/
  part : Part := .file
  /-- Whether the rest of the part is left out. -/
  muted : Bool := false
  /-- The file name so far. -/
  file : List UInt8 := []
  /-- The name of the current parameter so far. -/
  name : List UInt8 := []
  /-- The value of the current parameter so far. -/
  value : List UInt8 := []
  /-- The finished parameters, the last one first. -/
  params : List (List UInt8 × List UInt8) := []
  deriving DecidableEq, Repr

namespace Reader

/-- Go on with another part. -/
def enter (r : Reader) (part : Part) : Reader :=
  { r with part, muted := false }

/-- Add a byte to the current part. -/
def push (r : Reader) (b : UInt8) : Reader :=
  if r.muted then r
  else
    match r.part with
    | .file => { r with file := b :: r.file }
    | .name => { r with name := b :: r.name }
    | .value => { r with value := b :: r.value }
    | .skipped => r

/-- Add an escaped byte to the current part; a zero byte ends the part. -/
def pushEscaped (r : Reader) (b : UInt8) : Reader :=
  if b = 0 then { r with muted := true } else r.push b

/-- Finish the current parameter, unless it has no name. -/
def finishParam (r : Reader) : Reader :=
  if r.name.isEmpty then r
  else
    { r with
      name := []
      value := []
      params := (r.name.reverse, r.value.reverse) :: r.params }

/-- Take account of a byte that is not escaped. -/
def step (r : Reader) (b : UInt8) : Reader :=
  match r.part with
  | .file => if b = 0x3F then r.enter .name else r.push b
  | .name =>
    if b = 0x26 then r.finishParam.enter .name
    else if b = 0x3D then r.enter (if r.name.isEmpty then .skipped else .value)
    else r.push b
  | .value => if b = 0x26 then r.finishParam.enter .name else r.push b
  | .skipped => if b = 0x26 then r.enter .name else r

/-- Read on to the end or to a number sign. -/
def run (r : Reader) : List UInt8 → Reader
  | [] => r
  | b :: x :: y :: rest =>
    if b = 0x23 then r
    else if b = 0x25 then
      match hexValue? x, hexValue? y with
      | some high, some low => (r.pushEscaped (16 * high + low)).run rest
      | _, _ => (r.step b).run (x :: y :: rest)
    else (r.step b).run (x :: y :: rest)
  | b :: rest => if b = 0x23 then r else (r.step b).run rest

/-- What was read. -/
def result (r : Reader) : FileUri :=
  { file := r.file.reverse, params := r.finishParam.params.reverse }

end Reader

/-- The beginning of a file name with parameters. -/
def scheme : List UInt8 :=
  bytesOf "file:"

/-- Whether a file name is to be read as one with parameters. -/
def isUri (name : List UInt8) : Bool :=
  scheme.isPrefixOf name

/-- What follows the name of a host, or the foreign host. -/
def afterHost : List UInt8 → Except (List UInt8) (List UInt8)
  | 0x2F :: 0x2F :: rest =>
    let host := rest.takeWhile (· ≠ 0x2F)
    if host.isEmpty || host = bytesOf "localhost" then .ok (rest.drop host.length)
    else .error host
  | text => .ok text

/-- The file name and the parameters of a text that starts with the scheme, or the name of a foreign
host. -/
def parse (text : List UInt8) : Except (List UInt8) FileUri :=
  (afterHost (text.drop scheme.length)).map fun rest => (Reader.run {} rest).result

/-- The first value of a parameter. -/
def get? (uri : FileUri) (name : String) : Option (List UInt8) :=
  uri.params.lookup (bytesOf name)

end FileUri

end CookieAuth
