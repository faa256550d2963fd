import CookieAuth.Config.Environment
import CookieAuth.Text.Alphanumeric
import CookieAuth.Text.Blank
import CookieAuth.Text.Split

/-!
# Environment files

A file of `NAME=value` lines that supplies variables which the process environment lacks.  Values
may be quoted, may go on over several lines inside quotes and may refer to variables.  Loading stops
at the first line that cannot be read and keeps what was loaded before it.  A value with a zero
character cannot be loaded at all, and ends the process.

## Main definitions

* `Dotenv.joinLines`: the logical lines of a file, made of one or more physical lines;
* `Dotenv.readValue`: the value that stands after the equality sign;
* `Dotenv.readLine`: the assignment of a logical line;
* `Dotenv.load`: the environment after loading a file.
-/

namespace CookieAuth.Config.Dotenv

open Text

/-! ### Logical lines -/

/-- Where in a logical line the reader is. -/
inductive Place where
  /-- In unquoted text. -/
  | plain
  /-- Right after a blank in unquoted text. -/
  | blank
  /-- Right after a backslash in unquoted text. -/
  | escape
  /-- Between double quotes. -/
  | weak
  /-- Right after a backslash between double quotes. -/
  | weakEscape
  /-- Between single quotes. -/
  | strong
  /-- Right after a backslash between single quotes. -/
  | strongEscape
  deriving DecidableEq, Repr

/-- What a backslash or a quote in unquoted text leads to. -/
def Place.open? (c : Char) : Option Place :=
  if c = '\\' then some .escape
  else if c = '"' then some .weak
  else if c = '\'' then some .strong
  else none

/-- The place after one more character; `none` where a comment starts. -/
def Place.next (place : Place) (c : Char) : Option Place :=
  match place with
  | .plain =>
    if isBlank c && c ≠ '\n' && c ≠ '\r' then some .blank else some ((Place.open? c).getD .plain)
  | .blank => if c = '#' then none else some ((Place.open? c).getD .plain)
  | .escape => some .plain
  | .weak => if c = '\\' then some .weakEscape else if c = '"' then some .plain else some .weak
  | .weakEscape => some .weak
  | .strong =>
    if c = '\\' then some .strongEscape else if c = '\'' then some .plain else some .strong
  | .strongEscape => some .strong

/-- Go through a physical line: the text up to a comment and `none`, or the place at its end. -/
def scan (place : Place) (seen : List Char) : List Char → List Char × Option Place
  | [] => (seen.reverse, some place)
  | c :: rest =>
    match place.next c with
    | none => (seen.reverse, none)
    | some place => scan place (c :: seen) rest

/-- A line without its line feed and a carriage return before it. -/
def dropLineEnd (cs : List Char) : List Char :=
  match cs.reverse with
  | '\n' :: '\r' :: rest => rest.reverse
  | '\n' :: rest => rest.reverse
  | _ => cs

/-- Whether the first character that is not blank starts a comment. -/
def isComment (cs : List Char) : Bool :=
  (dropBlanks cs).head? == some '#'

/-- The logical lines of a file.  A physical line that is not well-formed text is given as `none`.
The result holds `none` where the file cannot be read any further: at such a line, or at the end of
the file inside a logical line. -/
def joinLines (buffer : List Char) (place : Place) :
    List (Option (List Char)) → List (Option (List Char))
  | [] => if place = .plain then [] else [none]
  | none :: _ => [none]
  | some text :: rest =>
    -- a physical line that ends a quote is judged together with the lines before it
    if isComment (buffer ++ text) then some [] :: joinLines [] .plain rest
    else
      match scan place [] text with
      | (kept, none) => some (buffer ++ kept) :: joinLines [] .plain rest
      -- only an end in plain text ends the logical line; a line feed after a blank is plain
      | (_, some .plain) => some (dropLineEnd (buffer ++ text)) :: joinLines [] .plain rest
      | (_, some place) => joinLines (buffer ++ text) place rest

/-- Cut bytes after each line feed. -/
def physicalLines (done : List (List UInt8)) (line : List UInt8) : List UInt8 → List (List UInt8)
  | [] => (if line.isEmpty then done else line.reverse :: done).reverse
  | b :: rest =>
    if b = 0x0A then physicalLines ((b :: line).reverse :: done) [] rest
    else physicalLines done (b :: line) rest

/-- A file without a byte order mark at its start. -/
def dropByteOrderMark : List UInt8 → List UInt8
  | 0xEF :: 0xBB :: 0xBF :: rest => rest
  | bytes => bytes

/-- The logical lines of a file. -/
def logicalLines (file : List UInt8) : List (Option (List Char)) :=
  joinLines [] .plain <|
    (physicalLines [] [] (dropByteOrderMark file)).map fun line =>
      (readText? line).map String.toList

/-! ### Values -/

/-- Where in a value the reader is. -/
inductive Phase where
  /-- In text, quoted by double quotes or not at all. -/
  | text
  /-- After the blank that ends an unquoted value. -/
  | ended
  /-- Right after a backslash. -/
  | escaped
  /-- Between single quotes. -/
  | strong
  /-- In a variable's name after a dollar sign; the characters in reverse order. -/
  | name (cs : List Char)
  /-- In a variable's name between braces; the characters in reverse order. -/
  | braced (cs : List Char)
  deriving DecidableEq, Repr

/-- The reader of a value. -/
structure ValueReader where
  /-- Where the reader is. -/
  phase : Phase := .text
  /-- Whether a double quote is open. -/
  weak : Bool := false
  /-- The value so far, in reverse order. -/
  out : List Char := []
  deriving DecidableEq, Repr

/-- What a backslash makes of a character. -/
def escapedChar? (c : Char) : Option Char :=
  if c = 'n' then some '\n'
  else if c = '\\' || c = '\'' || c = '"' || c = '$' || c = ' ' then some c
  else none

namespace ValueReader

variable (lookup : String → String)

/-- Put the value of a variable in place. -/
def substitute (r : ValueReader) (cs : List Char) : ValueReader :=
  { r with phase := .text, out := (lookup (String.ofList cs.reverse)).toList.reverse ++ r.out }

/-- Put a character in place. -/
def push (r : ValueReader) (c : Char) : ValueReader :=
  { r with phase := .text, out := c :: r.out }

/-- A character of ordinary text. -/
def stepText (r : ValueReader) (c : Char) : ValueReader :=
  if c = '$' then { r with phase := .name [] }
  else if c = '\\' then { r with phase := .escaped }
  else if c = '"' then { r with weak := !r.weak }
  -- single quotes and blanks are ordinary between double quotes
  else if r.weak then r.push c
  else if c = '\'' then { r with phase := .strong }
  else if c = ' ' || c = '\t' then { r with phase := .ended }
  else r.push c

/-- A character after a dollar sign. -/
def stepName (r : ValueReader) (cs : List Char) (c : Char) : ValueReader :=
  if isAlphanumeric c then { r with phase := .name (c :: cs) }
  else if c = '\x7b' && cs.isEmpty then { r with phase := .braced [] }
  else if c = '$' then { r.substitute lookup cs with phase := .name [] }
  -- the character that ends a name is taken as it is, even if it is a quote or a blank
  else (r.substitute lookup cs).push c

/-- One more character; `none` if it does not fit.  A comment is not looked at here. -/
def step (r : ValueReader) (c : Char) : Option ValueReader :=
  match r.phase with
  | .ended => if c = ' ' || c = '\t' then some r else none
  | .escaped => (escapedChar? c).map r.push
  | .strong => some (if c = '\'' then { r with phase := .text } else { r with out := c :: r.out })
  | .name cs => some (r.stepName lookup cs c)
  | .braced cs =>
    some (if c = '\x7d' then r.substitute lookup cs else { r with phase := .braced (c :: cs) })
  | .text => some (r.stepText c)

/-- The value at the end of the line: quotes and braces are closed, and a variable's name may end
here. -/
def finish (r : ValueReader) : Option String :=
  if r.weak then none
  else
    match r.phase with
    | .strong => none
    | .braced _ => none
    | .name cs => some (String.ofList (r.substitute lookup cs).out.reverse)
    | _ => some (String.ofList r.out.reverse)

/-- Read the rest of a value; a number sign after the end starts a comment. -/
def run (r : ValueReader) : List Char → Option String
  | [] => r.finish lookup
  | c :: rest =>
    if r.phase = .ended && c = '#' then r.finish lookup
    else
      match r.step lookup c with
      | none => none
      | some r => r.run rest

end ValueReader

/-- The value that a list of characters stands for. -/
def readValue (lookup : String → String) (cs : List Char) : Option String :=
  ValueReader.run lookup {} cs

/-! ### Lines -/

/-- Whether a character may start a name. -/
def startsName (c : Char) : Bool :=
  ('a' ≤ c && c ≤ 'z') || ('A' ≤ c && c ≤ 'Z') || c = '_'

/-- Whether a character may stand in a name. -/
def continuesName (c : Char) : Bool :=
  startsName c || ('0' ≤ c && c ≤ '9') || c = '.'

/-- A name and the text after the blanks that follow it. -/
def readName? : List Char → Option (List Char × List Char)
  | [] => none
  | c :: rest =>
    if startsName c then
      some (c :: rest.takeWhile continuesName, dropBlanks (rest.dropWhile continuesName))
    else none

/-- The text after an equality sign. -/
def afterEqual? : List Char → Option (List Char)
  | '=' :: rest => some rest
  | _ => none

/-- The name of an assignment and the text after its equality sign.  The word `export` may stand
before the name. -/
def readTarget? (cs : List Char) : Option (List Char × List Char) :=
  match readName? cs with
  | none => none
  | some (name, rest) =>
    match afterEqual? rest with
    | some rest => some (name, rest)
    -- a variable may itself be called `export`, so the word is looked at only now
    | none =>
      if name = "export".toList then
        (readName? rest).bind fun (name, rest) => (afterEqual? rest).map fun rest => (name, rest)
      else none

/-- What a logical line says. -/
inductive Line where
  /-- Nothing. -/
  | nothing
  /-- A variable's value. -/
  | assign (name value : String)
  /-- Something that cannot be read. -/
  | broken
  deriving DecidableEq, Repr

/-- Whether the text is empty or a comment. -/
def isVoid (cs : List Char) : Bool :=
  cs.isEmpty || cs.head? == some '#'

/-- What a logical line says. -/
def readLine (lookup : String → String) (cs : List Char) : Line :=
  let cs := trimList cs
  if isVoid cs then .nothing
  else
    match readTarget? cs with
    | none => .broken
    | some (name, rest) =>
      let rest := dropBlanks rest
      if isVoid rest then .assign (String.ofList name) ""
      else
        match readValue lookup rest with
        | none => .broken
        | some value => .assign (String.ofList name) value

/-- The value of a variable for substitution: from the environment, else as assigned earlier in the
file, else empty. -/
def valueOf (env : Environment) (assigned : List (String × String)) (name : String) : String :=
  ((env.reference? name).orElse fun _ => assigned.lookup name).getD ""

/-- Load logical lines one after the other.  A variable that is set keeps its value. -/
def loadLines (env : Environment) (assigned : List (String × String)) :
    List (Option (List Char)) → Except Environment.Crash Environment
  | [] => .ok env
  | none :: _ => .ok env
  | some cs :: rest =>
    match readLine (valueOf env assigned) cs with
    | .nothing => loadLines env assigned rest
    | .broken => .ok env
    | .assign name value =>
      match env.setDefault name value with
      | .error crash => .error crash
      -- what the file assigns is remembered also where the environment keeps its own value
      | .ok env => loadLines env ((name, value) :: assigned) rest

/-- The environment after loading a file. -/
def load (env : Environment) (file : List UInt8) : Except Environment.Crash Environment :=
  loadLines env [] (logicalLines file)

end CookieAuth.Config.Dotenv
