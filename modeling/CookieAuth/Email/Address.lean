import CookieAuth.Domain.Basic
import CookieAuth.Email.Host
import CookieAuth.Text.Blank
import CookieAuth.Text.Lowercase

/-!
# Mail addresses

## Main definitions

* `isEmail`: the well-formed mail addresses;
* `normalizeEmail`: an address without surrounding blanks and with its host in lower case.
-/

namespace CookieAuth.Email

open Text

/-- The characters before the at sign. -/
def isLocalChar (c : Char) : Bool :=
  isAsciiAlphanumeric c || ".!#$%&'*+/=?^_`\x7b|\x7d~-".toList.contains c

/-- The part before the at sign has between 1 and 64 characters. -/
def isLocalPart (cs : List Char) : Bool :=
  !cs.isEmpty && cs.length ≤ 64 && cs.all isLocalChar

/-- Host names and texts that end with an internet address in brackets. -/
def isHost (cs : List Char) : Bool :=
  isHostName cs || endsWithLiteral cs

/-- The part after the at sign has at most 255 characters; it is a host, or its ASCII form is
one. -/
def isHostPart (cs : List Char) : Bool :=
  cs.length ≤ 255 && (isHost cs || (Domain.toAscii? cs).any isHost)

/-- The well-formed mail addresses: a local part, the last at sign and a host part. -/
def isEmail (s : String) : Bool :=
  match splitLast? '@' s.toList with
  | none => false
  | some (before, after) => isLocalPart before && isHostPart after

/-- The characters of an address, its host in lower case. -/
def lowerHost (cs : List Char) : List Char :=
  match splitLast? '@' cs with
  | none => cs
  | some (before, after) => before ++ '@' :: lowerList after

/-- An address without surrounding blanks and with its host in lower case. -/
def normalizeEmail (s : String) : String :=
  String.ofList (lowerHost (trimList s.toList))

end CookieAuth.Email
