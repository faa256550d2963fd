import CookieAuth.Text.Integer
import CookieAuth.Text.Split

/-!
# Hosts in mail addresses

The two forms of the part after the at sign: labels of ASCII letters, digits and hyphens with points
between them, or an internet address in brackets.

## Main definitions

* `isHostName`: labels with points between them;
* `isIpV4`, `isIpV6`: internet addresses;
* `endsWithLiteral`: whether a text ends with an internet address in brackets.
-/

namespace CookieAuth.Email

open Text

/-- ASCII letters and digits. -/
def isAsciiAlphanumeric (c : Char) : Bool :=
  ('a' ≤ c && c ≤ 'z') || ('A' ≤ c && c ≤ 'Z') || ('0' ≤ c && c ≤ '9')

/-- A label has between 1 and 63 letters, digits and hyphens, no hyphen being first or last. -/
def isHostLabel (label : List Char) : Bool :=
  label.length ≤ 63 && label.all (fun c => isAsciiAlphanumeric c || c = '-')
    && label.head?.any isAsciiAlphanumeric && label.getLast?.any isAsciiAlphanumeric

/-- Labels with points between them. -/
def isHostName (cs : List Char) : Bool :=
  (splitAll '.' cs).all isHostLabel

/-! ### Internet addresses -/

/-- A number up to 255 without a superfluous zero. -/
def isOctet (cs : List Char) : Bool :=
  !cs.isEmpty && cs.length ≤ 3 && cs.all (fun c => (Integer.digit? c).isSome)
    && (cs.length = 1 || cs.head? ≠ some '0')
    && cs.foldl (fun n c => n * 10 + (Integer.digit? c).getD 0) 0 ≤ 255

/-- Four numbers with points between them. -/
def isIpV4 (cs : List Char) : Bool :=
  let parts := splitAll '.' cs
  parts.length = 4 && parts.all isOctet

/-- Between one and four hexadecimal digits. -/
def isGroup (cs : List Char) : Bool :=
  !cs.isEmpty && cs.length ≤ 4
    && cs.all fun c =>
      ('0' ≤ c && c ≤ '9') || ('a' ≤ c && c ≤ 'f') || ('A' ≤ c && c ≤ 'F')

/-- How many groups of sixteen bits a list of parts makes up, where the last part may be an address
of four numbers, which counts for two groups. -/
def groupCount? (lastMayBeV4 : Bool) : List (List Char) → Option Nat
  | [] => some 0
  | [part] => if isGroup part then some 1 else if lastMayBeV4 && isIpV4 part then some 2 else none
  | part :: rest => if isGroup part then (groupCount? lastMayBeV4 rest).map (· + 1) else none

/-- The parts of a text between colons; no parts if it is empty. -/
def groups (cs : List Char) : List (List Char) :=
  if cs.isEmpty then [] else splitAll ':' cs

/-- Cut a text at the first pair of colons. -/
def splitGap? (before : List Char) : List Char → Option (List Char × List Char)
  | ':' :: ':' :: rest => some (before.reverse, rest)
  | c :: rest => splitGap? (c :: before) rest
  | [] => none

/-- Eight groups with colons between them, where one pair of colons may stand for one or more groups
of zeros. -/
def isIpV6 (cs : List Char) : Bool :=
  match splitGap? [] cs with
  | none => groupCount? true (groups cs) = some 8
  | some (before, after) =>
    match groupCount? false (groups before), groupCount? true (groups after) with
    | some m, some n => m + n ≤ 7
    | _, _ => false

/-- Whether a text ends with an internet address in brackets. -/
def endsWithLiteral (cs : List Char) : Bool :=
  match cs.reverse with
  | ']' :: rest =>
    match splitFirst? '[' rest with
    | some (inside, _) => isIpV4 inside.reverse || isIpV6 inside.reverse
    | none => false
  | _ => false

end CookieAuth.Email
