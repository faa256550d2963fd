import CookieAuth.Domain.Direction
import CookieAuth.Domain.Punycode
import CookieAuth.Domain.Table
import CookieAuth.Text.Lowercase
import CookieAuth.Text.Normal

/-!
# Domain names in ASCII

Turning a domain name of any script into one of ASCII characters: characters are replaced or
dropped, the result is composed and cut at the points, each label is checked, and labels with other
characters are encoded.

## Main definitions

* `mapChars?`: the characters after replacing and dropping;
* `readLabel?`: the characters of a label, decoded if it is in encoded form;
* `toAscii?`: the ASCII form of a domain name.
-/

namespace CookieAuth.Domain

open Text

/-- The characters that a character stands for; `none` if it must not stand in a domain name.  Of
ASCII characters only the letters stand for others, their small forms. -/
def mapChar? (c : Char) : Option (List Char) :=
  if c.toNat < 128 then some [lowerAscii c]
  else if admitted.contains c then some [c]
  else if dropped.contains c then some []
  else replacements.get? c.toNat

/-- The characters after replacing and dropping. -/
def mapChars? (cs : List Char) : Option (List Char) :=
  (cs.mapM mapChar?).map List.flatten

/-- Whether all characters of a label may stand in it and the first is not a mark. -/
def isValidLabel (label : List Char) : Bool :=
  !(label.head?.any isMark) && label.all admitted.contains

/-- What marks a label in encoded form. -/
def encodedMark : List Char := ['x', 'n', '-', '-']

/-- The characters of a label, decoded if it is in encoded form, or `none` if it is not valid. -/
def readLabel? (label : List Char) : Option (List Char) :=
  if encodedMark.isPrefixOf label then
    (Punycode.decode? (label.drop 4)).filter fun cs => Normal.isNormal cs && isValidLabel cs
  else if isValidLabel label then some label
  else none

/-- A label in ASCII characters. -/
def writeLabel? (label : List Char) : Option (List Char) :=
  if label.all (·.toNat < 128) then some label
  else (Punycode.encode? label).map (encodedMark ++ ·)

/-- The ASCII form of a domain name.  If any label is written from right to left, all labels have to
obey the rules of direction. -/
def toAscii? (domain : List Char) : Option (List Char) := do
  let cs ← mapChars? domain
  let labels ← (splitAll '.' (Normal.normalize cs)).mapM readLabel?
  if labels.any (·.any isRightToLeft) && !labels.all fitsDirection then none
  else
    let written ← labels.mapM writeLabel?
    return List.intercalate ['.'] written

end CookieAuth.Domain
