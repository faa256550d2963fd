import CookieAuth.Text.Utf8

/-!
# Comparing addresses

Mail addresses are looked up without regard to the case of ASCII letters.

## Main definitions

* `lowerByte`: the lower case of an ASCII letter;
* `sameIgnoringCase`: equality of texts up to the case of ASCII letters.
-/

namespace CookieAuth

open Text

/-- The lower case of an ASCII letter; other bytes stay. -/
def lowerByte (b : UInt8) : UInt8 :=
  if 0x41 ≤ b && b ≤ 0x5A then b + 0x20 else b

/-- Whether two byte lists agree up to case, as far as the first zero byte that they share. -/
def agreeIgnoringCase : List UInt8 → List UInt8 → Bool
  | a :: as, b :: bs => lowerByte a == lowerByte b && (a == 0 || agreeIgnoringCase as bs)
  | _, _ => true

/-- Whether two texts are of one length and agree up to case, as far as the first zero byte that
they share. -/
def sameIgnoringCase (s t : String) : Bool :=
  let x := bytesOf s
  let y := bytesOf t
  x.length == y.length && agreeIgnoringCase x y

end CookieAuth
