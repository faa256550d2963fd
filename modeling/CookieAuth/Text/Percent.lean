import CookieAuth.Text.Utf8

/-!
# Percent escapes

A percent sign and two hexadecimal digits stand for one byte.  A percent sign without two digits
after it stands for itself.

## Main definitions

* `hexValue?`: the value of a hexadecimal digit;
* `percentDecode`: the bytes that an escaped byte list stands for;
* `percentEncode`: a byte list with everything escaped that might have a meaning of its own.
-/

namespace CookieAuth.Text

/-- The value of a hexadecimal digit in either case. -/
def hexValue? (b : UInt8) : Option UInt8 :=
  if 0x30 ≤ b && b ≤ 0x39 then some (b - 0x30)
  else if 0x41 ≤ b && b ≤ 0x46 then some (b - 0x37)
  else if 0x61 ≤ b && b ≤ 0x66 then some (b - 0x57)
  else none

/-- Decode the rest of a list after the bytes `acc`, which stand in reverse order. -/
def percentDecodeFrom (acc : List UInt8) : List UInt8 → List UInt8
  | [] => acc.reverse
  | b :: x :: y :: rest =>
    if b = 0x25 then
      match hexValue? x, hexValue? y with
      | some high, some low => percentDecodeFrom ((16 * high + low) :: acc) rest
      | _, _ => percentDecodeFrom (b :: acc) (x :: y :: rest)
    else percentDecodeFrom (b :: acc) (x :: y :: rest)
  | b :: rest => percentDecodeFrom (b :: acc) rest

/-- The bytes that an escaped byte list stands for. -/
def percentDecode (bytes : List UInt8) : List UInt8 :=
  percentDecodeFrom [] bytes

/-- Whether a byte needs no escape: a letter, a digit, or one of `-`, `.`, `_` and `~`. -/
def isUnreserved (b : UInt8) : Bool :=
  (0x30 ≤ b && b ≤ 0x39) || (0x41 ≤ b && b ≤ 0x5A) || (0x61 ≤ b && b ≤ 0x7A)
    || [0x2D, 0x2E, 0x5F, 0x7E].contains b

/-- The upper-case hexadecimal digit of a value below sixteen. -/
def hexDigit (n : UInt8) : UInt8 :=
  if n < 10 then 0x30 + n else 0x37 + n

/-- The escaped form of a byte. -/
def percentEncodeByte (b : UInt8) : List UInt8 :=
  if isUnreserved b then [b] else [0x25, hexDigit (b / 16), hexDigit (b % 16)]

/-- A byte list with everything escaped that might have a meaning of its own. -/
def percentEncode (bytes : List UInt8) : List UInt8 :=
  bytes.flatMap percentEncodeByte

end CookieAuth.Text
