/-!
# Base64 without padding

Three bytes are written as four letters of a 64-letter alphabet, and a shorter last group as two or
three letters.  Reading is strict: every letter belongs to the alphabet, no group of a single
letter is left, and the unused bits of the last letter are zero, so that each byte list has exactly
one written form.

## Main definitions

* `Base64.Alphabet`: the last two letters of the alphabet, the standard ones or the ones that are
  safe in addresses and cookies;
* `Base64.encode`: the letters of a byte list;
* `Base64.decode?`: the bytes of a written form.
-/

namespace CookieAuth.Text.Base64

/-- An alphabet, given by its last two letters. -/
structure Alphabet where
  /-- The letter for 62. -/
  letter62 : Char
  /-- The letter for 63. -/
  letter63 : Char

/-- The standard alphabet. -/
def standard : Alphabet := ⟨'+', '/'⟩

/-- The alphabet without characters that have a meaning in addresses. -/
def urlSafe : Alphabet := ⟨'-', '_'⟩

/-- The letter for a number below 64. -/
def Alphabet.letter (alphabet : Alphabet) (n : Nat) : Char :=
  if n < 26 then Char.ofNat (n + 65)
  else if n < 52 then Char.ofNat (n + 71)
  else if n < 62 then Char.ofNat (n - 4)
  else if n = 62 then alphabet.letter62
  else alphabet.letter63

/-- The number that a letter stands for. -/
def Alphabet.value? (alphabet : Alphabet) (c : Char) : Option Nat :=
  if 'A' ≤ c && c ≤ 'Z' then some (c.toNat - 65)
  else if 'a' ≤ c && c ≤ 'z' then some (c.toNat - 71)
  else if '0' ≤ c && c ≤ '9' then some (c.toNat + 4)
  else if c = alphabet.letter62 then some 62
  else if c = alphabet.letter63 then some 63
  else none

/-- The letters of a byte list. -/
def encodeList (alphabet : Alphabet) : List UInt8 → List Char
  | [] => []
  | [a] => [alphabet.letter (a.toNat / 4), alphabet.letter (a.toNat % 4 * 16)]
  | [a, b] =>
    [alphabet.letter (a.toNat / 4), alphabet.letter (a.toNat % 4 * 16 + b.toNat / 16),
      alphabet.letter (b.toNat % 16 * 4)]
  | a :: b :: c :: rest =>
    alphabet.letter (a.toNat / 4) :: alphabet.letter (a.toNat % 4 * 16 + b.toNat / 16)
      :: alphabet.letter (b.toNat % 16 * 4 + c.toNat / 64) :: alphabet.letter (c.toNat % 64)
      :: encodeList alphabet rest

/-- The written form of a byte list. -/
def encode (alphabet : Alphabet) (bytes : List UInt8) : String :=
  String.ofList (encodeList alphabet bytes)

/-- The bytes of a list of numbers below 64. -/
def groupsOf : List Nat → Option (List UInt8)
  | [] => some []
  | [_] => none
  | [w, x] => if x % 16 = 0 then some [UInt8.ofNat (w * 4 + x / 16)] else none
  | [w, x, y] =>
    if y % 4 = 0 then some [UInt8.ofNat (w * 4 + x / 16), UInt8.ofNat (x % 16 * 16 + y / 4)]
    else none
  | w :: x :: y :: z :: rest =>
    (groupsOf rest).map fun bytes =>
      UInt8.ofNat (w * 4 + x / 16) :: UInt8.ofNat (x % 16 * 16 + y / 4)
        :: UInt8.ofNat (y % 4 * 64 + z) :: bytes

/-- The bytes of a list of letters. -/
def decodeList? (alphabet : Alphabet) (cs : List Char) : Option (List UInt8) :=
  (cs.mapM alphabet.value?).bind groupsOf

/-- The bytes of a written form. -/
def decode? (alphabet : Alphabet) (s : String) : Option (List UInt8) :=
  decodeList? alphabet s.toList

end CookieAuth.Text.Base64
