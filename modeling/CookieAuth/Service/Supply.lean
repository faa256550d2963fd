import CookieAuth.Crypto.Blake2b
import CookieAuth.Service.Basic
import CookieAuth.Text.Utf8

/-!
# A supply of values

## Main definitions

* `hexBytes`, `uuidText`: texts of random bytes;
* `Supply.ofSeed`: the values that a seed determines, by hashing it with a purpose and a number.
-/

namespace CookieAuth

open Crypto Text

/-- The two hexadecimal digits of a byte. -/
def hexByte (b : UInt8) : List Char :=
  [Nat.digitChar (b.toNat / 16), Nat.digitChar (b.toNat % 16)]

/-- The hexadecimal digits of bytes. -/
def hexBytes (bytes : List UInt8) : List Char :=
  bytes.flatMap hexByte

/-- Sixteen bytes marked as random: the fourth group has the variant, the third the version. -/
def markRandom (bytes : List UInt8) : List UInt8 :=
  (bytes.modify 6 fun b => b % 16 + 0x40).modify 8 fun b => b % 64 + 0x80

/-- The text of sixteen bytes in five groups. -/
def uuidText (bytes : List UInt8) : String :=
  let digits := hexBytes bytes
  String.ofList (digits.take 8 ++ '-' :: (digits.drop 8).take 4 ++ '-' :: (digits.drop 12).take 4
    ++ '-' :: (digits.drop 16).take 4 ++ '-' :: digits.drop 20)

/-- The text of sixteen bytes in one group. -/
def simpleText (bytes : List UInt8) : String :=
  String.ofList (hexBytes bytes)

/-- The bytes of a session identifier, cut or filled up to sixteen. -/
def sessionIdOf (bytes : List UInt8) : SessionId :=
  ⟨(bytes ++ List.replicate 16 0).take 16, by simp⟩

/-- Sixteen bytes that a seed determines for a purpose and a number. -/
def derived (seed purpose : String) (n : Nat) : List UInt8 :=
  Blake2b.digest 16 (bytesOf (seed ++ "/" ++ purpose ++ "/" ++ toString n))

/-- The values that a seed determines. -/
def Supply.ofSeed (seed : String) : Supply where
  userId n := uuidText (markRandom (derived seed "user" n))
  salt n := derived seed "salt" n
  token n := simpleText (markRandom (derived seed "token" n))
  sessionId n := sessionIdOf (derived seed "session" n)

end CookieAuth
