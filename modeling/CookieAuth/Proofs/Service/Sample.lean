import CookieAuth.Proofs.Service.Requests
import CookieAuth.Service.Supply

/-!
# A small service

The theorems about the service hold for every key derivation and, where they need fresh values, for
every supply that has them.  This file has one of each that is easy to evaluate, and the requests of
a browser.

## Main definitions

* `Sample.kdf`: keys that are the passwords themselves;
* `Sample.supply`: numbered values;
* `Sample.post`, `Sample.askStatus`: a form that is submitted, and a request for the status, by a
  browser with a session cookie.

## Main results

* `Sample.userId_injective`, `Sample.token_injective`: the identifiers of users differ, and the
  secrets of tokens do.
-/

namespace CookieAuth.Sample

open Http Text

/-- Keys that are the passwords themselves, cut or filled up to their length. -/
def kdf : Password.KeyDerivation where
  derive input := (input.password ++ List.replicate input.length 0).take input.length
  length_derive input := by simp

/-- Numbered values.  A session identifier starts with a byte that is not zero. -/
def supply : Supply where
  userId n := String.ofList ('u' :: List.replicate n 'i')
  salt n := List.replicate 16 (UInt8.ofNat n)
  token n := String.ofList ('t' :: List.replicate n 'i')
  sessionId n := sessionIdOf [1, UInt8.ofNat n]

theorem userId_injective (m n : Nat) (h : supply.userId m = supply.userId n) : m = n := by
  have hlength := congrArg (fun text => text.toList.length) h
  simpa [supply] using hlength

theorem token_injective (m n : Nat) (h : supply.token m = supply.token n) : m = n := by
  have hlength := congrArg (fun text => text.toList.length) h
  simpa [supply] using hlength

/-- A service with the default settings. -/
def service : Service where
  config := {}
  kdf := kdf
  supply := supply

/-- The hash that the service stores for a password. -/
def hash (password : String) : String :=
  Password.hashPassword kdf (supply.salt 0) password

/-- A submitted form: its path, its fields and the value of the session cookie. -/
def post (path fields cookie : String) : Request where
  method := "POST"
  target := path
  headers := [("content-type", bytesOf Form.formType), ("x-csrftoken", bytesOf "t"),
    ("cookie", bytesOf ("csrftoken=t; id=" ++ cookie))]
  body := bytesOf fields

/-- A request for the status with a value of the session cookie. -/
def askStatus (cookie : String) : Request where
  method := "GET"
  target := "/api/auth/user"
  headers := [("cookie", bytesOf ("id=" ++ cookie))]

/-- A session identifier that the supply does not have. -/
def oldId : SessionId := sessionIdOf []

theorem sessionId_ne_oldId (n : Nat) : supply.sessionId n ≠ oldId := by
  intro h
  have hhead := congrArg (fun id => id.bytes.head?) h
  simp [supply, oldId, sessionIdOf] at hhead

end CookieAuth.Sample
