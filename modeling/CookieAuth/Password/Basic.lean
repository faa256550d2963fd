import CookieAuth.Crypto.Argon2
import CookieAuth.Password.StoredHash
import CookieAuth.Text.Utf8

/-!
# Passwords

Hashing a password for storage and checking one against a stored hash.  Both are parametric in the
function that derives keys, of which only the length of its results is fixed.

## Main definitions

* `KeyDerivation`: a function from inputs to keys of the requested length; `argon2` is the one that
  the service uses;
* `hashPassword`: the stored hash of a password under a salt;
* `verifyPassword`: whether a password belongs to a stored hash, or why the stored hash cannot be
  read.
-/

namespace CookieAuth.Password

open Crypto Text

/-- A function that derives keys of the requested length. -/
structure KeyDerivation where
  /-- The derived key. -/
  derive : Argon2.Input → List UInt8
  /-- A derived key has the requested length. -/
  length_derive : ∀ input, (derive input).length = input.length

/-- The key derivation of the service. -/
def argon2 : KeyDerivation :=
  ⟨Argon2.derive, Argon2.length_derive⟩

/-! ### Hashing -/

/-- What a new hash is derived from. -/
def freshInput (salt : List UInt8) (password : String) : Argon2.Input where
  variant := .id
  version := .v19
  memory := 19456
  passes := 2
  lanes := 1
  password := bytesOf password
  salt := salt
  data := []
  length := 32

/-- The fields of a new hash. -/
def freshHash (kdf : KeyDerivation) (salt : List UInt8) (password : String) : StoredHash where
  algorithm := "argon2id"
  version := some 19
  params := [("m", "19456"), ("t", "2"), ("p", "1")]
  salt := some (Base64.encode Base64.standard salt)
  output := some (kdf.derive (freshInput salt password))

/-- The text that is stored for a password. -/
def hashPassword (kdf : KeyDerivation) (salt : List UInt8) (password : String) : String :=
  (freshHash kdf salt password).render

/-! ### Checking -/

/-- The variants by name. -/
def variant? (name : String) : Option Argon2.Variant :=
  if name = "argon2d" then some .d
  else if name = "argon2i" then some .i
  else if name = "argon2id" then some .id
  else none

/-- The versions by number; the newer one is meant where none is given. -/
def version? : Option Nat → Option Argon2.Version
  | none => some .v19
  | some 16 => some .v16
  | some 19 => some .v19
  | some _ => none

/-- The parameters that matter for deriving a key. -/
structure Costs where
  /-- Memory in KiB. -/
  memory : Nat := 19456
  /-- Number of passes. -/
  passes : Nat := 2
  /-- Number of lanes. -/
  lanes : Nat := 1
  /-- Associated data. -/
  data : List UInt8 := []

/-- A parameter that holds a number. -/
def number? (value : String) : Option Nat :=
  (readDecimal value).toOption

/-- A parameter that holds at most `limit` bytes. -/
def bytes? (limit : Nat) (value : String) : Option (List UInt8) :=
  (Base64.decode? Base64.standard value).filter (·.length ≤ limit)

/-- Take account of one parameter; a later one overrides an earlier one.  A key identifier is
checked and otherwise ignored. -/
def Costs.set? (costs : Costs) : String × String → Option Costs
  | (name, value) =>
    if name = "m" then (number? value).map fun n => { costs with memory := n }
    else if name = "t" then (number? value).map fun n => { costs with passes := n }
    else if name = "p" then (number? value).map fun n => { costs with lanes := n }
    else if name = "keyid" then (bytes? 8 value).map fun _ => costs
    else if name = "data" then (bytes? 32 value).map fun bytes => { costs with data := bytes }
    else none

/-- Whether the memory suffices for the lanes and every number is in its range. -/
def Costs.admissible (costs : Costs) : Bool :=
  8 ≤ costs.memory && 8 * costs.lanes ≤ costs.memory && 1 ≤ costs.passes && 1 ≤ costs.lanes
    && costs.lanes ≤ 0xFFFFFF

/-- The costs that a list of parameters describes. -/
def costs? (params : List (String × String)) : Option Costs :=
  (params.foldlM Costs.set? {}).filter Costs.admissible

/-- What the output of a stored hash was derived from, if the password is the right one: nothing if
the stored hash has no salt or describes no derivation. -/
def StoredHash.input? (h : StoredHash) (length : Nat) (password : String) :
    Option Argon2.Input := do
  let variant ← variant? h.algorithm
  let version ← version? h.version
  let costs ← costs? h.params
  let salt ← (h.salt.bind (Base64.decode? Base64.standard)).filter (8 ≤ ·.length)
  return {
    variant, version, salt, length
    memory := costs.memory
    passes := costs.passes
    lanes := costs.lanes
    data := costs.data
    password := bytesOf password }

/-- Whether the password belongs to a stored hash. -/
def StoredHash.verify (kdf : KeyDerivation) (h : StoredHash) (password : String) : Bool :=
  match h.output with
  | none => false
  | some output =>
    match h.input? output.length password with
    | none => false
    | some input => kdf.derive input == output

/-- Whether a password belongs to the text of a stored hash. -/
def verifyPassword (kdf : KeyDerivation) (password stored : String) : Except HashError Bool :=
  (StoredHash.parse stored).map fun h => h.verify kdf password

end CookieAuth.Password
