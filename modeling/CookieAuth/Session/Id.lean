import CookieAuth.Text.Base64

/-!
# Session identifiers

## Main definitions

* `SessionId`: sixteen random bytes;
* `SessionId.text`, `SessionId.parse?`: the text of an identifier and reading one.
-/

namespace CookieAuth

open Text

/-- Sixteen random bytes. -/
structure SessionId where
  /-- The bytes. -/
  bytes : List UInt8
  /-- There are sixteen of them. -/
  length_bytes : bytes.length = 16
  deriving DecidableEq, Repr

namespace SessionId

/-- The identifier with these bytes. -/
def ofBytes? (bytes : List UInt8) : Option SessionId :=
  if h : bytes.length = 16 then some ⟨bytes, h⟩ else none

/-- The text of an identifier, 22 characters. -/
def text (id : SessionId) : String :=
  Base64.encode Base64.urlSafe id.bytes

/-- The identifier in a text. -/
def parse? (s : String) : Option SessionId :=
  (Base64.decode? Base64.urlSafe s).bind ofBytes?

end SessionId

end CookieAuth
