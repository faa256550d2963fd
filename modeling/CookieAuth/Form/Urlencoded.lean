import CookieAuth.Text.Percent
import CookieAuth.Text.Split

/-!
# Encoded pairs

Names and values as they stand in queries and form bodies: pairs with ampersands between them, an
equals sign between name and value, a plus sign for a blank and escapes for other bytes.

## Main definitions

* `Urlencoded.component`: the text of an encoded name or value;
* `Urlencoded.pairs`: the names and values of an encoded list, in order.
-/

namespace CookieAuth.Form.Urlencoded

open Text

/-- A plus sign stands for a blank. -/
def blankOfPlus (b : UInt8) : UInt8 :=
  if b = 0x2B then 0x20 else b

/-- The text of an encoded name or value; what is no text shows as replacement characters. -/
def component (bytes : List UInt8) : String :=
  readLossy (percentDecode (bytes.map blankOfPlus))

/-- The name and the value of a segment; without an equals sign the value is empty. -/
def pair (segment : List UInt8) : String × String :=
  match splitFirst? 0x3D segment with
  | some (name, value) => (component name, component value)
  | none => (component segment, "")

/-- The names and values of an encoded list, in order; empty segments are skipped. -/
def pairs (bytes : List UInt8) : List (String × String) :=
  ((splitAll 0x26 bytes).filter (!·.isEmpty)).map pair

end CookieAuth.Form.Urlencoded
