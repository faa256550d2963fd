import CookieAuth.Text.Invisible

/-!
# Quoted text

How messages show a text: between double quotes, with a backslash before what would be misread and
a number in place of what cannot be seen.

## Main definitions

* `quoteChar`: one character inside a quotation;
* `quote`: a quoted text;
* `quoteBoth`: the same with a backslash before single quotes too;
* `hexText`: a number in lower case hexadecimal digits.
-/

namespace CookieAuth.Text

/-- A number in lower case hexadecimal digits, without leading zeros. -/
def hexText (n : Nat) : String :=
  String.ofList (Nat.toDigits 16 n)

/-- One character inside a quotation. -/
def quoteChar (c : Char) : String :=
  if c = '"' then "\\\""
  else if c = '\\' then "\\\\"
  else if c = '\n' then "\\n"
  else if c = '\r' then "\\r"
  else if c = '\t' then "\\t"
  else if c.toNat = 0 then "\\0"
  else if isInvisible c then "\\u\x7b" ++ hexText c.toNat ++ "\x7d"
  else c.toString

/-- A text between double quotes. -/
def quote (s : String) : String :=
  "\"" ++ String.join (s.toList.map quoteChar) ++ "\""

/-- A text between double quotes, with a backslash before quotes of both kinds. -/
def quoteBoth (s : String) : String :=
  "\"" ++ String.join (s.toList.map fun c => if c = '\'' then "\\'" else quoteChar c) ++ "\""

end CookieAuth.Text
