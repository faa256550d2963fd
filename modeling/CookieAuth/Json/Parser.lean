import CookieAuth.Json.Basic
import CookieAuth.Text.Integer

/-!
# Reading JSON

A number without fraction and exponent is a whole number as long as it fits into 64 bits, with a
sign if it is negative; any other number is a double.  The fields of an object are sorted, and of
several values of a name the last one counts.

## Main definitions

* `Json.scaled`: a whole number times a power of ten as a double;
* `Json.readNumber`, `Json.readString`: the tokens with an inner structure;
* `Json.parse?`: the value that a text stands for.
-/

namespace CookieAuth.Json

open Text

/-- Skip the blanks between tokens. -/
def skipBlanks (cs : List Char) : List Char :=
  cs.dropWhile fun c => c = ' ' || c = '\n' || c = '\r' || c = '\t'

/-! ### Numbers -/

/-- Take digits into a number as long as it stays below `2 ^ 64`: the number, how many digits were
taken and what is left. -/
def takeDigits (acc count : Nat) : List Char → Nat × Nat × List Char
  | [] => (acc, count, [])
  | c :: rest =>
    match Integer.digit? c with
    | none => (acc, count, c :: rest)
    | some d =>
      if 0x10000000000000000 ≤ acc * 10 + d then (acc, count, c :: rest)
      else takeDigits (acc * 10 + d) (count + 1) rest

/-- A whole number below `2 ^ 64` times a power of ten: one rounding for the number, one for the
power and one for their product or quotient. -/
def scaled (significand : Nat) (exponent : Int) : Float :=
  let f := (UInt64.ofNat significand).toFloat
  if 0 ≤ exponent then f * Float.ofScientific 1 false exponent.toNat
  else
    let e := (-exponent).toNat
    if e ≤ 308 then f / Float.ofScientific 1 false e
    else f / Float.ofScientific 1 false 308 / Float.ofScientific 1 false (e - 308)

/-- An exponent after its letter. -/
def readExponent? (cs : List Char) : Option (Int × List Char) :=
  let (negative, cs) := match cs with
    | '-' :: rest => (true, rest)
    | '+' :: rest => (false, rest)
    | _ => (false, cs)
  let digits := cs.takeWhile fun c => (Integer.digit? c).isSome
  if digits.isEmpty then none
  else
    let n := (takeDigits 0 0 digits).1
    some (if negative then -n else n, cs.drop digits.length)

/-- A number, from its first character on. -/
def readNumber (cs : List Char) : Option (Json × List Char) :=
  let (negative, cs) := match cs with
    | '-' :: rest => (true, rest)
    | _ => (false, cs)
  let whole := cs.takeWhile fun c => (Integer.digit? c).isSome
  let rest := cs.drop whole.length
  if whole.isEmpty || (whole.head? = some '0' && 1 < whole.length) then none
  else
    let (significand, taken, _) := takeDigits 0 0 whole
    let dropped := whole.length - taken
    let double := fun (n : Nat) (e : Int) =>
      Json.float (if negative then -scaled n e else scaled n e).toBits
    let withExponent := fun (n : Nat) (e : Int) (rest : List Char) =>
      match rest with
      | c :: after =>
        if c = 'e' || c = 'E' then
          (readExponent? after).map fun (e', rest) => (double n (e + e'), rest)
        else some (double n e, rest)
      | [] => some (double n e, [])
    match rest with
    | '.' :: after =>
      let fraction := after.takeWhile fun c => (Integer.digit? c).isSome
      if fraction.isEmpty then none
      else
        let (n, count, _) :=
          if dropped = 0 then takeDigits significand 0 fraction else (significand, 0, [])
        withExponent n (dropped - count) (after.drop fraction.length)
    | _ =>
      let hasExponent := rest.head? = some 'e' || rest.head? = some 'E'
      if hasExponent || 0 < dropped then withExponent significand dropped rest
      else if negative then
        if significand = 0 || 0x8000000000000000 < significand then
          some (double significand 0, rest)
        else some (.int (-significand), rest)
      else some (.int significand, rest)

/-! ### Strings -/

/-- The value of a hexadecimal digit. -/
def hexDigit? (c : Char) : Option Nat :=
  if '0' ≤ c && c ≤ '9' then some (c.toNat - 48)
  else if 'a' ≤ c && c ≤ 'f' then some (c.toNat - 87)
  else if 'A' ≤ c && c ≤ 'F' then some (c.toNat - 55)
  else none

/-- The value of four hexadecimal digits. -/
def hex4? (a b c d : Char) : Option Nat := do
  let a ← hexDigit? a
  let b ← hexDigit? b
  let c ← hexDigit? c
  let d ← hexDigit? d
  return ((a * 16 + b) * 16 + c) * 16 + d

/-- The character that a letter after a backslash stands for. -/
def escaped? (c : Char) : Option Char :=
  if c = '"' || c = '\\' || c = '/' then some c
  else if c = 'b' then some (Char.ofNat 8)
  else if c = 'f' then some (Char.ofNat 12)
  else if c = 'n' then some '\n'
  else if c = 'r' then some '\r'
  else if c = 't' then some '\t'
  else none

/-- The rest of a string up to its closing quote, after the characters `acc` in reverse order. -/
def readString (acc : List Char) : List Char → Option (String × List Char)
  | [] => none
  | '"' :: rest => some (String.ofList acc.reverse, rest)
  | '\\' :: 'u' :: a :: b :: c :: d :: '\\' :: 'u' :: e :: f :: g :: h :: rest =>
    match hex4? a b c d, hex4? e f g h with
    | some high, some low =>
      if 0xD800 ≤ high && high ≤ 0xDBFF then
        if 0xDC00 ≤ low && low ≤ 0xDFFF then
          let n := 0x10000 + (high - 0xD800) * 1024 + (low - 0xDC00)
          readString (Char.ofNat n :: acc) rest
        else none
      else if 0xDC00 ≤ high && high ≤ 0xDFFF then none
      else readString (Char.ofNat high :: acc) ('\\' :: 'u' :: e :: f :: g :: h :: rest)
    | some n, none =>
      if 0xD800 ≤ n && n ≤ 0xDFFF then none
      else readString (Char.ofNat n :: acc) ('\\' :: 'u' :: e :: f :: g :: h :: rest)
    | none, _ => none
  | '\\' :: 'u' :: a :: b :: c :: d :: rest =>
    match hex4? a b c d with
    | some n =>
      if 0xD800 ≤ n && n ≤ 0xDFFF then none else readString (Char.ofNat n :: acc) rest
    | none => none
  | '\\' :: c :: rest =>
    match escaped? c with
    | some c => readString (c :: acc) rest
    | none => none
  | c :: rest => if c.toNat < 32 then none else readString (c :: acc) rest

/-! ### Values -/

mutual

/-- A value, at most `fuel` deep, and what is left after it. -/
def readValue : Nat → List Char → Option (Json × List Char)
  | 0, _ => none
  | fuel + 1, cs =>
    match skipBlanks cs with
    | 'n' :: 'u' :: 'l' :: 'l' :: rest => some (.null, rest)
    | 't' :: 'r' :: 'u' :: 'e' :: rest => some (.bool true, rest)
    | 'f' :: 'a' :: 'l' :: 's' :: 'e' :: rest => some (.bool false, rest)
    | '"' :: rest => (readString [] rest).map fun (s, rest) => (.str s, rest)
    | '[' :: rest =>
      match skipBlanks rest with
      | ']' :: rest => some (.arr [], rest)
      | rest => readItems fuel [] rest
    | '\x7b' :: rest =>
      match skipBlanks rest with
      | '\x7d' :: rest => some (.obj [], rest)
      | rest => readFields fuel [] rest
    | cs => readNumber cs

/-- The items of an array up to its closing bracket, after the items `acc` in reverse order. -/
def readItems : Nat → List Json → List Char → Option (Json × List Char)
  | 0, _, _ => none
  | fuel + 1, acc, cs =>
    match readValue fuel cs with
    | none => none
    | some (item, rest) =>
      match skipBlanks rest with
      | ',' :: rest => readItems fuel (item :: acc) rest
      | ']' :: rest => some (.arr (item :: acc).reverse, rest)
      | _ => none

/-- The fields of an object up to its closing brace, after the fields `acc` in reverse order. -/
def readFields : Nat → List (String × Json) → List Char → Option (Json × List Char)
  | 0, _, _ => none
  | fuel + 1, acc, cs =>
    match skipBlanks cs with
    | '"' :: rest =>
      match readString [] rest with
      | none => none
      | some (name, rest) =>
        match skipBlanks rest with
        | ':' :: rest =>
          match readValue fuel rest with
          | none => none
          | some (value, rest) =>
            match skipBlanks rest with
            | ',' :: rest => readFields fuel ((name, value) :: acc) rest
            | '\x7d' :: rest => some (ofFields ((name, value) :: acc).reverse, rest)
            | _ => none
        | _ => none
    | _ => none

end

/-- The value that a text stands for. -/
def parse? (s : String) : Option Json :=
  let cs := s.toList
  match readValue (cs.length + 1) cs with
  | some (value, rest) => if (skipBlanks rest).isEmpty then some value else none
  | none => none

end CookieAuth.Json
