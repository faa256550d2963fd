/-!
# Reading integers

Decimal integers of a bounded type: an optional sign and one or more ASCII digits.  Reading goes
from left to right and reports the first thing that is wrong.

## Main definitions

* `Integer.Range`: the bounds of the type, a minus sign being allowed exactly if they admit
  negative numbers;
* `Integer.ReadError`: what can be wrong, with its wording in `ReadError.message`;
* `Integer.read`: the integer that a text stands for.
-/

namespace CookieAuth.Text.Integer

/-- The least and the greatest number of a type. -/
structure Range where
  /-- The least number. -/
  lo : Int
  /-- The greatest number. -/
  hi : Int

/-- Sixteen bits without a sign. -/
def word16 : Range := ⟨0, 65535⟩

/-- Sixty-four bits with a sign. -/
def signed64 : Range := ⟨-9223372036854775808, 9223372036854775807⟩

/-- What can be wrong with the text of an integer. -/
inductive ReadError where
  | empty
  | invalidDigit
  | tooLarge
  | tooSmall
  deriving DecidableEq, Repr

/-- The wording of an error. -/
def ReadError.message : ReadError → String
  | .empty => "cannot parse integer from empty string"
  | .invalidDigit => "invalid digit found in string"
  | .tooLarge => "number too large to fit in target type"
  | .tooSmall => "number too small to fit in target type"

/-- The value of an ASCII digit. -/
def digit? (c : Char) : Option Nat :=
  if '0' ≤ c && c ≤ '9' then some (c.toNat - 48) else none

/-- Read the digits after the number `acc`, upwards to the bound. -/
def readUp (hi : Int) (acc : Nat) : List Char → Except ReadError Int
  | [] => .ok acc
  | c :: rest =>
    match digit? c with
    | none => .error .invalidDigit
    | some d =>
      if hi < (acc * 10 + d : Nat) then .error .tooLarge else readUp hi (acc * 10 + d) rest

/-- Read the digits after the number `-acc`, downwards to the bound. -/
def readDown (lo : Int) (acc : Nat) : List Char → Except ReadError Int
  | [] => .ok (-acc)
  | c :: rest =>
    match digit? c with
    | none => .error .invalidDigit
    | some d =>
      if -((acc * 10 + d : Nat) : Int) < lo then .error .tooSmall
      else readDown lo (acc * 10 + d) rest

/-- The integer that a list of characters stands for. -/
def readList (range : Range) : List Char → Except ReadError Int
  | [] => .error .empty
  | ['+'] => .error .invalidDigit
  | ['-'] => .error .invalidDigit
  | '+' :: digits => readUp range.hi 0 digits
  | '-' :: digits =>
    if range.lo < 0 then readDown range.lo 0 digits else .error .invalidDigit
  | digits => readUp range.hi 0 digits

/-- The integer that a text stands for. -/
def read (range : Range) (s : String) : Except ReadError Int :=
  readList range s.toList

end CookieAuth.Text.Integer
