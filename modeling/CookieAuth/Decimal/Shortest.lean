/-!
# Shortest decimals

The fewest decimal digits that still determine a binary floating-point number: the shortest decimal
inside the interval of reals that round to the number, and of several such decimals the nearest one.
Where two are equally near, the one with the even last digit is taken.  All arithmetic is exact.

## Main definitions

* `Decimal.Binary`: a positive number `mantissa * 2 ^ exponent` with its rounding interval;
* `Decimal.Digits`: decimal digits and the position of the point;
* `Decimal.shortest`: the shortest digits of a number;
* `Decimal.floatText`: the text of a double, positional for moderate sizes.
-/

namespace CookieAuth.Decimal

/-- A positive binary number and what rounds to it.  All four numbers are counted in the same unit,
which is the fraction `unit⁻¹`. -/
structure Binary where
  /-- The number itself. -/
  value : Nat
  /-- The least real that rounds to it. -/
  low : Nat
  /-- The greatest real that rounds to it. -/
  high : Nat
  /-- How many of the counted parts make up one. -/
  unit : Nat
  /-- Whether the two ends round to the number. -/
  closed : Bool

/-- The binary number with these bits of a double, the sign left aside. -/
def Binary.ofBits (bits : UInt64) : Binary :=
  let raw := (bits >>> 52 &&& 0x7FF).toNat
  let fraction := (bits &&& 0xFFFFFFFFFFFFF).toNat
  let mantissa := if raw = 0 then fraction else fraction + 0x10000000000000
  -- The exponent of a quarter of the last place, raised by 1076 to keep it natural.
  let exponent := if raw = 0 then 1 else raw
  let scale := Nat.pow 2 (exponent - 1077)
  let below := if fraction = 0 && 1 < raw then 1 else 2
  { value := 4 * mantissa * scale
    low := (4 * mantissa - below) * scale
    high := (4 * mantissa + 2) * scale
    unit := Nat.pow 2 (1077 - exponent)
    closed := mantissa % 2 = 0 }

/-- Digits of a decimal fraction: the number `0.d₁d₂…` times ten to the power `exponent`. -/
structure Digits where
  /-- The digits as a number without trailing zeros. -/
  digits : List Char
  /-- The position of the point. -/
  exponent : Int
  deriving DecidableEq, Repr

/-- The digits of a natural number. -/
def digitsOf (n : Nat) : List Char :=
  Nat.toDigits 10 n

/-- The exponent with `10 ^ (e - 1) ≤ num / den < 10 ^ e`. -/
def magnitude (num den : Nat) : Int :=
  let e : Int := (digitsOf num).length - (digitsOf den).length
  if num * Nat.pow 10 (-e).toNat < den * Nat.pow 10 e.toNat then e else e + 1

/-- Whether the decimal `n * 10 ^ place` rounds to the number. -/
def Binary.admits (b : Binary) (n : Nat) (place : Int) : Bool :=
  let point := n * Nat.pow 10 place.toNat * b.unit
  let low := b.low * Nat.pow 10 (-place).toNat
  let high := b.high * Nat.pow 10 (-place).toNat
  if b.closed then low ≤ point && point ≤ high else low < point && point < high

/-- Whether the fraction `num / den` lies nearer to `below + 1` than to `below`, an exact half
counting as nearer to the even one of the two. -/
def roundsUp (num den below : Nat) : Bool :=
  let doubled := 2 * (num - below * den)
  den < doubled || (den = doubled && below % 2 = 1)

/-- The neighbour on the grid of `10 ^ place` that rounds to the number, the nearer one of two and
of two equally near ones the even one. -/
def Binary.onGrid? (b : Binary) (place : Int) : Option Nat :=
  let num := b.value * Nat.pow 10 (-place).toNat
  let den := b.unit * Nat.pow 10 place.toNat
  let below := num / den
  let above := below + 1
  if b.admits below place then
    if b.admits above place && roundsUp num den below then some above else some below
  else if b.admits above place then some above
  else none

/-- Try grids of more and more digits. -/
def Binary.search (b : Binary) (magnitude : Int) (count : Nat) : Nat → Nat × Int
  | 0 => (b.value / b.unit, 0)
  | fuel + 1 =>
    let place := magnitude - count
    match b.onGrid? place with
    | some n => (n, place)
    | none => b.search magnitude (count + 1) fuel

/-- The shortest digits of a positive number. -/
def shortest (b : Binary) : Digits :=
  let (n, place) := b.search (magnitude b.value b.unit) 1 17
  let digits := digitsOf n
  { digits := (digits.reverse.dropWhile (· = '0')).reverse
    exponent := place + digits.length }

/-- The text of a power of ten: the letter `e`, a sign in either case, and the digits. -/
def powerText (e : Int) : List Char :=
  'e' :: (if 0 ≤ e then ['+'] else []) ++ (toString e).toList

/-- The text of digits: positional for exponents between -4 and 16, otherwise with one digit before
the point and a power of ten. -/
def Digits.render (d : Digits) : String :=
  let count : Int := d.digits.length
  let zeros := fun n : Int => List.replicate n.toNat '0'
  let cs :=
    if -5 < d.exponent && d.exponent ≤ 16 then
      if d.exponent ≤ 0 then ['0', '.'] ++ zeros (-d.exponent) ++ d.digits
      else if count ≤ d.exponent then d.digits ++ zeros (d.exponent - count) ++ ['.', '0']
      else d.digits.take d.exponent.toNat ++ ['.'] ++ d.digits.drop d.exponent.toNat
    else
      let fraction := d.digits.drop 1
      d.digits.take 1 ++ (if fraction.isEmpty then [] else '.' :: fraction)
        ++ powerText (d.exponent - 1)
  String.ofList cs

/-- The text of the double with these bits, which is finite. -/
def floatText (bits : UInt64) : String :=
  let sign := if bits >>> 63 = 0 then "" else "-"
  if bits <<< 1 = 0 then sign ++ "0.0"
  else sign ++ (shortest (Binary.ofBits bits)).render

end CookieAuth.Decimal
