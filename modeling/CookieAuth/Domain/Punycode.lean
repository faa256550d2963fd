import CookieAuth.Text.Split

/-!
# Labels in ASCII letters

The encoding of a label's other characters by ASCII letters and digits: the ASCII characters come
first, and behind the last hyphen follow the others as a sequence of numbers of variable length,
each of which says how far to count, through code points and positions, to the next insertion.

## Main definitions

* `Punycode.encode?`: the encoded form of a label;
* `Punycode.decode?`: the label of an encoded form.
-/

namespace CookieAuth.Domain.Punycode

open Text

/-- The greatest number that counting may reach. -/
def limit : Nat := 4294967295

/-- The threshold of the digit at position `k`. -/
def threshold (k bias : Nat) : Nat :=
  if k ≤ bias then 1 else if bias + 26 ≤ k then 26 else k - bias

/-- Scale a number down until it is below the bound, counting the steps. -/
def scaleDown : Nat → Nat → Nat → Nat × Nat
  | 0, delta, k => (delta, k)
  | fuel + 1, delta, k =>
    if 455 < delta then scaleDown fuel (delta / 35) (k + 36) else (delta, k)

/-- The bias after a number. -/
def adapt (delta count : Nat) (first : Bool) : Nat :=
  let delta := if first then delta / 700 else delta / 2
  let (delta, k) := scaleDown 16 (delta + delta / count) 0
  k + 36 * delta / (delta + 38)

/-! ### Encoding -/

/-- The digit for a number below 36. -/
def digitChar (n : Nat) : Char :=
  if n < 26 then Char.ofNat (n + 97) else Char.ofNat (n + 22)

/-- The digits of a number. -/
def digits (bias : Nat) : Nat → Nat → Nat → List Char
  | 0, _, _ => []
  | fuel + 1, q, k =>
    let t := threshold k bias
    if q < t then [digitChar q]
    else digitChar (t + (q - t) % (36 - t)) :: digits bias fuel ((q - t) / (36 - t)) (k + 36)

/-- The state of the encoder. -/
structure Encoder where
  /-- How far counting has come since the last insertion. -/
  delta : Nat
  /-- The current bias. -/
  bias : Nat
  /-- How many characters are done. -/
  done : Nat
  /-- The digits so far, in reverse order. -/
  out : List Char

/-- Go through the label once for the code point `n`. -/
def Encoder.pass (basic n : Nat) (e : Encoder) (c : Char) : Encoder :=
  if c.toNat < n then { e with delta := e.delta + 1 }
  else if c.toNat = n then
    { delta := 0
      bias := adapt e.delta (e.done + 1) (e.done = basic)
      done := e.done + 1
      out := (digits e.bias 16 e.delta 36).reverse ++ e.out }
  else e

/-- Encode the code points from `n` on. -/
def encodeFrom (label : List Char) (basic : Nat) : Nat → Nat → Encoder → Option (List Char)
  | 0, _, e => some e.out.reverse
  | fuel + 1, n, e =>
    match ((label.map Char.toNat).filter (n ≤ ·)).min? with
    | none => some e.out.reverse
    | some m =>
      if (limit - e.delta) / (e.done + 1) < m - n then none
      else
        let e := { e with delta := e.delta + (m - n) * (e.done + 1) }
        let e := label.foldl (Encoder.pass basic m) e
        encodeFrom label basic fuel (m + 1) { e with delta := e.delta + 1 }

/-- The encoded form of a label. -/
def encode? (label : List Char) : Option (List Char) :=
  let basic := label.filter (·.toNat < 128)
  let start := if basic.isEmpty then [] else basic ++ ['-']
  (encodeFrom label basic.length label.length 128 ⟨0, 72, basic.length, []⟩).map (start ++ ·)

/-! ### Decoding -/

/-- The number that a digit stands for. -/
def digitValue? (c : Char) : Option Nat :=
  if '0' ≤ c && c ≤ '9' then some (c.toNat - 22)
  else if 'A' ≤ c && c ≤ 'Z' then some (c.toNat - 65)
  else if 'a' ≤ c && c ≤ 'z' then some (c.toNat - 97)
  else none

/-- Read one number of variable length and add it to `i`. -/
def readNumber (bias : Nat) (i weight k : Nat) : List Char → Option (Nat × List Char)
  | [] => none
  | c :: rest =>
    match digitValue? c with
    | none => none
    | some d =>
      if (limit - i) / weight < d then none
      else
        let i := i + d * weight
        let t := threshold k bias
        if d < t then some (i, rest)
        else if limit / (36 - t) < weight then none
        else readNumber bias i (weight * (36 - t)) (k + 36) rest

/-- Insert characters as the numbers say. -/
def decodeFrom (label : List Char) (n i bias : Nat) : Nat → List Char → Option (List Char)
  | 0, _ => none
  | fuel + 1, cs =>
    if cs.isEmpty then some label
    else
      match readNumber bias i 1 36 cs with
      | none => none
      | some (j, rest) =>
        let count := label.length + 1
        if limit - n < j / count then none
        else
          let n := n + j / count
          if n.isValidChar then
            decodeFrom (label.insertIdx (j % count) (Char.ofNat n)) n (j % count + 1)
              (adapt (j - i) count (i = 0)) fuel rest
          else none

/-- The label of an encoded form. -/
def decode? (cs : List Char) : Option (List Char) :=
  let (basic, rest) := match splitLast? '-' cs with
    | none => ([], cs)
    | some (before, after) => (before, if before.isEmpty then cs else after)
  if basic.all (·.toNat < 128) then decodeFrom basic 128 0 72 (rest.length + 1) rest else none

end CookieAuth.Domain.Punycode
