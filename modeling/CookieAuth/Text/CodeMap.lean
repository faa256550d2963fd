import CookieAuth.Text.CodeSet
import CookieAuth.Text.Split

/-!
# Maps of code points

A map from numbers to lists of characters, kept as one text of entries in increasing order, with
blanks or line ends between them.  An entry is a key, a colon and the code points of the value with
points between them, all in hexadecimal digits.  A range of keys stands for a run: `lo-hi:t` maps
every key of the range, and `lo~hi:t` every second one, to the code point at the same distance from
`t`.

## Main definitions

* `CodeMap`: a decoded map, with `CodeMap.get?`;
* `CodeMap.ofText`: the map of a text.
-/

namespace CookieAuth.Text

/-- A run of keys. -/
structure CodeRun where
  /-- The first key. -/
  first : Nat
  /-- The last key. -/
  last : Nat
  /-- The distance of two neighbouring keys. -/
  step : Nat
  /-- The value of the first key. -/
  value : List Nat

/-- A map from numbers to lists of characters. -/
structure CodeMap where
  /-- The first keys of all runs, in increasing order. -/
  firsts : Array Nat
  /-- The runs in the same order. -/
  runs : Array CodeRun

namespace CodeMap

/-- The value of a number. -/
def get? (map : CodeMap) (n : Nat) : Option (List Char) :=
  let k := rank map.firsts n
  if k = 0 then none
  else
    match map.runs[k - 1]? with
    | none => none
    | some run =>
      if run.last < n || (n - run.first) % run.step ≠ 0 then none
      else some (run.value.map fun v => Char.ofNat (v + (n - run.first)))

/-- The number that hexadecimal digits stand for. -/
def hexNumber (cs : List Char) : Nat :=
  cs.foldl
    (fun n c => n * 16 + (if c.toNat < 58 then c.toNat - 48 else c.toNat - 87)) 0

/-- A run of keys and its value. -/
def readRun (key value : List Char) : CodeRun :=
  let value := (splitAll '.' value).map hexNumber
  match splitFirst? '-' key, splitFirst? '~' key with
  | some (lo, hi), _ => ⟨hexNumber lo, hexNumber hi, 1, value⟩
  | none, some (lo, hi) => ⟨hexNumber lo, hexNumber hi, 2, value⟩
  | none, none => ⟨hexNumber key, hexNumber key, 1, value⟩

/-- The map of a text. -/
def ofText (text : String) : CodeMap :=
  let entries := (splitAll '\n' text.toList).flatMap (splitAll ' ')
  let runs := entries.filterMap fun entry =>
    (splitFirst? ':' entry).map fun (key, value) => readRun key value
  { firsts := (runs.map (·.first)).toArray
    runs := runs.toArray }

end CodeMap

end CookieAuth.Text
