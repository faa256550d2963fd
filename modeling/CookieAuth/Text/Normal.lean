import CookieAuth.Text.Normal.Table

/-!
# Canonical composition

The composed normal form of a text: characters are decomposed, the marks after each base character
are put in their canonical order, and what can be composed is composed again.

## Main definitions

* `Normal.decompose`: the decomposed characters of a list;
* `Normal.reorder`: the canonical order of marks;
* `Normal.compose`: the composed characters of a list;
* `Normal.normalize`: the composed normal form;
* `Normal.isNormal`: whether a list is in that form.
-/

namespace CookieAuth.Text.Normal

/-- The decomposition of a syllable block into its two or three letters. -/
def decomposeSyllable (n : Nat) : List Char :=
  let s := n - 0xAC00
  let letters := [Char.ofNat (0x1100 + s / 588), Char.ofNat (0x1161 + s % 588 / 28)]
  if s % 28 = 0 then letters else letters ++ [Char.ofNat (0x11A7 + s % 28)]

/-- The decomposition of a character; decompositions are nested at most a few steps deep. -/
def decomposeChar : Nat → Char → List Char
  | 0, c => [c]
  | fuel + 1, c =>
    let n := c.toNat
    if 0xAC00 ≤ n && n ≤ 0xD7A3 then decomposeSyllable n
    else
      match decompositions.get? n with
      | none => [c]
      | some cs => cs.flatMap (decomposeChar fuel)

/-- The decomposed characters of a list. -/
def decompose (cs : List Char) : List Char :=
  cs.flatMap (decomposeChar 8)

/-- Put a mark before the marks of a higher class at the end of a reversed list. -/
def insertMark (c : Char) (k : Nat) : List Char → List Char
  | [] => [c]
  | d :: rest => if k < combiningClass d then d :: insertMark c k rest else c :: d :: rest

/-- The canonical order of the rest of a list, after the characters `done` in reverse order. -/
def reorderFrom (done : List Char) : List Char → List Char
  | [] => done.reverse
  | c :: rest =>
    let k := combiningClass c
    reorderFrom (if k = 0 then c :: done else insertMark c k done) rest

/-- The canonical order of marks. -/
def reorder (cs : List Char) : List Char :=
  reorderFrom [] cs

/-- The composition of two characters. -/
def composePair? (a b : Char) : Option Char :=
  let x := a.toNat
  let y := b.toNat
  if 0x1100 ≤ x && x ≤ 0x1112 && 0x1161 ≤ y && y ≤ 0x1175 then
    some (Char.ofNat (0xAC00 + (x - 0x1100) * 588 + (y - 0x1161) * 28))
  else if 0xAC00 ≤ x && x ≤ 0xD7A3 && (x - 0xAC00) % 28 = 0 && 0x11A8 ≤ y && y ≤ 0x11C2 then
    some (Char.ofNat (x + (y - 0x11A7)))
  else ((compositions.get? (pairKey a b)).bind List.head?)

/-- Compose the rest of a list.  `done` are the finished characters, then comes the base character
`base`, then the characters `after` that did not compose with it, of which the last has class
`last`; both lists are in reverse order. -/
def composeFrom (done : List Char) (base : Char) (after : List Char) (last : Nat) :
    List Char → List Char
  | [] => (after ++ base :: done).reverse
  | c :: rest =>
    let k := combiningClass c
    let composed := if after.isEmpty || last < k then composePair? base c else none
    match composed with
    | some b => composeFrom done b after last rest
    | none =>
      if k = 0 then composeFrom (after ++ base :: done) c [] 0 rest
      else composeFrom done base (c :: after) k rest

/-- The composed characters of a list. -/
def compose (cs : List Char) : List Char :=
  let start := cs.takeWhile (combiningClass · ≠ 0)
  match cs.drop start.length with
  | [] => start
  | base :: rest => start ++ composeFrom [] base [] 0 rest

/-- The composed normal form. -/
def normalize (cs : List Char) : List Char :=
  compose (reorder (decompose cs))

/-- Whether a list is in composed normal form. -/
def isNormal (cs : List Char) : Bool :=
  normalize cs == cs

end CookieAuth.Text.Normal
