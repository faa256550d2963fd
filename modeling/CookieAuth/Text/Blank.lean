/-!
# Blank characters

White space in the sense of the Unicode property of that name, and trimming.

## Main definitions

* `isBlank`: the white space characters;
* `trim`, `trimStart`, `trimEnd`: a text without the blanks around it;
* `isBlankText`: whether a text has no other character.

## Main results

* `head?_dropBlanks`: what is left after dropping blanks does not start with one;
* `dropBlanks_eq_nil_iff`: exactly the blank texts have nothing left.
-/

namespace CookieAuth.Text

/-- White space. -/
def isBlank (c : Char) : Bool :=
  let n := c.toNat
  (9 ≤ n && n ≤ 13) || n == 0x20 || n == 0x85 || n == 0xA0 || n == 0x1680
    || (0x2000 ≤ n && n ≤ 0x200A) || n == 0x2028 || n == 0x2029 || n == 0x202F || n == 0x205F
    || n == 0x3000

/-- Characters without the leading blanks. -/
def dropBlanks (cs : List Char) : List Char :=
  cs.dropWhile isBlank

/-- Characters without the blanks at either end. -/
def trimList (cs : List Char) : List Char :=
  (dropBlanks (dropBlanks cs).reverse).reverse

/-- A text without the blanks at either end. -/
def trim (s : String) : String :=
  String.ofList (trimList s.toList)

/-- A text without the leading blanks. -/
def trimStart (s : String) : String :=
  String.ofList (dropBlanks s.toList)

/-- A text without the trailing blanks. -/
def trimEnd (s : String) : String :=
  String.ofList (dropBlanks s.toList.reverse).reverse

/-- Whether a text has no character other than blanks. -/
def isBlankText (s : String) : Bool :=
  s.toList.all isBlank

theorem head?_dropBlanks {cs : List Char} {c : Char} (h : (dropBlanks cs).head? = some c) :
    isBlank c = false := by
  induction cs with
  | nil => simp [dropBlanks] at h
  | cons d ds ih =>
    unfold dropBlanks at h ih
    rw [List.dropWhile_cons] at h
    split at h
    · exact ih h
    · next hd => simp only [List.head?_cons, Option.some.injEq] at h; subst h; simpa using hd

theorem dropBlanks_eq_nil_iff {cs : List Char} : dropBlanks cs = [] ↔ cs.all isBlank = true := by
  induction cs with
  | nil => simp [dropBlanks]
  | cons d ds ih =>
    unfold dropBlanks at ih ⊢
    rw [List.dropWhile_cons]
    cases hd : isBlank d <;> simp [hd, ih]

end CookieAuth.Text
