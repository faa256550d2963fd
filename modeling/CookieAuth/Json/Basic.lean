/-!
# JSON values

## Main definitions

* `Json`: a JSON value.  Whole numbers and floating-point numbers are kept apart, the latter as
  their bits, and the fields of an object are a list in the order in which they are written;
* `Json.get?`: a field of an object;
* `Json.ofFields`: an object with sorted fields, a later value of a name replacing an earlier one;
* `Json.same`: equality of values.

## Main results

* `Json.lookup_insertField`: which value a name has after a field was put in.
-/

namespace CookieAuth

/-- A JSON value. -/
inductive Json where
  | null
  | bool (b : Bool)
  | int (n : Int)
  | float (bits : UInt64)
  | str (s : String)
  | arr (items : List Json)
  | obj (fields : List (String × Json))
  deriving Inhabited, Repr

namespace Json

/-- Put a field into sorted fields, replacing one of the same name. -/
def insertField (name : String) (value : Json) : List (String × Json) → List (String × Json)
  | [] => [(name, value)]
  | (other, old) :: rest =>
    if name < other then (name, value) :: (other, old) :: rest
    else if name = other then (name, value) :: rest
    else (other, old) :: insertField name value rest

theorem lookup_cons (name other : String) (value : Json) (fields : List (String × Json)) :
    List.lookup other ((name, value) :: fields)
      = if other = name then some value else fields.lookup other := by
  by_cases h : other = name
  · simp [h]
  · have hne : (other == name) = false := by simpa using h
    rw [List.lookup_cons, hne, if_neg h]

theorem lookup_insertField (name other : String) (value : Json) (fields : List (String × Json)) :
    (insertField name value fields).lookup other
      = if other = name then some value else fields.lookup other := by
  induction fields with
  | nil => rw [insertField, lookup_cons]
  | cons head rest ih =>
    obtain ⟨key, old⟩ := head
    rw [insertField]
    split
    · rw [lookup_cons]
    · split
      · next hkey =>
        subst hkey
        rw [lookup_cons, lookup_cons]
        by_cases h : other = name <;> simp [h]
      · next hkey =>
        rw [lookup_cons, lookup_cons, ih]
        by_cases h : other = name
        · simp [h, hkey]
        · simp [h]

/-- Sorted fields; of several values of a name the last one counts. -/
def sortFields (fields : List (String × Json)) : List (String × Json) :=
  fields.foldl (fun sorted (name, value) => insertField name value sorted) []

/-- The object with these fields, sorted. -/
def ofFields (fields : List (String × Json)) : Json :=
  .obj (sortFields fields)

/-- A field of an object. -/
def get? : Json → String → Option Json
  | .obj fields, name => fields.lookup name
  | _, _ => none

/-- Two doubles are the same number. -/
def sameFloat (a b : UInt64) : Bool :=
  a = b || (a <<< 1 = 0 && b <<< 1 = 0)

mutual

/-- Equality of values.  A whole number never equals a floating-point number, and the two zeros of
floating-point numbers are equal. -/
def same : Json → Json → Bool
  | .null, .null => true
  | .bool a, .bool b => a == b
  | .int a, .int b => a == b
  | .float a, .float b => sameFloat a b
  | .str a, .str b => a == b
  | .arr as, .arr bs => sameItems as bs
  | .obj as, .obj bs => sameFields as bs
  | _, _ => false

/-- Equality of lists of values. -/
def sameItems : List Json → List Json → Bool
  | [], [] => true
  | a :: as, b :: bs => same a b && sameItems as bs
  | _, _ => false

/-- Equality of lists of fields. -/
def sameFields : List (String × Json) → List (String × Json) → Bool
  | [], [] => true
  | (x, a) :: as, (y, b) :: bs => x == y && same a b && sameFields as bs
  | _, _ => false

end

/-- Only a string is the same as a string. -/
theorem same_str {s : String} {j : Json} (h : same (.str s) j = true) : j = .str s := by
  cases j with
  | str t => rw [same, beq_iff_eq] at h; rw [h]
  | _ => simp [same] at h

end Json

end CookieAuth
