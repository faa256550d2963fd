/-!
# Cutting lists apart

Cutting a list at a separator: at every occurrence, at the first one or at the last one.

## Main definitions

* `splitAll`: the parts between all separators, at least one part;
* `splitFirst?`: what stands before and after the first separator;
* `splitLast?`: what stands before and after the last separator;
* `occursIn`: whether a list stands somewhere in another one.

## Main results

* `append_of_splitFirst?`: the two parts and the separator make up the list.
-/

namespace CookieAuth.Text

variable {α : Type} [BEq α]

/-- Cut the rest of a list, after the finished parts `parts` and the characters `part` of the
current part, both in reverse order. -/
def splitFrom (sep : α) (parts : List (List α)) (part : List α) : List α → List (List α)
  | [] => (part.reverse :: parts).reverse
  | a :: rest =>
    if a == sep then splitFrom sep (part.reverse :: parts) [] rest
    else splitFrom sep parts (a :: part) rest

/-- The parts of a list between all separators. -/
def splitAll (sep : α) (l : List α) : List (List α) :=
  splitFrom sep [] [] l

/-- Look for the first separator after the elements `before`, which stand in reverse order. -/
def splitFirstFrom (sep : α) (before : List α) : List α → Option (List α × List α)
  | [] => none
  | a :: rest =>
    if a == sep then some (before.reverse, rest) else splitFirstFrom sep (a :: before) rest

/-- What stands before and after the first separator. -/
def splitFirst? (sep : α) (l : List α) : Option (List α × List α) :=
  splitFirstFrom sep [] l

/-- What stands before and after the last separator. -/
def splitLast? (sep : α) (l : List α) : Option (List α × List α) :=
  (splitFirst? sep l.reverse).map fun (after, before) => (before.reverse, after.reverse)

/-- Whether the elements `part` stand side by side somewhere in a list. -/
def occursIn (part : List α) : List α → Bool
  | [] => part.isEmpty
  | a :: rest => part.isPrefixOf (a :: rest) || occursIn part rest

theorem append_of_splitFirstFrom [LawfulBEq α] {sep : α} {before l x y : List α}
    (h : splitFirstFrom sep before l = some (x, y)) : before.reverse ++ l = x ++ sep :: y := by
  induction l generalizing before with
  | nil => simp [splitFirstFrom] at h
  | cons a rest ih =>
    unfold splitFirstFrom at h
    split at h
    · next ha =>
      simp only [Option.some.injEq, Prod.mk.injEq] at h
      rw [← h.1, ← h.2, eq_of_beq ha]
    · simpa using ih h

theorem append_of_splitFirst? [LawfulBEq α] {sep : α} {l x y : List α}
    (h : splitFirst? sep l = some (x, y)) : l = x ++ sep :: y := by
  simpa using append_of_splitFirstFrom h

end CookieAuth.Text
