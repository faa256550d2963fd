import CookieAuth.Text.Integer

/-!
# Integers that are written are read again

Reading goes digit by digit and stops as soon as the number leaves the range of its type.  Since the
number never comes back, this is the same as reading all digits and comparing once.  So exactly the
texts of the numbers in the range are read, and among them what is written for a number.

## Main definitions

* `Denotes`: the texts that stand for an integer of a type.

## Main results

* `readUp_eq_ok_iff`, `readDown_eq_ok_iff`: reading digits;
* `read_eq_ok_iff`: what is read;
* `denotes_toString`: a number in the range is written as a text that stands for it.
-/

namespace CookieAuth.Text.Integer

/-- One or more digits. -/
def IsNumeral (digits : List Char) : Prop :=
  digits ≠ [] ∧ ∀ c ∈ digits, c.isDigit = true

/-- The texts that stand for an integer of a type: one or more digits, with a sign or without.  A
minus sign is only for types with negative numbers. -/
inductive Denotes (range : Range) : List Char → Int → Prop where
  | plain {digits : List Char} (h : IsNumeral digits)
    (hhi : (Nat.ofDigitChars 10 digits 0 : Int) ≤ range.hi) :
    Denotes range digits (Nat.ofDigitChars 10 digits 0)
  | plus {digits : List Char} (h : IsNumeral digits)
    (hhi : (Nat.ofDigitChars 10 digits 0 : Int) ≤ range.hi) :
    Denotes range ('+' :: digits) (Nat.ofDigitChars 10 digits 0)
  | minus {digits : List Char} (h : IsNumeral digits) (hneg : range.lo < 0)
    (hlo : range.lo ≤ -(Nat.ofDigitChars 10 digits 0 : Int)) :
    Denotes range ('-' :: digits) (-Nat.ofDigitChars 10 digits 0)

/-- A text of the type stands for an integer in its range. -/
theorem Denotes.bounds {range : Range} {cs : List Char} {n : Int} (h : Denotes range cs n)
    (hlo : range.lo ≤ 0) (hhi : 0 ≤ range.hi) : range.lo ≤ n ∧ n ≤ range.hi := by
  cases h with
  | plain _ hn => omega
  | plus _ hn => omega
  | minus _ _ hn => omega

/-! ### Digits -/

theorem digit?_of_isDigit {c : Char} (h : c.isDigit = true) :
    digit? c = some (c.toNat - '0'.toNat) := by
  unfold digit?
  rw [if_pos]
  · rfl
  · simpa [Char.isDigit, Char.le_def, and_comm] using h

theorem digit?_of_not_isDigit {c : Char} (h : c.isDigit = false) : digit? c = none := by
  unfold digit?
  rw [if_neg]
  simpa [Char.isDigit, Char.le_def] using h

theorem le_ofDigitChars (digits : List Char) (acc : Nat) :
    acc ≤ Nat.ofDigitChars 10 digits acc := by
  induction digits generalizing acc with
  | nil => exact Nat.le_refl _
  | cons c rest ih =>
    rw [Nat.ofDigitChars_cons]
    have := ih (10 * acc + (c.toNat - '0'.toNat))
    omega

theorem readUp_eq_ok_iff {hi : Int} {acc : Nat} {cs : List Char} {n : Int}
    (hacc : (acc : Int) ≤ hi) :
    readUp hi acc cs = .ok n ↔
      (∀ c ∈ cs, c.isDigit = true) ∧ n = Nat.ofDigitChars 10 cs acc ∧ n ≤ hi := by
  induction cs generalizing acc with
  | nil =>
    rw [readUp, Except.ok.injEq, Nat.ofDigitChars_nil]
    constructor
    · rintro rfl
      exact ⟨by simp, rfl, hacc⟩
    · exact fun h => h.2.1.symm
  | cons c rest ih =>
    cases hc : c.isDigit with
    | false =>
      rw [readUp, digit?_of_not_isDigit hc]
      simp [hc]
    | true =>
      have hnext : acc * 10 + (c.toNat - '0'.toNat) = 10 * acc + (c.toNat - '0'.toNat) := by omega
      rw [readUp, digit?_of_isDigit hc, List.forall_mem_cons, Nat.ofDigitChars_cons, ← hnext]
      dsimp only
      split
      · next hlarge =>
        -- The number only grows from here.
        have hle := le_ofDigitChars rest (acc * 10 + (c.toNat - '0'.toNat))
        simp only [reduceCtorEq, false_iff]
        rintro ⟨-, rfl, hhi⟩
        omega
      · next hsmall =>
        rw [ih (Int.not_lt.mp hsmall)]
        simp [hc]

/-- Reading downwards is reading upwards with the sign changed. -/
theorem readDown_eq_ok_iff {lo : Int} {acc : Nat} {cs : List Char} {n : Int} :
    readDown lo acc cs = .ok n ↔ readUp (-lo) acc cs = .ok (-n) := by
  induction cs generalizing acc with
  | nil =>
    simp only [readDown, readUp, Except.ok.injEq]
    omega
  | cons c rest ih =>
    rw [readDown, readUp]
    cases digit? c with
    | none => simp
    | some d =>
      have hcompare : -((acc * 10 + d : Nat) : Int) < lo ↔ -lo < ((acc * 10 + d : Nat) : Int) := by
        omega
      simp only [hcompare]
      split
      · simp
      · exact ih

/-! ### Texts -/

/-- What is read stands for the integer that is read. -/
theorem denotes_of_readList {range : Range} (hhi : 0 ≤ range.hi) {cs : List Char} {n : Int}
    (h : readList range cs = .ok n) : Denotes range cs n := by
  unfold readList at h
  -- The cases are the empty text, a sign alone, each sign before digits, and no sign.
  split at h
  · simp at h
  · simp at h
  · simp at h
  · next digits hsome =>
    obtain ⟨hdigits, rfl, hn⟩ := (readUp_eq_ok_iff hhi).mp h
    exact .plus ⟨by rintro rfl; exact hsome rfl, hdigits⟩ hn
  · next digits hsome =>
    split at h
    · next hneg =>
      obtain ⟨hdigits, hn, hle⟩ := (readUp_eq_ok_iff (by omega)).mp (readDown_eq_ok_iff.mp h)
      obtain rfl : n = -Nat.ofDigitChars 10 digits 0 := by omega
      exact .minus ⟨by rintro rfl; exact hsome rfl, hdigits⟩ hneg (by omega)
    · simp at h
  · next hsome _ _ _ _ =>
    obtain ⟨hdigits, rfl, hn⟩ := (readUp_eq_ok_iff hhi).mp h
    exact .plain ⟨by rintro rfl; exact hsome rfl, hdigits⟩ hn

/-- A text that stands for an integer is read. -/
theorem readList_of_denotes {range : Range} (hhi : 0 ≤ range.hi) {cs : List Char} {n : Int}
    (h : Denotes range cs n) : readList range cs = .ok n := by
  cases h with
  | plain h hn =>
    have hread : readList range cs = readUp range.hi 0 cs := by
      -- A sign is no digit.
      have hplus : '+'.isDigit ≠ true := by decide
      have hminus : '-'.isDigit ≠ true := by decide
      unfold readList
      split
      · exact absurd rfl h.1
      · exact absurd (h.2 _ List.mem_cons_self) hplus
      · exact absurd (h.2 _ List.mem_cons_self) hminus
      · exact absurd (h.2 _ List.mem_cons_self) hplus
      · exact absurd (h.2 _ List.mem_cons_self) hminus
      · rfl
    rw [hread, readUp_eq_ok_iff hhi]
    exact ⟨h.2, rfl, hn⟩
  | @plus digits h hn =>
    have hread : readList range ('+' :: digits) = readUp range.hi 0 digits := by
      rw [readList]
      exact h.1
    rw [hread, readUp_eq_ok_iff hhi]
    exact ⟨h.2, rfl, hn⟩
  | @minus digits h hneg hn =>
    have hread : readList range ('-' :: digits) = readDown range.lo 0 digits := by
      rw [readList, if_pos hneg]
      exact h.1
    rw [hread, readDown_eq_ok_iff, readUp_eq_ok_iff (by omega)]
    exact ⟨h.2, by omega, by omega⟩

/-- Exactly the texts that stand for an integer are read. -/
theorem read_eq_ok_iff {range : Range} (hhi : 0 ≤ range.hi) {s : String} {n : Int} :
    read range s = .ok n ↔ Denotes range s.toList n :=
  ⟨denotes_of_readList hhi, readList_of_denotes hhi⟩

theorem isNumeral_repr (n : Nat) : IsNumeral n.repr.toList := by
  rw [Nat.toList_repr]
  exact ⟨Nat.toDigits_ne_nil, fun c => Nat.isDigit_of_mem_toDigits (by decide) (by decide)⟩

theorem ofDigitChars_repr (n : Nat) : Nat.ofDigitChars 10 n.repr.toList 0 = n := by
  rw [Nat.toList_repr]
  exact Nat.ofDigitChars_toDigits (by decide) (by decide)

theorem toList_toString_negSucc (m : Nat) :
    (toString (Int.negSucc m)).toList = '-' :: (m + 1).repr.toList := by
  have hwritten : toString (Int.negSucc m) = "-" ++ (m + 1).repr := rfl
  rw [hwritten, String.toList_append]
  rfl

/-- An integer is written with digits and a minus sign. -/
theorem isDigit_of_mem_toString {n : Int} {c : Char} (h : c ∈ (toString n).toList) :
    c.isDigit = true ∨ c = '-' := by
  cases n with
  | ofNat m => exact .inl ((isNumeral_repr m).2 c h)
  | negSucc m =>
    rw [toList_toString_negSucc, List.mem_cons] at h
    rcases h with rfl | h
    · exact .inr rfl
    · exact .inl ((isNumeral_repr (m + 1)).2 c h)

/-- What is written for an integer in the range stands for it. -/
theorem denotes_toString {range : Range} {n : Int} (hlo : range.lo ≤ n) (hhi : n ≤ range.hi) :
    Denotes range (toString n).toList n := by
  cases n with
  | ofNat m =>
    have hbound : (Nat.ofDigitChars 10 m.repr.toList 0 : Int) ≤ range.hi := by
      rw [ofDigitChars_repr]
      exact hhi
    have h := Denotes.plain (isNumeral_repr m) hbound
    rwa [ofDigitChars_repr] at h
  | negSucc m =>
    have hbound : range.lo ≤ -(Nat.ofDigitChars 10 (m + 1).repr.toList 0 : Int) := by
      rw [ofDigitChars_repr]
      exact hlo
    have h := Denotes.minus (isNumeral_repr (m + 1)) (by omega) hbound
    rw [ofDigitChars_repr] at h
    rw [toList_toString_negSucc]
    exact h

end CookieAuth.Text.Integer
