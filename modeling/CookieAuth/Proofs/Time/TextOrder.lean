import CookieAuth.Proofs.Time.Calendar
import Mathlib.Algebra.Group.Nat.Defs

/-!
# Points in time and their texts

Points in time are compared by their texts.  In years of four digits all parts of a text but the
fraction of a second have a fixed length, and the largest part comes first, so the texts are in the
order of time.  A later year is written with a sign in front, which comes before every digit: such a
text stands before those of all years of four digits.

## Main definitions

* `digits`: the last digits of a number;
* `Instant.InFourDigits`: the year of a point in time has four digits.

## Main results

* `lt_append_of_lt`: texts of one length are compared before what follows them;
* `digits_lt_digits`, `toList_padded`: numbers and their digits are in the same order;
* `fractionText_lt`: so are fractions of a second, although zeros at the end are left out;
* `Instant.text_lt_iff`: when the text of a point in time stands before that of another one.
-/

namespace CookieAuth.Time

/-! ### Digits -/

/-- Lists of one length are compared before what follows them. -/
theorem lt_append_of_lt {x y : List Char} (hlength : x.length = y.length) (h : x < y)
    (u v : List Char) : x ++ u < y ++ v := by
  induction x generalizing y with
  | nil =>
    rw [List.eq_nil_of_length_eq_zero hlength.symm] at h
    exact absurd h (List.lt_irrefl _)
  | cons a x ih =>
    cases y with
    | nil => simp at hlength
    | cons b y =>
      rw [List.cons_append, List.cons_append, List.cons_lt_cons_iff]
      rcases List.cons_lt_cons_iff.mp h with hless | ⟨hsame, hrest⟩
      · exact .inl hless
      · exact .inr ⟨hsame, ih (Nat.succ.inj hlength) hrest⟩

/-- The last `k` digits of a number. -/
def digits : Nat → Nat → List Char
  | 0, _ => []
  | k + 1, n => digits k (n / 10) ++ [Nat.digitChar (n % 10)]

@[simp] theorem length_digits (k n : Nat) : (digits k n).length = k := by
  induction k generalizing n with
  | zero => rfl
  | succ k ih => rw [digits, List.length_append, ih, List.length_singleton]

theorem digitChar_lt_digitChar (a b : Fin 10) (h : a < b) :
    Nat.digitChar a.val < Nat.digitChar b.val := by
  decide +revert

/-- Signs come before digits. -/
theorem sign_lt_digitChar (a : Fin 10) :
    '+' < Nat.digitChar a.val ∧ '-' < Nat.digitChar a.val := by
  decide +revert

/-- The digits of numbers are in the order of the numbers. -/
theorem digits_lt_digits {k m n : Nat} (h : m < n) (hn : n < 10 ^ k) :
    digits k m < digits k n := by
  induction k generalizing m n with
  | zero => simp only [Nat.pow_zero] at hn; omega
  | succ k ih =>
    rw [Nat.pow_succ] at hn
    rw [digits, digits]
    by_cases hsame : m / 10 = n / 10
    · rw [hsame]
      apply List.append_left_lt
      rw [List.cons_lt_cons_iff]
      exact .inl (digitChar_lt_digitChar ⟨m % 10, by omega⟩ ⟨n % 10, by omega⟩
        (Fin.mk_lt_mk.mpr (by omega)))
    · apply lt_append_of_lt (by simp)
      exact ih (by omega) (by omega)

/-- A number of a fixed width is compared before what follows a separator. -/
theorem digits_cons_lt {k m n : Nat} {sep : Char} {u v : List Char} (hn : n < 10 ^ k)
    (h : m < n ∨ m = n ∧ u < v) : digits k m ++ sep :: u < digits k n ++ sep :: v := by
  rcases h with hless | ⟨rfl, hrest⟩
  · exact lt_append_of_lt (by simp) (digits_lt_digits hless hn) _ _
  · apply List.append_left_lt
    exact List.cons_lt_cons_iff.mpr (.inr ⟨rfl, hrest⟩)

/-- The last digits of a number are some digits and then the rest of them. -/
theorem digits_add (a b n : Nat) : digits (a + b) n = digits a (n / 10 ^ b) ++ digits b n := by
  induction b generalizing n with
  | zero => simp [digits]
  | succ b ih =>
    rw [← Nat.add_assoc, digits, ih, digits, Nat.div_div_eq_div_mul, ← Nat.pow_succ',
      List.append_assoc]

/-- Digits come after a sign, whatever follows. -/
theorem sign_lt_digits {k : Nat} (hk : 0 < k) (n : Nat) (u v : List Char) :
    '+' :: u < digits k n ++ v ∧ '-' :: u < digits k n ++ v := by
  obtain ⟨k, rfl⟩ : ∃ j, k = 1 + j := ⟨k - 1, by omega⟩
  have hsign := sign_lt_digitChar ⟨n / 10 ^ k % 10, by omega⟩
  rw [digits_add]
  exact ⟨List.cons_lt_cons_iff.mpr (.inl hsign.1), List.cons_lt_cons_iff.mpr (.inl hsign.2)⟩

theorem digits_zero (k : Nat) : digits k 0 = List.replicate k '0' := by
  induction k with
  | zero => rfl
  | succ k ih =>
    rw [digits, Nat.zero_div, ih, List.replicate_succ']
    rfl

/-- A number that is short enough is filled up with zeros. -/
theorem digits_eq_replicate_append {k n : Nat} (hk : 0 < k) (hn : n < 10 ^ k) :
    digits k n = List.replicate (k - (Nat.toDigits 10 n).length) '0' ++ Nat.toDigits 10 n := by
  induction k generalizing n with
  | zero => omega
  | succ k ih =>
    rw [Nat.pow_succ] at hn
    rw [digits, Nat.toDigits_eq_if (by decide)]
    by_cases hsmall : n < 10
    · rw [if_pos hsmall, Nat.div_eq_of_lt hsmall, Nat.mod_eq_of_lt hsmall, List.length_singleton,
        Nat.add_sub_cancel, digits_zero]
    · have hk : 0 < k := by
        rcases Nat.eq_zero_or_pos k with rfl | hk
        · simp only [Nat.pow_zero] at hn; omega
        · exact hk
      rw [if_neg hsmall, ih hk (by omega), List.length_append, List.length_singleton,
        Nat.add_sub_add_right, List.append_assoc]

theorem toList_padded {k n : Nat} (hk : 0 < k) (hn : n < 10 ^ k) :
    (padded k n).toList = digits k n := by
  rw [digits_eq_replicate_append hk hn]
  simp [padded]

/-! ### Fractions of a second -/

theorem div_pow_lt {n a b : Nat} (h : n < 10 ^ (a + b)) : n / 10 ^ b < 10 ^ a := by
  rw [Nat.div_lt_iff_lt_mul (Nat.pow_pos (by decide)), ← Nat.pow_add]
  exact h

/-- Numbers of which zeros at the end are left out: their digits are in the order of the numbers, if
a sign follows. -/
theorem digits_sign_lt {a b c d f g : Nat} (hlength : a + b = c + d) (h : f < g)
    (hg : g < 10 ^ (c + d)) (hzeros : 10 ^ d ∣ g) (u v : List Char) :
    digits a (f / 10 ^ b) ++ '+' :: u < digits c (g / 10 ^ d) ++ '+' :: v := by
  rcases Nat.lt_or_ge a c with hless | hle
  · -- The second number may have the same digits and then more of them, which come after a sign.
    obtain ⟨e, rfl⟩ := Nat.exists_eq_add_of_le (Nat.le_of_lt hless)
    obtain rfl : b = d + e := by omega
    rw [digits_add, Nat.div_div_eq_div_mul, ← Nat.pow_add, List.append_assoc]
    rcases Nat.lt_or_eq_of_le (Nat.div_le_div_right (Nat.le_of_lt h)) with hparts | hsame
    · apply lt_append_of_lt (by simp)
      exact digits_lt_digits hparts (div_pow_lt (by rwa [hlength]))
    · rw [hsame]
      apply List.append_left_lt
      exact (sign_lt_digits (by omega) _ _ _).1
  · -- The first number may have more digits, but the common ones are smaller already.
    obtain ⟨e, rfl⟩ := Nat.exists_eq_add_of_le hle
    obtain rfl : d = b + e := by omega
    have hless : f / 10 ^ (b + e) < g / 10 ^ (b + e) := by
      rw [Nat.div_lt_iff_lt_mul (Nat.pow_pos (by decide)), Nat.div_mul_cancel hzeros]
      exact h
    rw [digits_add, Nat.div_div_eq_div_mul, ← Nat.pow_add, List.append_assoc]
    apply lt_append_of_lt (by simp)
    exact digits_lt_digits hless (div_pow_lt hg)

theorem toList_point_padded {a b f : Nat} (ha : 0 < a) (hf : f < 10 ^ (a + b)) :
    ("." ++ padded a (f / 10 ^ b)).toList = '.' :: digits a (f / 10 ^ b) := by
  rw [String.toList_append, toList_padded ha (div_pow_lt hf)]
  rfl

/-- The text of a fraction has no digits, or as many as are left after some zeros at the end. -/
theorem toList_fractionText {f : Nat} (hf : f < 10 ^ 9) :
    f = 0 ∧ (fractionText f).toList = [] ∨
      ∃ a b, a + b = 9 ∧ 10 ^ b ∣ f ∧ (fractionText f).toList = '.' :: digits a (f / 10 ^ b) := by
  unfold fractionText
  split
  · next hzero => exact .inl ⟨hzero, rfl⟩
  · right
    split
    · next hmillis =>
      have htext := toList_point_padded (a := 3) (b := 6) (by decide) hf
      exact ⟨3, 6, rfl, Nat.dvd_of_mod_eq_zero hmillis, htext⟩
    · split
      · next hmicros =>
        have htext := toList_point_padded (a := 6) (b := 3) (by decide) hf
        exact ⟨6, 3, rfl, Nat.dvd_of_mod_eq_zero hmicros, htext⟩
      · have htext := toList_point_padded (a := 9) (b := 0) (by decide) hf
        rw [Nat.pow_zero, Nat.div_one] at htext
        exact ⟨9, 0, rfl, Nat.one_dvd f, by rw [Nat.pow_zero, Nat.div_one]; exact htext⟩

/-- Fractions are in the order of their texts if a sign follows. -/
theorem fractionText_lt {f g : Nat} (h : f < g) (hg : g < 10 ^ 9) (u v : List Char) :
    (fractionText f).toList ++ '+' :: u < (fractionText g).toList ++ '+' :: v := by
  obtain ⟨rfl, -⟩ | ⟨c, d, hcd, hzeros, hlater⟩ := toList_fractionText hg
  · omega
  · rw [hlater]
    obtain ⟨-, hearlier⟩ | ⟨a, b, hab, -, hearlier⟩ := toList_fractionText (Nat.lt_trans h hg)
    · rw [hearlier]
      exact List.cons_lt_cons_iff.mpr (.inl (by decide))
    · rw [hearlier, List.cons_append, List.cons_append, List.cons_lt_cons_iff]
      exact .inr ⟨rfl, digits_sign_lt (by omega) h (by rw [hcd]; exact hg) hzeros u v⟩

/-! ### Dates and times of day -/

/-- The text of a time of day has a digit for each place. -/
theorem toList_clockText {n : Nat} (hn : n < 86400) :
    (clockText n).toList
      = digits 2 (n / 3600) ++ ':' :: (digits 2 (n / 60 % 60) ++ ':' :: digits 2 (n % 60)) := by
  simp only [clockText, String.toList_append]
  rw [toList_padded (by decide) (by omega), toList_padded (by decide) (by omega),
    toList_padded (by decide) (by omega)]
  simp

theorem length_clockText {n : Nat} (hn : n < 86400) : (clockText n).toList.length = 8 := by
  simp [toList_clockText hn]

theorem clockText_lt {m n : Nat} (h : m < n) (hn : n < 86400) :
    (clockText m).toList < (clockText n).toList := by
  rw [toList_clockText (Nat.lt_trans h hn), toList_clockText hn]
  have hparts : m / 3600 < n / 3600 ∨ m / 3600 = n / 3600 ∧
      (m / 60 % 60 < n / 60 % 60 ∨ m / 60 % 60 = n / 60 % 60 ∧ m % 60 < n % 60) := by
    omega
  apply digits_cons_lt (by omega)
  refine hparts.imp_right (And.imp_right fun hrest => ?_)
  apply digits_cons_lt (by omega)
  exact hrest.imp_right (And.imp_right fun hsecond => digits_lt_digits hsecond (by omega))

/-- A year that has not four digits is written with a sign. -/
theorem toList_yearText_of_signed {y : Int} (h : ¬ (0 ≤ y ∧ y ≤ 9999)) :
    ∃ rest, (yearText y).toList = '+' :: rest ∨ (yearText y).toList = '-' :: rest := by
  have hsigned : ¬ (0 ≤ y && y ≤ 9999) = true := by simpa using h
  rw [yearText, if_neg hsigned, String.toList_append]
  split
  · exact ⟨_, .inr rfl⟩
  · exact ⟨_, .inl rfl⟩

namespace Date

/-- The text of a date in a year of four digits has a digit for each place. -/
theorem toList_text_ofDays {n : Int} (hyear : 0 ≤ (ofDays n).year ∧ (ofDays n).year ≤ 9999) :
    (ofDays n).text.toList
      = digits 4 (ofDays n).year.toNat
        ++ '-' :: (digits 2 (ofDays n).month.toNat ++ '-' :: digits 2 (ofDays n).day.toNat) := by
  have hmonth := month_ofDays_range n
  have hday := day_ofDays_range n
  simp only [text, yearText, String.toList_append]
  rw [if_pos (by simp [hyear]), toList_padded (by decide) (by omega),
    toList_padded (by decide) (by omega), toList_padded (by decide) (by omega)]
  simp

theorem length_text_ofDays {n : Int} (hyear : 0 ≤ (ofDays n).year ∧ (ofDays n).year ≤ 9999) :
    (ofDays n).text.toList.length = 10 := by
  simp [toList_text_ofDays hyear]

/-- In years of four digits, later days have later texts. -/
theorem text_ofDays_lt {m n : Int} (h : m < n) (hm : 0 ≤ (ofDays m).year)
    (hn : (ofDays n).year ≤ 9999) : (ofDays m).text.toList < (ofDays n).text.toList := by
  have hyears := year_ofDays_mono (Int.le_of_lt h)
  have hmonth := month_ofDays_range m
  have hmonth' := month_ofDays_range n
  have hday := day_ofDays_range m
  have hday' := day_ofDays_range n
  have hbefore := before_ofDays h
  unfold Before at hbefore
  rw [toList_text_ofDays ⟨hm, by omega⟩, toList_text_ofDays ⟨by omega, hn⟩]
  have hparts : (ofDays m).year.toNat < (ofDays n).year.toNat ∨
      (ofDays m).year.toNat = (ofDays n).year.toNat ∧
        ((ofDays m).month.toNat < (ofDays n).month.toNat ∨
          (ofDays m).month.toNat = (ofDays n).month.toNat ∧
            (ofDays m).day.toNat < (ofDays n).day.toNat) := by
    omega
  apply digits_cons_lt (by omega)
  refine hparts.imp_right (And.imp_right fun hrest => ?_)
  apply digits_cons_lt (by omega)
  exact hrest.imp_right (And.imp_right fun hless => digits_lt_digits hless (by omega))

end Date

/-! ### Points in time -/

namespace Instant

/-- The year of a point in time has four digits. -/
def InFourDigits (t : Instant) : Prop :=
  0 ≤ t.date.year ∧ t.date.year ≤ 9999

instance (t : Instant) : Decidable t.InFourDigits :=
  inferInstanceAs (Decidable (0 ≤ t.date.year ∧ t.date.year ≤ 9999))

variable {a b : Instant}

/-- The parts of a text: a date, a time of day, a fraction and a sign. -/
theorem toList_text (t : Instant) :
    t.text.toList = t.date.text.toList ++ 'T' :: ((clockText (t.nanosOfDay / 1000000000)).toList
      ++ ((fractionText (t.nanosOfDay % 1000000000)).toList
        ++ '+' :: ['0', '0', ':', '0', '0'])) := by
  simp [text, String.toList_append]

theorem nanosOfDay_lt (t : Instant) : t.nanosOfDay < 86400000000000 := by
  unfold nanosOfDay nanosPerDay nanosPerSecond
  omega

/-- In years of four digits, what is later has a later text. -/
theorem text_lt_text (ha : a.InFourDigits) (hb : b.InFourDigits) (h : a < b) : a.text < b.text := by
  have hnanos : a.nanos < b.nanos := h
  show a.text.toList < b.text.toList
  rw [toList_text, toList_text]
  by_cases hday : a.nanos / nanosPerDay = b.nanos / nanosPerDay
  · -- On one day the times of day differ, or at least the fractions of a second.
    have hdate : a.date = b.date := by rw [date, date, hday]
    have hlater : a.nanosOfDay < b.nanosOfDay := by
      unfold nanosOfDay nanosPerDay nanosPerSecond at *
      omega
    have hend := nanosOfDay_lt b
    rw [hdate]
    apply List.append_left_lt
    refine List.cons_lt_cons_iff.mpr (.inr ⟨rfl, ?_⟩)
    by_cases hsecond : a.nanosOfDay / 1000000000 = b.nanosOfDay / 1000000000
    · rw [hsecond]
      apply List.append_left_lt
      exact fractionText_lt (by omega) (by omega) _ _
    · apply lt_append_of_lt
      · rw [length_clockText (by omega), length_clockText (by omega)]
      · exact clockText_lt (by omega) (by omega)
  · have hless : a.nanos / nanosPerDay < b.nanos / nanosPerDay := by
      unfold nanosPerDay nanosPerSecond at *
      omega
    apply lt_append_of_lt
    · rw [date, date, Date.length_text_ofDays ha, Date.length_text_ofDays hb]
    · exact Date.text_ofDays_lt hless ha.1 hb.2

/-- Years are in the order of time. -/
theorem year_date_mono (h : a ≤ b) : a.date.year ≤ b.date.year := by
  have hnanos : a.nanos ≤ b.nanos := h
  apply Date.year_ofDays_mono
  unfold nanosPerDay nanosPerSecond
  omega

/-- The text of a year that has a sign comes before all texts of years that have none. -/
theorem text_lt_of_signed (ha : ¬ a.InFourDigits) (hb : b.InFourDigits) : a.text < b.text := by
  show a.text.toList < b.text.toList
  obtain ⟨rest, hsign⟩ := toList_yearText_of_signed ha
  rw [toList_text a, toList_text b, date.eq_1 b, Date.toList_text_ofDays hb, List.append_assoc]
  simp only [Date.text, String.toList_append, List.append_assoc]
  rcases hsign with hplus | hminus
  · rw [hplus]
    exact (sign_lt_digits (by decide) _ _ _).1
  · rw [hminus]
    exact (sign_lt_digits (by decide) _ _ _).2

/-- The text of a point in time stands before that of another one whose year has four digits, if it
is earlier, or else if its year has more digits. -/
theorem text_lt_iff (hb : b.InFourDigits) : a.text < b.text ↔ a < b ∨ 9999 < a.date.year := by
  by_cases ha : a.InFourDigits
  · constructor
    · intro htext
      left
      apply Int.lt_of_not_ge
      intro hle
      rcases Int.lt_or_eq_of_le hle with hless | hsame
      · exact String.lt_asymm htext (text_lt_text hb ha hless)
      · rw [show a = b by cases a; cases b; exact congrArg mk hsame.symm] at htext
        exact String.lt_irrefl _ htext
    · rintro (hless | hyear)
      · exact text_lt_text ha hb hless
      · have := ha.2
        omega
  · refine iff_of_true (text_lt_of_signed ha hb) ?_
    by_cases hyear : 9999 < a.date.year
    · exact .inr hyear
    · -- The year is negative then, and the other one is not.
      left
      apply Int.lt_of_not_ge
      intro hle
      have hyears : b.date.year ≤ a.date.year := year_date_mono hle
      exact ha ⟨Int.le_trans hb.1 hyears, by omega⟩

end Instant

end CookieAuth.Time
