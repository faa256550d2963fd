import CookieAuth.Form.Urlencoded
import CookieAuth.Proofs.Text.Utf8

/-!
# How names and values are written

Between two separators of an encoded list any byte may be escaped, a blank may be a plus sign, and a
byte may stand for itself unless it has another meaning there.  So one pair has many spellings.
Decoding undoes all of them, and whatever stands in a list is the spelling of some bytes.

## Main definitions

* `Written`: the spellings of a list of bytes;
* `Sets`, `Names`: what a segment between two ampersands says about a field;
* `Repeats`: a field occurs twice;
* `pairsOf`: the names and values in segments.

## Main results

* `written_iff`: the spellings are those that are decoded to the bytes;
* `sets_iff`, `names_iff`: what a segment says can be computed from it;
* `pairs_intercalate`: segments are found again between the ampersands;
* `IsName.names_iff_pair`, `IsName.not_repeats_iff`: a field is found in exactly the segments about
  it.
-/

namespace CookieAuth.Form.Urlencoded

open Text

/-! ### Written bytes -/

/-- Whether two hexadecimal digits stand at the front. -/
def startsWithDigits : List UInt8 → Bool
  | x :: y :: _ => (hexValue? x).isSome && (hexValue? y).isSome
  | _ => false

/-- How bytes may be written in a name or a value. -/
inductive Written : List UInt8 → List UInt8 → Prop where
  | nil : Written [] []
  /-- Any byte may be escaped, with digits in either case. -/
  | escape {b x y : UInt8} {text bytes : List UInt8} (hx : hexValue? x = some (b / 16))
    (hy : hexValue? y = some (b % 16)) (rest : Written text bytes) :
    Written (0x25 :: x :: y :: text) (b :: bytes)
  /-- A blank may be written as a plus sign. -/
  | plus {text bytes : List UInt8} (rest : Written text bytes) :
    Written (0x2B :: text) (0x20 :: bytes)
  /-- A byte may stand for itself, unless it is a plus sign or starts an escape. -/
  | literal {b : UInt8} {text bytes : List UInt8} (hplus : b ≠ 0x2B)
    (hpercent : b = 0x25 → startsWithDigits text = false) (rest : Written text bytes) :
    Written (b :: text) (b :: bytes)

/-- The bytes that a written name or value stands for. -/
def decoded (text : List UInt8) : List UInt8 :=
  percentDecode (text.map blankOfPlus)

theorem hexValue?_blankOfPlus (b : UInt8) : hexValue? (blankOfPlus b) = hexValue? b := by
  revert b
  exact forall_byte (by decide +kernel)

theorem lt_of_hexValue? (x : UInt8) : ∀ n ∈ hexValue? x, n < 16 := by
  revert x
  exact forall_byte (by decide +kernel)

theorem byte_of_digits (b : UInt8) : 16 * (b / 16) + b % 16 = b := by
  revert b
  exact forall_byte (by decide +kernel)

theorem digits_of_byte {high low : UInt8} (hhigh : high < 16) (hlow : low < 16) :
    (16 * high + low) / 16 = high ∧ (16 * high + low) % 16 = low := by
  rw [UInt8.lt_iff_toNat_lt] at hhigh hlow
  simp only [← UInt8.toNat_inj, UInt8.toNat_div, UInt8.toNat_mod, UInt8.toNat_add,
    UInt8.toNat_mul, UInt8.reduceToNat] at hhigh hlow ⊢
  omega

/-- What was decoded before stands in front. -/
theorem percentDecodeFrom_append (acc before bytes : List UInt8) :
    percentDecodeFrom (acc ++ before) bytes = before.reverse ++ percentDecodeFrom acc bytes := by
  fun_induction percentDecodeFrom acc bytes with
  | case1 acc => simp [percentDecodeFrom]
  | case2 acc x y rest high low hhigh hlow ih =>
    rw [percentDecodeFrom, if_pos rfl, hhigh, hlow]
    exact ih
  | case3 acc x y rest hnone ih =>
    rw [percentDecodeFrom, if_pos rfl]
    split
    · next hhigh hlow => exact absurd hlow (hnone _ _ hhigh)
    · exact ih
  | case4 acc b x y rest hb ih =>
    rw [percentDecodeFrom, if_neg hb]
    exact ih
  | case5 acc b rest hshort ih =>
    rw [percentDecodeFrom]
    · exact ih
    · exact hshort

theorem percentDecode_escape {x y high low : UInt8} (hx : hexValue? x = some high)
    (hy : hexValue? y = some low) (rest : List UInt8) :
    percentDecode (0x25 :: x :: y :: rest) = (16 * high + low) :: percentDecode rest := by
  rw [percentDecode, percentDecodeFrom, if_pos rfl, hx, hy]
  exact percentDecodeFrom_append [] [_] rest

theorem percentDecode_literal {b : UInt8} {rest : List UInt8}
    (h : b = 0x25 → startsWithDigits rest = false) :
    percentDecode (b :: rest) = b :: percentDecode rest := by
  have hfrom : percentDecode (b :: rest) = percentDecodeFrom [b] rest := by
    unfold percentDecode
    match rest with
    | [] => simp [percentDecodeFrom]
    | [x] => simp [percentDecodeFrom]
    | x :: y :: rest =>
      rw [percentDecodeFrom]
      split
      · next hb =>
        have hdigits := h hb
        split
        · next hx hy => simp [startsWithDigits, hx, hy] at hdigits
        · rfl
      · rfl
  rw [hfrom]
  exact percentDecodeFrom_append [] [_] rest

theorem startsWithDigits_map_blankOfPlus (text : List UInt8) :
    startsWithDigits (text.map blankOfPlus) = startsWithDigits text := by
  match text with
  | [] => rfl
  | [x] => rfl
  | x :: y :: rest => simp [startsWithDigits, hexValue?_blankOfPlus]

theorem decoded_of_written {text bytes : List UInt8} (h : Written text bytes) :
    decoded text = bytes := by
  unfold decoded
  induction h with
  | nil => simp [percentDecode, percentDecodeFrom]
  | @escape b x y text bytes hx hy _ ih =>
    have hpercent : blankOfPlus 0x25 = 0x25 := rfl
    rw [List.map_cons, List.map_cons, List.map_cons, hpercent,
      percentDecode_escape ((hexValue?_blankOfPlus x).trans hx)
        ((hexValue?_blankOfPlus y).trans hy), ih, byte_of_digits]
  | @plus text bytes _ ih =>
    have hblank : blankOfPlus 0x2B = 0x20 := rfl
    rw [List.map_cons, hblank, percentDecode_literal (fun h => absurd h (by decide)), ih]
  | @literal b text bytes hplus hpercent _ ih =>
    have hself : blankOfPlus b = b := if_neg hplus
    rw [List.map_cons, hself, percentDecode_literal, ih]
    rwa [startsWithDigits_map_blankOfPlus]

/-- Whatever is written stands for some bytes. -/
theorem written_decoded (text : List UInt8) : Written text (decoded text) := by
  -- The induction is on the length, because an escape takes three bytes.
  induction hlength : text.length using Nat.strongRecOn generalizing text with
  | _ length ih =>
    subst hlength
    match text with
    | [] => exact Written.nil
    | b :: rest =>
      have hrest := ih rest.length (Nat.lt_succ_self _) rest rfl
      by_cases hplus : b = 0x2B
      · subst hplus
        have h := Written.plus hrest
        rwa [← decoded_of_written h] at h
      by_cases hpercent : b = 0x25 → startsWithDigits rest = false
      · have h := Written.literal hplus hpercent hrest
        rwa [← decoded_of_written h] at h
      · match rest with
        | [] => simp [startsWithDigits] at hpercent
        | [x] => simp [startsWithDigits] at hpercent
        | x :: y :: rest =>
          obtain ⟨rfl, hdigits⟩ := Classical.not_imp.mp hpercent
          rw [Bool.not_eq_false, startsWithDigits, Bool.and_eq_true, Option.isSome_iff_exists,
            Option.isSome_iff_exists] at hdigits
          obtain ⟨⟨high, hx⟩, low, hy⟩ := hdigits
          obtain ⟨hdiv, hmod⟩ :=
            digits_of_byte (lt_of_hexValue? x high hx) (lt_of_hexValue? y low hy)
          have hshorter : rest.length < (0x25 :: x :: y :: rest).length := by
            simp only [List.length_cons]
            omega
          have h := Written.escape (b := 16 * high + low) (by rw [hdiv]; exact hx)
            (by rw [hmod]; exact hy) (ih rest.length hshorter rest rfl)
          rwa [← decoded_of_written h] at h

/-- A written name or value stands for these bytes exactly if it is decoded to them. -/
theorem written_iff {text bytes : List UInt8} : Written text bytes ↔ decoded text = bytes :=
  ⟨decoded_of_written, fun h => h ▸ written_decoded text⟩

/-! ### Segments -/

/-- A segment says that the value of a field has these bytes: it is a name, an equals sign and a
value, or a name alone for the empty value. -/
def Sets (field : String) (bytes segment : List UInt8) : Prop :=
  ∃ name text, 0x3D ∉ name ∧ Written name (bytesOf field) ∧ Written text bytes ∧
    (segment = name ++ 0x3D :: text ∨ segment = name ∧ text = [])

/-- A segment is about a field. -/
def Names (field : String) (segment : List UInt8) : Prop :=
  ∃ bytes, Sets field bytes segment

/-- A field occurs in two segments. -/
def Repeats (field : String) (segments : List (List UInt8)) : Prop :=
  ∃ s t, [s, t].Sublist segments ∧ Names field s ∧ Names field t

/-- The bytes of the name and of the value in a segment. -/
def parts (segment : List UInt8) : List UInt8 × List UInt8 :=
  match splitFirst? 0x3D segment with
  | some (name, text) => (decoded name, decoded text)
  | none => (decoded segment, [])

variable {field : String} {segment : List UInt8} {segments : List (List UInt8)}

theorem sets_iff {bytes : List UInt8} :
    Sets field bytes segment ↔ parts segment = (bytesOf field, bytes) := by
  constructor
  · rintro ⟨name, text, hname, hfield, hvalue, rfl | ⟨rfl, rfl⟩⟩
    · have hsplit : splitFirst? 0x3D (name ++ 0x3D :: text) = some (name, text) :=
        splitFirst?_eq_some_iff.mpr ⟨rfl, hname⟩
      rw [parts, hsplit]
      exact Prod.ext (written_iff.mp hfield) (written_iff.mp hvalue)
    · rw [parts, splitFirst?_eq_none_iff.mpr hname]
      exact Prod.ext (written_iff.mp hfield) (written_iff.mp hvalue)
  · intro h
    unfold parts at h
    split at h
    · next name text hsplit =>
      obtain ⟨rfl, hname⟩ := splitFirst?_eq_some_iff.mp hsplit
      obtain ⟨hfield, hvalue⟩ := Prod.mk.inj h
      exact ⟨name, text, hname, written_iff.mpr hfield, written_iff.mpr hvalue, .inl rfl⟩
    · next hsplit =>
      obtain ⟨hfield, rfl⟩ := Prod.mk.inj h
      exact ⟨segment, [], splitFirst?_eq_none_iff.mp hsplit, written_iff.mpr hfield, .nil,
        .inr ⟨rfl, rfl⟩⟩

theorem names_iff : Names field segment ↔ (parts segment).1 = bytesOf field := by
  constructor
  · rintro ⟨bytes, h⟩
    rw [sets_iff.mp h]
  · intro h
    exact ⟨(parts segment).2, sets_iff.mpr (Prod.ext h rfl)⟩

instance (field : String) (segment : List UInt8) : Decidable (Names field segment) :=
  decidable_of_iff _ names_iff.symm

theorem pair_eq (segment : List UInt8) :
    pair segment = (readLossy (parts segment).1, readLossy (parts segment).2) := by
  unfold pair parts
  cases splitFirst? 0x3D segment with
  | none => rfl
  | some halves => rfl

theorem repeats_iff :
    Repeats field segments ↔
      ¬ segments.Pairwise fun s t => ¬ (Names field s ∧ Names field t) := by
  rw [List.pairwise_iff_forall_sublist]
  constructor
  · rintro ⟨s, t, hsub, hnames⟩ h
    exact h hsub hnames
  · intro h
    apply Classical.byContradiction
    intro hnot
    exact h fun hsub hnames => hnot ⟨_, _, hsub, hnames⟩

instance (field : String) (segments : List (List UInt8)) : Decidable (Repeats field segments) :=
  decidable_of_iff _ repeats_iff.symm

/-- The names and values in segments; empty segments are skipped. -/
def pairsOf (segments : List (List UInt8)) : List (String × String) :=
  (segments.filter (!·.isEmpty)).map pair

/-- Segments are found again between the ampersands. -/
theorem pairs_intercalate (h : ∀ s ∈ segments, 0x26 ∉ s) :
    pairs ([0x26].intercalate segments) = pairsOf segments := by
  unfold pairs pairsOf
  cases segments with
  | nil => rfl
  | cons first rest =>
    rw [splitAll_eq_splitOn, List.splitOn_intercalate _ h (List.cons_ne_nil _ _)]

/-- A name that is not empty and has no replacement character. -/
def IsName (field : String) : Prop :=
  field ≠ "" ∧ Char.ofNat 0xFFFD ∉ field.toList

instance (field : String) : Decidable (IsName field) :=
  inferInstanceAs (Decidable (_ ∧ _))

/-- The name that is read from a segment is that of the field which the segment is about. -/
theorem IsName.names_iff_pair (h : IsName field) :
    Names field segment ↔ (pair segment).1 = field := by
  rw [names_iff, pair_eq, readLossy_eq_iff h.2]

/-- A segment about a field is not empty. -/
theorem IsName.ne_nil (h : IsName field) (hnames : Names field segment) : segment ≠ [] := by
  rintro rfl
  exact h.1 (h.names_iff_pair.mp hnames).symm

theorem mem_pairsOf_iff {p : String × String} :
    p ∈ pairsOf segments ↔ ∃ s ∈ segments, s ≠ [] ∧ pair s = p := by
  simp [pairsOf, and_assoc]

/-- A field occurs twice in the segments exactly if it occurs in two of the pairs. -/
theorem IsName.not_repeats_iff (h : IsName field) :
    ¬ Repeats field segments ↔
      (pairsOf segments).Pairwise fun p q => ¬ (p.1 = field ∧ q.1 = field) := by
  rw [pairsOf, List.pairwise_map, List.pairwise_filter, List.pairwise_iff_forall_sublist]
  constructor
  · intro hnot s t hsub _ _ hpairs
    exact hnot ⟨s, t, hsub, h.names_iff_pair.mpr hpairs.1, h.names_iff_pair.mpr hpairs.2⟩
  · rintro hpairwise ⟨s, t, hsub, hs, ht⟩
    exact hpairwise hsub (by simpa using h.ne_nil hs) (by simpa using h.ne_nil ht)
      ⟨h.names_iff_pair.mp hs, h.names_iff_pair.mp ht⟩

end CookieAuth.Form.Urlencoded
