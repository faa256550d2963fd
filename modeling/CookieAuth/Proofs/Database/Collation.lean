import CookieAuth.Database.Collation
import CookieAuth.Proofs.Text.Basic
import CookieAuth.Proofs.Text.Lowercase
import CookieAuth.Proofs.Text.Utf8

/-!
# Addresses up to case

Two addresses are looked up as one if they are equal up to the case of ASCII letters.  The converse
holds for addresses without a zero byte: what stands behind a zero byte that both have is not
compared.

## Main definitions

* `foldCase`: the bytes of a text with ASCII letters in lower case.

## Main results

* `sameIgnoringCase_of_foldCase_eq`: texts that are equal up to case are looked up as one;
* `sameIgnoringCase_iff`: without a zero byte there are no others;
* `foldCase_eq_iff`: two texts are equal up to case if their characters are.
-/

namespace CookieAuth

open Text

/-- The bytes of a text with ASCII letters in lower case. -/
def foldCase (s : String) : List UInt8 :=
  (bytesOf s).map lowerByte

/-- Only the zero byte has the zero byte as its lower case. -/
theorem eq_zero_of_lowerByte {b : UInt8} (h : lowerByte b = 0) : b = 0 := by
  revert h
  apply forall_byte (P := fun b => lowerByte b = 0 → b = 0)
  decide +kernel

theorem agreeIgnoringCase_of_map_eq {x y : List UInt8} (h : x.map lowerByte = y.map lowerByte) :
    agreeIgnoringCase x y = true := by
  induction x generalizing y with
  | nil => rfl
  | cons a as ih =>
    cases y with
    | nil => rfl
    | cons b bs =>
      obtain ⟨hab, htail⟩ := List.cons.inj h
      simp [agreeIgnoringCase, hab, ih htail]

/-- Byte lists of one length that agree are equal up to case, if one of them has no zero byte. -/
theorem map_eq_of_agreeIgnoringCase {x y : List UInt8} (hlength : x.length = y.length)
    (hzero : 0 ∉ y) (h : agreeIgnoringCase x y = true) : x.map lowerByte = y.map lowerByte := by
  induction x generalizing y with
  | nil =>
    rw [List.eq_nil_of_length_eq_zero hlength.symm]
  | cons a as ih =>
    cases y with
    | nil => simp at hlength
    | cons b bs =>
      rw [List.mem_cons, not_or] at hzero
      simp only [agreeIgnoringCase, Bool.and_eq_true, beq_iff_eq, Bool.or_eq_true] at h
      obtain ⟨hab, hrest⟩ := h
      -- The comparison goes on, since the first byte is not zero.
      have ha : a ≠ 0 := by
        rintro rfl
        exact hzero.1 (eq_zero_of_lowerByte hab.symm).symm
      rw [List.map_cons, List.map_cons, hab,
        ih (Nat.succ.inj hlength) hzero.2 (hrest.resolve_left ha)]

/-- Texts that are equal up to case are looked up as one. -/
theorem sameIgnoringCase_of_foldCase_eq {s t : String} (h : foldCase s = foldCase t) :
    sameIgnoringCase s t = true := by
  have hlength := congrArg List.length h
  unfold foldCase at h hlength
  rw [List.length_map, List.length_map] at hlength
  unfold sameIgnoringCase
  simp [hlength, agreeIgnoringCase_of_map_eq h]

@[simp] theorem sameIgnoringCase_self (s : String) : sameIgnoringCase s s = true :=
  sameIgnoringCase_of_foldCase_eq rfl

/-- Texts that are looked up as one are equal up to case, if one of them has no zero byte. -/
theorem sameIgnoringCase_iff {s t : String} (hzero : 0 ∉ bytesOf t) :
    sameIgnoringCase s t = true ↔ foldCase s = foldCase t := by
  refine ⟨?_, sameIgnoringCase_of_foldCase_eq⟩
  intro h
  unfold sameIgnoringCase at h
  simp only [Bool.and_eq_true, beq_iff_eq] at h
  exact map_eq_of_agreeIgnoringCase h.1 hzero h.2

/-! ### Bytes and characters -/

theorem lowerByte_of_le {b : UInt8} (h : 128 ≤ b.toNat) : lowerByte b = b := by
  revert h
  apply forall_byte (P := fun b => 128 ≤ b.toNat → lowerByte b = b)
  decide +kernel

/-- Beyond ASCII, characters have no bytes below 128. -/
theorem le_of_mem_utf8EncodeChar {c : Char} (hc : ¬ c.toNat < 128) {b : UInt8}
    (hb : b ∈ String.utf8EncodeChar c) : 128 ≤ b.toNat := by
  refine Nat.not_lt.mp fun hlow => hc ?_
  rw [(coded_utf8EncodeChar c).eq_of_mem hb hlow]
  exact hlow

/-- The lower case of the bytes of a character is that of the character, if that is ASCII. -/
theorem map_lowerByte_utf8EncodeChar (c : Char) :
    (String.utf8EncodeChar c).map lowerByte = String.utf8EncodeChar (lowerAscii c) := by
  by_cases hc : c.toNat < 128
  · apply forall_ascii (P := fun c => (String.utf8EncodeChar c).map lowerByte
      = String.utf8EncodeChar (lowerAscii c)) _ hc
    decide +kernel
  · rw [lowerAscii_of_not_ascii hc]
    calc (String.utf8EncodeChar c).map lowerByte
        = (String.utf8EncodeChar c).map id :=
          List.map_congr_left fun b hb => lowerByte_of_le (le_of_mem_utf8EncodeChar hc hb)
      _ = String.utf8EncodeChar c := List.map_id _

theorem bytesOf_injective {s t : String} (h : bytesOf s = bytesOf t) : s = t := by
  have hread : some s = some t := by rw [← readText?_bytesOf, h, readText?_bytesOf]
  exact Option.some.inj hread

theorem foldCase_eq_bytesOf (s : String) :
    foldCase s = bytesOf (String.ofList (s.toList.map lowerAscii)) := by
  unfold foldCase bytesOf
  rw [List.map_flatMap, String.toList_ofList, List.flatMap_map]
  exact congrArg (fun f => s.toList.flatMap f) (funext map_lowerByte_utf8EncodeChar)

/-- Two texts are equal up to case if their characters are. -/
theorem foldCase_eq_iff {s t : String} :
    foldCase s = foldCase t ↔ s.toList.map lowerAscii = t.toList.map lowerAscii := by
  rw [foldCase_eq_bytesOf, foldCase_eq_bytesOf]
  constructor
  · intro h
    simpa using congrArg String.toList (bytesOf_injective h)
  · intro h
    rw [h]

end CookieAuth
