import CookieAuth.Text.Utf8
import Mathlib.Tactic.SplitIfs

/-!
# Texts and their bytes are in the same order

Texts are compared character by character, and where they are stored, byte by byte.  A character
that comes later has a code with a larger first byte, or one of the same length whose first different
byte is larger.  So both orders are the same.

## Main results

* `utf8EncodeChar_lt`: the codes of characters are in the order of the characters;
* `bytesOf_lt_iff`: the bytes of texts are in the order of the texts.
-/

namespace CookieAuth.Text

theorem byte_lt_iff {a b : Nat} (ha : a < 256) (hb : b < 256) :
    UInt8.ofNat a < UInt8.ofNat b ↔ a < b := by
  rw [UInt8.lt_iff_toNat_lt, UInt8.toNat_ofNat_of_lt' ha, UInt8.toNat_ofNat_of_lt' hb]

theorem byte_eq_iff {a b : Nat} (ha : a < 256) (hb : b < 256) :
    UInt8.ofNat a = UInt8.ofNat b ↔ a = b := by
  rw [← UInt8.toNat_inj, UInt8.toNat_ofNat_of_lt' ha, UInt8.toNat_ofNat_of_lt' hb]

/-- Numbers are compared digit by digit, here to the base 64. -/
theorem sextets_lt {m n : Nat} (h : m < n) :
    m / 262144 < n / 262144 ∨ m / 262144 = n / 262144 ∧
      (m / 4096 % 64 < n / 4096 % 64 ∨ m / 4096 % 64 = n / 4096 % 64 ∧
        (m / 64 % 64 < n / 64 % 64 ∨ m / 64 % 64 = n / 64 % 64 ∧ m % 64 < n % 64)) := by
  omega

/-- The code of an earlier character comes first, whatever follows. -/
theorem utf8EncodeChar_lt {c d : Char} (h : c < d) (u v : List UInt8) :
    String.utf8EncodeChar c ++ u < String.utf8EncodeChar d ++ v := by
  have hval : c.val.toNat < d.val.toNat := UInt32.lt_iff_toNat_lt.mp h
  have hbound : d.val.toNat < 1114112 := by
    rcases d.valid with hlow | ⟨-, hhigh⟩ <;> omega
  unfold String.utf8EncodeChar
  generalize c.val.toNat = m at hval
  generalize d.val.toNat = n at hval hbound
  have hsextets := sextets_lt hval
  have hm : m / 262144 % 8 = m / 262144 := Nat.mod_eq_of_lt (by omega)
  have hn : n / 262144 % 8 = n / 262144 := Nat.mod_eq_of_lt (by omega)
  dsimp only
  rw [hm, hn]
  -- A longer code has a larger first byte, and codes of one length are compared byte by byte.
  split_ifs <;>
    simp (disch := omega) only [List.cons_append, List.cons_lt_cons_iff, byte_lt_iff,
      byte_eq_iff] <;>
    omega

theorem utf8EncodeChar_ne_nil (c : Char) : String.utf8EncodeChar c ≠ [] := by
  rw [← List.length_pos_iff, String.length_utf8EncodeChar]
  exact c.utf8Size_pos

theorem bytesOf_lt_of_lt {s t : String} (h : s < t) : bytesOf s < bytesOf t := by
  have hlist : s.toList < t.toList := h
  unfold bytesOf
  generalize s.toList = cs at hlist
  generalize t.toList = ds at hlist
  induction cs generalizing ds with
  | nil =>
    cases ds with
    | nil => exact absurd hlist (List.lt_irrefl _)
    | cons d ds =>
      obtain ⟨first, rest, hcode⟩ := List.exists_cons_of_ne_nil (utf8EncodeChar_ne_nil d)
      simp [hcode]
  | cons c cs ih =>
    cases ds with
    | nil => simp at hlist
    | cons d ds =>
      rw [List.flatMap_cons, List.flatMap_cons]
      rcases List.cons_lt_cons_iff.mp hlist with hless | ⟨rfl, hrest⟩
      · exact utf8EncodeChar_lt hless _ _
      · exact List.append_left_lt (ih ds hrest)

/-- Texts are in the order of their bytes. -/
theorem bytesOf_lt_iff {s t : String} : bytesOf s < bytesOf t ↔ s < t := by
  refine ⟨fun h => ?_, bytesOf_lt_of_lt⟩
  rcases Std.lt_trichotomy s t with hless | rfl | hgreater
  · exact hless
  · exact absurd h (List.lt_irrefl _)
  · exact absurd h (List.lt_asymm (bytesOf_lt_of_lt hgreater))

end CookieAuth.Text
