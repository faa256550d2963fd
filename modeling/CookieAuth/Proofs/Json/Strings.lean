import CookieAuth.Json.Parser
import CookieAuth.Json.Printer

/-!
# Strings inside JSON texts

Inside a JSON text a character stands for itself, or a backslash is followed by a letter or a number
for it.  Either way it can be told where the character ends, so that the text of a string determines
the string.

## Main results

* `Json.escapeChar_cases`: the three ways of writing a character;
* `Json.stringText_inj`: two strings with the same text are the same.
-/

namespace CookieAuth.Json

theorem hex4?_control {n : Nat} (h : n < 32) :
    hex4? '0' '0' (Nat.digitChar (n / 16)) (Nat.digitChar (n % 16)) = some n := by
  have hall : ∀ a : Fin 32,
      hex4? '0' '0' (Nat.digitChar (a.val / 16)) (Nat.digitChar (a.val % 16)) = some a.val := by
    decide +kernel
  exact hall ⟨n, h⟩

/-- A character stands for itself, or after a backslash there is a letter or a number for it. -/
theorem escapeChar_cases (c : Char) :
    (c ≠ '\\' ∧ escapeChar c = [c]) ∨
    (∃ letter, letter ≠ 'u' ∧ escaped? letter = some c ∧ escapeChar c = ['\\', letter]) ∨
    ∃ a b, hex4? '0' '0' a b = some c.toNat ∧ escapeChar c = ['\\', 'u', '0', '0', a, b] := by
  unfold escapeChar
  by_cases hquote : c = '"'
  · rw [if_pos hquote]
    exact .inr (.inl ⟨'"', by decide, by rw [hquote]; rfl, rfl⟩)
  by_cases hslash : c = '\\'
  · rw [if_neg hquote, if_pos hslash]
    exact .inr (.inl ⟨'\\', by decide, by rw [hslash]; rfl, rfl⟩)
  rw [if_neg hquote, if_neg hslash]
  by_cases hn : c = '\n'
  · rw [if_pos hn]
    exact .inr (.inl ⟨'n', by decide, by rw [hn]; rfl, rfl⟩)
  by_cases hr : c = '\r'
  · rw [if_neg hn, if_pos hr]
    exact .inr (.inl ⟨'r', by decide, by rw [hr]; rfl, rfl⟩)
  rw [if_neg hn, if_neg hr]
  by_cases ht : c = '\t'
  · rw [if_pos ht]
    exact .inr (.inl ⟨'t', by decide, by rw [ht]; rfl, rfl⟩)
  by_cases hb : c.toNat = 8
  · rw [if_neg ht, if_pos hb]
    exact .inr (.inl ⟨'b', by decide, by rw [← Char.ofNat_toNat c, hb]; rfl, rfl⟩)
  rw [if_neg ht, if_neg hb]
  by_cases hf : c.toNat = 12
  · rw [if_pos hf]
    exact .inr (.inl ⟨'f', by decide, by rw [← Char.ofNat_toNat c, hf]; rfl, rfl⟩)
  by_cases hcontrol : c.toNat < 32
  · rw [if_neg hf, if_pos hcontrol]
    exact .inr (.inr ⟨_, _, hex4?_control hcontrol, rfl⟩)
  · rw [if_neg hf, if_neg hcontrol]
    exact .inl ⟨hslash, rfl⟩

/-- What follows a character inside a string can be told from the character. -/
theorem escapeChar_append_inj {c d : Char} {x y : List Char}
    (h : escapeChar c ++ x = escapeChar d ++ y) : c = d ∧ x = y := by
  rcases escapeChar_cases c with ⟨hc, hplain⟩ | ⟨k, hk, hletter, hshort⟩ | ⟨a, b, hhex, hlong⟩ <;>
    rcases escapeChar_cases d with
      ⟨hd, hplain'⟩ | ⟨k', hk', hletter', hshort'⟩ | ⟨a', b', hhex', hlong'⟩
  · rw [hplain, hplain'] at h
    exact List.cons.inj h
  · rw [hplain, hshort'] at h
    exact absurd (List.cons.inj h).1 hc
  · rw [hplain, hlong'] at h
    exact absurd (List.cons.inj h).1 hc
  · rw [hshort, hplain'] at h
    exact absurd (List.cons.inj h).1.symm hd
  · rw [hshort, hshort'] at h
    obtain ⟨hsame, hrest⟩ := List.cons.inj (List.cons.inj h).2
    rw [hsame] at hletter
    exact ⟨Option.some.inj (hletter.symm.trans hletter'), hrest⟩
  · rw [hshort, hlong'] at h
    exact absurd (List.cons.inj (List.cons.inj h).2).1 hk
  · rw [hlong, hplain'] at h
    exact absurd (List.cons.inj h).1.symm hd
  · rw [hlong, hshort'] at h
    exact absurd (List.cons.inj (List.cons.inj h).2).1.symm hk'
  · rw [hlong, hlong'] at h
    simp only [List.cons_append, List.nil_append, List.cons.injEq, true_and] at h
    obtain ⟨rfl, rfl, hrest⟩ := h
    have hcode : c.toNat = d.toNat := Option.some.inj (hhex.symm.trans hhex')
    exact ⟨by rw [← Char.ofNat_toNat c, hcode, Char.ofNat_toNat], hrest⟩

theorem flatMap_escapeChar_inj {cs ds : List Char}
    (h : cs.flatMap escapeChar = ds.flatMap escapeChar) : cs = ds := by
  have hne : ∀ c, escapeChar c ≠ [] := by
    intro c
    rcases escapeChar_cases c with ⟨-, h⟩ | ⟨k, -, -, h⟩ | ⟨a, b, -, h⟩ <;> simp [h]
  induction cs generalizing ds with
  | nil =>
    cases ds with
    | nil => rfl
    | cons d ds => simp [hne d] at h
  | cons c cs ih =>
    cases ds with
    | nil => simp [hne c] at h
    | cons d ds =>
      rw [List.flatMap_cons, List.flatMap_cons] at h
      obtain ⟨rfl, hrest⟩ := escapeChar_append_inj h
      rw [ih hrest]

/-- The text of a string determines the string. -/
theorem stringText_inj {s t : String} (h : stringText s = stringText t) : s = t := by
  have hchars := congrArg String.toList h
  simp only [stringText, String.toList_append, String.toList_ofList, List.append_assoc,
    List.append_cancel_left_eq, List.append_cancel_right_eq] at hchars
  exact String.toList_inj.mp (flatMap_escapeChar_inj hchars)

end CookieAuth.Json
