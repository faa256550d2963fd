import CookieAuth.Text.Lowercase

/-!
# Small forms of texts

A text is put in lower case by full Unicode rules, while a look-up disregards the case of ASCII
letters only.  This file says for which texts the two come to the same.

## Main definitions

* `smallAt`: the small form of a character between others;
* `CaseStable`: of the characters of a text, at most ASCII letters have another small form.

## Main results

* `comp_lowerAscii`: what disregards the case of ASCII letters can be checked at these;
* `lowerChar_of_ascii`: the small forms of ASCII characters;
* `lowerList_of_caseStable`: the small form of a stable text is that of its ASCII letters;
* `caseStable_iff`: a text is stable exactly if its small form differs in the case of ASCII letters
  only.
-/

namespace CookieAuth.Text

/-! ### ASCII characters -/

/-- What holds of all numbers below 128 holds of all ASCII characters. -/
theorem forall_ascii {P : Char → Prop} (h : ∀ n : Fin 128, P (Char.ofNat n)) {c : Char}
    (hc : c.toNat < 128) : P c := by
  have hchar := h ⟨c.toNat, hc⟩
  rwa [Char.ofNat_toNat] at hchar

theorem lowerAscii_of_not_ascii {c : Char} (h : ¬ c.toNat < 128) : lowerAscii c = c := by
  have hlarge : ¬ (('A' ≤ c && c ≤ 'Z') = true) := by
    intro hletter
    rw [Bool.and_eq_true, decide_eq_true_eq, decide_eq_true_eq] at hletter
    have hle : c.toNat ≤ 'Z'.toNat := hletter.2
    have hz : 'Z'.toNat = 90 := rfl
    omega
  rw [lowerAscii, if_neg hlarge]

theorem toNat_lowerAscii_lt {c : Char} (hc : c.toNat < 128) : (lowerAscii c).toNat < 128 := by
  apply forall_ascii (P := fun c => (lowerAscii c).toNat < 128) _ hc
  decide +kernel

/-- Outside of ASCII, nothing else has a character as its small form of an ASCII letter. -/
theorem eq_of_lowerAscii_eq {c d : Char} (hc : ¬ c.toNat < 128)
    (h : lowerAscii d = lowerAscii c) : d = c := by
  rw [lowerAscii_of_not_ascii hc] at h
  by_cases hd : d.toNat < 128
  · have := toNat_lowerAscii_lt hd
    rw [h] at this
    exact absurd this hc
  · rwa [lowerAscii_of_not_ascii hd] at h

/-- What the case of ASCII letters does not matter to. -/
theorem comp_lowerAscii {β : Type} (f : Char → β)
    (h : ∀ n : Fin 128, f (lowerAscii (Char.ofNat n)) = f (Char.ofNat n)) (c : Char) :
    f (lowerAscii c) = f c := by
  by_cases hc : c.toNat < 128
  · exact forall_ascii (P := fun c => f (lowerAscii c) = f c) h hc
  · rw [lowerAscii_of_not_ascii hc]

@[simp] theorem lowerAscii_lowerAscii (c : Char) : lowerAscii (lowerAscii c) = lowerAscii c :=
  comp_lowerAscii lowerAscii (by decide +kernel) c

theorem lowerChar_of_ascii {c : Char} (hc : c.toNat < 128) : lowerChar c = [lowerAscii c] := by
  apply forall_ascii (P := fun c => lowerChar c = [lowerAscii c]) _ hc
  decide +kernel

/-! ### One character after the other -/

/-- The small form of a character between others, those before it in reverse order. -/
def smallAt (before : List Char) (c : Char) (rest : List Char) : List Char :=
  if c = 'Σ' then
    if startsCased before && !startsCased rest then ['ς'] else ['σ']
  else lowerChar c

/-- What was done before comes first. -/
theorem lowerFrom_eq_append (before acc cs : List Char) :
    lowerFrom before acc cs = acc.reverse ++ lowerFrom before [] cs := by
  induction cs generalizing before acc with
  | nil => simp [lowerFrom]
  | cons c rest ih =>
    rw [lowerFrom, lowerFrom, ih, ih _ (_ ++ [])]
    simp

theorem lowerFrom_cons (before : List Char) (c : Char) (rest : List Char) :
    lowerFrom before [] (c :: rest)
      = smallAt before c rest ++ lowerFrom (c :: before) [] rest := by
  rw [lowerFrom, lowerFrom_eq_append]
  simp [smallAt]

theorem length_smallAt_pos (before : List Char) (c : Char) (rest : List Char) :
    0 < (smallAt before c rest).length := by
  unfold smallAt lowerChar
  repeat' split
  all_goals simp

theorem length_le_length_lowerFrom (before cs : List Char) :
    cs.length ≤ (lowerFrom before [] cs).length := by
  induction cs generalizing before with
  | nil => exact Nat.zero_le _
  | cons c rest ih =>
    have hsmall := length_smallAt_pos before c rest
    have hrest := ih (c :: before)
    rw [lowerFrom_cons, List.length_append, List.length_cons]
    omega

/-! ### Stable texts -/

/-- Of the characters of a text, only ASCII letters may have another small form. -/
def CaseStable (cs : List Char) : Prop :=
  ∀ c ∈ cs, c.toNat < 128 ∨ lowerChar c = [c]

instance (cs : List Char) : Decidable (CaseStable cs) :=
  List.decidableBAll (fun c : Char => c.toNat < 128 ∨ lowerChar c = [c]) cs

theorem lowerChar_sigma : lowerChar 'Σ' = ['σ'] := by
  decide +kernel

theorem smallAt_of_stable {c : Char} (hc : c.toNat < 128 ∨ lowerChar c = [c])
    (before rest : List Char) : smallAt before c rest = [lowerAscii c] := by
  have hsigma : c ≠ 'Σ' := by
    rintro rfl
    rw [lowerChar_sigma] at hc
    exact absurd hc (by decide)
  rw [smallAt, if_neg hsigma]
  by_cases hascii : c.toNat < 128
  · exact lowerChar_of_ascii hascii
  · rw [hc.resolve_left hascii, lowerAscii_of_not_ascii hascii]

/-- A character whose small form differs from it in the case of ASCII letters only. -/
theorem stable_of_smallAt {before rest : List Char} {c d : Char}
    (hsmall : smallAt before c rest = [d]) (h : lowerAscii d = lowerAscii c) :
    c.toNat < 128 ∨ lowerChar c = [c] := by
  by_cases hascii : c.toNat < 128
  · exact .inl hascii
  · obtain rfl := eq_of_lowerAscii_eq hascii h
    right
    unfold smallAt at hsmall
    split at hsmall
    · next hsigma =>
      -- Neither form of the small sigma is the capital one.
      subst hsigma
      split at hsmall <;> exact absurd hsmall (by decide)
    · exact hsmall

theorem lowerFrom_of_caseStable {cs : List Char} (h : CaseStable cs) (before : List Char) :
    lowerFrom before [] cs = cs.map lowerAscii := by
  induction cs generalizing before with
  | nil => rfl
  | cons c rest ih =>
    obtain ⟨hc, hrest⟩ := List.forall_mem_cons.mp h
    rw [lowerFrom_cons, smallAt_of_stable hc, ih hrest]
    rfl

theorem lowerList_of_caseStable {cs : List Char} (h : CaseStable cs) :
    lowerList cs = cs.map lowerAscii :=
  lowerFrom_of_caseStable h []

theorem caseStable_of_lowerFrom {before cs : List Char}
    (h : (lowerFrom before [] cs).map lowerAscii = cs.map lowerAscii) : CaseStable cs := by
  induction cs generalizing before with
  | nil => simp [CaseStable]
  | cons c rest ih =>
    rw [lowerFrom_cons, List.map_append, List.map_cons] at h
    -- A small form of two characters would make the text longer.
    have hlength := congrArg List.length h
    simp only [List.length_append, List.length_map, List.length_cons] at hlength
    have hpos := length_smallAt_pos before c rest
    have hrest := length_le_length_lowerFrom (c :: before) rest
    have hone : (smallAt before c rest).length = 1 := by omega
    obtain ⟨d, hsmall⟩ := List.length_eq_one_iff.mp hone
    rw [hsmall] at h
    obtain ⟨hd, htail⟩ := List.cons.inj h
    exact List.forall_mem_cons.mpr ⟨stable_of_smallAt hsmall hd, ih htail⟩

/-- A text is stable exactly if its small form differs in the case of ASCII letters only. -/
theorem caseStable_iff (cs : List Char) :
    CaseStable cs ↔ (lowerList cs).map lowerAscii = cs.map lowerAscii := by
  refine ⟨fun h => ?_, caseStable_of_lowerFrom⟩
  rw [lowerList_of_caseStable h, List.map_map]
  exact List.map_congr_left fun c _ => lowerAscii_lowerAscii c

end CookieAuth.Text
