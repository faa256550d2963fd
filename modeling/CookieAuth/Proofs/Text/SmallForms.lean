import CookieAuth.Proofs.Text.Lowercase
import CookieAuth.Proofs.Text.Utf8

/-!
# Texts in lower case stay as they are

A small letter is never a capital one, and no letter has a blank or an at sign as its small form.
The table of letters is finite, so this is a matter of comparing two sets of code points, which is
done on their bits.  It follows that a text in lower case is put in lower case by no change,
although the small form of a sigma depends on the letters around it and a dotted capital I becomes
two characters.

The letters around a sigma matter only by whether they have case, which capital and small ASCII
letters do alike.  So the case of ASCII letters does not matter to the small form of a text.

## Main definitions

* `capitalsOf`, `smallsOf`: the code points on either side of a table of runs;
* `codeBits`: a set of code points as the bits of a number;
* `keptCodes`: the code points of an at sign, of blanks and of the dotted capital I;
* `IsSmall`: a character is its own small form.

## Main results

* `not_mem_of_codeBits`: sets without a common bit have no common element;
* `isSmall_of_mem_smallAt`, `eq_of_mem_smallAt`: small forms are small, and blanks and at signs are
  small forms of themselves only;
* `lowerList_lowerList`: lower case is reached in one step;
* `lowerList_map_lowerAscii`: the case of ASCII letters does not matter.
-/

namespace CookieAuth.Text

/-! ### The table -/

/-- The code points of the capital letters in some runs. -/
def capitalsOf (runs : List (Nat × Nat × Nat × Nat)) : List Nat :=
  runs.flatMap fun (first, last, step, _) => List.range' first ((last - first) / step + 1) step

/-- The code points of their small letters. -/
def smallsOf (runs : List (Nat × Nat × Nat × Nat)) : List Nat :=
  runs.flatMap fun (first, last, step, small) =>
    List.range' small ((last - first) / step + 1) step

/-- A multiple of the step that is not beyond the last one is reached in so many steps. -/
theorem add_mem_range {start k length step : Nat} (hk : k ≤ length) (hstep : k % step = 0) :
    start + k ∈ List.range' start (length / step + 1) step := by
  rw [List.mem_range']
  refine ⟨k / step, Nat.lt_succ_of_le (Nat.div_le_div_right hk), ?_⟩
  rw [Nat.mul_div_cancel' (Nat.dvd_of_mod_eq_zero hstep)]

/-- What is no capital letter of a table stays as it is. -/
theorem lowerIn_of_not_mem {n : Nat} {runs : List (Nat × Nat × Nat × Nat)}
    (h : n ∉ capitalsOf runs) : lowerIn n runs = n := by
  induction runs with
  | nil => rfl
  | cons run rest ih =>
    obtain ⟨first, last, step, small⟩ := run
    rw [capitalsOf, List.flatMap_cons, List.mem_append, not_or] at h
    obtain ⟨hrun, hrest⟩ := h
    rw [lowerIn]
    split
    · rfl
    · next hfirst =>
      split
      · next hlast =>
        split
        · next hstep =>
          -- In the run and a number of steps away from its start, it would be a capital letter.
          have hmem : first + (n - first) ∈ List.range' first ((last - first) / step + 1) step :=
            add_mem_range (Nat.sub_le_sub_right hlast first) hstep
          rw [Nat.add_sub_cancel' (Nat.le_of_not_lt hfirst)] at hmem
          exact absurd hmem hrun
        · rfl
      · exact ih hrest

/-- What does not stay as it is becomes a small letter of the table. -/
theorem lowerIn_eq_or_mem (n : Nat) (runs : List (Nat × Nat × Nat × Nat)) :
    lowerIn n runs = n ∨ lowerIn n runs ∈ smallsOf runs := by
  induction runs with
  | nil => exact .inl rfl
  | cons run rest ih =>
    obtain ⟨first, last, step, small⟩ := run
    rw [lowerIn, smallsOf, List.flatMap_cons, List.mem_append]
    split
    · exact .inl rfl
    · split
      · next hlast =>
        split
        · next hstep => exact .inr (.inl (add_mem_range (Nat.sub_le_sub_right hlast first) hstep))
        · exact .inl rfl
      · exact ih.imp_right .inr

/-- A set of code points as the bits of a number. -/
def codeBits (codes : List Nat) : Nat :=
  codes.foldr (fun n bits => 1 <<< n ||| bits) 0

theorem testBit_codeBits (codes : List Nat) (n : Nat) :
    (codeBits codes).testBit n = decide (n ∈ codes) := by
  induction codes with
  | nil => simp [codeBits]
  | cons m rest ih =>
    have hcons : codeBits (m :: rest) = 1 <<< m ||| codeBits rest := rfl
    rw [hcons, Nat.testBit_or, ih, Nat.one_shiftLeft, Nat.testBit_two_pow]
    simp [eq_comm]

/-- Sets without a common bit have no common element. -/
theorem not_mem_of_codeBits {codes codes' : List Nat}
    (h : codeBits codes &&& codeBits codes' = 0) {n : Nat} (hn : n ∈ codes) : n ∉ codes' := by
  intro hn'
  have hbit := congrArg (Nat.testBit · n) h
  simp [testBit_codeBits, hn, hn'] at hbit

/-- The code points of an at sign, of blanks and of the dotted capital I.  None of them is the small
form of another one. -/
def keptCodes : List Nat :=
  0x40 :: 0x130 :: (List.range' 0x9 5 ++ [0x20, 0x85, 0xA0, 0x1680] ++ List.range' 0x2000 11
    ++ [0x2028, 0x2029, 0x202F, 0x205F, 0x3000])

theorem not_mem_of_mem_smalls {n : Nat} (hn : n ∈ smallsOf lowercaseRuns) :
    n ∉ keptCodes ++ capitalsOf lowercaseRuns :=
  -- Comparing the lists element by element would take millions of steps.
  not_mem_of_codeBits (by decide +kernel) hn

theorem isValidChar_of_mem_smalls {n : Nat} (hn : n ∈ smallsOf lowercaseRuns) : n.isValidChar := by
  have hall : (smallsOf lowercaseRuns).all (fun n => decide n.isValidChar) = true := by
    decide +kernel
  exact of_decide_eq_true (List.all_eq_true.mp hall n hn)

theorem mem_keptCodes_of_isBlank {c : Char} (h : isBlank c = true) : c.toNat ∈ keptCodes := by
  unfold isBlank at h
  simp only [Bool.or_eq_true, Bool.and_eq_true, decide_eq_true_eq, beq_iff_eq] at h
  simp only [keptCodes, List.mem_cons, List.mem_append, List.mem_range'_1, List.not_mem_nil,
    or_false]
  omega

/-! ### One character -/

/-- A character is its own small form. -/
def IsSmall (c : Char) : Prop :=
  lowerChar c = [c]

instance (c : Char) : Decidable (IsSmall c) :=
  inferInstanceAs (Decidable (lowerChar c = [c]))

/-- The small form of a character is a character that stays as it is, or a small letter of the
table, unless it is that of the dotted capital I. -/
theorem lowerChar_cases {c d : Char} (h : d ∈ lowerChar c) :
    d ∈ ['i', Char.ofNat 0x307] ∨ (d = c ∧ IsSmall c) ∨ d.toNat ∈ smallsOf lowercaseRuns := by
  by_cases hdotted : c.toNat = 0x130
  · rw [lowerChar, if_pos hdotted] at h
    exact .inl h
  · have hsmall : lowerChar c = [Char.ofNat (lowerIn c.toNat lowercaseRuns)] := if_neg hdotted
    rw [hsmall, List.mem_singleton] at h
    rcases lowerIn_eq_or_mem c.toNat lowercaseRuns with hsame | hmem
    · rw [hsame, Char.ofNat_toNat] at h hsmall
      exact .inr (.inl ⟨h, hsmall⟩)
    · right; right
      have hcode : d.toNat = lowerIn c.toNat lowercaseRuns := by
        rw [h]
        exact val_ofNat_of_valid (isValidChar_of_mem_smalls hmem)
      rwa [hcode]

theorem isSmall_of_mem_smalls {d : Char} (h : d.toNat ∈ smallsOf lowercaseRuns) : IsSmall d := by
  have hout := not_mem_of_mem_smalls h
  rw [List.mem_append, not_or] at hout
  obtain ⟨hkept, hcapital⟩ := hout
  have hdotted : d.toNat ≠ 0x130 := by
    intro hdotted
    exact hkept (by rw [hdotted]; decide)
  rw [IsSmall, lowerChar, if_neg hdotted, lowerIn_of_not_mem hcapital, Char.ofNat_toNat]

theorem isSmall_of_mem_lowerChar {c d : Char} (h : d ∈ lowerChar c) : IsSmall d := by
  rcases lowerChar_cases h with hdotted | ⟨rfl, hsame⟩ | hmem
  · exact forall_mem_of_all (P := IsSmall) (by decide +kernel) d hdotted
  · exact hsame
  · exact isSmall_of_mem_smalls hmem

/-- An at sign or a blank is the small form of itself only. -/
theorem eq_of_mem_lowerChar {c d : Char} (h : d ∈ lowerChar c) (hd : d.toNat ∈ keptCodes) :
    d = c := by
  rcases lowerChar_cases h with hdotted | ⟨hsame, -⟩ | hmem
  · have hout : d.toNat ∉ keptCodes :=
      forall_mem_of_all (P := fun d => d.toNat ∉ keptCodes) (by decide +kernel) d hdotted
    exact absurd hd hout
  · exact hsame
  · exact absurd (List.mem_append_left _ hd) (not_mem_of_mem_smalls hmem)

/-- The small form of a character between others is one of its own, or a small sigma. -/
theorem smallAt_cases {before rest : List Char} {c d : Char} (h : d ∈ smallAt before c rest) :
    d ∈ ['ς', 'σ'] ∨ d ∈ lowerChar c := by
  unfold smallAt at h
  split at h
  · left
    split at h
    · exact List.mem_cons.mpr (.inl (List.mem_singleton.mp h))
    · exact List.mem_cons_of_mem _ h
  · exact .inr h

theorem isSmall_of_mem_smallAt {before rest : List Char} {c d : Char}
    (h : d ∈ smallAt before c rest) : IsSmall d := by
  rcases smallAt_cases h with hsigma | hown
  · exact forall_mem_of_all (P := IsSmall) (by decide +kernel) d hsigma
  · exact isSmall_of_mem_lowerChar hown

theorem eq_of_mem_smallAt {before rest : List Char} {c d : Char} (h : d ∈ smallAt before c rest)
    (hd : d.toNat ∈ keptCodes) : d = c := by
  rcases smallAt_cases h with hsigma | hown
  · have hout : d.toNat ∉ keptCodes :=
      forall_mem_of_all (P := fun d => d.toNat ∉ keptCodes) (by decide +kernel) d hsigma
    exact absurd hd hout
  · exact eq_of_mem_lowerChar hown hd

/-- A small ASCII letter stays as it is. -/
theorem lowerAscii_of_isSmall {c : Char} (h : IsSmall c) : lowerAscii c = c := by
  by_cases hascii : c.toNat < 128
  · rw [IsSmall, lowerChar_of_ascii hascii] at h
    exact List.head_eq_of_cons_eq h
  · exact lowerAscii_of_not_ascii hascii

/-! ### All characters -/

/-- Every character of a small form comes from one of the text. -/
theorem exists_of_mem_lowerFrom {before cs : List Char} {d : Char}
    (h : d ∈ lowerFrom before [] cs) : ∃ c ∈ cs, ∃ left right, d ∈ smallAt left c right := by
  induction cs generalizing before with
  | nil => simp [lowerFrom] at h
  | cons c rest ih =>
    rw [lowerFrom_cons, List.mem_append] at h
    rcases h with hhead | htail
    · exact ⟨c, List.mem_cons_self, before, rest, hhead⟩
    · obtain ⟨c', hc', hsmall⟩ := ih htail
      exact ⟨c', List.mem_cons_of_mem c hc', hsmall⟩

/-- The last character of a small form comes from the last one of the text. -/
theorem exists_of_getLast?_lowerFrom {before cs : List Char} {d : Char}
    (h : d ∈ (lowerFrom before [] cs).getLast?) :
    ∃ c ∈ cs.getLast?, ∃ left right, d ∈ smallAt left c right := by
  induction cs generalizing before with
  | nil => simp [lowerFrom] at h
  | cons c rest ih =>
    rw [lowerFrom_cons, List.getLast?_append] at h
    cases rest with
    | nil =>
      refine ⟨c, rfl, before, [], List.mem_of_getLast? ?_⟩
      simpa [lowerFrom] using h
    | cons c' rest =>
      -- There is something left after the head, as no small form is empty.
      cases hlast : (lowerFrom (c :: before) [] (c' :: rest)).getLast? with
      | none =>
        have hlength := length_le_length_lowerFrom (c :: before) (c' :: rest)
        rw [List.getLast?_eq_none_iff.mp hlast] at hlength
        simp at hlength
      | some e =>
        rw [hlast] at h
        obtain rfl := Option.some.inj h
        have hrest : e ∈ (lowerFrom (c :: before) [] (c' :: rest)).getLast? := hlast
        obtain ⟨c'', hc'', hsmall⟩ := ih hrest
        exact ⟨c'', by rwa [List.getLast?_cons_cons], hsmall⟩

theorem lowerFrom_of_isSmall {cs : List Char} (h : ∀ c ∈ cs, IsSmall c) (before : List Char) :
    lowerFrom before [] cs = cs := by
  induction cs generalizing before with
  | nil => rfl
  | cons c rest ih =>
    obtain ⟨hc, hrest⟩ := List.forall_mem_cons.mp h
    -- Only the capital sigma depends on what stands around it.
    have hsigma : c ≠ 'Σ' := by
      rintro rfl
      exact absurd hc (by decide +kernel)
    rw [lowerFrom_cons, smallAt, if_neg hsigma, show lowerChar c = [c] from hc, ih hrest]
    rfl

theorem lowerList_of_isSmall {cs : List Char} (h : ∀ c ∈ cs, IsSmall c) : lowerList cs = cs :=
  lowerFrom_of_isSmall h []

theorem isSmall_of_mem_lowerList {cs : List Char} {c : Char} (h : c ∈ lowerList cs) :
    IsSmall c := by
  obtain ⟨_, -, _, _, hsmall⟩ := exists_of_mem_lowerFrom h
  exact isSmall_of_mem_smallAt hsmall

/-- A text in lower case stays as it is. -/
@[simp] theorem lowerList_lowerList (cs : List Char) : lowerList (lowerList cs) = lowerList cs :=
  lowerList_of_isSmall fun _ => isSmall_of_mem_lowerList

/-- There are at signs and blanks in a small form only where there are some in the text. -/
theorem mem_of_mem_lowerList {cs : List Char} {c : Char} (h : c ∈ lowerList cs)
    (hkept : c.toNat ∈ keptCodes) : c ∈ cs := by
  obtain ⟨c', hc', _, _, hsmall⟩ := exists_of_mem_lowerFrom h
  rwa [eq_of_mem_smallAt hsmall hkept]

theorem isBlank_of_getLast?_lowerList {cs : List Char} (h : ∀ c ∈ cs.getLast?, isBlank c = false)
    {c : Char} (hc : c ∈ (lowerList cs).getLast?) : isBlank c = false := by
  obtain ⟨c', hc', _, _, hsmall⟩ := exists_of_getLast?_lowerFrom hc
  cases hblank : isBlank c with
  | false => rfl
  | true =>
    obtain rfl := eq_of_mem_smallAt hsmall (mem_keptCodes_of_isBlank hblank)
    exact hblank.symm.trans (h c hc')

/-! ### The case of ASCII letters -/

/-- There are no capital ASCII letters in a small form. -/
theorem map_lowerAscii_lowerList (cs : List Char) :
    (lowerList cs).map lowerAscii = lowerList cs := by
  have hsame : ∀ c ∈ lowerList cs, lowerAscii c = id c := fun c hc =>
    lowerAscii_of_isSmall (isSmall_of_mem_lowerList hc)
  rw [List.map_congr_left hsame, List.map_id]

theorem startsCased_map_lowerAscii (cs : List Char) :
    startsCased (cs.map lowerAscii) = startsCased cs := by
  have hignorable : isCaseIgnorable ∘ lowerAscii = isCaseIgnorable :=
    funext (comp_lowerAscii isCaseIgnorable (by decide +kernel))
  unfold startsCased
  rw [List.dropWhile_map, hignorable]
  cases cs.dropWhile isCaseIgnorable with
  | nil => rfl
  | cons c rest => exact comp_lowerAscii isCased (by decide +kernel) c

theorem smallAt_map_lowerAscii (before : List Char) (c : Char) (rest : List Char) :
    smallAt (before.map lowerAscii) (lowerAscii c) (rest.map lowerAscii)
      = smallAt before c rest := by
  have hsigma : lowerAscii c = 'Σ' ↔ c = 'Σ' := by
    have hsame := comp_lowerAscii (fun c => decide (c = 'Σ')) (by decide +kernel) c
    simpa using hsame
  unfold smallAt
  rw [startsCased_map_lowerAscii, startsCased_map_lowerAscii,
    comp_lowerAscii lowerChar (by decide +kernel) c]
  simp only [hsigma]

theorem lowerFrom_map_lowerAscii (before cs : List Char) :
    lowerFrom (before.map lowerAscii) [] (cs.map lowerAscii) = lowerFrom before [] cs := by
  induction cs generalizing before with
  | nil => rfl
  | cons c rest ih =>
    rw [List.map_cons, lowerFrom_cons, lowerFrom_cons, smallAt_map_lowerAscii, ← ih (c :: before)]
    rfl

/-- The case of ASCII letters does not matter to the small form of a text. -/
theorem lowerList_map_lowerAscii (cs : List Char) :
    lowerList (cs.map lowerAscii) = lowerList cs :=
  lowerFrom_map_lowerAscii [] cs

end CookieAuth.Text
