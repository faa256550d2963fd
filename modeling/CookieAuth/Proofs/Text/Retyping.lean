import CookieAuth.Proofs.Text.SmallForms

/-!
# Texts that are typed again

Whoever types a text a second time may put other blanks around it and write ASCII letters in the
other case.  Trimming disregards the blanks, and takes off the same from both texts whatever the
case of the letters.

## Main definitions

* `Pads`: a text stands between blanks;
* `Trimmed`: a text has no blank at either end;
* `Retyped`: two texts differ at most by the blanks around them and by the case of ASCII letters.

## Main results

* `pads_trimList`, `trimmed_trimList`, `trimList_of_pads`: trimming takes off the blanks at both
  ends, and all of them;
* `retyped_iff`: what trimming leaves of such texts differs at most by the case of ASCII letters;
* `splitLast?_map_lowerAscii`: such texts are cut in two at the same place.
-/

namespace CookieAuth.Text

/-! ### Blanks around a text -/

/-- A text stands between blanks. -/
def Pads (cs padded : List Char) : Prop :=
  ∃ before after, (∀ c ∈ before, isBlank c = true) ∧ (∀ c ∈ after, isBlank c = true) ∧
    padded = before ++ cs ++ after

/-- A text has no blank at either end. -/
structure Trimmed (cs : List Char) : Prop where
  /-- It does not start with a blank. -/
  head : ∀ c ∈ cs.head?, isBlank c = false
  /-- It does not end with a blank. -/
  last : ∀ c ∈ cs.getLast?, isBlank c = false

theorem Trimmed.trimList_eq {cs : List Char} (h : Trimmed cs) : trimList cs = cs :=
  trimList_eq_self h.head h.last

/-- What is dropped in front consists of blanks. -/
theorem exists_blanks_append_dropBlanks (cs : List Char) :
    ∃ before, (∀ c ∈ before, isBlank c = true) ∧ cs = before ++ dropBlanks cs :=
  ⟨cs.takeWhile isBlank, List.all_eq_true.mp List.all_takeWhile,
    List.takeWhile_append_dropWhile.symm⟩

/-- What is left after the blanks in front is what trimming leaves, with blanks after it. -/
theorem exists_dropBlanks_eq_trimList_append (cs : List Char) :
    ∃ after, (∀ c ∈ after, isBlank c = true) ∧ dropBlanks cs = trimList cs ++ after := by
  obtain ⟨after, hafter, hreverse⟩ := exists_blanks_append_dropBlanks (dropBlanks cs).reverse
  refine ⟨after.reverse, fun c hc => hafter c (List.mem_reverse.mp hc), ?_⟩
  rw [← List.reverse_inj, hreverse]
  simp [trimList]

theorem pads_trimList (cs : List Char) : Pads (trimList cs) cs := by
  obtain ⟨before, hbefore, hcs⟩ := exists_blanks_append_dropBlanks cs
  obtain ⟨after, hafter, hrest⟩ := exists_dropBlanks_eq_trimList_append cs
  refine ⟨before, after, hbefore, hafter, ?_⟩
  rw [List.append_assoc, ← hrest]
  exact hcs

theorem trimmed_trimList (cs : List Char) : Trimmed (trimList cs) where
  head c hc := by
    obtain ⟨after, -, hrest⟩ := exists_dropBlanks_eq_trimList_append cs
    have hhead : (dropBlanks cs).head? = some c := by
      rw [hrest, List.head?_append, show (trimList cs).head? = some c from hc]
      rfl
    exact head?_dropBlanks hhead
  last c hc := by
    unfold trimList at hc
    rw [List.getLast?_reverse] at hc
    exact head?_dropBlanks hc

/-- Blanks around a text do not matter to what trimming leaves. -/
theorem trimList_of_pads {cs padded : List Char} (h : Pads cs padded) :
    trimList padded = trimList cs := by
  obtain ⟨before, after, hbefore, hafter, rfl⟩ := h
  obtain ⟨before', after', hbefore', hafter', hcs⟩ := pads_trimList cs
  have hpadded : before ++ cs ++ after
      = (before ++ before') ++ trimList cs ++ (after' ++ after) :=
    calc before ++ cs ++ after
      _ = before ++ (before' ++ trimList cs ++ after') ++ after := by rw [← hcs]
      _ = (before ++ before') ++ trimList cs ++ (after' ++ after) := by simp
  rw [hpadded]
  apply trimList_of_padded
  · intro c hc
    exact (List.mem_append.mp hc).elim (hbefore c) (hbefore' c)
  · intro c hc
    exact (List.mem_append.mp hc).elim (hafter' c) (hafter c)
  · exact (trimmed_trimList cs).head
  · exact (trimmed_trimList cs).last

/-! ### The case of ASCII letters -/

/-- Two texts differ at most by the blanks around them and by the case of ASCII letters. -/
def Retyped (s t : String) : Prop :=
  ∃ cs ds, Pads cs s.toList ∧ Pads ds t.toList ∧ cs.map lowerAscii = ds.map lowerAscii

theorem trimList_map_lowerAscii (cs : List Char) :
    trimList (cs.map lowerAscii) = (trimList cs).map lowerAscii := by
  have hblank : isBlank ∘ lowerAscii = isBlank :=
    funext (comp_lowerAscii isBlank (by decide +kernel))
  have hdrop : ∀ cs : List Char,
      dropBlanks (cs.map lowerAscii) = (dropBlanks cs).map lowerAscii := by
    intro cs
    rw [dropBlanks, List.dropWhile_map, hblank]
    rfl
  rw [trimList, hdrop, ← List.map_reverse, hdrop, ← List.map_reverse]
  rfl

/-- What trimming leaves of two such texts differs at most by the case of ASCII letters. -/
theorem retyped_iff {s t : String} :
    Retyped s t ↔ (trimList s.toList).map lowerAscii = (trimList t.toList).map lowerAscii := by
  constructor
  · rintro ⟨cs, ds, hcs, hds, hcase⟩
    rw [trimList_of_pads hcs, trimList_of_pads hds, ← trimList_map_lowerAscii, hcase,
      trimList_map_lowerAscii]
  · intro hcase
    exact ⟨_, _, pads_trimList _, pads_trimList _, hcase⟩

/-- The case of ASCII letters does not matter to where a text is cut in two at an at sign. -/
theorem splitLast?_map_lowerAscii (cs : List Char) :
    splitLast? '@' (cs.map lowerAscii)
      = (splitLast? '@' cs).map (Prod.map (List.map lowerAscii) (List.map lowerAscii)) := by
  have hat : ∀ c, (lowerAscii c == '@') = (c == '@') :=
    comp_lowerAscii (· == '@') (by decide +kernel)
  unfold splitLast?
  rw [← List.map_reverse, splitFirst?_map hat, Option.map_map, Option.map_map]
  congr 1
  funext ⟨after, before⟩
  simp

end CookieAuth.Text
