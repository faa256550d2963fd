import CookieAuth.Text.Blank
import CookieAuth.Text.Split

/-!
# Texts and their parts

Cutting a list apart collects the parts in an accumulator.  The result is that of the library
function for it, whose lemmas then say that joined parts are found again.  Neither cutting nor
trimming adds anything.

## Main results

* `eq_ok_of_toOption`: a result can be checked by computing it;
* `forall_byte`: what holds of all numbers below 256 holds of all bytes;
* `forall_mem_of_all`: what holds of all characters of a list can be checked one by one;
* `utf8ByteSize_of_ascii`: a text of small characters has as many bytes as characters;
* `splitAll_eq_splitOn`: the parts are those of the library;
* `splitAll_append_cons`, `splitAll_of_not_mem`: cutting off the first part, and nothing to cut;
* `splitFirst?_eq_some_iff`, `splitFirst?_eq_none_iff`, `splitLast?_eq_some_iff`,
  `splitLast?_eq_none_iff`: where a list is cut in two;
* `splitAll_map`, `splitFirst?_map`: cutting after replacing elements;
* `mem_of_mem_splitAll`, `mem_of_mem_trimList`: what stands in a part stands in the list;
* `trimList_of_padded`: what is left after trimming;
* `isBlankText_of_trim`: trimming does not turn a blank text into another one;
* `trim_eq_empty_iff`: the blank texts are those of which nothing is left.
-/

namespace CookieAuth.Text

theorem eq_ok_of_toOption {ε β : Type} {result : Except ε β} {b : β}
    (h : result.toOption = some b) : result = .ok b := by
  cases result with
  | error e => simp [Except.toOption] at h
  | ok c => exact congrArg Except.ok (Option.some.inj h)

theorem forall_byte {P : UInt8 → Prop} (h : ∀ n : Fin 256, P (UInt8.ofNat n)) (b : UInt8) :
    P b := by
  have hb := h ⟨b.toNat, b.toNat_lt⟩
  rwa [UInt8.ofNat_toNat] at hb

theorem forall_mem_of_all {P : Char → Prop} [DecidablePred P] {cs : List Char}
    (h : (cs.all fun c => decide (P c)) = true) : ∀ c ∈ cs, P c :=
  fun c hc => of_decide_eq_true (List.all_eq_true.mp h c hc)

theorem utf8ByteSize_of_ascii {cs : List Char} (h : ∀ c ∈ cs, c.utf8Size = 1) :
    (String.ofList cs).utf8ByteSize = cs.length := by
  rw [← String.size_toByteArray, String.toByteArray_ofList, List.utf8Encode, List.size_toByteArray]
  induction cs with
  | nil => rfl
  | cons c rest ih =>
    rw [List.flatMap_cons, List.length_append, String.length_utf8EncodeChar, h c List.mem_cons_self,
      ih fun c' hc' => h c' (List.mem_cons_of_mem _ hc'), List.length_cons, Nat.add_comm]

variable {α : Type} [BEq α]

/-- The finished parts come first, and the current part goes on. -/
theorem splitFrom_eq_append (sep : α) (parts : List (List α)) (part l : List α) :
    splitFrom sep parts part l = parts.reverse ++ List.splitOnPPrepend (· == sep) l part := by
  induction l generalizing parts part with
  | nil => simp [splitFrom]
  | cons a rest ih =>
    rw [splitFrom, List.splitOnPPrepend_cons_eq_if]
    split
    · rw [ih]
      simp
    · exact ih parts (a :: part)

/-- Cutting a list apart is the library function. -/
theorem splitAll_eq_splitOn (sep : α) (l : List α) : splitAll sep l = l.splitOn sep :=
  splitFrom_eq_append sep [] [] l

/-- What stands before a separator is a part, if it has none itself. -/
theorem splitAll_append_cons [LawfulBEq α] {sep : α} {part : List α} (h : sep ∉ part)
    (rest : List α) : splitAll sep (part ++ sep :: rest) = part :: splitAll sep rest := by
  rw [splitAll_eq_splitOn, splitAll_eq_splitOn,
    List.splitOn_append_cons_self_of_not_mem h]

/-- A list without separator is one part. -/
theorem splitAll_of_not_mem [LawfulBEq α] {sep : α} {l : List α} (h : sep ∉ l) :
    splitAll sep l = [l] := by
  rw [splitAll_eq_splitOn]
  exact List.splitOn_eq_singleton h

/-- A part has only elements of the list. -/
theorem mem_of_mem_splitAll {sep a : α} {l part : List α} (hpart : part ∈ splitAll sep l)
    (ha : a ∈ part) : a ∈ l := by
  rw [splitAll_eq_splitOn] at hpart
  induction l generalizing part with
  | nil =>
    rw [List.splitOn_nil, List.mem_singleton] at hpart
    rwa [hpart] at ha
  | cons b rest ih =>
    rw [List.splitOn_cons_eq_if_modifyHead] at hpart
    split at hpart
    · rcases List.mem_cons.mp hpart with rfl | hpart
      · simp at ha
      · exact List.mem_cons_of_mem b (ih hpart ha)
    · obtain ⟨first, others, hrest⟩ := List.exists_cons_of_ne_nil (List.splitOn_ne_nil sep rest)
      rw [hrest, List.modifyHead_cons, List.mem_cons] at hpart
      rcases hpart with rfl | hpart
      · rcases List.mem_cons.mp ha with rfl | ha
        · exact List.mem_cons_self
        · exact List.mem_cons_of_mem b (ih (by simp [hrest]) ha)
      · exact List.mem_cons_of_mem b (ih (by simp [hrest, hpart]) ha)

theorem not_mem_of_splitFirstFrom [LawfulBEq α] {sep : α} {before l x y : List α}
    (hbefore : sep ∉ before) (h : splitFirstFrom sep before l = some (x, y)) : sep ∉ x := by
  induction l generalizing before with
  | nil => simp [splitFirstFrom] at h
  | cons a rest ih =>
    unfold splitFirstFrom at h
    split at h
    · simp only [Option.some.injEq, Prod.mk.injEq] at h
      rw [← h.1, List.mem_reverse]
      exact hbefore
    · next ha =>
      have hne : sep ≠ a := by
        rintro rfl
        exact ha (beq_self_eq_true _)
      exact ih (List.not_mem_cons_of_ne_of_not_mem hne hbefore) h

theorem splitFirstFrom_append_cons [LawfulBEq α] {sep : α} {x : List α} (hx : sep ∉ x)
    (before y : List α) :
    splitFirstFrom sep before (x ++ sep :: y) = some (before.reverse ++ x, y) := by
  induction x generalizing before with
  | nil => simp [splitFirstFrom]
  | cons a rest ih =>
    rw [List.mem_cons, not_or] at hx
    have ha : (a == sep) = false := beq_eq_false_iff_ne.mpr (Ne.symm hx.1)
    rw [List.cons_append, splitFirstFrom, ha, if_neg (by simp), ih hx.2]
    simp

/-- A list is cut at the first separator, before which there is none. -/
theorem splitFirst?_eq_some_iff [LawfulBEq α] {sep : α} {l x y : List α} :
    splitFirst? sep l = some (x, y) ↔ l = x ++ sep :: y ∧ sep ∉ x := by
  constructor
  · intro h
    exact ⟨append_of_splitFirst? h, not_mem_of_splitFirstFrom List.not_mem_nil h⟩
  · rintro ⟨rfl, hx⟩
    exact splitFirstFrom_append_cons hx [] y

/-- A list is not cut exactly if it has no separator. -/
theorem splitFirst?_eq_none_iff [LawfulBEq α] {sep : α} {l : List α} :
    splitFirst? sep l = none ↔ sep ∉ l := by
  constructor
  · intro h hmem
    obtain ⟨x, y, rfl, hx⟩ := List.eq_append_cons_of_mem hmem
    rw [splitFirst?_eq_some_iff.mpr ⟨rfl, hx⟩] at h
    simp at h
  · intro h
    rw [Option.eq_none_iff_forall_ne_some]
    rintro ⟨x, y⟩ hsplit
    apply h
    rw [(splitFirst?_eq_some_iff.mp hsplit).1]
    exact List.mem_append_right x List.mem_cons_self

/-- A list is cut at the last separator, after which there is none. -/
theorem splitLast?_eq_some_iff [LawfulBEq α] {sep : α} {l x y : List α} :
    splitLast? sep l = some (x, y) ↔ l = x ++ sep :: y ∧ sep ∉ y := by
  unfold splitLast?
  rw [Option.map_eq_some_iff]
  constructor
  · rintro ⟨⟨after, before⟩, hsplit, hparts⟩
    obtain ⟨rfl, rfl⟩ := Prod.mk.inj hparts
    obtain ⟨hlist, hafter⟩ := splitFirst?_eq_some_iff.mp hsplit
    refine ⟨?_, by rwa [List.mem_reverse]⟩
    rw [← List.reverse_inj, hlist]
    simp
  · rintro ⟨rfl, hy⟩
    refine ⟨(y.reverse, x.reverse), splitFirst?_eq_some_iff.mpr ⟨?_, ?_⟩, by simp⟩
    · simp
    · rwa [List.mem_reverse]

theorem splitLast?_eq_none_iff [LawfulBEq α] {sep : α} {l : List α} :
    splitLast? sep l = none ↔ sep ∉ l := by
  rw [splitLast?, Option.map_eq_none_iff, splitFirst?_eq_none_iff, List.mem_reverse]

/-- Elements that are replaced, except for separators and by none, are replaced in the parts. -/
theorem splitAll_map {sep : α} {f : α → α} (hf : ∀ a, (f a == sep) = (a == sep)) (l : List α) :
    splitAll sep (l.map f) = (splitAll sep l).map (List.map f) := by
  have hfrom : ∀ (l : List α) (parts : List (List α)) (part : List α),
      splitFrom sep (parts.map (List.map f)) (part.map f) (l.map f)
        = (splitFrom sep parts part l).map (List.map f) := by
    intro l
    induction l with
    | nil => simp [splitFrom]
    | cons a rest ih =>
      intro parts part
      rw [List.map_cons, splitFrom, splitFrom, hf]
      split
      · rw [← ih]
        simp
      · exact ih parts (a :: part)
  exact hfrom l [] []

theorem splitFirst?_map {sep : α} {f : α → α} (hf : ∀ a, (f a == sep) = (a == sep)) (l : List α) :
    splitFirst? sep (l.map f) = (splitFirst? sep l).map (Prod.map (List.map f) (List.map f)) := by
  have hfrom : ∀ (l before : List α), splitFirstFrom sep (before.map f) (l.map f)
      = (splitFirstFrom sep before l).map (Prod.map (List.map f) (List.map f)) := by
    intro l
    induction l with
    | nil => simp [splitFirstFrom]
    | cons a rest ih =>
      intro before
      rw [List.map_cons, splitFirstFrom, splitFirstFrom, hf]
      split
      · simp
      · exact ih (a :: before)
  exact hfrom l []

/-- Trimming leaves only characters that were there. -/
theorem mem_of_mem_trimList {c : Char} {cs : List Char} (h : c ∈ trimList cs) : c ∈ cs := by
  unfold trimList dropBlanks at h
  rw [List.mem_reverse] at h
  have hinner := (List.dropWhile_sublist _).subset h
  rw [List.mem_reverse] at hinner
  exact (List.dropWhile_sublist _).subset hinner

theorem dropBlanks_eq_self {cs : List Char} (h : ∀ c ∈ cs.head?, isBlank c = false) :
    dropBlanks cs = cs := by
  cases cs with
  | nil => rfl
  | cons c rest => exact List.dropWhile_cons_of_neg (by simp [h c rfl])

/-- Trimming takes off the blanks around a text that does not start or end with one. -/
theorem trimList_of_padded {before cs after : List Char} (hbefore : ∀ c ∈ before, isBlank c = true)
    (hafter : ∀ c ∈ after, isBlank c = true) (hhead : ∀ c ∈ cs.head?, isBlank c = false)
    (hlast : ∀ c ∈ cs.getLast?, isBlank c = false) : trimList (before ++ cs ++ after) = cs := by
  have hreverse : ∀ c ∈ cs.reverse.head?, isBlank c = false := by rwa [List.head?_reverse]
  cases cs with
  | nil =>
    have hall : (before ++ [] ++ after).all isBlank = true := by
      rw [List.all_eq_true]
      intro c hc
      rcases List.mem_append.mp hc with hc | hc
      · exact hbefore c (by simpa using hc)
      · exact hafter c hc
    rw [trimList, dropBlanks_eq_nil_iff.mpr hall]
    rfl
  | cons c rest =>
    have hfront : dropBlanks (before ++ (c :: rest) ++ after) = c :: rest ++ after := by
      rw [List.append_assoc, dropBlanks, List.dropWhile_append_of_pos hbefore]
      exact dropBlanks_eq_self hhead
    rw [trimList, hfront, List.reverse_append, dropBlanks,
      List.dropWhile_append_of_pos (by simpa using hafter)]
    rw [← dropBlanks, dropBlanks_eq_self hreverse, List.reverse_reverse]

theorem trimList_eq_nil {cs : List Char} (h : ∀ c ∈ cs, isBlank c = true) : trimList cs = [] := by
  rw [trimList, dropBlanks_eq_nil_iff.mpr (List.all_eq_true.mpr h)]
  rfl

theorem trimList_eq_self {cs : List Char} (hhead : ∀ c ∈ cs.head?, isBlank c = false)
    (hlast : ∀ c ∈ cs.getLast?, isBlank c = false) : trimList cs = cs := by
  have hnone : ∀ c ∈ ([] : List Char), isBlank c = true := fun c hc => absurd hc List.not_mem_nil
  simpa using trimList_of_padded hnone hnone hhead hlast

/-- A text that is not blank once it was trimmed was not blank before. -/
theorem isBlankText_of_trim {s : String} (h : isBlankText (trim s) = false) :
    isBlankText s = false := by
  unfold isBlankText trim at h
  rw [String.toList_ofList, List.all_eq_false] at h
  obtain ⟨c, hc, hblank⟩ := h
  exact List.all_eq_false.mpr ⟨c, mem_of_mem_trimList hc, hblank⟩

/-- Nothing is left of a text by trimming exactly if it is blank. -/
theorem trim_eq_empty_iff {s : String} : trim s = "" ↔ isBlankText s = true := by
  have hlist : trim s = "" ↔ trimList s.toList = [] := by
    rw [trim, ← String.toList_inj, String.toList_ofList, String.toList_empty]
  rw [hlist, trimList, List.reverse_eq_nil_iff, dropBlanks_eq_nil_iff, List.all_reverse]
  constructor
  · intro hall
    cases hrest : dropBlanks s.toList with
    | nil => exact dropBlanks_eq_nil_iff.mp hrest
    | cons c rest =>
      -- What is left starts with a character that is not blank.
      have hhead : isBlank c = false := head?_dropBlanks (by rw [hrest]; rfl)
      rw [hrest, List.all_cons, hhead] at hall
      simp at hall
  · intro hall
    rw [dropBlanks_eq_nil_iff.mpr hall]
    rfl

end CookieAuth.Text
