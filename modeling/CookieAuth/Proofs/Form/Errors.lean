import CookieAuth.Form.Errors

/-!
# What the messages about a form are

Messages are kept by field, in increasing order of the fields.  So they are determined by what is
found under each field, and recording is described by what it does to that: a message comes after
those of its field, and findings count only for fields that had no message.  Where a check counts
only if nothing was said about its field before, each field ends up with the message of its first
check that fails.

## Main definitions

* `FormErrors.Sorted`: the fields stand in increasing order;
* `FormErrors.extended`: the messages of a field and then some more;
* `Finding.messagesOn`: the messages of findings about a field;
* `Check`, `FormErrors.note`, `FormErrors.noteAll`: a check of a field, and recording those that
  fail;
* `FormErrors.firstMessages`: the messages of the first checks that fail.

## Main results

* `FormErrors.get?_add`, `FormErrors.get?_merge`, `FormErrors.get?_note`: what is found after
  recording;
* `FormErrors.ext_of_sorted`: the messages are determined by what is found;
* `FormErrors.merge_congr`, `FormErrors.merge_perm`, `FormErrors.merge_append`: only the messages
  about each field matter, so that findings about different fields may come in any order, and one
  after the other;
* `FormErrors.noteAll_eq_firstMessages`: checks one after the other give the messages of the first
  ones that fail.
-/

namespace CookieAuth

open Text

/-- A check of a field. -/
structure Check where
  /-- Whether the field fails the check. -/
  fails : Bool
  /-- What is said about a field that does. -/
  message : String

namespace Check

/-- The check that a value is not blank. -/
def filled (value : String) : Check :=
  ⟨isBlankText value, FormErrors.required⟩

/-- The message of the first check that fails. -/
def firstMessage? (checks : List Check) : Option String :=
  (checks.find? (·.fails)).map (·.message)

/-- What is found about a field by a check of some kind. -/
def findings (check : Check) (field code : String) : List Finding :=
  if check.fails then [⟨field, code, some check.message⟩] else []

theorem field_of_mem_findings {check : Check} {field code : String} {f : Finding}
    (h : f ∈ check.findings field code) : f.field = field := by
  unfold findings at h
  split at h
  · rw [List.mem_singleton.mp h]
  · simp at h

end Check

namespace Finding

variable {found : List Finding} {field : String}

/-- The messages of findings about a field. -/
def messagesOn (found : List Finding) (field : String) : List String :=
  (found.filter (·.field = field)).map Finding.text

theorem messagesOn_append (found found' : List Finding) (field : String) :
    messagesOn (found ++ found') field = messagesOn found field ++ messagesOn found' field := by
  simp [messagesOn]

theorem messagesOn_eq_nil (h : ∀ f ∈ found, f.field ≠ field) : messagesOn found field = [] := by
  rw [messagesOn, List.map_eq_nil_iff, List.filter_eq_nil_iff]
  simpa using h

theorem exists_of_messagesOn_ne_nil (h : messagesOn found field ≠ []) :
    ∃ f ∈ found, f.field = field := by
  apply Decidable.byContradiction
  intro hnone
  exact h (messagesOn_eq_nil fun f hf hfield => hnone ⟨f, hf, hfield⟩)

end Finding

namespace FormErrors

variable {errors errors' : FormErrors} {entries : List (String × List String)}
  {found found' : List Finding} {field message : String}

/-- The fields stand in increasing order. -/
def Sorted (errors : FormErrors) : Prop :=
  errors.entries.Pairwise (·.1 < ·.1)

/-- The messages of a field and then some more; a field without messages is not there. -/
def extended (old : Option (List String)) (texts : List String) : Option (List String) :=
  if texts = [] then old else some (old.getD [] ++ texts)

@[simp] theorem extended_nil (old : Option (List String)) : extended old [] = old := rfl

theorem extended_extended (old : Option (List String)) (texts more : List String) :
    extended (extended old texts) more = extended old (texts ++ more) := by
  unfold extended
  by_cases htexts : texts = []
  · simp [htexts]
  · by_cases hmore : more = []
    · simp [htexts, hmore]
    · simp [htexts, hmore]

/-! ### Entries -/

theorem of_mem_insert {entry : String × List String} (h : entry ∈ insert field message entries) :
    entry.1 = field ∨ entry ∈ entries := by
  induction entries with
  | nil =>
    rw [insert, List.mem_singleton] at h
    exact .inl (congrArg Prod.fst h)
  | cons head rest ih =>
    obtain ⟨key, messages⟩ := head
    rw [insert] at h
    split at h
    · rcases List.mem_cons.mp h with rfl | hold
      · exact .inl rfl
      · exact .inr hold
    · split at h
      · next hsame =>
        rcases List.mem_cons.mp h with rfl | hold
        · exact .inl hsame.symm
        · exact .inr (List.mem_cons_of_mem _ hold)
      · rcases List.mem_cons.mp h with rfl | hrest
        · exact .inr List.mem_cons_self
        · exact (ih hrest).imp_right (List.mem_cons_of_mem _)

theorem pairwise_insert (h : entries.Pairwise (·.1 < ·.1)) (field message : String) :
    (insert field message entries).Pairwise (·.1 < ·.1) := by
  induction entries with
  | nil => exact List.pairwise_singleton _ _
  | cons head rest ih =>
    obtain ⟨key, messages⟩ := head
    obtain ⟨hhead, hrest⟩ := List.pairwise_cons.mp h
    rw [insert]
    split
    · next hless =>
      refine List.pairwise_cons.mpr ⟨fun entry hentry => ?_, h⟩
      rcases List.mem_cons.mp hentry with rfl | hlater
      · exact hless
      · exact String.lt_trans hless (hhead entry hlater)
    · next hnot =>
      split
      · exact List.pairwise_cons.mpr ⟨hhead, hrest⟩
      · next hne =>
        -- The field comes after the head, so it goes into the rest.
        have hgreater : key < field := by
          rcases Std.lt_trichotomy field key with hless | hsame | hgreater
          · exact absurd hless hnot
          · exact absurd hsame hne
          · exact hgreater
        refine List.pairwise_cons.mpr ⟨fun entry hentry => ?_, ih hrest⟩
        rcases of_mem_insert hentry with hnew | hold
        · rw [hnew]
          exact hgreater
        · exact hhead entry hold

theorem lookup_eq_none_of_lt (h : ∀ entry ∈ entries, field < entry.1) :
    entries.lookup field = none := by
  rw [List.lookup_eq_none_iff]
  intro entry hentry
  rw [bne_iff_ne]
  intro hsame
  have hless := h entry hentry
  rw [← hsame] at hless
  exact String.lt_irrefl _ hless

theorem lookup_cons_eq (key : String) (messages : List String) (field : String) :
    List.lookup field ((key, messages) :: entries)
      = if field = key then some messages else entries.lookup field := by
  rw [List.lookup_cons]
  by_cases h : field = key
  · rw [if_pos h, beq_iff_eq.mpr h]
  · rw [if_neg h, beq_eq_false_iff_ne.mpr h]

theorem lookup_eq_some_iff_mem (h : entries.Pairwise (·.1 < ·.1)) {messages : List String} :
    entries.lookup field = some messages ↔ (field, messages) ∈ entries := by
  induction entries with
  | nil => simp
  | cons head rest ih =>
    obtain ⟨key, old⟩ := head
    obtain ⟨hhead, hrest⟩ := List.pairwise_cons.mp h
    rw [lookup_cons_eq, List.mem_cons, Prod.mk.injEq, ← ih hrest]
    by_cases hkey : field = key
    · have hnone : rest.lookup field = none := lookup_eq_none_of_lt (by rw [hkey]; exact hhead)
      rw [if_pos hkey, hnone]
      simp [hkey, eq_comm]
    · simp [hkey]

/-- A message comes after those of its field, and other fields keep theirs. -/
theorem lookup_insert (h : entries.Pairwise (·.1 < ·.1)) (field message other : String) :
    (insert field message entries).lookup other
      = if other = field then extended (entries.lookup field) [message]
        else entries.lookup other := by
  induction entries with
  | nil =>
    rw [insert, lookup_cons_eq]
    rfl
  | cons head rest ih =>
    obtain ⟨key, messages⟩ := head
    obtain ⟨hhead, hrest⟩ := List.pairwise_cons.mp h
    rw [insert]
    split
    · next hless =>
      have hnone : List.lookup field ((key, messages) :: rest) = none := by
        apply lookup_eq_none_of_lt
        intro entry hentry
        rcases List.mem_cons.mp hentry with rfl | hlater
        · exact hless
        · exact String.lt_trans hless (hhead entry hlater)
      rw [lookup_cons_eq, hnone]
      rfl
    · next hnot =>
      split
      · next hsame =>
        subst hsame
        simp only [lookup_cons_eq]
        by_cases hother : other = field <;> simp [hother, extended]
      · next hne =>
        simp only [lookup_cons_eq, ih hrest, if_neg hne]
        by_cases hother : other = key
        · rw [if_pos hother, if_neg (by rw [hother]; exact Ne.symm hne), if_pos hother]
        · rw [if_neg hother, if_neg hother]

/-! ### Messages -/

theorem sorted_empty : empty.Sorted :=
  List.Pairwise.nil

theorem Sorted.add (h : errors.Sorted) (field message : String) :
    (errors.add field message).Sorted :=
  pairwise_insert h field message

theorem get?_add (h : errors.Sorted) (field message other : String) :
    (errors.add field message).get? other
      = if other = field then extended (errors.get? field) [message] else errors.get? other :=
  lookup_insert h field message other

/-- Recording texts one after the other extends the messages of each field. -/
theorem get?_foldl_add (h : errors.Sorted) (found : List Finding) (field : String) :
    (found.foldl (fun e f => e.add f.field f.text) errors).Sorted ∧
      (found.foldl (fun e f => e.add f.field f.text) errors).get? field
        = extended (errors.get? field) (Finding.messagesOn found field) := by
  induction found generalizing errors with
  | nil => exact ⟨h, rfl⟩
  | cons f rest ih =>
    obtain ⟨hsorted, hget⟩ := ih (h.add f.field f.text)
    refine ⟨hsorted, ?_⟩
    rw [List.foldl_cons, hget, get?_add h]
    unfold Finding.messagesOn
    by_cases hfield : f.field = field
    · rw [if_pos hfield.symm, hfield, extended_extended, List.filter_cons_of_pos (by simpa using hfield)]
      rfl
    · rw [if_neg (Ne.symm hfield), List.filter_cons_of_neg (by simpa using hfield)]

theorem Sorted.merge (h : errors.Sorted) (found : List Finding) : (errors.merge found).Sorted :=
  (get?_foldl_add h _ "").1

/-- Findings count for fields that had no message. -/
theorem get?_merge (h : errors.Sorted) (found : List Finding) (field : String) :
    (errors.merge found).get? field
      = (errors.get? field).or (extended none (Finding.messagesOn found field)) := by
  have hmerge : (errors.merge found).get? field = extended (errors.get? field)
      (Finding.messagesOn (found.filter fun f => !errors.has f.field) field) :=
    (get?_foldl_add h _ field).2
  rw [hmerge, Finding.messagesOn, List.filter_filter]
  cases hget : errors.get? field with
  | some messages =>
    -- All findings about the field are left out.
    have hnone : found.filter (fun f => decide (f.field = field) && !errors.has f.field) = [] := by
      rw [List.filter_eq_nil_iff]
      intro f _ hkept
      simp only [Bool.and_eq_true, decide_eq_true_eq, Bool.not_eq_true'] at hkept
      obtain ⟨hfield, hhas⟩ := hkept
      rw [hfield, has, hget] at hhas
      simp at hhas
    rw [hnone]
    rfl
  | none =>
    have hall : found.filter (fun f => decide (f.field = field) && !errors.has f.field)
        = found.filter (·.field = field) := by
      apply List.filter_congr
      intro f _
      by_cases hfield : f.field = field
      · simp [hfield, has, hget]
      · simp [hfield]
    rw [hall]
    rfl

/-- The messages are determined by what is found under each field. -/
theorem ext_of_sorted (h : errors.Sorted) (h' : errors'.Sorted)
    (hget : ∀ field, errors.get? field = errors'.get? field) : errors = errors' := by
  have hnodup : ∀ {entries : List (String × List String)}, entries.Pairwise (·.1 < ·.1) →
      entries.Nodup := by
    intro entries hsorted
    refine hsorted.imp ?_
    rintro a b hless rfl
    exact String.lt_irrefl _ hless
  have hperm : errors.entries.Perm errors'.entries := by
    rw [List.perm_ext_iff_of_nodup (hnodup h) (hnodup h')]
    rintro ⟨field, messages⟩
    rw [← lookup_eq_some_iff_mem h, ← lookup_eq_some_iff_mem h']
    exact iff_of_eq (congrArg (· = some messages) (hget field))
  have hentries : errors.entries = errors'.entries := by
    refine hperm.eq_of_pairwise ?_ h h'
    intro a b _ _ hless hgreater
    exact absurd hgreater (String.lt_asymm hless)
  cases errors
  cases errors'
  exact congrArg FormErrors.mk hentries

/-- Only the messages about each field matter. -/
theorem merge_congr (h : errors.Sorted)
    (hsame : ∀ field, Finding.messagesOn found field = Finding.messagesOn found' field) :
    errors.merge found = errors.merge found' := by
  apply ext_of_sorted (h.merge found) (h.merge found')
  intro field
  rw [get?_merge h, get?_merge h, hsame]

/-- Findings about different fields may come in any order. -/
theorem merge_perm (h : errors.Sorted) (hperm : found.Perm found')
    (hfields : (found.map (·.field)).Nodup) : errors.merge found = errors.merge found' := by
  apply merge_congr h
  intro field
  have hperm' := hperm.filter (fun f => decide (f.field = field))
  -- There is at most one finding about each field.
  have hsame : found.filter (·.field = field) = found'.filter (·.field = field) := by
    cases hfilter : found.filter (·.field = field) with
    | nil =>
      rw [hfilter] at hperm'
      exact (List.nil_perm.mp hperm').symm
    | cons f rest =>
      cases rest with
      | nil =>
        rw [hfilter] at hperm'
        exact (List.singleton_perm.mp hperm')
      | cons g rest =>
        have hnodup : ((f :: g :: rest).map (·.field)).Nodup := by
          rw [← hfilter]
          exact hfields.sublist (List.filter_sublist.map _)
        have hon : ∀ x ∈ f :: g :: rest, x.field = field := by
          intro x hx
          rw [← hfilter] at hx
          simpa using (List.mem_filter.mp hx).2
        have hf := hon f (by simp)
        have hg := hon g (by simp)
        simp [hf, hg] at hnodup
  rw [Finding.messagesOn, hsame]
  rfl

/-- Findings about different fields may be merged one after the other. -/
theorem merge_append (h : errors.Sorted)
    (hfields : ∀ f ∈ found, ∀ g ∈ found', f.field ≠ g.field) :
    errors.merge (found ++ found') = (errors.merge found).merge found' := by
  apply ext_of_sorted (h.merge _) ((h.merge found).merge found')
  intro field
  rw [get?_merge h, get?_merge (h.merge found), get?_merge h, Option.or_assoc,
    Finding.messagesOn_append]
  congr 1
  -- One of the two lists has nothing about the field.
  by_cases hnone : Finding.messagesOn found field = []
  · simp [hnone]
  · have hnone' : Finding.messagesOn found' field = [] := by
      obtain ⟨f, hf, hfield⟩ := Finding.exists_of_messagesOn_ne_nil hnone
      apply Finding.messagesOn_eq_nil
      intro g hg hsame
      exact hfields f hf g hg (hfield.trans hsame.symm)
    simp [hnone', extended, hnone]

/-! ### Checks that count if nothing was said before -/

/-- Record the message of a check that fails, unless something was said about the field before. -/
def note (errors : FormErrors) (field : String) (check : Check) : FormErrors :=
  if !errors.has field && check.fails then errors.add field check.message else errors

theorem Sorted.note (h : errors.Sorted) (field : String) (check : Check) :
    (errors.note field check).Sorted := by
  unfold FormErrors.note
  split
  · exact h.add field check.message
  · exact h

theorem get?_note (h : errors.Sorted) (field : String) (check : Check) (other : String) :
    (errors.note field check).get? other
      = (errors.get? other).or
        (if field = other ∧ check.fails = true then some [check.message] else none) := by
  unfold FormErrors.note has
  by_cases hfails : check.fails = true
  · cases hget : errors.get? field with
    | some messages =>
      by_cases hother : field = other
      · simp [← hother, hget]
      · simp [hother]
    | none =>
      rw [if_pos (by simp [hfails]), get?_add h, hget]
      by_cases hother : field = other
      · simp [← hother, hfails, hget, extended]
      · simp [Ne.symm hother, hother]
  · simp [hfails]

/-- Make checks one after the other. -/
def noteAll (errors : FormErrors) (notes : List (String × Check)) : FormErrors :=
  notes.foldl (fun e n => e.note n.1 n.2) errors

theorem noteAll_nil (errors : FormErrors) : errors.noteAll [] = errors := rfl

theorem noteAll_cons (errors : FormErrors) (n : String × Check) (notes : List (String × Check)) :
    errors.noteAll (n :: notes) = (errors.note n.1 n.2).noteAll notes := rfl

theorem noteAll_append (errors : FormErrors) (notes more : List (String × Check)) :
    errors.noteAll (notes ++ more) = (errors.noteAll notes).noteAll more :=
  List.foldl_append

theorem Sorted.noteAll (h : errors.Sorted) (notes : List (String × Check)) :
    (errors.noteAll notes).Sorted := by
  induction notes generalizing errors with
  | nil => exact h
  | cons n rest ih => exact ih (h.note n.1 n.2)

/-- The first thing that is said about a field is that it is required, if it is blank. -/
theorem require_eq_note (h : errors.get? field = none) (value : String) :
    errors.require field value = errors.note field (.filled value) := by
  unfold FormErrors.require note has
  rw [h]
  rfl

/-- To require several fields is to check them one after the other. -/
theorem foldl_require_eq_noteAll (h : errors.Sorted) {values : List (String × String)}
    (hnone : ∀ p ∈ values, errors.get? p.1 = none) (hfields : (values.map (·.1)).Nodup) :
    values.foldl (fun e p => e.require p.1 p.2) errors
      = errors.noteAll (values.map fun p => (p.1, .filled p.2)) := by
  induction values generalizing errors with
  | nil => rfl
  | cons p rest ih =>
    obtain ⟨hother, hrest⟩ := List.nodup_cons.mp hfields
    rw [List.foldl_cons, List.map_cons, noteAll_cons,
      require_eq_note (hnone p List.mem_cons_self)]
    apply ih (h.note _ _) _ hrest
    intro q hq
    have hne : p.1 ≠ q.1 := fun hsame => hother (List.mem_map.mpr ⟨q, hq, hsame.symm⟩)
    rw [get?_note h, hnone q (List.mem_cons_of_mem _ hq)]
    simp [hne]

/-- A single finding is a check. -/
theorem merge_eq_note (errors : FormErrors) (field code : String) (check : Check) :
    errors.merge (check.findings field code) = errors.note field check := by
  unfold merge note Check.findings
  by_cases hfails : check.fails = true
  · cases hhas : errors.has field <;> simp [hfails, hhas, Finding.text]
  · simp [hfails]

/-- To merge findings about different fields is to check them one after the other. -/
theorem merge_eq_noteAll (h : errors.Sorted) {reports : List (String × String × Check)}
    (hfields : (reports.map (·.1)).Nodup) :
    errors.merge (reports.flatMap fun r => r.2.2.findings r.1 r.2.1)
      = errors.noteAll (reports.map fun r => (r.1, r.2.2)) := by
  induction reports generalizing errors with
  | nil => rfl
  | cons r rest ih =>
    obtain ⟨hother, hrest⟩ := List.nodup_cons.mp hfields
    rw [List.flatMap_cons, merge_append h, merge_eq_note, ih (h.note _ _) hrest]
    · rfl
    · intro f hf g hg hsame
      obtain ⟨r', hr', hg⟩ := List.mem_flatMap.mp hg
      rw [Check.field_of_mem_findings hf, Check.field_of_mem_findings hg] at hsame
      exact hother (List.mem_map.mpr ⟨r', hr', hsame.symm⟩)

/-- After checks one after the other, every field has the message of its first check that fails,
unless something was said about it before. -/
theorem get?_noteAll (h : errors.Sorted) (notes : List (String × Check)) (field : String) :
    (errors.noteAll notes).get? field
      = (errors.get? field).or
        ((Check.firstMessage? ((notes.filter (·.1 = field)).map (·.2))).map ([·])) := by
  induction notes generalizing errors with
  | nil => simp [noteAll, Check.firstMessage?]
  | cons n rest ih =>
    rw [noteAll_cons, ih (h.note n.1 n.2), get?_note h, Option.or_assoc]
    congr 1
    by_cases hfield : n.1 = field
    · rw [List.filter_cons_of_pos (by simpa using hfield), List.map_cons]
      cases hfails : n.2.fails <;> simp [hfield, hfails, Check.firstMessage?]
    · rw [List.filter_cons_of_neg (by simpa using hfield)]
      simp [hfield]

/-- One message for every field with a check that fails. -/
def firstMessages (fields : List String) (checks : String → List Check) : FormErrors where
  entries := fields.filterMap fun field =>
    (Check.firstMessage? (checks field)).map fun message => (field, [message])

theorem sorted_firstMessages {fields : List String} (h : fields.Pairwise (· < ·))
    (checks : String → List Check) : (firstMessages fields checks).Sorted := by
  refine List.pairwise_filterMap.mpr (h.imp ?_)
  intro a b hless x hx y hy
  obtain ⟨_, -, rfl⟩ := Option.map_eq_some_iff.mp hx
  obtain ⟨_, -, rfl⟩ := Option.map_eq_some_iff.mp hy
  exact hless

theorem get?_firstMessages (fields : List String) (checks : String → List Check)
    (field : String) :
    (firstMessages fields checks).get? field
      = if field ∈ fields then (Check.firstMessage? (checks field)).map ([·]) else none := by
  unfold get? firstMessages
  dsimp only
  induction fields with
  | nil => rfl
  | cons name rest ih =>
    cases hmessage : Check.firstMessage? (checks name) with
    | none =>
      rw [List.filterMap_cons_none (by rw [hmessage]; rfl), ih]
      by_cases hname : field = name
      · simp [hname, hmessage]
      · simp [hname]
    | some message =>
      rw [List.filterMap_cons_some (by rw [hmessage]; rfl), lookup_cons_eq, ih]
      by_cases hname : field = name
      · simp [hname, hmessage]
      · simp [hname]

theorem isEmpty_firstMessages_iff (fields : List String) (checks : String → List Check) :
    (firstMessages fields checks).isEmpty = true ↔
      ∀ field ∈ fields, Check.firstMessage? (checks field) = none := by
  unfold isEmpty firstMessages
  rw [List.isEmpty_iff, List.filterMap_eq_nil_iff]
  simp

/-- Checks one after the other give the messages of the first ones that fail. -/
theorem noteAll_eq_firstMessages {fields : List String} {checks : String → List Check}
    {notes : List (String × Check)} (hfields : fields.Pairwise (· < ·))
    (hchecks : ∀ field, (notes.filter (·.1 = field)).map (·.2)
      = if field ∈ fields then checks field else []) :
    empty.noteAll notes = firstMessages fields checks := by
  apply ext_of_sorted (sorted_empty.noteAll notes) (sorted_firstMessages hfields checks)
  intro field
  rw [get?_noteAll sorted_empty, hchecks, get?_firstMessages]
  split
  · rfl
  · rfl

end FormErrors

end CookieAuth
