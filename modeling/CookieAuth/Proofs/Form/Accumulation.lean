import CookieAuth.Failure
import CookieAuth.Proofs.Form.Errors

/-!
# How messages about a form add up

Messages are recorded one by one, for blank fields, and from what checks report.  Checks report
their complaints by field, in no particular order of the fields, and the complaints about a field
are recorded only if nothing was said about it before.  Whether something was said is looked up in
the messages that are being extended, so this file says why the order does not matter: different
fields do not get in each other's way.

A log of all messages, in the order in which they were recorded, tells what is found in the end:
under each field the messages of the log about it, and nothing under a field without any.

## Main definitions

* `Complaint`, `Remarks`, `FormReport`: what checks report about a form and the forms in it;
* `FormErrors.mergeAlong`: recording complaints, one field after the other;
* `Recording`, `FormErrors.after`, `Recording.logAfter`: recording one thing after the other, and
  the log of it;
* `FormErrors.Keeps`: what is found is what stands in a log.

## Main results

* `FormErrors.mergeAlong_eq_merge`: going through the fields is recording all findings at once;
* `FormErrors.mergeAlong_of_perm`, `FormErrors.merge_merge`: neither the order of the fields nor
  recording the same findings again makes a difference;
* `FormErrors.keeps_record`, `FormErrors.keeps_after`: the log is kept by every step and after all
  of them;
* `FormErrors.messages_accumulate`: all of this together.
-/

namespace CookieAuth

open Text

/-! ### What checks report -/

/-- What a check says about a field: a code, and a message unless the code says it all. -/
structure Complaint where
  /-- What kind of check failed. -/
  code : String
  /-- The message. -/
  message : Option String := none

/-- The message of a complaint. -/
def Complaint.text (complaint : Complaint) : String :=
  complaint.message.getD complaint.code

/-- The complaint as a finding about a field. -/
def Complaint.on (complaint : Complaint) (field : String) : Finding where
  field := field
  code := complaint.code
  message := complaint.message

/-- What checks report under a name of a form. -/
inductive Remarks where
  /-- Complaints about the field of that name. -/
  | field (complaints : List Complaint)
  /-- What is reported about a form that stands there. -/
  | form (inner : List (String × Remarks))
  /-- What is reported about the forms of a list, by their places. -/
  | forms (inner : List (Nat × List (String × Remarks)))

/-- All that checks report about a form, in one of the orders of its names. -/
structure FormReport where
  /-- What is reported under each name. -/
  entries : List (String × Remarks)
  /-- No name occurs twice. -/
  nodup : (entries.map Prod.fst).Nodup

namespace FormReport

variable {report : FormReport} {field : String} {complaints : List Complaint}

/-- The complaints under a name, if they are about a field. -/
def complaints? : String × Remarks → Option (String × List Complaint)
  | (name, .field complaints) => some (name, complaints)
  | (_, .form _) => none
  | (_, .forms _) => none

/-- The complaints about the fields of the form itself. -/
def byField (report : FormReport) : List (String × List Complaint) :=
  report.entries.filterMap complaints?

theorem complaints?_eq_some_iff {entry : String × Remarks} :
    complaints? entry = some (field, complaints) ↔ entry = (field, .field complaints) := by
  obtain ⟨name, remarks⟩ := entry
  cases remarks <;> simp [complaints?]

theorem mem_byField_iff :
    (field, complaints) ∈ report.byField ↔ (field, .field complaints) ∈ report.entries := by
  unfold byField
  simp only [List.mem_filterMap, complaints?_eq_some_iff, exists_eq_right]

theorem nodup_byField (report : FormReport) : (report.byField.map Prod.fst).Nodup := by
  have hentries := List.pairwise_map.mp report.nodup
  refine List.pairwise_map.mpr (List.pairwise_filterMap.mpr (hentries.imp ?_))
  rintro entry entry' hne ⟨field, complaints⟩ hfield ⟨field', complaints'⟩ hfield'
  obtain rfl := complaints?_eq_some_iff.mp hfield
  obtain rfl := complaints?_eq_some_iff.mp hfield'
  exact hne

end FormReport

namespace Finding

/-- Complaints by field as findings, one field after the other. -/
def ofComplaints (order : List (String × List Complaint)) : List Finding :=
  order.flatMap fun entry => entry.2.map (·.on entry.1)

variable {order order' : List (String × List Complaint)} {field : String}
  {complaints : List Complaint}

theorem ofComplaints_cons (entry : String × List Complaint)
    (order : List (String × List Complaint)) :
    ofComplaints (entry :: order) = entry.2.map (·.on entry.1) ++ ofComplaints order := rfl

theorem field_of_mem_ofComplaints {f : Finding} (h : f ∈ ofComplaints order) :
    f.field ∈ order.map Prod.fst := by
  obtain ⟨entry, hentry, hf⟩ := List.mem_flatMap.mp h
  obtain ⟨complaint, -, rfl⟩ := List.mem_map.mp hf
  exact List.mem_map.mpr ⟨entry, hentry, rfl⟩

theorem messagesOn_ofComplaints_eq_nil (h : field ∉ order.map Prod.fst) :
    messagesOn (ofComplaints order) field = [] := by
  apply messagesOn_eq_nil
  rintro f hf rfl
  exact h (field_of_mem_ofComplaints hf)

theorem messagesOn_map_on (complaints : List Complaint) (field : String) :
    messagesOn (complaints.map (·.on field)) field = complaints.map Complaint.text := by
  have hall : (complaints.map (·.on field)).filter (·.field = field)
      = complaints.map (·.on field) := by
    rw [List.filter_eq_self]
    intro f hf
    obtain ⟨complaint, -, rfl⟩ := List.mem_map.mp hf
    exact decide_eq_true rfl
  rw [messagesOn, hall, List.map_map]
  rfl

/-- The messages about a field are those of its complaints. -/
theorem messagesOn_ofComplaints (hfields : (order.map Prod.fst).Nodup)
    (h : (field, complaints) ∈ order) :
    messagesOn (ofComplaints order) field = complaints.map Complaint.text := by
  induction order with
  | nil => simp at h
  | cons entry rest ih =>
    obtain ⟨hother, hrest⟩ := List.nodup_cons.mp hfields
    rw [ofComplaints_cons, messagesOn_append]
    rcases List.mem_cons.mp h with rfl | hlater
    · rw [messagesOn_map_on, messagesOn_ofComplaints_eq_nil hother, List.append_nil]
    · have hnone : messagesOn (entry.2.map (·.on entry.1)) field = [] := by
        apply messagesOn_eq_nil
        intro f hf hfield
        obtain ⟨complaint, -, rfl⟩ := List.mem_map.mp hf
        exact hother (List.mem_map.mpr ⟨_, hlater, hfield.symm⟩)
      rw [hnone, List.nil_append, ih hrest hlater]

/-- The order of the fields does not matter to the messages about one of them. -/
theorem messagesOn_ofComplaints_perm (hfields : (order.map Prod.fst).Nodup)
    (hperm : order.Perm order') (field : String) :
    messagesOn (ofComplaints order) field = messagesOn (ofComplaints order') field := by
  by_cases hfield : field ∈ order.map Prod.fst
  · obtain ⟨⟨name, complaints⟩, hmem, rfl⟩ := List.mem_map.mp hfield
    rw [messagesOn_ofComplaints hfields hmem,
      messagesOn_ofComplaints ((hperm.map _).nodup hfields) (hperm.mem_iff.mp hmem)]
  · have hfield' : field ∉ order'.map Prod.fst := by rwa [← (hperm.map Prod.fst).mem_iff]
    rw [messagesOn_ofComplaints_eq_nil hfield, messagesOn_ofComplaints_eq_nil hfield']

end Finding

namespace FormReport

variable {report : FormReport} {field : String} {complaints : List Complaint}

/-- The findings about the fields of the form itself, in one of the orders of the fields. -/
def findings (report : FormReport) : List Finding :=
  Finding.ofComplaints report.byField

theorem messagesOn_findings (h : (field, .field complaints) ∈ report.entries) :
    Finding.messagesOn report.findings field = complaints.map Complaint.text :=
  Finding.messagesOn_ofComplaints report.nodup_byField (mem_byField_iff.mpr h)

/-- Only complaints about a field give messages about it. -/
theorem exists_of_messagesOn_findings (h : Finding.messagesOn report.findings field ≠ []) :
    ∃ complaints, (field, .field complaints) ∈ report.entries ∧ complaints ≠ [] := by
  obtain ⟨f, hf, rfl⟩ := Finding.exists_of_messagesOn_ne_nil h
  obtain ⟨⟨name, complaints⟩, hmem, hname⟩ :=
    List.mem_map.mp (Finding.field_of_mem_ofComplaints hf)
  have hentry : (f.field, .field complaints) ∈ report.entries := by
    rw [← hname]
    exact mem_byField_iff.mp hmem
  refine ⟨complaints, hentry, ?_⟩
  rintro rfl
  exact h (messagesOn_findings hentry)

end FormReport

/-! ### One field after the other -/

namespace FormErrors

variable {errors : FormErrors} {order : List (String × List Complaint)}

/-- Record the complaints about a field, unless there are messages about it. -/
def mergeField (errors : FormErrors) (entry : String × List Complaint) : FormErrors :=
  if errors.has entry.1 then errors
  else entry.2.foldl (fun e complaint => e.add entry.1 complaint.text) errors

/-- Record the complaints about one field after the other. -/
def mergeAlong (errors : FormErrors) (order : List (String × List Complaint)) : FormErrors :=
  order.foldl mergeField errors

theorem mergeField_eq_merge (errors : FormErrors) (entry : String × List Complaint) :
    errors.mergeField entry = errors.merge (entry.2.map (·.on entry.1)) := by
  unfold mergeField merge
  rw [List.filter_map]
  cases hhas : errors.has entry.1 with
  | true =>
    have hnone : entry.2.filter ((fun f => !errors.has f.field) ∘ (·.on entry.1)) = [] := by
      rw [List.filter_eq_nil_iff]
      intro complaint _
      simp [Complaint.on, hhas]
    rw [if_pos rfl, hnone]
    rfl
  | false =>
    have hall : entry.2.filter ((fun f => !errors.has f.field) ∘ (·.on entry.1)) = entry.2 := by
      rw [List.filter_eq_self]
      intro complaint _
      simp [Complaint.on, hhas]
    rw [if_neg (by simp), hall, List.foldl_map]
    rfl

/-- Going through the fields is recording all findings at once. -/
theorem mergeAlong_eq_merge (h : errors.Sorted) (hfields : (order.map Prod.fst).Nodup) :
    errors.mergeAlong order = errors.merge (Finding.ofComplaints order) := by
  induction order generalizing errors with
  | nil => rfl
  | cons entry rest ih =>
    obtain ⟨hother, hrest⟩ := List.nodup_cons.mp hfields
    have hstep : errors.mergeAlong (entry :: rest)
        = (errors.mergeField entry).mergeAlong rest := rfl
    rw [hstep, mergeField_eq_merge, ih (h.merge _) hrest, Finding.ofComplaints_cons, merge_append h]
    -- The entry is about another field than all that follow.
    intro f hf g hg hsame
    obtain ⟨complaint, -, rfl⟩ := List.mem_map.mp hf
    have hfield := Finding.field_of_mem_ofComplaints hg
    rw [← hsame] at hfield
    exact hother hfield

/-- Findings that were recorded already change nothing. -/
theorem merge_merge (h : errors.Sorted) (found : List Finding) :
    (errors.merge found).merge found = errors.merge found := by
  apply ext_of_sorted ((h.merge found).merge found) (h.merge found)
  intro field
  -- What is found first counts, and nothing new is found the second time.
  rw [get?_merge (h.merge found), get?_merge h, Option.or_assoc, Option.or_self]

/-- A report is taken up in the same way along all orders of its fields. -/
theorem mergeAlong_of_perm (h : errors.Sorted) {report : FormReport}
    (hperm : order.Perm report.byField) :
    errors.mergeAlong order = errors.merge report.findings := by
  have hfields := (hperm.map Prod.fst).nodup_iff.mpr report.nodup_byField
  rw [mergeAlong_eq_merge h hfields]
  exact merge_congr h (Finding.messagesOn_ofComplaints_perm hfields hperm)

end FormErrors

/-! ### One recording after the other -/

/-- A way of recording messages. -/
inductive Recording where
  /-- A message about a field. -/
  | add (field message : String)
  /-- A field is required. -/
  | require (field value : String)
  /-- What checks found counts for fields without messages. -/
  | merge (found : List Finding)

/-- The messages about a field in a log of fields and messages, in its order. -/
def messagesIn (log : List (String × String)) (field : String) : List String :=
  (log.filter (·.1 = field)).map Prod.snd

namespace Recording

/-- What is recorded after a log. -/
def recorded (log : List (String × String)) : Recording → List (String × String)
  | .add field message => [(field, message)]
  | .require field value => if isBlankText value then [(field, FormErrors.required)] else []
  | .merge found =>
    (found.filter fun f => f.field ∉ log.map Prod.fst).map fun f => (f.field, f.text)

/-- The log after recording one thing after the other, starting with a message about the form as a
whole or with none. -/
def logAfter (start : Option String) (steps : List Recording) : List (String × String) :=
  steps.foldl (fun log step => log ++ step.recorded log)
    (start.toList.map (FormErrors.wholeForm, ·))

end Recording

section Log

variable {log : List (String × String)} {field : String}

theorem messagesIn_append (log log' : List (String × String)) (field : String) :
    messagesIn (log ++ log') field = messagesIn log field ++ messagesIn log' field := by
  simp [messagesIn]

theorem messagesIn_singleton (field message other : String) :
    messagesIn [(field, message)] other = if other = field then [message] else [] := by
  unfold messagesIn
  by_cases hother : other = field
  · simp [hother]
  · simp [hother, Ne.symm hother]

theorem messagesIn_eq_nil_iff : messagesIn log field = [] ↔ field ∉ log.map Prod.fst := by
  unfold messagesIn
  rw [List.map_eq_nil_iff, List.filter_eq_nil_iff]
  simp only [List.mem_map, not_exists, not_and, decide_eq_true_eq]

theorem eq_nil_of_messagesIn (h : ∀ field, messagesIn log field = []) : log = [] := by
  cases log with
  | nil => rfl
  | cons entry rest => exact absurd List.mem_cons_self (messagesIn_eq_nil_iff.mp (h entry.1))

/-- Of what checks found, the messages about a field count if the log has none. -/
theorem messagesIn_recorded_merge (log : List (String × String)) (found : List Finding)
    (field : String) :
    messagesIn (Recording.recorded log (.merge found)) field
      = if messagesIn log field = [] then Finding.messagesOn found field else [] := by
  have hrecorded : messagesIn (Recording.recorded log (.merge found)) field
      = (found.filter fun f => decide (f.field = field) && decide (f.field ∉ log.map Prod.fst)).map
        Finding.text := by
    simp only [messagesIn, Recording.recorded, List.filter_map, List.filter_filter, List.map_map]
    rfl
  rw [hrecorded]
  split
  · next hlog =>
    -- All findings about the field count.
    have hnew := messagesIn_eq_nil_iff.mp hlog
    rw [Finding.messagesOn]
    congr 1
    apply List.filter_congr
    intro f _
    by_cases hfield : f.field = field
    · simp only [hfield, hnew, not_false_eq_true, decide_true, Bool.and_true]
    · simp only [hfield, decide_false, Bool.false_and]
  · next hlog =>
    have hold : field ∈ log.map Prod.fst := by
      apply Decidable.byContradiction
      intro hnew
      exact hlog (messagesIn_eq_nil_iff.mpr hnew)
    rw [List.map_eq_nil_iff, List.filter_eq_nil_iff]
    intro f _ hcounts
    rw [Bool.and_eq_true, decide_eq_true_eq, decide_eq_true_eq] at hcounts
    obtain ⟨rfl, hnew⟩ := hcounts
    exact hnew hold

end Log

namespace FormErrors

variable {errors : FormErrors} {log : List (String × String)}

/-- What is found at the start: a message about the form as a whole, or nothing. -/
def start : Option String → FormErrors
  | none => empty
  | some message => nonField message

/-- Record something. -/
def record (errors : FormErrors) : Recording → FormErrors
  | .add field message => errors.add field message
  | .require field value => errors.require field value
  | .merge found => errors.merge found

/-- The messages after recording one thing after the other. -/
def after (first : Option String) (steps : List Recording) : FormErrors :=
  steps.foldl record (start first)

/-- What is found under a field are the messages of a log about it, if there are any. -/
structure Keeps (errors : FormErrors) (log : List (String × String)) : Prop where
  /-- The fields stand in increasing order. -/
  sorted : errors.Sorted
  /-- The messages are those of the log. -/
  get?_eq : ∀ field, errors.get? field = extended none (messagesIn log field)

theorem keeps_empty : empty.Keeps [] :=
  ⟨sorted_empty, fun _ => rfl⟩

theorem Keeps.get?_eq_none_iff (h : errors.Keeps log) {field : String} :
    errors.get? field = none ↔ messagesIn log field = [] := by
  rw [h.get?_eq, extended]
  split
  · next hnone => simp [hnone]
  · next hsome => simp [hsome]

theorem Keeps.add (h : errors.Keeps log) (field message : String) :
    (errors.add field message).Keeps (log ++ [(field, message)]) where
  sorted := h.sorted.add field message
  get?_eq other := by
    rw [get?_add h.sorted, messagesIn_append, messagesIn_singleton, ← extended_extended,
      ← h.get?_eq]
    split
    · next hother => rw [hother]
    · rfl

theorem Keeps.require (h : errors.Keeps log) (field value : String) :
    (errors.require field value).Keeps (log ++ Recording.recorded log (.require field value)) := by
  by_cases hblank : isBlankText value = true
  · simpa only [FormErrors.require, Recording.recorded, if_pos hblank] using h.add field required
  · simpa only [FormErrors.require, Recording.recorded, if_neg hblank, List.append_nil] using h

theorem Keeps.merge (h : errors.Keeps log) (found : List Finding) :
    (errors.merge found).Keeps (log ++ Recording.recorded log (.merge found)) where
  sorted := h.sorted.merge found
  get?_eq field := by
    rw [get?_merge h.sorted, messagesIn_append, messagesIn_recorded_merge, ← extended_extended,
      ← h.get?_eq]
    split
    · next hlog => rw [h.get?_eq_none_iff.mpr hlog, Option.none_or]
    · next hlog =>
      -- The field has messages, and the log gets no others about it.
      obtain ⟨messages, hget⟩ := Option.ne_none_iff_exists'.mp (mt h.get?_eq_none_iff.mp hlog)
      rw [hget, Option.some_or, extended_nil]

theorem keeps_start (first : Option String) :
    (start first).Keeps (first.toList.map (wholeForm, ·)) := by
  cases first with
  | none => exact keeps_empty
  | some message => exact keeps_empty.add wholeForm message

/-- Every recording adds to the log what it records. -/
theorem keeps_record (h : errors.Keeps log) (step : Recording) :
    (errors.record step).Keeps (log ++ step.recorded log) := by
  cases step with
  | add field message => exact h.add field message
  | require field value => exact h.require field value
  | merge found => exact h.merge found

theorem keeps_after (first : Option String) (steps : List Recording) :
    (after first steps).Keeps (Recording.logAfter first steps) := by
  -- By induction on the steps, whatever was recorded before.
  suffices hfold : ∀ {errors : FormErrors} {log : List (String × String)}, errors.Keeps log →
      (steps.foldl record errors).Keeps
        (steps.foldl (fun log step => log ++ step.recorded log) log) from hfold (keeps_start first)
  induction steps with
  | nil => exact id
  | cons step rest ih => exact fun h => ih (keeps_record h step)

/-- No field stands there without a message. -/
theorem Keeps.ne_nil (h : errors.Keeps log) {entry : String × List String}
    (hentry : entry ∈ errors.entries) : entry.2 ≠ [] := by
  obtain ⟨field, messages⟩ := entry
  have hget : errors.get? field = some messages := (lookup_eq_some_iff_mem h.sorted).mpr hentry
  rw [h.get?_eq, extended] at hget
  split at hget
  · simp at hget
  · next hne =>
    rintro rfl
    simp_all

/-- There are no messages exactly if nothing was recorded. -/
theorem Keeps.isEmpty_iff (h : errors.Keeps log) : errors.isEmpty = true ↔ log = [] := by
  rw [isEmpty, List.isEmpty_iff]
  constructor
  · intro hempty
    apply eq_nil_of_messagesIn
    intro field
    rw [← h.get?_eq_none_iff, get?, hempty]
    rfl
  · rintro rfl
    cases hentries : errors.entries with
    | nil => rfl
    | cons entry rest =>
      -- The first field would have messages.
      have hnone : errors.get? entry.1 = none := h.get?_eq_none_iff.mpr rfl
      rw [get?, hentries, lookup_cons_eq, if_pos rfl] at hnone
      simp at hnone

theorem check_eq_ok_iff : errors.check = .ok () ↔ errors.isEmpty = true := by
  unfold check
  split
  · next hempty => simp [hempty]
  · next hempty => simp [hempty]

/-! ### After a report -/

/-- How messages take up a report: fields with messages keep them, other fields get the messages of
the complaints about them, and nothing else is added. -/
structure TakesUp (errors : FormErrors) (report : FormReport) (merged : FormErrors) : Prop where
  /-- Fields with messages keep them. -/
  kept : ∀ field messages, errors.get? field = some messages → merged.get? field = some messages
  /-- Other fields get the messages of the complaints about them. -/
  reported : ∀ field complaints, errors.has field = false →
    (field, .field complaints) ∈ report.entries → complaints ≠ [] →
      merged.get? field = some (complaints.map Complaint.text)
  /-- Nothing else is added. -/
  added : ∀ field, merged.has field = true → errors.has field = true ∨
    ∃ complaints, (field, .field complaints) ∈ report.entries ∧ complaints ≠ []

theorem takesUp_merge (h : errors.Sorted) (report : FormReport) :
    errors.TakesUp report (errors.merge report.findings) where
  kept field messages hget := by
    rw [get?_merge h, hget, Option.some_or]
  reported field complaints hhas hmem hne := by
    have hnone : errors.get? field = none := by simpa [has] using hhas
    rw [get?_merge h, hnone, FormReport.messagesOn_findings hmem, Option.none_or]
    simp [extended, hne]
  added field hhas := by
    rw [has, get?_merge h, Option.isSome_or, Bool.or_eq_true] at hhas
    refine hhas.imp_right ?_
    intro hreported
    apply FormReport.exists_of_messagesOn_findings
    intro hnone
    rw [hnone] at hreported
    simp at hreported

/-- After any recordings, every field that stands there has a message, what is found under a field
are the messages that were recorded about it, in this order, and a check fails exactly if some
message was recorded.

What checks report is then taken up in whichever order its fields are gone through.  The result is
the same for all orders, and that of recording all findings at once.  Fields with messages keep
them, other fields get the messages of the complaints about them, and nothing else is added.  To
take up the same report once more, in any order, changes nothing. -/
theorem messages_accumulate (first : Option String) (steps : List Recording) :
    (∀ entry ∈ (after first steps).entries, entry.2 ≠ []) ∧
    (∀ field, (after first steps).get? field
      = if messagesIn (Recording.logAfter first steps) field = [] then none
        else some (messagesIn (Recording.logAfter first steps) field)) ∧
    ((after first steps).check = .ok () ↔ Recording.logAfter first steps = []) ∧
    (Recording.logAfter first steps ≠ [] →
      (after first steps).check = .error (.validation (after first steps))) ∧
    ∀ (report : FormReport) (order : List (String × List Complaint)), order.Perm report.byField →
      (after first steps).mergeAlong order
        = (after first steps).merge report.findings ∧
      (after first steps).TakesUp report ((after first steps).mergeAlong order) ∧
      ∀ order', order'.Perm report.byField →
        (after first steps).mergeAlong order' = (after first steps).mergeAlong order ∧
        ((after first steps).mergeAlong order).mergeAlong order'
          = (after first steps).mergeAlong order := by
  have hkeeps := keeps_after first steps
  generalize after first steps = errors at hkeeps ⊢
  generalize Recording.logAfter first steps = log at hkeeps ⊢
  refine ⟨fun entry => hkeeps.ne_nil, hkeeps.get?_eq, check_eq_ok_iff.trans hkeeps.isEmpty_iff,
    ?_, ?_⟩
  · intro hlog
    exact if_neg (mt hkeeps.isEmpty_iff.mp hlog)
  · intro report order hperm
    rw [mergeAlong_of_perm hkeeps.sorted hperm]
    refine ⟨rfl, takesUp_merge hkeeps.sorted report, ?_⟩
    intro order' hperm'
    rw [mergeAlong_of_perm hkeeps.sorted hperm',
      mergeAlong_of_perm (hkeeps.sorted.merge _) hperm', merge_merge hkeeps.sorted]
    exact ⟨rfl, rfl⟩

end FormErrors

namespace Sample

/-- A form was turned down as a whole, and its address is blank. -/
def blankAddress : List Recording := [.require "email" " ", .require "name" "x"]

/-- Checks complain about the address, twice about the name and about a form inside, and have
nothing to say about the age. -/
def signUp : FormReport where
  entries := [("home", .form [("city", .field [⟨"length", none⟩])]),
    ("name", .field [⟨"length", some "too short"⟩, ⟨"letters", none⟩]),
    ("email", .field [⟨"email", some "bad email"⟩]), ("age", .field [])]
  nodup := by decide

end Sample

namespace FormErrors

open Sample

/-- Going backwards, the complaint about the blank address is left out, and both about the name are
recorded in their order. -/
theorem blank_address_reported_once :
    (after (some "no") blankAddress).mergeAlong signUp.byField.reverse
        = ⟨[("__all__", ["no"]), ("email", [required]), ("name", ["too short", "letters"])]⟩ ∧
      (after (some "no") blankAddress).TakesUp signUp
        ((after (some "no") blankAddress).mergeAlong signUp.byField.reverse) ∧
      (after (some "no") blankAddress).mergeAlong signUp.byField
        = (after (some "no") blankAddress).mergeAlong signUp.byField.reverse := by
  obtain ⟨-, -, -, -, hreports⟩ := messages_accumulate (some "no") blankAddress
  obtain ⟨-, htakesUp, horders⟩ := hreports signUp _ (List.reverse_perm _)
  exact ⟨by decide +kernel, htakesUp, (horders _ (List.Perm.refl _)).1⟩

end FormErrors

end CookieAuth
