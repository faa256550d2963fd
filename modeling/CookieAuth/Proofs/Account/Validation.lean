import CookieAuth.Proofs.Account.Interleaving
import CookieAuth.Proofs.Database.Collation
import CookieAuth.Proofs.Form.Errors

/-!
# One message for every field that is wrong

A registration form is checked in several passes: for blank fields, for the characters of the name,
for what is wrong with the fields by themselves, and against the users who are there.  A pass says
something about a field only if no earlier one did.  So each field gets the message of its first
check that fails, in whatever order the findings about the fields are reported.

## Main definitions

* `RegistrationForm.checks`: the checks of each field, in their order;
* `RegistrationForm.passes`: all checks, in the order in which they are made;
* `RegistrationForm.validateReporting`: the validation with findings that are reported in any order.

## Main results

* `RegistrationForm.errors_eq_firstMessages`: the passes give the messages of the first checks that
  fail;
* `RegistrationForm.validate_reports_first`: what the validation of a form gives;
* `RegistrationForm.taken_behind_zero_byte`: an address is reported as taken that nobody has.
-/

namespace CookieAuth

open Email Text

namespace RegistrationForm

/-- The checks of each field of a cleaned form, in the order in which they count. -/
def checks (db : Database) (form : RegistrationForm) (field : String) : List Check :=
  if field = "username" then
    [.filled form.username, ⟨!isValidUsername form.username, invalidUsername⟩,
      ⟨150 < form.username.length, longUsername⟩,
      ⟨db.users.any (·.username = form.username), duplicateUsername⟩]
  else if field = "email" then
    [.filled form.email, ⟨!isEmail form.email, invalidEmail⟩,
      ⟨db.users.any (sameIgnoringCase ·.email form.email), duplicateEmail⟩]
  else if field = "password1" then
    [.filled form.password1, ⟨form.password1.length < 8, shortPassword⟩]
  else if field = "password2" then
    [.filled form.password2, ⟨form.password1 != form.password2, passwordMismatch⟩]
  else []

/-- The fields in increasing order. -/
def sortedFields : List String := ["email", "password1", "password2", "username"]

/-- There are no checks of other fields. -/
theorem checks_of_not_mem (db : Database) (form : RegistrationForm) {field : String}
    (h : field ∉ sortedFields) : form.checks db field = [] := by
  simp only [sortedFields, List.mem_cons, List.not_mem_nil, or_false, not_or] at h
  simp [checks, h]

/-- The messages before the findings about the fields are merged. -/
def named (form : RegistrationForm) : FormErrors :=
  form.blanks.note "username" ⟨!isValidUsername form.username, invalidUsername⟩

/-- The validation of a form, of whose findings there is a report. -/
def validateReporting (db : Database) (form : RegistrationForm) (report : List Finding) :
    Except Failure NewAccount :=
  let form := form.cleaned
  match checkUsername db form (form.named.merge report) with
  | .error e => .error e
  | .ok errors =>
    match checkEmail db form errors with
    | .error e => .error e
    | .ok errors =>
      if errors.isEmpty then
        .ok { username := form.username, email := form.email, password := form.password1 }
      else .error (.validation errors)

variable {db : Database} {form : RegistrationForm}

/-! ### The passes -/

/-- The values of the fields. -/
def values (form : RegistrationForm) : List (String × String) :=
  [("username", form.username), ("email", form.email), ("password1", form.password1),
    ("password2", form.password2)]

/-- The checks of the fields by themselves, and the kind of each. -/
def reports (form : RegistrationForm) : List (String × String × Check) :=
  [("username", "length", ⟨150 < form.username.length, longUsername⟩),
    ("email", "email", ⟨!isEmail form.email, invalidEmail⟩),
    ("password1", "length", ⟨form.password1.length < 8, shortPassword⟩),
    ("password2", "must_match", ⟨form.password1 != form.password2, passwordMismatch⟩)]

/-- All checks of a cleaned form, in the order in which they are made. -/
def passes (db : Database) (form : RegistrationForm) : List (String × Check) :=
  (form.values.map fun p => (p.1, .filled p.2))
    ++ [("username", ⟨!isValidUsername form.username, invalidUsername⟩)]
    ++ (form.reports.map fun r => (r.1, r.2.2))
    ++ [("username", ⟨db.users.any (·.username = form.username), duplicateUsername⟩),
      ("email", ⟨db.users.any (sameIgnoringCase ·.email form.email), duplicateEmail⟩)]

/-- The checks of a field are made in their order. -/
theorem passes_on (db : Database) (form : RegistrationForm) (field : String) :
    ((form.passes db).filter (·.1 = field)).map (·.2)
      = if field ∈ sortedFields then form.checks db field else [] := by
  by_cases hfield : field ∈ sortedFields
  · rw [if_pos hfield]
    simp only [sortedFields, List.mem_cons, List.not_mem_nil, or_false] at hfield
    rcases hfield with rfl | rfl | rfl | rfl <;> rfl
  · rw [if_neg hfield, List.map_eq_nil_iff, List.filter_eq_nil_iff]
    intro entry hentry hname
    -- Every check is one of a field of the form.
    have hnames : ∀ name ∈ (form.passes db).map (·.1), name ∈ sortedFields := by
      show ∀ name ∈ ["username", "email", "password1", "password2", "username", "username", "email",
        "password1", "password2", "username", "email"], name ∈ sortedFields
      decide
    apply hfield
    rw [← of_decide_eq_true hname]
    exact hnames entry.1 (List.mem_map_of_mem hentry)

/-- The first pass requires every field. -/
theorem blanks_eq_noteAll (form : RegistrationForm) :
    form.blanks = FormErrors.empty.noteAll (form.values.map fun p => (p.1, .filled p.2)) := by
  have hrequire : form.blanks = form.values.foldl (fun e p => e.require p.1 p.2) .empty := rfl
  rw [hrequire]
  apply FormErrors.foldl_require_eq_noteAll FormErrors.sorted_empty
  · intro _ _
    rfl
  · show ["username", "email", "password1", "password2"].Nodup
    decide

theorem sorted_named (form : RegistrationForm) : form.named.Sorted := by
  rw [named, blanks_eq_noteAll]
  exact (FormErrors.sorted_empty.noteAll _).note _ _

theorem fieldErrors_eq_merge (form : RegistrationForm) :
    form.fieldErrors = form.named.merge form.findings := rfl

/-- The findings are those of the checks of the fields by themselves. -/
theorem findings_eq_flatMap (form : RegistrationForm) :
    form.findings = form.reports.flatMap fun r => r.2.2.findings r.1 r.2.1 := by
  cases hemail : isEmail form.email <;> simp [findings, reports, Check.findings, hemail]

theorem fieldErrors_eq_noteAll (form : RegistrationForm) :
    form.fieldErrors = form.named.noteAll (form.reports.map fun r => (r.1, r.2.2)) := by
  rw [fieldErrors_eq_merge, findings_eq_flatMap]
  apply FormErrors.merge_eq_noteAll (sorted_named form)
  show ["username", "email", "password1", "password2"].Nodup
  decide

/-- Looking for somebody among the users is a check. -/
theorem note_any (errors : FormErrors) (field message : String) (users : List User)
    (p : User → Bool) :
    errors.note field ⟨users.any p, message⟩
      = if errors.has field then errors
        else match users.find? p with
          | none => errors
          | some _ => errors.add field message := by
  have hany : users.any p = (users.find? p).isSome := by
    rw [Bool.eq_iff_iff, List.any_eq_true, List.find?_isSome]
  unfold FormErrors.note
  rw [hany]
  cases errors.has field with
  | true => rfl
  | false => cases users.find? p <;> rfl

theorem checkUsername_eq_note (haccess : db.access .users = .ok ()) (form : RegistrationForm)
    (errors : FormErrors) :
    checkUsername db form errors = .ok (errors.note "username"
      ⟨db.users.any (·.username = form.username), duplicateUsername⟩) := by
  rw [note_any, checkUsername, Database.findByUsername, Database.on, haccess]
  split
  · rfl
  · cases db.users.find? (·.username = form.username) <;> rfl

theorem checkEmail_eq_note (haccess : db.access .users = .ok ()) (form : RegistrationForm)
    (errors : FormErrors) :
    checkEmail db form errors = .ok (errors.note "email"
      ⟨db.users.any (sameIgnoringCase ·.email form.email), duplicateEmail⟩) := by
  rw [note_any, checkEmail, Database.findByEmail, Database.on, haccess]
  split
  · rfl
  · cases db.users.find? (sameIgnoringCase ·.email form.email) <;> rfl

/-- All passes together give the messages of the first checks that fail. -/
theorem errors_eq_firstMessages (haccess : db.access .users = .ok ()) (form : RegistrationForm) :
    form.errors db = .ok (.firstMessages sortedFields (form.checks db)) := by
  have hall : FormErrors.empty.noteAll (form.passes db)
      = ((form.fieldErrors.note "username"
        ⟨db.users.any (·.username = form.username), duplicateUsername⟩).note "email"
        ⟨db.users.any (sameIgnoringCase ·.email form.email), duplicateEmail⟩) := by
    rw [fieldErrors_eq_noteAll, named, blanks_eq_noteAll, passes]
    simp only [FormErrors.noteAll_append, FormErrors.noteAll_cons, FormErrors.noteAll_nil]
  rw [errors, checkUsername_eq_note haccess]
  dsimp only
  rw [checkEmail_eq_note haccess, ← hall,
    FormErrors.noteAll_eq_firstMessages (by decide) (form.passes_on db)]

/-! ### The validation -/

/-- In whatever order the findings are reported, the validation gives the same. -/
theorem validateReporting_eq (db : Database) {report : List Finding}
    (hreport : report.Perm form.cleaned.findings) :
    form.validateReporting db report = form.validate db := by
  have hfields : (form.cleaned.findings.map (·.field)).Nodup := by
    unfold findings
    split <;> split <;> split <;> split <;> decide
  have hsame := FormErrors.merge_perm (sorted_named form.cleaned) hreport.symm hfields
  unfold validateReporting validate errors
  dsimp only
  rw [fieldErrors_eq_merge, hsame]
  cases checkUsername db form.cleaned (form.cleaned.named.merge report) with
  | error e => rfl
  | ok errors => rfl

theorem validate_eq_firstMessages (haccess : db.access .users = .ok ()) (form : RegistrationForm) :
    form.validate db
      = if ∀ field ∈ sortedFields, Check.firstMessage? (form.cleaned.checks db field) = none then
          .ok ⟨trim form.username, normalizeEmail form.email, form.password1⟩
        else .error (.validation (.firstMessages sortedFields (form.cleaned.checks db))) := by
  unfold validate
  dsimp only
  rw [errors_eq_firstMessages haccess]
  dsimp only
  simp only [FormErrors.isEmpty_firstMessages_iff]
  rfl

/-- The validation of a form gives an account if no check of a field fails.  Otherwise it gives one
message for each field with a check that fails, the message of the first of them.  The order in
which the findings are reported does not matter, and the world stays as it is.  An address that
somebody has in another case counts as taken, and no other one does unless it has a zero byte. -/
theorem validate_reports_first (db : Database) (haccess : db.access .users = .ok ())
    (form : RegistrationForm) :
    (form.validate db
      = if ∀ field ∈ sortedFields, Check.firstMessage? (form.cleaned.checks db field) = none then
          .ok ⟨trim form.username, normalizeEmail form.email, form.password1⟩
        else .error (.validation (.firstMessages sortedFields (form.cleaned.checks db)))) ∧
    (∀ field, (FormErrors.firstMessages sortedFields (form.cleaned.checks db)).get? field
      = (Check.firstMessage? (form.cleaned.checks db field)).map ([·])) ∧
    (∀ report, report.Perm form.cleaned.findings →
      form.validateReporting db report = form.validate db) ∧
    (∀ (s : Service) (reg : Registrations) (n : Nat),
      (s.step reg (.validate n form)).world = reg.world) ∧
    ((∃ u ∈ db.users, u.email.toList.map lowerAscii
        = (normalizeEmail form.email).toList.map lowerAscii) →
      db.users.any (sameIgnoringCase ·.email (normalizeEmail form.email)) = true) ∧
    (0 ∉ bytesOf (normalizeEmail form.email) →
      db.users.any (sameIgnoringCase ·.email (normalizeEmail form.email)) = true →
      ∃ u ∈ db.users, u.email.toList.map lowerAscii
        = (normalizeEmail form.email).toList.map lowerAscii) := by
  refine ⟨validate_eq_firstMessages haccess form, ?_, ?_, ?_, ?_, ?_⟩
  · intro field
    rw [FormErrors.get?_firstMessages]
    split
    · rfl
    · next hfield => rw [checks_of_not_mem db form.cleaned hfield]; rfl
  · intro report hreport
    exact validateReporting_eq db hreport
  · intro s reg n
    rfl
  · rintro ⟨u, hu, hsame⟩
    rw [List.any_eq_true]
    exact ⟨u, hu, sameIgnoringCase_of_foldCase_eq (foldCase_eq_iff.mpr hsame)⟩
  · intro hzero htaken
    obtain ⟨u, hu, hsame⟩ := List.any_eq_true.mp htaken
    exact ⟨u, hu, foldCase_eq_iff.mp ((sameIgnoringCase_iff hzero).mp hsame)⟩

/-- The database with one user of some name and address. -/
def oneUser (username email : String) : Database :=
  { Database.empty with users := [newUser "u" username email "" ⟨0⟩] }

/-- A form with something wrong in every field. -/
def hastyForm : RegistrationForm where
  username := " alice "
  email := "ALICE@Example.com"
  password1 := "short"
  password2 := " "

/-- A form whose address differs from a given one only behind a zero byte. -/
def zeroByteForm : RegistrationForm where
  username := "bob"
  email := "a@\x00y[::1]"
  password1 := "long-enough"
  password2 := "long-enough"

/-- Each field has one message, although the blank password is also a different one. -/
theorem hasty_form_messages :
    hastyForm.validate (oneUser "alice" "alice@example.com")
      = .error (.validation ⟨[("email", [duplicateEmail]), ("password1", [shortPassword]),
        ("password2", [FormErrors.required]), ("username", [duplicateUsername])]⟩) ∧
    hastyForm.validateReporting (oneUser "alice" "alice@example.com")
        hastyForm.cleaned.findings.reverse
      = hastyForm.validate (oneUser "alice" "alice@example.com") := by
  obtain ⟨hvalidate, -, hreport, -⟩ :=
    validate_reports_first (oneUser "alice" "alice@example.com") rfl hastyForm
  refine ⟨?_, hreport _ (List.reverse_perm _)⟩
  rw [hvalidate, if_neg (by decide +kernel)]
  exact congrArg (fun errors => Except.error (Failure.validation errors)) (by decide +kernel)

/-- An address is reported as taken that nobody has: what follows a zero byte is not compared. -/
theorem taken_behind_zero_byte :
    (¬ ∃ u ∈ (oneUser "alice" "a@\x00x[::1]").users, u.email.toList.map lowerAscii
      = (normalizeEmail zeroByteForm.email).toList.map lowerAscii) ∧
    zeroByteForm.validate (oneUser "alice" "a@\x00x[::1]")
      = .error (.validation ⟨[("email", [duplicateEmail])]⟩) := by
  refine ⟨by decide +kernel, ?_⟩
  rw [validate_eq_firstMessages rfl, if_neg (by decide +kernel)]
  exact congrArg (fun errors => Except.error (Failure.validation errors)) (by decide +kernel)

end RegistrationForm

end CookieAuth
