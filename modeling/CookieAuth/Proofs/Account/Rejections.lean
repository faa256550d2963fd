import CookieAuth.Account.Login
import CookieAuth.Account.PasswordReset
import CookieAuth.Account.Registration
import CookieAuth.Proofs.Form.Accumulation

/-!
# What forms are turned down with

The validation of a form records messages, and gives up with them if there are any.  So whoever sees
a form turned down for what was filled in is told why: there is a field with messages, and no field
stands there without any.

## Main definitions

* `FormErrors.Recorded`: messages after some recordings;
* `FormErrors.TurnsDown`: recorded messages that a check fails with.

## Main results

* `FormErrors.TurnsDown.ne_nil`: someone is told why;
* `LoginForm.turnsDown_of_validate`, `ResetForm.turnsDown_of_validate`,
  `RegistrationForm.turnsDown_of_validate`: every form is turned down in this way.
-/

namespace CookieAuth

open Text

namespace FormErrors

variable {errors : FormErrors}

/-- These are the messages after some recordings. -/
def Recorded (errors : FormErrors) : Prop :=
  ∃ first steps, after first steps = errors

/-- A check fails with messages that were recorded. -/
structure TurnsDown (errors : FormErrors) : Prop where
  /-- The messages were recorded. -/
  recorded : errors.Recorded
  /-- A check fails with them. -/
  check_eq : errors.check = .error (.validation errors)

theorem recorded_empty : empty.Recorded :=
  ⟨none, [], rfl⟩

theorem Recorded.record (h : errors.Recorded) (step : Recording) :
    (errors.record step).Recorded := by
  obtain ⟨first, steps, rfl⟩ := h
  refine ⟨first, steps ++ [step], ?_⟩
  rw [after, List.foldl_append]
  rfl

theorem Recorded.add (h : errors.Recorded) (field message : String) :
    (errors.add field message).Recorded :=
  h.record (.add field message)

theorem Recorded.require (h : errors.Recorded) (field value : String) :
    (errors.require field value).Recorded :=
  h.record (.require field value)

theorem Recorded.merge (h : errors.Recorded) (found : List Finding) :
    (errors.merge found).Recorded :=
  h.record (.merge found)

theorem Recorded.turnsDown (h : errors.Recorded) (hsome : errors.isEmpty = false) :
    errors.TurnsDown := by
  refine ⟨h, ?_⟩
  rw [check, hsome]
  rfl

theorem turnsDown_nonField (message : String) : (nonField message).TurnsDown :=
  Recorded.turnsDown ⟨some message, [], rfl⟩ rfl

/-- Whoever is turned down is told why: there are fields, and each of them has messages. -/
theorem TurnsDown.ne_nil (h : errors.TurnsDown) :
    errors.entries ≠ [] ∧ ∀ entry ∈ errors.entries, entry.2 ≠ [] := by
  obtain ⟨⟨first, steps, rfl⟩, hcheck⟩ := h
  refine ⟨?_, fun entry => (keeps_after first steps).ne_nil⟩
  intro hnone
  have hpasses := check_eq_ok_iff.mpr (List.isEmpty_iff.mpr hnone)
  rw [hcheck] at hpasses
  cases hpasses

end FormErrors

open FormErrors

/-! ### Logging in and resetting a password -/

theorem LoginForm.turnsDown_of_validate {kdf : Password.KeyDerivation} {db : Database}
    {form : LoginForm} {errors : FormErrors}
    (h : form.validate kdf db = .error (.validation errors)) : errors.TurnsDown := by
  have hrecorded : form.blanks.Recorded := (recorded_empty.require _ _).require _ _
  unfold validate at h
  split at h
  · next hblanks =>
    cases h
    exact hrecorded.turnsDown (by simpa using hblanks)
  · split at h
    · next e hfailed =>
      -- Without an account to compare with there is another failure.
      cases h
      unfold authenticate at hfailed
      repeat' split at hfailed
      all_goals cases hfailed
    · cases h
      exact turnsDown_nonField _
    · split at h
      · cases h
      · cases h
        exact turnsDown_nonField _

theorem ResetForm.turnsDown_of_validate {db : Database} {form : ResetForm} {errors : FormErrors}
    (h : form.validate db = .error (.validation errors)) : errors.TurnsDown := by
  have hrecorded : (ResetForm.errors (trim form.email)).Recorded :=
    (recorded_empty.require _ _).merge _
  simp only [validate] at h
  split at h
  · next hwrong =>
    obtain rfl := Failure.validation.inj (Except.error.inj h)
    exact hrecorded.turnsDown (by simpa using hwrong)
  · split at h
    · simp at h
    · obtain rfl := Failure.validation.inj (Except.error.inj h)
      exact (recorded_empty.add _ _).turnsDown rfl
    · simp at h

/-! ### Registering -/

namespace RegistrationForm

variable {db : Database} {form : RegistrationForm} {errors : FormErrors}

theorem recorded_fieldErrors (form : RegistrationForm) : form.fieldErrors.Recorded := by
  have hblanks : form.blanks.Recorded :=
    (((recorded_empty.require _ _).require _ _).require _ _).require _ _
  simp only [fieldErrors]
  split
  · exact (hblanks.add _ _).merge _
  · exact hblanks.merge _

/-- Looking up the users gives recorded messages, or fails without any. -/
inductive Looked : Except Failure FormErrors → Prop
  /-- The database fails. -/
  | failed (cause : DbError) : Looked (.error (.database cause))
  /-- There are recorded messages. -/
  | recorded {errors : FormErrors} (h : errors.Recorded) : Looked (.ok errors)

theorem looked_checkUsername (h : errors.Recorded) : Looked (checkUsername db form errors) := by
  unfold checkUsername
  split
  · exact .recorded h
  · split
    · exact .failed _
    · exact .recorded h
    · exact .recorded (h.add _ _)

theorem looked_checkEmail (h : errors.Recorded) : Looked (checkEmail db form errors) := by
  unfold checkEmail
  split
  · exact .recorded h
  · split
    · exact .failed _
    · exact .recorded h
    · exact .recorded (h.add _ _)

theorem looked_errors (db : Database) (form : RegistrationForm) : Looked (form.errors db) := by
  have hname : Looked (checkUsername db form form.fieldErrors) :=
    looked_checkUsername (recorded_fieldErrors form)
  unfold RegistrationForm.errors
  generalize checkUsername db form form.fieldErrors = named at hname
  cases hname with
  | failed cause => exact .failed cause
  | recorded hrecorded => exact looked_checkEmail hrecorded

theorem turnsDown_of_validate (h : form.validate db = .error (.validation errors)) :
    errors.TurnsDown := by
  have hlooked := looked_errors db form.cleaned
  unfold validate at h
  dsimp only at h
  generalize form.cleaned.errors db = checked at h hlooked
  cases hlooked with
  | failed cause => simp at h
  | recorded hrecorded =>
    dsimp only at h
    split at h
    · simp at h
    · next hsome =>
      obtain rfl := Failure.validation.inj (Except.error.inj h)
      exact hrecorded.turnsDown (by simpa using hsome)

end RegistrationForm

end CookieAuth
