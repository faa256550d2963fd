import CookieAuth.Proofs.Account.Interleaving
import CookieAuth.Proofs.Service.Sample
import CookieAuth.Proofs.Text.Basic

/-!
# Addresses of users who register at the same time

A registration is turned down if its address is that of a user, whatever the case.  The database
itself only refuses addresses that are the same in every character.  So two users can have addresses
that differ in case only, if both register at the same time; this file says exactly when.

## Main definitions

* `CaseUnique`: no two users have addresses that are the same but for the case;
* `Overtaken`: a registration makes its account after another one made an account with such an
  address, both of them having been checked before.

## Main results

* `Service.caseUnique_iff_not_overtaken`: addresses stay unique exactly if no registration is
  overtaken;
* `Service.overtaken_addresses`: two registrations that end up with such addresses.
-/

namespace CookieAuth

open Email Text Time

/-! ### What a checked account promises -/

namespace FormErrors

variable {errors : FormErrors}

theorem isEmpty_add (errors : FormErrors) (field message : String) :
    (errors.add field message).isEmpty = false := by
  unfold isEmpty add
  cases errors.entries with
  | nil => rfl
  | cons head rest =>
    obtain ⟨other, messages⟩ := head
    simp only [insert]
    split
    · rfl
    · split <;> rfl

theorem has_of_isEmpty (h : errors.isEmpty = true) (field : String) :
    errors.has field = false := by
  have hnil : errors.entries = [] := List.isEmpty_iff.mp h
  simp [has, get?, hnil]

/-- There is no message after a field was required if there was none before and the field is not
blank. -/
theorem isEmpty_require_iff (errors : FormErrors) (field value : String) :
    (errors.require field value).isEmpty = true ↔
      errors.isEmpty = true ∧ isBlankText value = false := by
  unfold require
  split
  · next hblank => simp [isEmpty_add, hblank]
  · next hblank => simp [hblank]

/-- Findings are recorded where there was no message before. -/
theorem isEmpty_merge_iff (errors : FormErrors) (findings : List Finding) :
    (errors.merge findings).isEmpty = true ↔ errors.isEmpty = true ∧ findings = [] := by
  have hfold : ∀ (found : List Finding) (errors : FormErrors),
      (found.foldl (fun e f => e.add f.field f.text) errors).isEmpty = true ↔
        errors.isEmpty = true ∧ found = [] := by
    intro found
    induction found with
    | nil => simp
    | cons f rest ih => simp [ih, isEmpty_add]
  unfold merge
  rw [hfold]
  constructor
  · rintro ⟨hempty, hnone⟩
    refine ⟨hempty, ?_⟩
    -- No field has a message, so that every finding would be recorded.
    have hall : findings.filter (fun f => !errors.has f.field) = findings := by
      rw [List.filter_eq_self]
      intro f _
      simp [has_of_isEmpty hempty]
    rwa [hall] at hnone
  · rintro ⟨hempty, rfl⟩
    exact ⟨hempty, rfl⟩

end FormErrors

namespace RegistrationForm

variable {db : Database} {form : RegistrationForm} {errors result : FormErrors}

/-- The fields of a form without messages are not blank, and nothing else is wrong with them. -/
theorem of_isEmpty_fieldErrors (h : form.fieldErrors.isEmpty = true) :
    isBlankText form.username = false ∧ isBlankText form.password1 = false ∧
      form.findings = [] := by
  unfold fieldErrors at h
  rw [FormErrors.isEmpty_merge_iff] at h
  obtain ⟨hempty, hfindings⟩ := h
  have hblanks : form.blanks.isEmpty = true := by
    split at hempty
    · simp [FormErrors.isEmpty_add] at hempty
    · exact hempty
  simp only [blanks, FormErrors.isEmpty_require_iff] at hblanks
  obtain ⟨⟨⟨⟨-, husername⟩, -⟩, hpassword⟩, -⟩ := hblanks
  exact ⟨husername, hpassword, hfindings⟩

/-- If there is no message after the address was looked up, there was none before, and nobody has
the address. -/
theorem of_checkEmail (h : checkEmail db form errors = .ok result)
    (hempty : result.isEmpty = true) :
    errors.isEmpty = true ∧ ∀ u ∈ db.users, sameIgnoringCase u.email form.email = false := by
  unfold checkEmail at h
  split at h
  · next hhas =>
    -- The address is not looked up if there is a message about it already.
    obtain rfl := Except.ok.inj h
    rw [FormErrors.has_of_isEmpty hempty] at hhas
    simp at hhas
  · split at h
    · simp at h
    · next hfound =>
      obtain rfl := Except.ok.inj h
      refine ⟨hempty, ?_⟩
      intro u hu
      have hnone := List.find?_eq_none.mp (Except.ok.inj (Database.of_on_ok hfound).2) u hu
      simpa using hnone
    · obtain rfl := Except.ok.inj h
      rw [FormErrors.isEmpty_add] at hempty
      simp at hempty

/-- If there is no message after the name was looked up, there was none before, and nobody has the
name. -/
theorem of_checkUsername (h : checkUsername db form errors = .ok result)
    (hempty : result.isEmpty = true) :
    errors.isEmpty = true ∧ ∀ u ∈ db.users, u.username ≠ form.username := by
  unfold checkUsername at h
  split at h
  · next hhas =>
    obtain rfl := Except.ok.inj h
    rw [FormErrors.has_of_isEmpty hempty] at hhas
    simp at hhas
  · split at h
    · simp at h
    · next hfound =>
      obtain rfl := Except.ok.inj h
      refine ⟨hempty, ?_⟩
      intro u hu
      have hnone := List.find?_eq_none.mp (Except.ok.inj (Database.of_on_ok hfound).2) u hu
      simpa using hnone
    · obtain rfl := Except.ok.inj h
      rw [FormErrors.isEmpty_add] at hempty
      simp at hempty

/-- An account is that of a form without messages: neither the name nor the address gave any. -/
theorem of_validate_ok {account : NewAccount} (h : form.validate db = .ok account) :
    account = ⟨form.cleaned.username, form.cleaned.email, form.password1⟩ ∧
      ∃ named checked, checkUsername db form.cleaned form.cleaned.fieldErrors = .ok named ∧
        checkEmail db form.cleaned named = .ok checked ∧ checked.isEmpty = true := by
  unfold validate RegistrationForm.errors at h
  dsimp only at h
  split at h
  · simp at h
  · next checked hchecked =>
    split at h
    · next hempty =>
      obtain rfl := Except.ok.inj h
      split at hchecked
      · simp at hchecked
      · next named hnamed => exact ⟨rfl, named, checked, hnamed, hchecked, hempty⟩
    · simp at h

/-- When an account was checked, nobody had its address, whatever the case. -/
theorem address_of_validate_ok {account : NewAccount} (h : form.validate db = .ok account) :
    ∀ u ∈ db.users, sameIgnoringCase u.email account.email = false := by
  obtain ⟨rfl, named, checked, -, hchecked, hempty⟩ := of_validate_ok h
  exact (of_checkEmail hchecked hempty).2

/-- When an account was checked, nobody had its name. -/
theorem username_of_validate_ok {account : NewAccount} (h : form.validate db = .ok account) :
    ∀ u ∈ db.users, u.username ≠ account.username := by
  obtain ⟨rfl, named, checked, hnamed, hchecked, hempty⟩ := of_validate_ok h
  exact (of_checkUsername hnamed (of_checkEmail hchecked hempty).1).2

/-- When an account was checked, there was no message about the fields of its form. -/
theorem isEmpty_fieldErrors_of_validate_ok {account : NewAccount}
    (h : form.validate db = .ok account) : form.cleaned.fieldErrors.isEmpty = true := by
  obtain ⟨-, named, checked, hnamed, hchecked, hempty⟩ := of_validate_ok h
  exact (of_checkUsername hnamed (of_checkEmail hchecked hempty).1).1

/-- When an account was checked, its name and its password were not blank. -/
theorem not_blank_of_validate_ok {account : NewAccount} (h : form.validate db = .ok account) :
    isBlankText form.username = false ∧ isBlankText form.password1 = false := by
  obtain ⟨husername, hpassword, -⟩ :=
    of_isEmpty_fieldErrors (isEmpty_fieldErrors_of_validate_ok h)
  exact ⟨isBlankText_of_trim husername, hpassword⟩

/-- When an account was checked, its address was well-formed. -/
theorem isEmail_of_validate_ok {account : NewAccount} (h : form.validate db = .ok account) :
    isEmail account.email = true := by
  obtain ⟨-, -, hfindings⟩ := of_isEmpty_fieldErrors (isEmpty_fieldErrors_of_validate_ok h)
  obtain ⟨rfl, -⟩ := of_validate_ok h
  -- A malformed address is one of the findings.
  cases hemail : isEmail form.cleaned.email with
  | true => rfl
  | false => simp [findings, hemail] at hfindings

end RegistrationForm

/-! ### Addresses along the steps -/

/-- No two users have addresses that are the same but for the case. -/
def CaseUnique (users : List User) : Prop :=
  users.Pairwise fun a b => sameIgnoringCase a.email b.email = false

instance (users : List User) : Decidable (CaseUnique users) :=
  inferInstanceAs
    (Decidable (users.Pairwise fun (a b : User) => sameIgnoringCase a.email b.email = false))

/-- A registration is overtaken: after its form was checked, another one makes an account with an
address that differs from its own in case only.  The user of that account is still there when it
makes its own account, too. -/
inductive Overtaken (s : Service) (w : World) : List Step → Prop where
  | intro {before between first rest after : List Step} {n : Nat} {form : RegistrationForm}
      {now : Instant} {made : Step} {early late : User}
      (hchecked : ∀ step ∈ between, step.registration? ≠ some n)
      (hbetween : between = first ++ made :: rest)
      (hearly : Stores s (s.interleave w (before ++ .validate n form :: first)) made early)
      (hpresent : early ∈ (s.interleave w (before ++ .validate n form :: between)).users)
      (hlate : Stores s (s.interleave w (before ++ .validate n form :: between)) (.save n now) late)
      (hsame : sameIgnoringCase early.email late.email = true)
      (hdiffer : early.email ≠ late.email) :
      Overtaken s w (before ++ .validate n form :: (between ++ .save n now :: after))

namespace Service

variable {s : Service} {w : World} {user early : User}

/-- The address of a user who is made is that of the checked account. -/
theorem email_of_stores {reg : Registrations} {n : Nat} {now : Instant}
    (h : Stores s reg (.save n now) user) :
    ∃ account, reg.accounts n = some account ∧ user.email = account.email := by
  obtain ⟨account, w', haccount, hmade⟩ := h
  obtain ⟨rfl, -, -, -⟩ := World.of_register_ok hmade
  exact ⟨account, haccount, rfl⟩

/-- Nobody has exactly the address of a user who is made. -/
theorem email_ne_of_stores {reg : Registrations} {step : Step} (h : Stores s reg step user) :
    ∀ u ∈ reg.users, u.email ≠ user.email := by
  intro u hu
  exact (Database.of_duplicate?_eq_none (joined_of_stores h).unique u hu).1

theorem pairwise_concat {R : User → User → Prop} {users : List User} :
    (users ++ [user]).Pairwise R ↔ users.Pairwise R ∧ ∀ u ∈ users, R u user := by
  simp [List.pairwise_append]

/-- No two users ever have exactly the same address. -/
theorem emails_nodup (hempty : w.db.users = []) (steps : List Step) :
    (s.interleave w steps).users.Pairwise fun a b => a.email ≠ b.email := by
  refine interleave_induction (P := fun reg => reg.users.Pairwise fun a b => a.email ≠ b.email)
    ?_ ?_ steps
  · simp [Registrations.users, hempty]
  · intro reg step hreg
    rcases s.users_step reg step with ⟨user, hstores⟩ | ⟨hfewer, -⟩
    · rw [users_of_stores hstores]
      exact pairwise_concat.mpr ⟨hreg, email_ne_of_stores hstores⟩
    · exact hreg.sublist hfewer

/-- A step that makes a user whose address somebody has in another case completes an overtaking. -/
theorem overtaken_of_stores {steps after : List Step} {step : Step}
    (hstores : Stores s (s.interleave w steps) step user)
    (hmem : early ∈ (s.interleave w steps).users)
    (hsame : sameIgnoringCase early.email user.email = true) :
    Overtaken s w (steps ++ step :: after) := by
  cases step with
  | validate n form => exact hstores.elim
  | delete id => exact hstores.elim
  | save n now =>
    obtain ⟨account, haccount, hemail⟩ := email_of_stores hstores
    obtain ⟨before, form, between, rfl, hvalid, hchecked⟩ := origin_of_account haccount
    -- When the form was checked, nobody had the address, so the early user came after that.
    have hnew : early ∉ (s.interleave w (before ++ [.validate n form])).users := by
      rw [interleave_concat]
      intro hold
      have hnone := RegistrationForm.address_of_validate_ok hvalid early hold
      rw [← hemail, hsame] at hnone
      simp at hnone
    have hpresent : early ∈ (s.interleave w ((before ++ [.validate n form]) ++ between)).users := by
      simpa using hmem
    obtain ⟨first, made, rest, hbetween, hearly⟩ := origin_of_user hpresent hnew
    have hdiffer := email_ne_of_stores hstores early hmem
    rw [List.append_assoc, List.cons_append]
    refine Overtaken.intro hchecked hbetween ?_ hmem hstores hsame hdiffer
    simpa using hearly

/-- From no users on, addresses never get the same.  They never get the same but for the case
exactly if no registration is overtaken. -/
theorem caseUnique_iff_not_overtaken (s : Service) (w : World) (hempty : w.db.users = [])
    (steps : List Step) :
    (∀ before after, steps = before ++ after →
      (s.interleave w before).users.Pairwise fun a b => a.email ≠ b.email) ∧
    ((∀ before after, steps = before ++ after → CaseUnique (s.interleave w before).users) ↔
      ¬ Overtaken s w steps) := by
  refine ⟨fun before _ _ => emails_nodup hempty before, ?_, ?_⟩
  · rintro hunique hovertaken
    cases hovertaken with
    | @intro before between _ _ after n form now _ early _ _ _ _ hpresent hlate hsame _ =>
      -- Up to the overtaken registration, the early and the late user stand in the same list.
      have hprefix :=
        hunique (before ++ .validate n form :: between ++ [.save n now]) after (by simp)
      rw [interleave_concat, users_of_stores hlate] at hprefix
      have hcase := (pairwise_concat.mp hprefix).2 early hpresent
      rw [hsame] at hcase
      simp at hcase
  · intro hnever before
    -- The first step after which two addresses are the same makes a user, who overtook somebody.
    induction before using List.reverseRecOn with
    | nil =>
      intro _ _
      simp [interleave, Registrations.users, hempty, CaseUnique]
    | append_singleton before step ih =>
      intro after hsteps
      have hbefore := ih (step :: after) (by rw [hsteps]; simp)
      rw [interleave_concat]
      rcases s.users_step (s.interleave w before) step with ⟨user, hstores⟩ | ⟨hfewer, -⟩
      · rw [users_of_stores hstores]
        refine pairwise_concat.mpr ⟨hbefore, ?_⟩
        intro early hmem
        by_contra hsame
        apply hnever
        rw [hsteps, List.append_assoc]
        exact overtaken_of_stores hstores hmem (by simpa using hsame)
      · exact hbefore.sublist hfewer

end Service

namespace Sample

/-- Two registrations with addresses that differ in case only: both forms are checked before either
account is made. -/
def race : List Step :=
  [.validate 0 ⟨"bob", "Bob@example.com", "long-enough", "long-enough"⟩,
    .validate 1 ⟨"rob", "bob@example.com", "long-enough", "long-enough"⟩, .save 0 ⟨0⟩, .save 1 ⟨0⟩]

end Sample

namespace Service

open Sample

/-- The second registration is overtaken by the first. -/
theorem overtaken_race : Overtaken service {} race := by
  by_contra hnever
  have hunique := (caseUnique_iff_not_overtaken service {} rfl race).2.mpr hnever race [] (by simp)
  exact absurd hunique (by decide +kernel)

/-- Afterwards there are two users whose addresses are the same but for the case. -/
theorem overtaken_addresses :
    (service.interleave {} race).users.map (·.email) = ["Bob@example.com", "bob@example.com"] ∧
      ¬ CaseUnique (service.interleave {} race).users := by
  decide +kernel

end Service

end CookieAuth
