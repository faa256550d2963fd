import CookieAuth.Proofs.Password.Storage
import CookieAuth.Proofs.Service.Sample
import CookieAuth.Proofs.Service.Writes
import CookieAuth.Proofs.Text.Basic
import Mathlib.Data.List.Nodup

/-!
# Who may log in

A login form has to be filled in, somebody has to have its name and its password, and this account
has to be active.  The first of these that fails decides about the message, and a stored hash that
cannot be read is a failure of its own.  This file has the rules by which a form is judged, one for
each way in which that can come out, and proves that the check of a form follows them.

## Main definitions

* `LoginForm.Filled`, `LoginForm.blankFields`: whether both fields are filled in, and which are not;
* `LoginForm.Names`: a user has the name of the form;
* `LoginForm.Judged`: the rules.

## Main results

* `LoginForm.judged_validate`: the check of a form follows the rules;
* `LoginForm.Judged.unique`: where names are unique, the rules leave no choice;
* `LoginForm.validate_decides`: which result a form has, for each of the results.
-/

namespace CookieAuth

open Text

namespace LoginForm

/-- Both fields have something else than blanks in them. -/
def Filled (form : LoginForm) : Prop :=
  trim form.username ≠ "" ∧ trim form.password ≠ ""

instance (form : LoginForm) : Decidable form.Filled :=
  inferInstanceAs (Decidable (_ ∧ _))

/-- The fields that have nothing else than blanks in them, in increasing order. -/
def blankFields (form : LoginForm) : List String :=
  (if trim form.password = "" then ["password"] else [])
    ++ (if trim form.username = "" then ["username"] else [])

/-- Each of these fields is required, and nothing else is said. -/
def requiredErrors (form : LoginForm) : FormErrors where
  entries := form.blankFields.map fun field => (field, [FormErrors.required])

/-- A user has the name of the form, without the blanks around it. -/
def Names (form : LoginForm) (users : List User) (user : User) : Prop :=
  user ∈ users ∧ user.username = trim form.username

/-- The rules by which a form is judged. -/
inductive Judged (kdf : Password.KeyDerivation) (users : List User) (form : LoginForm) :
    Except Failure User → Prop where
  /-- Every field that is not filled in is required. -/
  | blank (hblank : ¬ form.Filled) :
      Judged kdf users form (.error (.validation form.requiredErrors))
  /-- Nobody has the name. -/
  | unknown (hfilled : form.Filled) (hnobody : ∀ user, ¬ form.Names users user) :
      Judged kdf users form (.error (.validation (.nonField invalidLogin)))
  /-- The stored hash of whoever has the name cannot be read. -/
  | unreadable {user : User} {e : Password.HashError} (hfilled : form.Filled)
      (hnames : form.Names users user)
      (hverify : Password.verifyPassword kdf form.password user.passwordHash = .error e) :
      Judged kdf users form (.error (.passwordHash e.message))
  /-- The password of whoever has the name is another one. -/
  | wrong {user : User} (hfilled : form.Filled) (hnames : form.Names users user)
      (hverify : Password.verifyPassword kdf form.password user.passwordHash = .ok false) :
      Judged kdf users form (.error (.validation (.nonField invalidLogin)))
  /-- Name and password are right, but the account is not active. -/
  | inactive {user : User} (hfilled : form.Filled) (hnames : form.Names users user)
      (hverify : Password.verifyPassword kdf form.password user.passwordHash = .ok true)
      (hactive : user.isActive = false) :
      Judged kdf users form (.error (.validation (.nonField LoginForm.inactive)))
  /-- Name and password are right, and the account is active. -/
  | accepted {user : User} (hfilled : form.Filled) (hnames : form.Names users user)
      (hverify : Password.verifyPassword kdf form.password user.passwordHash = .ok true)
      (hactive : user.isActive = true) :
      Judged kdf users form (.ok user)

variable {kdf : Password.KeyDerivation} {db : Database} {users : List User} {form : LoginForm}
  {user other : User} {result result' : Except Failure User}

/-! ### Blank fields -/

/-- The check for blank fields says of each of them that it is required. -/
theorem blanks_eq (form : LoginForm) : form.blanks = form.requiredErrors := by
  unfold blanks requiredErrors blankFields FormErrors.require
  simp only [trim_eq_empty_iff]
  by_cases hname : isBlankText form.username = true <;>
    by_cases hpassword : isBlankText form.password = true
  · simp only [if_pos hname, if_pos hpassword]
    rfl
  · simp only [if_pos hname, if_neg hpassword]
    rfl
  · simp only [if_neg hname, if_pos hpassword]
    rfl
  · simp only [if_neg hname, if_neg hpassword]
    rfl

theorem isEmpty_blanks_iff : form.blanks.isEmpty = true ↔ form.Filled := by
  rw [blanks_eq, FormErrors.isEmpty, requiredErrors, List.isEmpty_iff, List.map_eq_nil_iff,
    blankFields, List.append_eq_nil_iff, Filled, and_comm]
  simp

/-- What is said about a field is not said about the whole form. -/
theorem requiredErrors_ne_nonField (form : LoginForm) (message : String) :
    form.requiredErrors ≠ .nonField message := by
  intro h
  have hfields : form.blankFields = [FormErrors.wholeForm] := by
    have hentries : (FormErrors.nonField message).entries
        = [(FormErrors.wholeForm, [message])] := rfl
    have hnames := congrArg (fun errors => errors.entries.map (·.1)) h
    simpa [requiredErrors, Function.comp_def, hentries] using hnames
  have hmem : FormErrors.wholeForm ∈ form.blankFields := by
    rw [hfields]
    exact List.mem_singleton_self _
  unfold blankFields at hmem
  rcases List.mem_append.mp hmem with hpassword | hname
  · split at hpassword <;> simp [FormErrors.wholeForm] at hpassword
  · split at hname <;> simp [FormErrors.wholeForm] at hname

/-! ### The check follows the rules -/

/-- Whoever is found by the name of the form has it, and if nobody is found nobody has it. -/
theorem find?_username_cases (users : List User) (form : LoginForm) :
    (users.find? (·.username = trim form.username) = none ∧ ∀ user, ¬ form.Names users user) ∨
      ∃ user, users.find? (·.username = trim form.username) = some user ∧
        form.Names users user := by
  cases hfind : users.find? (·.username = trim form.username) with
  | none =>
    refine .inl ⟨rfl, ?_⟩
    rintro user ⟨hmem, hname⟩
    exact absurd hname (by simpa using List.find?_eq_none.mp hfind user hmem)
  | some user =>
    exact .inr ⟨user, rfl, List.mem_of_find?_eq_some hfind, by simpa using List.find?_some hfind⟩

/-- The check of a form follows the rules. -/
theorem judged_validate (kdf : Password.KeyDerivation) (haccess : db.access .users = .ok ())
    (form : LoginForm) : Judged kdf db.users form (form.validate kdf db) := by
  unfold validate authenticate Database.findByUsername Database.on
  rw [haccess]
  by_cases hfilled : form.Filled
  · rw [isEmpty_blanks_iff.mpr hfilled]
    obtain ⟨hfind, hnobody⟩ | ⟨user, hfind, hnames⟩ := find?_username_cases db.users form
    · rw [hfind]
      exact .unknown hfilled hnobody
    · rw [hfind]
      cases hverify : Password.verifyPassword kdf form.password user.passwordHash with
      | error e =>
        simp only [hverify]
        exact .unreadable hfilled hnames hverify
      | ok right =>
        cases right with
        | false =>
          simp only [hverify]
          exact .wrong hfilled hnames hverify
        | true =>
          simp only [hverify]
          cases hactive : user.isActive with
          | false => exact .inactive hfilled hnames hverify hactive
          | true => exact .accepted hfilled hnames hverify hactive
  · have hblank : form.blanks.isEmpty = false := by
      rw [← Bool.not_eq_true, isEmpty_blanks_iff]
      exact hfilled
    rw [hblank, blanks_eq]
    exact .blank hfilled

/-- Where names are unique, at most one user has the name of a form. -/
theorem Names.eq (hunique : (users.map (·.username)).Nodup) (h : form.Names users user)
    (h' : form.Names users other) : user = other :=
  List.inj_on_of_nodup_map hunique h.1 h'.1 (h.2.trans h'.2.symm)

/-- Where names are unique, the rules leave no choice. -/
theorem Judged.unique (hunique : (users.map (·.username)).Nodup)
    (h : Judged kdf users form result) (h' : Judged kdf users form result') : result = result' := by
  cases h with
  | blank hblank =>
    cases h' with
    | blank => rfl
    | unknown hfilled | unreadable hfilled | wrong hfilled | inactive hfilled | accepted hfilled =>
      exact absurd hfilled hblank
  | unknown hfilled hnobody =>
    cases h' with
    | blank hblank => exact absurd hfilled hblank
    | unknown => rfl
    | unreadable _ hnames | wrong _ hnames | inactive _ hnames | accepted _ hnames =>
      exact absurd hnames (hnobody _)
  | unreadable hfilled hnames hverify | wrong hfilled hnames hverify
  | inactive hfilled hnames hverify hactive | accepted hfilled hnames hverify hactive =>
    cases h' with
    | blank hblank => exact absurd hfilled hblank
    | unknown _ hnobody => exact absurd hnames (hnobody _)
    | unreadable _ hnames' hverify' | wrong _ hnames' hverify'
    | inactive _ hnames' hverify' hactive' | accepted _ hnames' hverify' hactive' =>
      -- Both rules are about the same user, whose hash is checked in one way.
      obtain rfl := hnames.eq hunique hnames'
      simp_all

theorem validate_eq_iff (haccess : db.access .users = .ok ())
    (hunique : (db.users.map (·.username)).Nodup) :
    form.validate kdf db = result ↔ Judged kdf db.users form result := by
  constructor
  · rintro rfl
    exact judged_validate kdf haccess form
  · exact (judged_validate kdf haccess form).unique hunique

/-- The messages about a form: it has a blank field, or the account is inactive and somebody has its
password, or the password is wrong for whoever has the name. -/
theorem Judged.of_validation {errors : FormErrors} (hunique : (users.map (·.username)).Nodup)
    (h : Judged kdf users form result) (hresult : result = .error (.validation errors)) :
    (¬ form.Filled ∧ form.requiredErrors = errors) ∨
      (form.Filled ∧ .nonField LoginForm.inactive = errors ∧ ∃ user, form.Names users user ∧
        Password.verifyPassword kdf form.password user.passwordHash = .ok true ∧
        user.isActive = false) ∨
      (form.Filled ∧ .nonField invalidLogin = errors ∧ ∀ user, form.Names users user →
        Password.verifyPassword kdf form.password user.passwordHash = .ok false) := by
  cases h with
  | blank hblank => exact .inl ⟨hblank, Failure.validation.inj (Except.error.inj hresult)⟩
  | unknown hfilled hnobody =>
    exact .inr (.inr ⟨hfilled, Failure.validation.inj (Except.error.inj hresult),
      fun user hnames => absurd hnames (hnobody user)⟩)
  | wrong hfilled hnames hverify =>
    refine .inr (.inr ⟨hfilled, Failure.validation.inj (Except.error.inj hresult),
      fun user hnames' => ?_⟩)
    rw [hnames'.eq hunique hnames]
    exact hverify
  | inactive hfilled hnames hverify hactive =>
    exact .inr (.inl ⟨hfilled, Failure.validation.inj (Except.error.inj hresult), _, hnames,
      hverify, hactive⟩)
  | unreadable | accepted => simp at hresult

/-- A password that is wrong for whoever has the name is refused, whether somebody has it or not. -/
theorem Judged.of_wrong (hfilled : form.Filled)
    (hwrong : ∀ user, form.Names users user →
      Password.verifyPassword kdf form.password user.passwordHash = .ok false) :
    Judged kdf users form (.error (.validation (.nonField invalidLogin))) := by
  by_cases hsomebody : ∃ user, form.Names users user
  · obtain ⟨user, hnames⟩ := hsomebody
    exact .wrong hfilled hnames (hwrong user hnames)
  · exact .unknown hfilled fun user hnames => hsomebody ⟨user, hnames⟩

/-- What becomes of a login form, where names are unique.  It is accepted for a user exactly if both
fields are filled in and the user has its name and its password and is active.  If a field is blank,
exactly the blank fields are required.  An inactive account is reported exactly to those who have
its password.  Name and password are said not to match exactly if nobody has both of them; only
where the stored hash of whoever has the name cannot be read there is a failure instead.  The tables
stay as they are. -/
theorem validate_decides (kdf : Password.KeyDerivation) (db : Database)
    (haccess : db.access .users = .ok ()) (hunique : (db.users.map (·.username)).Nodup)
    (form : LoginForm) :
    (∀ user, form.validate kdf db = .ok user ↔
      form.Filled ∧ form.Names db.users user ∧
        Password.verifyPassword kdf form.password user.passwordHash = .ok true ∧
        user.isActive = true) ∧
    (form.validate kdf db = .error (.validation form.requiredErrors) ↔ ¬ form.Filled) ∧
    (form.validate kdf db = .error (.validation (.nonField LoginForm.inactive)) ↔
      form.Filled ∧ ∃ user, form.Names db.users user ∧
        Password.verifyPassword kdf form.password user.passwordHash = .ok true ∧
        user.isActive = false) ∧
    (form.validate kdf db = .error (.validation (.nonField invalidLogin)) ↔
      form.Filled ∧ ∀ user, form.Names db.users user →
        Password.verifyPassword kdf form.password user.passwordHash = .ok false) ∧
    (∀ text, form.validate kdf db = .error (.passwordHash text) ↔
      form.Filled ∧ ∃ user e, form.Names db.users user ∧
        Password.StoredHash.parse user.passwordHash = .error e ∧ e.message = text) ∧
    ∀ (m : Moment) (v : Visit), (v.logIn m form).2.world.db = v.world.db := by
  have hiff : ∀ result, form.validate kdf db = result ↔ Judged kdf db.users form result :=
    fun _ => validate_eq_iff haccess hunique
  have hjudged := judged_validate kdf haccess form
  refine ⟨fun user => ?_, ⟨fun h => ?_, fun hblank => ?_⟩, ⟨fun h => ?_, ?_⟩, ⟨fun h => ?_, ?_⟩,
    fun text => ?_, fun m v => ?_⟩
  · rw [hiff]
    constructor
    · intro h
      cases h with
      | accepted hfilled hnames hverify hactive => exact ⟨hfilled, hnames, hverify, hactive⟩
    · rintro ⟨hfilled, hnames, hverify, hactive⟩
      exact .accepted hfilled hnames hverify hactive
  · rcases hjudged.of_validation hunique h with ⟨hblank, -⟩ | ⟨-, hsame, -⟩ | ⟨-, hsame, -⟩
    · exact hblank
    · exact absurd hsame.symm (form.requiredErrors_ne_nonField _)
    · exact absurd hsame.symm (form.requiredErrors_ne_nonField _)
  · exact (hiff _).mpr (.blank hblank)
  · rcases hjudged.of_validation hunique h with ⟨-, hsame⟩ | ⟨hfilled, -, hinactive⟩ | ⟨-, hsame, -⟩
    · exact absurd hsame (form.requiredErrors_ne_nonField _)
    · exact ⟨hfilled, hinactive⟩
    · exact absurd hsame (by decide)
  · rintro ⟨hfilled, user, hnames, hverify, hactive⟩
    exact (hiff _).mpr (.inactive hfilled hnames hverify hactive)
  · rcases hjudged.of_validation hunique h with ⟨-, hsame⟩ | ⟨-, hsame, -⟩ | ⟨hfilled, -, hwrong⟩
    · exact absurd hsame (form.requiredErrors_ne_nonField _)
    · exact absurd hsame (by decide)
    · exact ⟨hfilled, hwrong⟩
  · rintro ⟨hfilled, hwrong⟩
    exact (hiff _).mpr (.of_wrong hfilled hwrong)
  · rw [hiff]
    constructor
    · intro h
      cases h with
      | unreadable hfilled hnames hverify =>
        exact ⟨hfilled, _, _, hnames, Password.verifyPassword_eq_error_iff.mp hverify, rfl⟩
    · rintro ⟨hfilled, user, e, hnames, hparse, rfl⟩
      exact .unreadable hfilled hnames (Password.verifyPassword_eq_error_iff.mpr hparse)
  · exact World.db_eq_of_base (Visit.base_logIn m form v)

end LoginForm

namespace Sample

/-- Ann's account, with a password that is known. -/
def ann : User :=
  newUser "a" "ann" "ann@example.com" (hash "anns-word") ⟨0⟩

/-- Bob's account, which is not active. -/
def bob : User :=
  { newUser "b" "bob" "bob@example.com" (hash "bobs-word") ⟨0⟩ with isActive := false }

/-- Cleo's account, whose stored hash cannot be read. -/
def cleo : User :=
  newUser "c" "cleo" "cleo@example.com" "x" ⟨0⟩

/-- The database with the three accounts. -/
def threeAccounts : Database where
  users := [ann, bob, cleo]

end Sample

namespace LoginForm

open Sample

/-- Ann is admitted in spite of the blanks around the name, Bob learns that the account is inactive,
Cleo gets an error whatever the password, and for an empty form it is said what is missing. -/
theorem three_accounts_judged :
    validate Sample.kdf threeAccounts ⟨" ann ", "anns-word"⟩ = .ok ann ∧
    validate Sample.kdf threeAccounts ⟨"bob", "bobs-word"⟩
      = .error (.validation (.nonField LoginForm.inactive)) ∧
    validate Sample.kdf threeAccounts ⟨"cleo", "cleos-word"⟩
      = .error (.passwordHash "password hash string missing field") ∧
    validate Sample.kdf threeAccounts ⟨"\u3000", ""⟩
      = .error (.validation ⟨[("password", [FormErrors.required]),
        ("username", [FormErrors.required])]⟩) := by
  have hnames : (threeAccounts.users.map (·.username)).Nodup := by decide
  have hdecides := validate_decides Sample.kdf threeAccounts rfl hnames
  have hverify : ∀ password,
      Password.verifyPassword Sample.kdf password (hash password) = .ok true := fun password =>
    Password.verifyPassword_hashPassword Sample.kdf password (by decide) (by decide)
  refine ⟨?_, ?_, ?_, ?_⟩
  · exact ((hdecides ⟨" ann ", "anns-word"⟩).1 ann).mpr
      ⟨by decide, ⟨by decide, by decide⟩, hverify "anns-word", rfl⟩
  · exact (hdecides ⟨"bob", "bobs-word"⟩).2.2.1.mpr
      ⟨by decide, bob, ⟨by decide, by decide⟩, hverify "bobs-word", rfl⟩
  · exact ((hdecides ⟨"cleo", "cleos-word"⟩).2.2.2.2.1 _).mpr
      ⟨by decide, cleo, .missingField, ⟨by decide, by decide⟩, rfl, rfl⟩
  · exact (hdecides ⟨"\u3000", ""⟩).2.1.mpr (by decide)

end LoginForm

end CookieAuth
