import CookieAuth.Proofs.Account.Addresses
import CookieAuth.Proofs.Account.Atomicity
import CookieAuth.Proofs.Account.Resets
import CookieAuth.Proofs.Email.Hosts

/-!
# Addresses that are typed again

Whoever registered with an address and forgot the password types the address again.  A registration
stores the address with its host in lower case, by the rules for all scripts.  A request for a new
password takes the address as it is typed and looks it up without regard to the case of ASCII
letters.  So the user is found, unless lower case changes a character of the host that is not ASCII.

## Main definitions

* `ResetForm.Finds`: a form for a new password concerns a user.

## Main results

* `Email.isEmail_append`: an address is made of two parts around its last at sign;
* `Email.sameIgnoringCase_normalizeEmail_iff`: when a normalized address is found under what was
  typed;
* `ResetForm.finds_iff`: which users a form concerns;
* `Service.finds_registered_iff`: when the address of a registration finds the new user.
-/

namespace CookieAuth

open Http Text Email Time

/-! ### Typed and stored addresses -/

namespace Email

variable {email : String} {name host : List Char}

/-- An address is made of a local part and a host part around the last at sign. -/
theorem isEmail_append (hhost : '@' ∉ host) :
    isEmail (String.ofList (name ++ '@' :: host)) = (isLocalPart name && isHostPart host) := by
  unfold isEmail
  rw [String.toList_ofList, splitLast?_eq_some_iff.mpr ⟨rfl, hhost⟩]

/-- What has an at sign is not blank. -/
theorem isBlankText_of_isEmail (h : isEmail email = true) : isBlankText email = false := by
  unfold isEmail at h
  split at h
  · simp at h
  · next before after hsplit =>
    obtain ⟨hlist, -⟩ := splitLast?_eq_some_iff.mp hsplit
    exact List.all_eq_false.mpr ⟨'@', by rw [hlist]; simp, by decide⟩

theorem normalizeEmail_append (htyped : trimList email.toList = name ++ '@' :: host)
    (hhost : '@' ∉ host) :
    normalizeEmail email = String.ofList (name ++ '@' :: lowerList host) := by
  unfold normalizeEmail lowerHost
  rw [htyped, splitLast?_eq_some_iff.mpr ⟨rfl, hhost⟩]

/-- What is well-formed after normalizing had an at sign before. -/
theorem exists_host_of_isEmail (h : isEmail (normalizeEmail email) = true) :
    ∃ name host, trimList email.toList = name ++ '@' :: host ∧ '@' ∉ host := by
  cases hsplit : splitLast? '@' (trimList email.toList) with
  | some parts =>
    obtain ⟨name, host⟩ := parts
    exact ⟨name, host, splitLast?_eq_some_iff.mp hsplit⟩
  | none =>
    -- Without an at sign nothing is put in lower case.
    have hsame : normalizeEmail email = String.ofList (trimList email.toList) := by
      rw [normalizeEmail, lowerHost, hsplit]
    rw [hsame, isEmail, String.toList_ofList, hsplit] at h
    simp at h

/-- Without a zero byte, a normalized address is found under what was typed if its host is
stable. -/
theorem sameIgnoringCase_normalizeEmail_iff
    (htyped : trimList email.toList = name ++ '@' :: host) (hhost : '@' ∉ host)
    (hzero : 0 ∉ bytesOf (trim email)) :
    sameIgnoringCase (normalizeEmail email) (trim email) = true ↔ CaseStable host := by
  rw [sameIgnoringCase_iff hzero, foldCase_eq_iff, normalizeEmail_append htyped hhost, trim, htyped,
    caseStable_iff]
  simp

/-- If the host is stable, what is well-formed after normalizing was so before. -/
theorem isEmail_trim_of_caseStable (htyped : trimList email.toList = name ++ '@' :: host)
    (hhost : '@' ∉ host) (hstable : CaseStable host)
    (h : isEmail (normalizeEmail email) = true) : isEmail (trim email) = true := by
  have hlower : '@' ∉ host.map lowerAscii := by
    intro hmem
    obtain ⟨c, hc, hat⟩ := List.mem_map.mp hmem
    have hsame := comp_lowerAscii (fun c => decide (c = '@')) (by decide +kernel) c
    rw [hat] at hsame
    obtain rfl : c = '@' := by simpa using hsame.symm
    exact hhost hc
  rw [normalizeEmail_append htyped hhost, lowerList_of_caseStable hstable, isEmail_append hlower,
    isHostPart_map_lowerAscii] at h
  rw [trim, htyped, isEmail_append hhost]
  exact h

end Email

/-! ### Users that a form concerns -/

namespace ResetForm

variable {db : Database} {form : ResetForm} {user : User}

/-- A form for a new password concerns a user. -/
def Finds (form : ResetForm) (db : Database) (user : User) : Prop :=
  ∃ request, form.validate db = .ok request ∧ user ∈ request.users

/-- A form concerns an active user if its address is well-formed and looked up as that of the
user. -/
theorem finds_iff (haccess : db.access .users = .ok ()) (hmem : user ∈ db.users)
    (hactive : user.isActive = true) :
    form.Finds db user ↔ isEmail (trim form.email) = true ∧
      sameIgnoringCase user.email (trim form.email) = true := by
  have howner : user ∈ db.owners (trim form.email) ↔
      sameIgnoringCase user.email (trim form.email) = true := by
    simp [Database.owners, hmem, hactive]
  constructor
  · rintro ⟨request, hvalid, hrequest⟩
    by_cases hreaches : form.Reaches db
    · rw [validate_of_reaches haccess hreaches] at hvalid
      obtain rfl := Except.ok.inj hvalid
      exact ⟨hreaches.2.1, howner.mp hrequest⟩
    · obtain ⟨messages, hinvalid⟩ := validate_of_not_reaches haccess hreaches
      rw [hinvalid] at hvalid
      simp at hvalid
  · rintro ⟨hemail, hsame⟩
    have hfound := howner.mpr hsame
    have hreaches : form.Reaches db :=
      ⟨isBlankText_of_isEmail hemail, hemail, List.ne_nil_of_mem hfound⟩
    exact ⟨_, validate_of_reaches haccess hreaches, hfound⟩

end ResetForm

namespace Service

/-- A registration that succeeds makes a user whose address is that of the form, with the host in
lower case.  The address that was typed into the form finds this user if it is well-formed as it is
and looked up as the stored one.  If it has no zero byte, it does so exactly if lower case changes
no other characters of the host than ASCII letters. -/
theorem finds_registered_iff (s : Service) (now : Instant) (r : Request) (w : World)
    (hroute : Route.ofPath? r.path = some .register) {form : RegistrationForm}
    (hread : RegistrationForm.read r = .ok form) (hok : (s.handle now r w).Succeeds) :
    ∃ user name host, (s.handle now r w).world.db.users = w.db.users ++ [user] ∧
      trim form.email = String.ofList (name ++ '@' :: host) ∧ '@' ∉ host ∧
      user.email = String.ofList (name ++ '@' :: lowerList host) ∧
      (ResetForm.Finds ⟨form.email⟩ (s.handle now r w).world.db user ↔
        isEmail (trim form.email) = true ∧
          sameIgnoringCase user.email (trim form.email) = true) ∧
      (0 ∉ bytesOf (trim form.email) →
        (ResetForm.Finds ⟨form.email⟩ (s.handle now r w).world.db user ↔ CaseStable host)) := by
  obtain ⟨user, henrols⟩ := enrols_of_succeeds hroute hok
  obtain ⟨hdb, -⟩ := account_of_enrols henrols
  obtain ⟨form', account, w₁, hread', hvalid, hmade⟩ := henrols.made
  obtain rfl := Except.ok.inj (hread.symm.trans hread')
  obtain ⟨huser, haccess, -, -⟩ := World.of_register_ok hmade
  have hstored : user.email = normalizeEmail form.email := by
    rw [huser, (RegistrationForm.of_validate_ok hvalid).1]
    rfl
  have hemail : isEmail (normalizeEmail form.email) = true := by
    have hchecked := RegistrationForm.isEmail_of_validate_ok hvalid
    rwa [(RegistrationForm.of_validate_ok hvalid).1] at hchecked
  obtain ⟨name, host, htyped, hhost⟩ := exists_host_of_isEmail hemail
  have hfinds : ResetForm.Finds ⟨form.email⟩ (s.handle now r w).world.db user ↔
      isEmail (trim form.email) = true ∧
        sameIgnoringCase user.email (trim form.email) = true := by
    apply ResetForm.finds_iff
    · rw [hdb]
      exact haccess
    · rw [hdb]
      exact List.mem_append_right _ (List.mem_singleton_self user)
    · rw [huser]
      rfl
  refine ⟨user, name, host, by rw [hdb], congrArg String.ofList htyped, hhost,
    hstored.trans (normalizeEmail_append htyped hhost), hfinds, ?_⟩
  intro hzero
  rw [hfinds, hstored, sameIgnoringCase_normalizeEmail_iff htyped hhost hzero]
  constructor
  · exact And.right
  · intro hstable
    exact ⟨isEmail_trim_of_caseStable htyped hhost hstable hemail, hstable⟩

end Service

namespace Sample

/-- Anna registers with an address, the host of which has a letter beyond ASCII. -/
def hostForm (host : String) : Request :=
  post "/api/auth/register"
    ("username=anna&email=Anna%40" ++ host
      ++ "%5B%3A%3A1%5D&password1=long-enough&password2=long-enough") ""

/-- The letter is a small one, and other letters are capital. -/
def smallForm : Request := hostForm "%C3%A9.Example"

/-- The letter is a capital one. -/
def capitalForm : Request := hostForm "%C3%89.example"

end Sample

namespace Service

open Sample

/-- An address whose host has capital letters and a small letter beyond ASCII finds its user. -/
theorem finds_small_letter :
    ∃ user, (service.handle ⟨0⟩ smallForm {}).world.db.users = [user] ∧
      user.email = "Anna@é.example[::1]" ∧
      ResetForm.Finds ⟨"Anna@é.Example[::1]"⟩ (service.handle ⟨0⟩ smallForm {}).world.db user := by
  have hread : RegistrationForm.read smallForm
      = .ok ⟨"anna", "Anna@é.Example[::1]", "long-enough", "long-enough"⟩ :=
    eq_ok_of_toOption (by decide +kernel)
  obtain ⟨user, name, host, husers, htyped, hhost, hstored, -, hfinds⟩ :=
    finds_registered_iff service ⟨0⟩ smallForm {} (by decide +kernel) hread
      ((Handled.status?_eq_iff _).mp (by decide +kernel))
  have hsplit : splitLast? '@' (trim "Anna@é.Example[::1]").toList = some (name, host) := by
    rw [htyped, String.toList_ofList]
    exact splitLast?_eq_some_iff.mpr ⟨rfl, hhost⟩
  obtain ⟨rfl, rfl⟩ : "Anna".toList = name ∧ "é.Example[::1]".toList = host := by
    rw [show splitLast? '@' (trim "Anna@é.Example[::1]").toList
      = some ("Anna".toList, "é.Example[::1]".toList) by decide +kernel] at hsplit
    exact Prod.mk.inj (Option.some.inj hsplit)
  refine ⟨user, husers, ?_, (hfinds (by decide +kernel)).mpr (by decide +kernel)⟩
  rw [hstored]
  decide +kernel

/-- An address whose host has a capital letter beyond ASCII finds nobody, although a registration
with it succeeds. -/
theorem capital_letter_finds_nobody :
    RegistrationForm.read capitalForm
        = .ok ⟨"anna", "Anna@É.example[::1]", "long-enough", "long-enough"⟩ ∧
      (service.handle ⟨0⟩ capitalForm {}).Succeeds ∧
      ∀ user, ¬ ResetForm.Finds ⟨"Anna@É.example[::1]"⟩
        (service.handle ⟨0⟩ capitalForm {}).world.db user := by
  refine ⟨eq_ok_of_toOption (by decide +kernel), (Handled.status?_eq_iff _).mp (by decide +kernel),
    ?_⟩
  rintro user ⟨request, hvalid, -⟩
  have hnone : (ResetForm.validate (service.handle ⟨0⟩ capitalForm {}).world.db
      ⟨"Anna@É.example[::1]"⟩).toOption = none := by
    decide +kernel
  rw [hvalid] at hnone
  simp [Except.toOption] at hnone

end Service

end CookieAuth
