import CookieAuth.Proofs.Account.Addresses
import CookieAuth.Proofs.Service.Run
import CookieAuth.Proofs.Service.Sample
import CookieAuth.Proofs.Text.Retyping

/-!
# Addresses in normal form

A registration normalizes the address of its form: it takes off the blanks around it and puts the
host in lower case.  What comes out is a normal form.  Nothing is left to normalize about it,
everything up to the last at sign is as it was typed, and whoever types the address with other
blanks or with ASCII letters in the other case gets the same host.

Every address that is stored is one that a registration normalized, or was stored without a
registration.

## Main definitions

* `Email.host?`: what stands after the last at sign of an address.

## Main results

* `Email.splitLast?_lowerHost`: where an address with its host in lower case has its last at sign;
* `Email.lowerHost_lowerHost`, `Email.trimmed_lowerHost`: nothing is left to normalize;
* `Email.lowerHost_map_lowerAscii`: the case of ASCII letters matters before the at sign only;
* `Service.normal_of_run`, `Service.normal_of_interleave`: registrations store addresses in normal
  form, one after the other and at the same time;
* `Service.stored_addresses_are_normal`: all of this together.
-/

namespace CookieAuth

open Http Text Email Time

/-! ### Hosts in lower case -/

namespace Email

/-- What stands after the last at sign of an address, if it has one. -/
def host? (email : String) : Option (List Char) :=
  (splitLast? '@' email.toList).map Prod.snd

/-- A text has no at sign, or ends with one and a host after it. -/
theorem host_cases (cs : List Char) :
    '@' ∉ cs ∨ ∃ name host, '@' ∉ host ∧ cs = name ++ '@' :: host := by
  cases hsplit : splitLast? '@' cs with
  | none => exact .inl (splitLast?_eq_none_iff.mp hsplit)
  | some parts =>
    obtain ⟨hcs, hhost⟩ := splitLast?_eq_some_iff.mp hsplit
    exact .inr ⟨parts.1, parts.2, hhost, hcs⟩

theorem at_not_mem_lowerList {host : List Char} (h : '@' ∉ host) : '@' ∉ lowerList host :=
  fun hmem => h (mem_of_mem_lowerList hmem (by decide))

theorem lowerHost_append (name : List Char) {host : List Char} (h : '@' ∉ host) :
    lowerHost (name ++ '@' :: host) = name ++ '@' :: lowerList host := by
  rw [lowerHost, splitLast?_eq_some_iff.mpr ⟨rfl, h⟩]

theorem lowerHost_of_not_mem {cs : List Char} (h : '@' ∉ cs) : lowerHost cs = cs := by
  rw [lowerHost, splitLast?_eq_none_iff.mpr h]

theorem splitLast?_lowerHost (cs : List Char) :
    splitLast? '@' (lowerHost cs) = (splitLast? '@' cs).map (Prod.map id lowerList) := by
  rcases host_cases cs with hnone | ⟨name, host, hhost, rfl⟩
  · rw [lowerHost_of_not_mem hnone, splitLast?_eq_none_iff.mpr hnone]
    rfl
  · rw [lowerHost_append name hhost, splitLast?_eq_some_iff.mpr ⟨rfl, hhost⟩]
    exact splitLast?_eq_some_iff.mpr ⟨rfl, at_not_mem_lowerList hhost⟩

theorem lowerHost_lowerHost (cs : List Char) : lowerHost (lowerHost cs) = lowerHost cs := by
  rcases host_cases cs with hnone | ⟨name, host, hhost, rfl⟩
  · rw [lowerHost_of_not_mem hnone, lowerHost_of_not_mem hnone]
  · rw [lowerHost_append name hhost, lowerHost_append name (at_not_mem_lowerList hhost),
      lowerList_lowerList]

theorem getLast?_append_at (name host : List Char) :
    (name ++ '@' :: host).getLast? = some (host.getLast?.getD '@') := by
  rw [List.getLast?_append, List.getLast?_cons]
  rfl

/-- Lower case makes no blank at the end of an address. -/
theorem trimmed_lowerHost {cs : List Char} (h : Trimmed cs) : Trimmed (lowerHost cs) := by
  rcases host_cases cs with hnone | ⟨name, host, hhost, rfl⟩
  · rwa [lowerHost_of_not_mem hnone]
  · rw [lowerHost_append name hhost]
    constructor
    · have hhead := h.head
      simpa using hhead
    · intro c hc
      have hlast := h.last
      rw [getLast?_append_at] at hc hlast
      obtain rfl := Option.some.inj hc
      cases hlower : (lowerList host).getLast? with
      | none =>
        -- The at sign comes last.
        decide
      | some d =>
        refine isBlank_of_getLast?_lowerList ?_ hlower
        intro c' hc'
        exact hlast c' (by rw [show host.getLast? = some c' from hc']; rfl)

/-- The case of ASCII letters matters before the at sign only, where it stays. -/
theorem lowerHost_map_lowerAscii (cs : List Char) :
    lowerHost (cs.map lowerAscii) = (lowerHost cs).map lowerAscii := by
  unfold lowerHost
  rw [splitLast?_map_lowerAscii]
  cases splitLast? '@' cs with
  | none => rfl
  | some parts =>
    have hat : lowerAscii '@' = '@' := by decide
    simp [lowerList_map_lowerAscii, map_lowerAscii_lowerList, hat]

/-- The host in lower case does not depend on the case of ASCII letters. -/
theorem lowerList_host_map_lowerAscii (cs : List Char) :
    (splitLast? '@' (cs.map lowerAscii)).map (fun parts => lowerList parts.2)
      = (splitLast? '@' cs).map (fun parts => lowerList parts.2) := by
  rw [splitLast?_map_lowerAscii, Option.map_map]
  congr 1
  funext parts
  exact lowerList_map_lowerAscii parts.2

/-! ### Normalized addresses -/

theorem toList_normalizeEmail (email : String) :
    (normalizeEmail email).toList = lowerHost (trimList email.toList) :=
  String.toList_ofList

theorem trimmed_normalizeEmail (email : String) : Trimmed (normalizeEmail email).toList := by
  rw [toList_normalizeEmail]
  exact trimmed_lowerHost (trimmed_trimList _)

@[simp] theorem normalizeEmail_normalizeEmail (email : String) :
    normalizeEmail (normalizeEmail email) = normalizeEmail email := by
  rw [← String.toList_inj, toList_normalizeEmail, (trimmed_normalizeEmail email).trimList_eq,
    toList_normalizeEmail, lowerHost_lowerHost]

theorem host?_normalizeEmail (email : String) :
    host? (normalizeEmail email)
      = (splitLast? '@' (trimList email.toList)).map (fun parts => lowerList parts.2) := by
  rw [host?, toList_normalizeEmail, splitLast?_lowerHost, Option.map_map]
  rfl

/-- An address that is typed again has the same host, and the same characters but for the case of
ASCII letters. -/
theorem normalizeEmail_of_retyped {email other : String} (h : Retyped email other) :
    (normalizeEmail email).toList.map lowerAscii = (normalizeEmail other).toList.map lowerAscii ∧
      host? (normalizeEmail email) = host? (normalizeEmail other) := by
  have hcase := retyped_iff.mp h
  constructor
  · rw [toList_normalizeEmail, toList_normalizeEmail, ← lowerHost_map_lowerAscii, hcase,
      lowerHost_map_lowerAscii]
  · rw [host?_normalizeEmail, host?_normalizeEmail, ← lowerList_host_map_lowerAscii, hcase,
      lowerList_host_map_lowerAscii]

end Email

/-! ### Stored addresses -/

theorem RegistrationForm.normal_of_validate_ok {db : Database} {form : RegistrationForm}
    {account : NewAccount} (h : form.validate db = .ok account) :
    normalizeEmail account.email = account.email := by
  obtain ⟨rfl, -⟩ := of_validate_ok h
  exact normalizeEmail_normalizeEmail form.email

namespace Service

variable {s : Service} {now : Instant} {w : World} {user : User}

/-- A user who is there after a request was there before, or has an address in normal form. -/
theorem normal_of_handle {r : Request} (h : user ∈ (s.handle now r w).world.db.users) :
    user ∈ w.db.users ∨ normalizeEmail user.email = user.email := by
  rcases s.sameUsers_or_registered now r w with
    hsame | ⟨form, account, joined, w', hvalid, hmade, hjoined⟩
  · rw [hsame.users] at h
    exact .inl h
  · rw [hjoined.users, List.mem_append, List.mem_singleton] at h
    rcases h with hold | rfl
    · exact .inl hold
    · obtain ⟨rfl, -⟩ := World.of_register_ok hmade
      exact .inr (RegistrationForm.normal_of_validate_ok hvalid)

/-- After an act, this is also true of users who are not made by it in some other way. -/
theorem normal_of_perform {act : Act} (h : user ∈ (s.perform now w act).db.users) :
    user ∈ w.db.users ∨
      (∃ username passwordHash, act = .createUser username user.email passwordHash) ∨
      normalizeEmail user.email = user.email := by
  cases act with
  | request r => exact (normal_of_handle h).imp_right .inr
  | createUser username email passwordHash =>
    simp only [perform] at h
    split at h
    · next hmade =>
      obtain ⟨rfl, -, -, rfl⟩ := World.of_createUser_ok hmade
      rcases List.mem_append.mp h with hold | hnew
      · exact .inl hold
      · obtain rfl := List.mem_singleton.mp hnew
        exact .inr (.inl ⟨username, passwordHash, rfl⟩)
    · exact .inl h
  | deleteUser id =>
    simp only [perform] at h
    split at h
    · next hdelete =>
      obtain rfl := Database.of_deleteUser_ok hdelete
      exact .inl (List.mem_filter.mp h).1
    · exact .inl h
  | cleanUp =>
    simp only [perform] at h
    split at h
    · next hdelete =>
      obtain rfl := Database.of_deleteExpired_ok hdelete
      exact .inl h
    · exact .inl h

/-- A user who is there after a run was there before, was made without a registration, or has an
address in normal form. -/
theorem normal_of_run (s : Service) (w : World) (deeds : List Deed) :
    ∀ user ∈ (s.run w deeds).world.db.users, user ∈ w.db.users ∨
      (∃ d ∈ deeds, ∃ username passwordHash, d.act = .createUser username user.email passwordHash) ∨
      normalizeEmail user.email = user.email := by
  refine world_run_induction (P := fun w' => ∀ user ∈ w'.db.users, user ∈ w.db.users ∨
    (∃ d ∈ deeds, ∃ username passwordHash, d.act = .createUser username user.email passwordHash) ∨
    normalizeEmail user.email = user.email) (fun _ hold => .inl hold) ?_
  intro w' d hd hbefore user h
  rcases normal_of_perform h with hold | ⟨username, passwordHash, hact⟩ | hnormal
  · exact hbefore user hold
  · exact .inr (.inl ⟨d, hd, username, passwordHash, hact⟩)
  · exact .inr (.inr hnormal)

/-- A user who is there after registrations that ran at the same time was there before, or has an
address in normal form. -/
theorem normal_of_interleave (s : Service) (w : World) (steps : List Step) :
    ∀ user ∈ (s.interleave w steps).users,
      user ∈ w.db.users ∨ normalizeEmail user.email = user.email := by
  intro user h
  by_cases hold : user ∈ w.db.users
  · exact .inl hold
  · right
    -- Someone stored the user, with an account whose form was checked before.
    have hlate : user ∈ (s.interleave w ([] ++ steps)).users := h
    have hnew : user ∉ (s.interleave w []).users := hold
    obtain ⟨first, step, rest, -, hstores⟩ := origin_of_user hlate hnew
    cases step with
    | validate n form => exact hstores.elim
    | delete id => exact hstores.elim
    | save n now =>
      obtain ⟨account, haccount, hemail⟩ := email_of_stores hstores
      obtain ⟨_, form, _, -, hvalid, -⟩ := origin_of_account haccount
      rw [hemail]
      exact RegistrationForm.normal_of_validate_ok hvalid

/-- Normalizing an address twice is normalizing it once.  What comes out has no blank at either end;
up to its last at sign it is the address without the blanks around it, and it is that address if
there is no at sign.  Addresses that differ only by the blanks around them and by the case of ASCII
letters give the same host, and the same address but for the case of ASCII letters.

So every user whom a request adds has an address that is its own normal form.  The same is true
after a run, apart from users who were made without a registration, and after registrations that ran
at the same time. -/
theorem stored_addresses_are_normal (email : String) :
    (normalizeEmail (normalizeEmail email) = normalizeEmail email ∧
      Trimmed (normalizeEmail email).toList ∧
      (∀ name host, (trim email).toList = name ++ '@' :: host → '@' ∉ host →
        normalizeEmail email = String.ofList (name ++ '@' :: lowerList host) ∧
          '@' ∉ lowerList host) ∧
      ('@' ∉ (trim email).toList → normalizeEmail email = trim email)) ∧
    (∀ other, Retyped email other →
      (normalizeEmail email).toList.map lowerAscii = (normalizeEmail other).toList.map lowerAscii ∧
        host? (normalizeEmail email) = host? (normalizeEmail other)) ∧
    (∀ (s : Service) (now : Instant) (r : Request) (w : World),
      ∀ user ∈ (s.handle now r w).world.db.users,
        user ∈ w.db.users ∨ normalizeEmail user.email = user.email) ∧
    (∀ (s : Service) (w : World) (deeds : List Deed), ∀ user ∈ (s.run w deeds).world.db.users,
      user ∈ w.db.users ∨
        (∃ d ∈ deeds, ∃ username passwordHash,
          d.act = .createUser username user.email passwordHash) ∨
        normalizeEmail user.email = user.email) ∧
    ∀ (s : Service) (w : World) (steps : List Step), ∀ user ∈ (s.interleave w steps).users,
      user ∈ w.db.users ∨ normalizeEmail user.email = user.email := by
  have htrim : (trim email).toList = trimList email.toList := String.toList_ofList
  refine ⟨⟨normalizeEmail_normalizeEmail email, trimmed_normalizeEmail email, ?_, ?_⟩,
    fun other => normalizeEmail_of_retyped, fun s now r w user => normal_of_handle, normal_of_run,
    normal_of_interleave⟩
  · intro name host htyped hhost
    rw [htrim] at htyped
    rw [normalizeEmail, htyped, lowerHost_append name hhost]
    exact ⟨rfl, at_not_mem_lowerList hhost⟩
  · intro hnone
    rw [htrim] at hnone
    rw [normalizeEmail, lowerHost_of_not_mem hnone]
    rfl

end Service

namespace Sample

/-- Two registrations at the same time, with blanks and capital letters in their addresses. -/
def shouted : List Step :=
  [.validate 0 ⟨"bob", " Bob@Example.ORG\t", "long-enough", "long-enough"⟩,
    .validate 1 ⟨"rob", "ROB@EXAMPLE.ORG", "long-enough", "long-enough"⟩, .save 1 ⟨0⟩, .save 0 ⟨0⟩]

end Sample

namespace Service

open Sample

/-- A Greek host ends with a final sigma, whatever the case of its Latin letters, and the addresses
of two registrations are stored with small letters in their hosts. -/
theorem retyped_and_shouted_addresses :
    Retyped " Anna@Mail.ΟΔΟΣ" "ANNA@mAIL.ΟΔΟΣ\n" ∧
      host? (normalizeEmail "ANNA@mAIL.ΟΔΟΣ\n") = some "mail.οδος".toList ∧
      (service.interleave {} shouted).users.map (·.email)
        = ["ROB@example.org", "Bob@example.org"] ∧
      ∀ user ∈ (service.interleave {} shouted).users,
        normalizeEmail user.email = user.email := by
  have hretyped : Retyped " Anna@Mail.ΟΔΟΣ" "ANNA@mAIL.ΟΔΟΣ\n" :=
    retyped_iff.mpr (by decide +kernel)
  obtain ⟨-, htyped, -, -, hstored⟩ := stored_addresses_are_normal " Anna@Mail.ΟΔΟΣ"
  refine ⟨hretyped, ?_, by decide +kernel, ?_⟩
  · rw [← (htyped _ hretyped).2]
    decide +kernel
  · intro user huser
    exact (hstored service {} shouted user huser).resolve_left List.not_mem_nil

end Service

end CookieAuth
