import CookieAuth.Proofs.Account.Interleaving
import CookieAuth.Proofs.Service.Sample

/-!
# Accounts that are taken in the meantime

After a form was checked, another registration may take its name or its address.  Making the account
then fails in the database, and the failure is reported as one message about the field that is
taken.  The report is true: somebody has that name or that address at that moment.

## Main definitions

* `Conflict`: the message about a name or an address that some user has;
* `Registrations.Ready`: the users can be reached, and the identifiers still to be drawn are free.

## Main results

* `World.register_cases`: making an account succeeds, or reports a conflict;
* `Service.save_appends_or_conflicts`: so does every registration, whatever happened before.
-/

namespace CookieAuth

open Time

/-- The one message about a value of an account that some user has already. -/
inductive Conflict (users : List User) (account : NewAccount) : FormErrors → Prop where
  /-- The name is taken. -/
  | username {row : User} (hrow : row ∈ users) (htaken : row.username = account.username) :
      Conflict users account ⟨[("username", [RegistrationForm.duplicateUsername])]⟩
  /-- The address is taken. -/
  | email {row : User} (hrow : row ∈ users) (htaken : row.email = account.email) :
      Conflict users account ⟨[("email", [RegistrationForm.duplicateEmail])]⟩

/-! ### One account -/

/-- A column in which a user repeats a value is one in which some row has this value. -/
theorem Database.of_duplicate?_eq_some {db : Database} {user : User} {column : Column}
    (h : db.duplicate? user = some column) :
    (column = .email ∧ ∃ row ∈ db.users, row.email = user.email) ∨
      (column = .username ∧ ∃ row ∈ db.users, row.username = user.username) ∨
      (column = .userId ∧ ∃ row ∈ db.users, row.id = user.id) := by
  unfold Database.duplicate? Database.hasUser at h
  split at h
  · next hemail =>
    obtain rfl := Option.some.inj h
    exact .inl ⟨rfl, by simpa using hemail⟩
  · split at h
    · next hname =>
      obtain rfl := Option.some.inj h
      exact .inr (.inl ⟨rfl, by simpa using hname⟩)
    · split at h
      · next hid =>
        obtain rfl := Option.some.inj h
        exact .inr (.inr ⟨rfl, by simpa using hid⟩)
      · simp at h

namespace World

variable {s : Service} {w : World}

/-- A repeated value is an error of the form. -/
theorem registrationFailure_duplicate (column : Column) :
    registrationFailure (.duplicate column) = .validation (takenErrors (.duplicate column)) := by
  cases column <;> rfl

/-- The field that is blamed for a repeated value: the text of the report names the address only if
it is the address that is repeated. -/
theorem takenErrors_duplicate (column : Column) :
    takenErrors (.duplicate column) =
      if column = .email then ⟨[("email", [RegistrationForm.duplicateEmail])]⟩
      else ⟨[("username", [RegistrationForm.duplicateUsername])]⟩ := by
  cases column <;> decide +kernel

/-- Where the users can be reached, only a repeated value keeps a user from being made. -/
theorem of_createUser_error {now : Instant} {username email passwordHash : String} {e : DbError}
    (haccess : w.db.access .users = .ok ())
    (h : w.createUser s now username email passwordHash = .error e) :
    ∃ column, e = .duplicate column ∧ w.db.duplicate?
      (newUser (s.supply.userId w.draws.users) username email passwordHash now) = some column := by
  unfold createUser Database.insertUser Database.on at h
  dsimp only at h
  rw [haccess] at h
  dsimp only at h
  cases hdup : w.db.duplicate?
      (newUser (s.supply.userId w.draws.users) username email passwordHash now) with
  | none => simp [hdup] at h
  | some column =>
    simp only [hdup, Except.error.injEq] at h
    exact ⟨column, h.symm, rfl⟩

/-- Making an account succeeds, or reports a conflict, provided that the users can be reached and
the next identifier is free. -/
theorem register_cases (haccess : w.db.access .users = .ok ())
    (hfree : ∀ u ∈ w.db.users, s.supply.userId w.draws.users ≠ u.id) (now : Instant)
    (account : NewAccount) :
    (∃ user w', w.register s now account = .ok (user, w')) ∨
      ∃ errors, w.register s now account = .error (.validation errors) ∧
        Conflict w.db.users account errors := by
  unfold register
  cases hmade : w.createUser s now account.username account.email
      (w.hashNext s account.password) with
  | ok made => exact .inl ⟨made.1, made.2, rfl⟩
  | error e =>
    obtain ⟨column, rfl, hdup⟩ := of_createUser_error haccess hmade
    refine .inr ⟨takenErrors (.duplicate column), ?_, ?_⟩
    · dsimp only
      rw [registrationFailure_duplicate]
    · rw [takenErrors_duplicate]
      rcases Database.of_duplicate?_eq_some hdup with
        ⟨rfl, row, hrow, htaken⟩ | ⟨rfl, row, hrow, htaken⟩ | ⟨-, row, hrow, htaken⟩
      · exact .email hrow htaken
      · exact .username hrow htaken
      · -- Without a free identifier, a repeated one would be blamed on the name.
        exact absurd htaken.symm (hfree row hrow)

end World

/-! ### All registrations -/

/-- The users can be reached, and the identifiers still to be drawn are free. -/
structure Registrations.Ready (s : Service) (reg : Registrations) : Prop where
  /-- The users can be reached. -/
  access : reg.world.db.access .users = .ok ()
  /-- No identifier of a user is going to be drawn. -/
  fresh : ∀ u ∈ reg.users, ∀ n, reg.world.draws.users ≤ n → s.supply.userId n ≠ u.id

namespace Service

variable {s : Service} {w : World} {reg : Registrations}

/-- A step does not take tables away. -/
theorem access_step (s : Service) (reg : Registrations) (step : Step) (table : Table) :
    (s.step reg step).world.db.access table = reg.world.db.access table := by
  cases step with
  | validate n form => rfl
  | save n now =>
    simp only [Service.step]
    split
    · rfl
    · split
      · next hmade =>
        obtain ⟨-, -, -, rfl⟩ := World.of_register_ok hmade
        rfl
      · rfl
  | delete id =>
    simp only [Service.step]
    split
    · next db hdelete =>
      obtain ⟨-, hresult⟩ := Database.of_on_ok hdelete
      obtain rfl := Except.ok.inj hresult
      rfl
    · rfl

/-- Every step keeps the registrations ready, if no identifier is drawn twice. -/
theorem ready_step (honce : ∀ m n, s.supply.userId m = s.supply.userId n → m = n)
    (h : reg.Ready s) (step : Step) : (s.step reg step).Ready s where
  access := (access_step s reg step .users).trans h.access
  fresh u hu n hn := by
    rcases s.users_step reg step with ⟨joined, hstores⟩ | ⟨hfewer, hdraws⟩
    · have hjoined := joined_of_stores hstores
      rw [hjoined.draws] at hn
      rw [Registrations.users, hjoined.users, List.mem_append, List.mem_singleton] at hu
      rcases hu with hold | rfl
      · -- The identifiers still to be drawn only got fewer.
        exact h.fresh u hold n (by omega)
      · intro hid
        rw [hjoined.id] at hid
        have := honce _ _ hid
        omega
    · rw [hdraws] at hn
      exact h.fresh u (hfewer.subset hu) n hn

/-- Whatever happened before, a registration that makes its account adds one active user with the
name and the address of the account; or it leaves the world as it is and reports one field of the
account that some user has. -/
theorem save_appends_or_conflicts (s : Service) (w : World)
    (haccess : w.db.access .users = .ok ())
    (hfresh : ∀ u ∈ w.db.users, ∀ n, w.draws.users ≤ n → s.supply.userId n ≠ u.id)
    (honce : ∀ m n, s.supply.userId m = s.supply.userId n → m = n) (steps : List Step) (n : Nat)
    (now : Instant) (account : NewAccount)
    (haccount : (s.interleave w steps).accounts n = some account) :
    (∃ user w', (s.interleave w steps).world.register s now account = .ok (user, w') ∧
      (s.interleave w (steps ++ [.save n now])).users = (s.interleave w steps).users ++ [user] ∧
      user.isActive = true ∧ user.username = account.username ∧ user.email = account.email) ∨
    ∃ errors, (s.interleave w steps).world.register s now account = .error (.validation errors) ∧
      (s.interleave w (steps ++ [.save n now])).world = (s.interleave w steps).world ∧
      Conflict (s.interleave w steps).users account errors := by
  have hready : (s.interleave w steps).Ready s := by
    refine interleave_induction (P := fun reg => reg.Ready s) ⟨haccess, hfresh⟩ ?_ steps
    intro reg step hreg
    exact ready_step honce hreg step
  have hfree : ∀ u ∈ (s.interleave w steps).world.db.users,
      s.supply.userId (s.interleave w steps).world.draws.users ≠ u.id := by
    intro u hu
    exact hready.fresh u hu _ (Nat.le_refl _)
  rw [interleave_concat]
  rcases World.register_cases hready.access hfree now account with
    ⟨user, w', hmade⟩ | ⟨errors, hfailed, hconflict⟩
  · have hstores : Stores s (s.interleave w steps) (.save n now) user :=
      ⟨account, w', haccount, hmade⟩
    refine .inl ⟨user, w', hmade, users_of_stores hstores, ?_⟩
    obtain ⟨rfl, -, -, -⟩ := World.of_register_ok hmade
    exact ⟨rfl, rfl, rfl⟩
  · refine .inr ⟨errors, hfailed, ?_, hconflict⟩
    simp [Service.step, haccount, hfailed]

end Service

namespace Sample

/-- Two registrations with the same name are checked, and the first makes its account. -/
def sameName : List Step :=
  [.validate 0 ⟨"bob", "bob@example.com", "long-enough", "long-enough"⟩,
    .validate 1 ⟨"bob", "rob@example.com", "long-enough", "long-enough"⟩, .save 0 ⟨0⟩]

end Sample

namespace Service

open Sample

/-- The second registration then reports a conflict. -/
theorem save_conflicts_after_sameName :
    ∃ errors, (service.interleave {} sameName).world.register service ⟨1⟩
        ⟨"bob", "rob@example.com", "long-enough"⟩ = .error (.validation errors) ∧
      Conflict (service.interleave {} sameName).users ⟨"bob", "rob@example.com", "long-enough"⟩
        errors := by
  rcases save_appends_or_conflicts service {} rfl (by simp) userId_injective sameName 1 ⟨1⟩
      ⟨"bob", "rob@example.com", "long-enough"⟩ (by decide +kernel) with
    ⟨user, w', -, husers, -⟩ | ⟨errors, hfailed, -, hconflict⟩
  · have hone : (service.interleave {} (sameName ++ [.save 1 ⟨1⟩])).users.length
        = (service.interleave {} sameName).users.length := by decide +kernel
    rw [husers] at hone
    simp at hone
  · exact ⟨errors, hfailed, hconflict⟩

end Service

end CookieAuth
