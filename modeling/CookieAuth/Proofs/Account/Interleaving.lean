import CookieAuth.Proofs.Service.Actions
import Mathlib.Data.List.Induction

/-!
# Registrations that run at the same time

A registration first checks its form against the database and then makes the account.  Between the
two, other registrations may check and make theirs, and users may be deleted.  This file has the
system of all these steps, in any order, and says where its users and its checked accounts come
from.

## Main definitions

* `Step`: a step of one of the registrations, or the deletion of a user;
* `Registrations`: the world and the accounts that were checked but not made yet;
* `Service.interleave`: the state after some steps;
* `Stores`: a step that makes a user.

## Main results

* `Service.users_step`: a step makes a user, or leaves at most the users who were there;
* `Service.origin_of_account`: a checked account was checked by the latest step of its registration;
* `Service.origin_of_user`: a user who was not there before was made in between.
-/

namespace CookieAuth

open Time

/-- A step of one of the registrations, or the deletion of a user. -/
inductive Step where
  /-- A registration checks its form. -/
  | validate (n : Nat) (form : RegistrationForm)
  /-- A registration makes the account that it has checked. -/
  | save (n : Nat) (now : Instant)
  /-- A user is deleted. -/
  | delete (id : String)

/-- The registration to which a step belongs. -/
def Step.registration? : Step → Option Nat
  | .validate n _ => some n
  | .save n _ => some n
  | .delete _ => none

/-- The world and the accounts that were checked but not made yet, by registration. -/
structure Registrations where
  /-- The world. -/
  world : World
  /-- The accounts. -/
  accounts : Nat → Option NewAccount := fun _ => none

namespace Registrations

/-- The users. -/
def users (reg : Registrations) : List User :=
  reg.world.db.users

/-- The state in which a registration has an account, or none. -/
def put (reg : Registrations) (n : Nat) (account : Option NewAccount) : Registrations :=
  { reg with accounts := fun m => if m = n then account else reg.accounts m }

@[simp] theorem world_put (reg : Registrations) (n : Nat) (account : Option NewAccount) :
    (reg.put n account).world = reg.world := rfl

theorem accounts_put (reg : Registrations) (n m : Nat) (account : Option NewAccount) :
    (reg.put n account).accounts m = if m = n then account else reg.accounts m := rfl

end Registrations

namespace Service

variable (s : Service)

/-- The state after a step. -/
def step (reg : Registrations) : Step → Registrations
  | .validate n form => reg.put n (form.validate reg.world.db).toOption
  | .save n now =>
    -- Whether it succeeds or not, the registration is over afterwards.
    match reg.accounts n with
    | none => reg
    | some account =>
      match reg.world.register s now account with
      | .ok (_, w) => { reg.put n none with world := w }
      | .error _ => reg.put n none
  | .delete id =>
    match reg.world.db.deleteUser id with
    | .ok db => { reg with world := { reg.world with db } }
    | .error _ => reg

/-- The state after some steps. -/
def interleave (w : World) (steps : List Step) : Registrations :=
  steps.foldl s.step { world := w }

theorem interleave_concat (w : World) (steps : List Step) (step : Step) :
    s.interleave w (steps ++ [step]) = s.step (s.interleave w steps) step := by
  simp [interleave, List.foldl_append]

end Service

/-- A step makes a user: its registration has checked an account, and nothing of it is taken. -/
def Stores (s : Service) (reg : Registrations) (step : Step) (user : User) : Prop :=
  match step with
  | .save n now => ∃ account w, reg.accounts n = some account ∧
      reg.world.register s now account = .ok (user, w)
  | _ => False

namespace Service

variable {s : Service} {w : World} {reg : Registrations} {user : User} {n : Nat}
  {account : NewAccount}

/-! ### One step -/

/-- A user who is made comes after the others. -/
theorem joined_of_stores {step : Step} (h : Stores s reg step user) :
    World.Joined s user reg.world (s.step reg step).world := by
  cases step with
  | validate n form => exact h.elim
  | delete id => exact h.elim
  | save n now =>
    obtain ⟨account, w, haccount, hmade⟩ := h
    have hstep : (s.step reg (.save n now)).world = w := by
      simp [Service.step, haccount, hmade]
    rw [hstep]
    exact World.joined_register hmade

theorem users_of_stores {step : Step} (h : Stores s reg step user) :
    (s.step reg step).users = reg.users ++ [user] :=
  (joined_of_stores h).users

/-- A step makes a user, or leaves at most the users who were there. -/
theorem users_step (s : Service) (reg : Registrations) (step : Step) :
    (∃ user, Stores s reg step user) ∨
      ((s.step reg step).users.Sublist reg.users ∧
        (s.step reg step).world.draws.users = reg.world.draws.users) := by
  cases step with
  | validate n form => exact .inr ⟨List.Sublist.refl _, rfl⟩
  | save n now =>
    cases haccount : reg.accounts n with
    | none =>
      have hstep : s.step reg (.save n now) = reg := by simp [Service.step, haccount]
      rw [hstep]
      exact .inr ⟨List.Sublist.refl _, rfl⟩
    | some account =>
      cases hmade : reg.world.register s now account with
      | ok made => exact .inl ⟨made.1, account, made.2, haccount, hmade⟩
      | error e =>
        have hstep : s.step reg (.save n now) = reg.put n none := by
          simp [Service.step, haccount, hmade]
        rw [hstep]
        exact .inr ⟨List.Sublist.refl _, rfl⟩
  | delete id =>
    simp only [Service.step]
    split
    · next db hdelete =>
      obtain ⟨-, hresult⟩ := Database.of_on_ok hdelete
      obtain rfl := Except.ok.inj hresult
      exact .inr ⟨List.filter_sublist, rfl⟩
    · exact .inr ⟨List.Sublist.refl _, rfl⟩

/-- An account that is checked after a step was checked before, by another registration than that of
the step, or is what the step checked. -/
theorem accounts_step {step : Step} (h : (s.step reg step).accounts n = some account) :
    (reg.accounts n = some account ∧ step.registration? ≠ some n) ∨
      ∃ form, step = .validate n form ∧ form.validate reg.world.db = .ok account := by
  cases step with
  | validate m form =>
    rw [Service.step, Registrations.accounts_put] at h
    by_cases hmn : n = m
    · subst hmn
      rw [if_pos rfl] at h
      cases hvalid : form.validate reg.world.db with
      | error e => simp [hvalid, Except.toOption] at h
      | ok found =>
        rw [hvalid] at h
        obtain rfl := Option.some.inj h
        exact .inr ⟨form, rfl, hvalid⟩
    · rw [if_neg hmn] at h
      exact .inl ⟨h, fun heq => hmn (Option.some.inj heq).symm⟩
  | save m now =>
    by_cases hmn : n = m
    · subst hmn
      -- After a registration tried to make its account, it has none.
      simp only [Service.step] at h
      split at h
      · next hnone => simp [hnone] at h
      · split at h <;> simp [Registrations.put] at h
    · refine .inl ⟨?_, fun heq => hmn (Option.some.inj heq).symm⟩
      simp only [Service.step] at h
      split at h
      · exact h
      · split at h <;> simpa [Registrations.put, hmn] using h
  | delete id =>
    refine .inl ⟨?_, by simp [Step.registration?]⟩
    simp only [Service.step] at h
    split at h <;> exact h

/-! ### All steps -/

/-- What holds at the start and is kept by every step holds after all steps. -/
theorem interleave_induction {P : Registrations → Prop} (hstart : P { world := w })
    (hstep : ∀ reg step, P reg → P (s.step reg step)) (steps : List Step) :
    P (s.interleave w steps) := by
  induction steps using List.reverseRecOn with
  | nil => exact hstart
  | append_singleton steps step ih =>
    rw [interleave_concat]
    exact hstep _ step ih

/-- A checked account was checked by the latest step of its registration. -/
theorem origin_of_account {steps : List Step}
    (h : (s.interleave w steps).accounts n = some account) :
    ∃ before form between, steps = before ++ .validate n form :: between ∧
      form.validate (s.interleave w before).world.db = .ok account ∧
      ∀ step ∈ between, step.registration? ≠ some n := by
  induction steps using List.reverseRecOn with
  | nil => simp [interleave] at h
  | append_singleton steps step ih =>
    rw [interleave_concat] at h
    rcases accounts_step h with ⟨hold, hother⟩ | ⟨form, rfl, hvalid⟩
    · obtain ⟨before, form, between, rfl, hvalid, hbetween⟩ := ih hold
      refine ⟨before, form, between ++ [step], by simp, hvalid, ?_⟩
      intro step' hmem
      rw [List.mem_append, List.mem_singleton] at hmem
      rcases hmem with hmem | rfl
      · exact hbetween step' hmem
      · exact hother
    · exact ⟨steps, form, [], rfl, hvalid, by simp⟩

/-- A user who was not there before some steps was made by one of them. -/
theorem origin_of_user {before steps : List Step}
    (h : user ∈ (s.interleave w (before ++ steps)).users)
    (hnew : user ∉ (s.interleave w before).users) :
    ∃ first step rest, steps = first ++ step :: rest ∧
      Stores s (s.interleave w (before ++ first)) step user := by
  induction steps using List.reverseRecOn with
  | nil =>
    rw [List.append_nil] at h
    exact absurd h hnew
  | append_singleton steps step ih =>
    rw [← List.append_assoc, interleave_concat] at h
    -- Of several steps that made the user, the one before the user was last seen counts.
    by_cases hold : user ∈ (s.interleave w (before ++ steps)).users
    · obtain ⟨first, made, rest, rfl, hstores⟩ := ih hold
      exact ⟨first, made, rest ++ [step], by simp, hstores⟩
    · rcases s.users_step (s.interleave w (before ++ steps)) step with
        ⟨joined, hstores⟩ | ⟨hfewer, -⟩
      · rw [users_of_stores hstores, List.mem_append, List.mem_singleton] at h
        rcases h with h | rfl
        · exact absurd h hold
        · exact ⟨steps, step, [], rfl, hstores⟩
      · exact absurd (hfewer.subset h) hold

end Service

end CookieAuth
