import CookieAuth.Proofs.Session.Operations
import CookieAuth.Service.Handle

/-!
# What the actions of the routes do

An action binds the session to a user, clears it, or does not touch it so that it would be saved.
This file says for every route which of these happens, and what becomes of the users.

## Main definitions

* `Admits`: the user whom a request logs in or registers, and the world with that user;
* `Route.Acted`: what the action of a route did to the session and to the store.

## Main results

* `Database.of_insertUser_ok`, `Database.of_insertToken_ok`: what is added to the tables, and when;
* `LoginForm.of_validate_ok`, `World.of_register_ok`: what an accepted form says about the user;
* `World.of_issueToken_ok`: what issuing a token does;
* `Route.acted_run`: every action does one of these things.
-/

namespace CookieAuth

open Http Text Time

/-! ### Admitted users -/

theorem Database.of_on_ok {α : Type} {db : Database} {table : Table} {result : Except DbError α}
    {a : α} (h : db.on table result = .ok a) : db.access table = .ok () ∧ result = .ok a := by
  unfold Database.on at h
  split at h
  · simp at h
  · next haccess => exact ⟨haccess, h⟩

/-- A user who is added repeats no value and comes after the others. -/
theorem Database.of_insertUser_ok {db db' : Database} {user : User}
    (h : db.insertUser user = .ok db') :
    db.access .users = .ok () ∧ db.duplicate? user = none ∧
      db' = { db with users := db.users ++ [user] } := by
  obtain ⟨haccess, hresult⟩ := of_on_ok h
  split at hresult
  · simp at hresult
  · next hunique => exact ⟨haccess, hunique, (Except.ok.inj hresult).symm⟩

/-- A token that is added has a secret of its own and an owner who exists, and comes after the
others. -/
theorem Database.of_insertToken_ok {db db' : Database} {token : ResetToken}
    (h : db.insertToken token = .ok db') :
    (∀ t ∈ db.tokens, t.token ≠ token.token) ∧ db.hasUser token.userId = true ∧
      db' = { db with tokens := db.tokens ++ [token] } := by
  obtain ⟨-, hresult⟩ := of_on_ok h
  split at hresult
  · simp at hresult
  · next hfresh =>
    split at hresult
    · next howner =>
      refine ⟨?_, howner, (Except.ok.inj hresult).symm⟩
      simpa using hfresh
    · simp at hresult

/-- A user who passes the check of name and password has that name and that password. -/
theorem of_authenticate_ok {kdf : Password.KeyDerivation} {db : Database}
    {username password : String} {user : User}
    (h : authenticate kdf db username password = .ok (some user)) :
    user ∈ db.users ∧ user.username = username ∧
      Password.verifyPassword kdf password user.passwordHash = .ok true := by
  unfold authenticate at h
  split at h
  · simp at h
  · simp at h
  · next found hfound =>
    split at h
    · simp at h
    · next hverify =>
      obtain rfl := Option.some.inj (Except.ok.inj h)
      have hfind := Except.ok.inj (Database.of_on_ok hfound).2
      exact ⟨List.mem_of_find?_eq_some hfind, by simpa using List.find?_some hfind, hverify⟩
    · simp at h

/-- A user whom a login form names is active and has the name and the password of the form. -/
theorem LoginForm.of_validate_ok {kdf : Password.KeyDerivation} {db : Database} {form : LoginForm}
    {user : User} (h : form.validate kdf db = .ok user) :
    user ∈ db.users ∧ user.username = trim form.username ∧
      Password.verifyPassword kdf form.password user.passwordHash = .ok true ∧
      user.isActive = true := by
  unfold validate at h
  -- The form has no blank field, then somebody is found, who then has to be active.
  split at h
  · simp at h
  · split at h
    · simp at h
    · simp at h
    · next found hfound =>
      split at h
      · next hactive =>
        obtain rfl := Except.ok.inj h
        obtain ⟨hmem, hname, hverify⟩ := of_authenticate_ok hfound
        exact ⟨hmem, hname, hverify, hactive⟩
      · simp at h

namespace World

variable {s : Service} {now : Instant} {w w' : World} {user : User}

/-- A user is made with the next identifier, and nothing else changes. -/
theorem of_createUser_ok {username email passwordHash : String}
    (h : w.createUser s now username email passwordHash = .ok (user, w')) :
    user = newUser (s.supply.userId w.draws.users) username email passwordHash now ∧
      w.db.access .users = .ok () ∧ w.db.duplicate? user = none ∧
      w' = { w with
        db := { w.db with users := w.db.users ++ [user] }
        draws := { w.draws with users := w.draws.users + 1 } } := by
  unfold createUser at h
  dsimp only at h
  split at h
  · simp at h
  · next db hinsert =>
    obtain ⟨haccess, hunique, rfl⟩ := Database.of_insertUser_ok hinsert
    simp only [Except.ok.injEq, Prod.mk.injEq] at h
    obtain ⟨rfl, rfl⟩ := h
    exact ⟨rfl, haccess, hunique, rfl⟩

/-- An account is made for the user of the next identifier, with the name and the address of the
account. -/
theorem of_register_ok {account : NewAccount} (h : w.register s now account = .ok (user, w')) :
    user = newUser (s.supply.userId w.draws.users) account.username account.email
        (w.hashNext s account.password) now ∧
      w.db.access .users = .ok () ∧ w.db.duplicate? user = none ∧
      w' = { w with
        db := { w.db with users := w.db.users ++ [user] }
        draws := { w.draws with users := w.draws.users + 1 } } := by
  unfold register at h
  split at h
  · simp at h
  · next hcreate =>
    obtain rfl := Except.ok.inj h
    exact of_createUser_ok hcreate

end World

/-- The user whom a request logs in or registers, and the world once there is that user. -/
inductive Admits (s : Service) (now : Instant) (r : Request) (w : World) (user : User) :
    World → Prop where
  /-- A login form names an active user and has the user's password. -/
  | logIn {form : LoginForm} (hroute : Route.ofPath? r.path = some .logIn)
      (hread : LoginForm.read r = .ok form) (hvalid : form.validate s.kdf w.db = .ok user) :
      Admits s now r w user w
  /-- A registration form describes an account, and the user is made. -/
  | register {form : RegistrationForm} {account : NewAccount} {w' : World}
      (hroute : Route.ofPath? r.path = some .register)
      (hread : RegistrationForm.read r = .ok form) (hvalid : form.validate w.db = .ok account)
      (hmade : w.register s now account = .ok (user, w')) :
      Admits s now r w user w'

/-! ### Visits -/

namespace Visit

variable {m : Moment} {v v' : Visit} {user : User}

@[simp] theorem live_withLive (v : Visit) (l : Live) : (v.withLive l).live = l := rfl

@[simp] theorem live_note (v : Visit) (events : List Event) : (v.note events).live = v.live := rfl

/-- Asking for the user of the session reads it, and fails only with an error of the session. -/
theorem userId_cases {result : Except Failure (Option String)} (h : v.userId m = (result, v')) :
    (∃ e l, result = .error (.session e) ∧ v' = v.withLive l ∧ l.store = v.world.sessions) ∨
      ∃ bound loaded l, result = .ok bound ∧ v' = v.withLive l ∧
        v.live.load m.setting = (.ok loaded, l) ∧
        loaded.data.lookup userIdKey = bound.map .str := by
  have hstore := Live.store_getText m.setting userIdKey v.live
  unfold userId at h
  cases huser : v.live.userId m.setting with
  | mk answer l =>
    rw [Live.userId] at huser
    rw [huser] at hstore
    rw [Live.userId, huser] at h
    cases answer with
    | error e =>
      simp only [Prod.mk.injEq] at h
      exact .inl ⟨e, l, h.1.symm, h.2.symm, hstore⟩
    | ok bound =>
      simp only [Prod.mk.injEq] at h
      obtain ⟨loaded, hload, hlook⟩ := Live.getText_of_ok huser
      exact .inr ⟨bound, loaded, l, h.1.symm, h.2.symm, hload, hlook⟩

/-- A user is bound in one of the ways of `Live.LoggedIn`, or the store stays as it is. -/
theorem bindUser_cases {result : Except Failure Unit} (hunread : v.session.loaded = none)
    (h : v.bindUser m user = (result, v')) :
    (∃ e l, result = .error (.session e) ∧ v' = v.withLive l ∧ l.store = v.world.sessions) ∨
      ∃ l events, result = .ok () ∧ v' = (v.withLive l).note events ∧
        Live.LoggedIn m.setting user passwordBackend v.live l := by
  unfold bindUser at h
  cases hlogIn : v.live.logIn m.setting user passwordBackend with
  | mk answer l =>
    rw [hlogIn] at h
    cases answer with
    | error e =>
      simp only [Prod.mk.injEq] at h
      exact .inl ⟨e, l, h.1.symm, h.2.symm, Live.store_logIn_of_error hlogIn⟩
    | ok _ =>
      simp only [Prod.mk.injEq] at h
      exact .inr ⟨l, _, h.1.symm, h.2.symm, Live.loggedIn_of_logIn hunread hlogIn⟩

/-- A user who is found has the identifier. -/
theorem of_findUser_ok {db : Database} {id : String} {user : User}
    (h : findUser db id = .ok user) : user ∈ db.users ∧ user.id = id := by
  unfold findUser at h
  split at h
  · next found hfound =>
    obtain rfl := Except.ok.inj h
    obtain ⟨-, hresult⟩ := Database.of_on_ok hfound
    split at hresult
    · next hfind =>
      obtain rfl := Except.ok.inj hresult
      exact ⟨List.mem_of_find?_eq_some hfind, by simpa using List.find?_some hfind⟩
    · simp at hresult
  · simp at h
  · simp at h

/-- An audit entry is added, or nothing happens. -/
theorem audit_cases {userId : Option String} {result : Except Failure Unit}
    (h : v.audit m userId = (result, v')) :
    (∃ f, result = .error f ∧ v' = v) ∨
      ∃ n db, result = .ok () ∧ v.world.db.insertEntry userId m.now = .ok (n, db) ∧
        v' = v.withDb db := by
  unfold audit at h
  split at h
  · exact .inl ⟨_, (Prod.mk.inj h).1.symm, (Prod.mk.inj h).2.symm⟩
  · next n db hinsert =>
    exact .inr ⟨n, db, (Prod.mk.inj h).1.symm, hinsert, (Prod.mk.inj h).2.symm⟩

/-- Adding an audit entry touches neither the session nor the store. -/
theorem live_audit (m : Moment) (userId : Option String) (v : Visit) :
    (v.audit m userId).2.live = v.live := by
  unfold audit
  split <;> rfl

/-- Telling the status leaves the store alone, and the session is not going to be saved. -/
theorem idle_status (m : Moment) (hclean : v.session.modified = false) :
    (v.status m).2.world.sessions = v.world.sessions ∧
      ((v.status m).2.session.modified = false ∨ ∃ e, (v.status m).1 = .error (.session e)) := by
  unfold status
  cases huser : v.userId m with
  | mk result v₁ =>
    obtain ⟨e, l, rfl, rfl, hstore⟩ | ⟨bound, loaded, l, rfl, rfl, hload, -⟩ := userId_cases huser
    · exact ⟨hstore, .inr ⟨e, rfl⟩⟩
    · have hread := Live.store_load m.setting v.live
      have hmodified := Live.modified_load m.setting v.live
      rw [hload] at hread hmodified
      -- Whatever is noted, the session and the store are those that were read.
      have haudited : ∀ userId result v', (v.withLive l).audit m userId = (result, v') →
          v'.world.sessions = v.world.sessions ∧ v'.session.modified = false := by
        intro userId result v' haudit
        have hlive := live_audit m userId (v.withLive l)
        rw [haudit] at hlive
        exact ⟨(congrArg Live.store hlive).trans hread,
          (congrArg (·.session.modified) hlive).trans (hmodified.trans hclean)⟩
      cases bound with
      | none =>
        dsimp only
        split <;>
          next haudit =>
            obtain ⟨hsessions, hunmarked⟩ := haudited _ _ _ haudit
            exact ⟨hsessions, .inl hunmarked⟩
      | some id =>
        dsimp only
        split
        · exact ⟨hread, .inl (hmodified.trans hclean)⟩
        · split <;>
            next haudit =>
              obtain ⟨hsessions, hunmarked⟩ := haudited _ _ _ haudit
              exact ⟨hsessions, .inl hunmarked⟩

end Visit

/-! ### Mails about forgotten passwords -/

namespace World

variable {s : Service} {now : Instant}

/-- Nothing but the tokens and the mailer differs between two worlds. -/
def SameAccounts (w w' : World) : Prop :=
  ∃ tokens drawn mailer, w' = { w with
    db := { w.db with tokens }
    mailer
    draws := { w.draws with tokens := drawn } }

theorem SameAccounts.refl (w : World) : SameAccounts w w := ⟨_, _, _, rfl⟩

theorem SameAccounts.trans {w₁ w₂ w₃ : World} (h : SameAccounts w₁ w₂) (h' : SameAccounts w₂ w₃) :
    SameAccounts w₁ w₃ := by
  obtain ⟨_, _, _, rfl⟩ := h
  obtain ⟨_, _, _, rfl⟩ := h'
  exact ⟨_, _, _, rfl⟩

/-- A token that is issued stands after the others, with the next secret. -/
theorem of_issueToken_ok {userId : String} {minutes : Int} {token : ResetToken} {w w' : World}
    (h : w.issueToken s now userId minutes = .ok (token, w')) :
    ResetToken.issue userId (s.supply.token w.draws.tokens) minutes now = .ok token ∧
      w' = { w with
        db := { w.db with tokens := w.db.tokens ++ [token] }
        draws := { w.draws with tokens := w.draws.tokens + 1 } } := by
  unfold issueToken at h
  split at h
  · simp at h
  · next hissue =>
    split at h
    · simp at h
    · next hinsert =>
      obtain ⟨-, -, rfl⟩ := Database.of_insertToken_ok hinsert
      simp only [Except.ok.injEq, Prod.mk.injEq] at h
      obtain ⟨rfl, rfl⟩ := h
      exact ⟨hissue, rfl⟩

theorem sameAccounts_issueToken {userId : String} {minutes : Int} {token : ResetToken}
    {w w' : World} (h : w.issueToken s now userId minutes = .ok (token, w')) :
    SameAccounts w w' := by
  obtain ⟨-, rfl⟩ := of_issueToken_ok h
  exact ⟨_, _, _, rfl⟩

theorem sameAccounts_sendReset (s : Service) (now : Instant) (mail : ResetMail) (user : User)
    (w : World) :
    SameAccounts w (w.sendReset s now mail user).2.1 := by
  unfold sendReset
  split
  · exact .refl w
  · next htoken =>
    have hissued := sameAccounts_issueToken htoken
    split
    · exact hissued
    · obtain ⟨_, _, _, rfl⟩ := hissued
      split <;> exact ⟨_, _, _, rfl⟩

/-- What every single mail keeps, sending mails keeps. -/
theorem sendResets_induction {P : World → Prop} {mail : ResetMail}
    (hone : ∀ user w, P w → P (w.sendReset s now mail user).2.1) (users : List User) {w : World}
    (h : P w) : P (w.sendResets s now mail users).2.1 := by
  -- The first failure ends the sending, so the world of the rest is that of the users so far.
  induction users generalizing w with
  | nil => exact h
  | cons user rest ih =>
    have hsent := hone user w h
    unfold sendResets
    split
    · next hsend =>
      rw [hsend] at hsent
      exact hsent
    · next hsend =>
      rw [hsend] at hsent
      exact ih hsent

theorem sameAccounts_sendResets (s : Service) (now : Instant) (mail : ResetMail)
    (users : List User) (w : World) :
    SameAccounts w (w.sendResets s now mail users).2.1 := by
  refine sendResets_induction (P := SameAccounts w) ?_ users (.refl w)
  intro user w' h
  exact h.trans (sameAccounts_sendReset s now mail user w')

end World

/-! ### Changes of the users -/

/-- Nobody has a value of a user who repeats none. -/
theorem Database.of_duplicate?_eq_none {db : Database} {user : User}
    (h : db.duplicate? user = none) :
    ∀ u ∈ db.users, u.email ≠ user.email ∧ u.username ≠ user.username ∧ u.id ≠ user.id := by
  unfold Database.duplicate? Database.hasUser at h
  intro u hu
  split at h
  · simp at h
  · next hemail =>
    split at h
    · simp at h
    · next hname =>
      split at h
      · simp at h
      · next hid =>
        simp only [List.any_eq_true, decide_eq_true_eq, not_exists, not_and] at hemail hname hid
        exact ⟨hemail u hu, hname u hu, hid u hu⟩

namespace World

/-- The users of two worlds are the same, and none was made. -/
structure SameUsers (w w' : World) : Prop where
  /-- The users stay. -/
  users : w'.db.users = w.db.users
  /-- No identifier of a user is drawn. -/
  draws : w'.draws.users = w.draws.users

/-- A user was added with the next identifier. -/
structure Joined (s : Service) (user : User) (w w' : World) : Prop where
  /-- The user stands after the others. -/
  users : w'.db.users = w.db.users ++ [user]
  /-- The user's identifier is drawn. -/
  draws : w'.draws.users = w.draws.users + 1
  /-- The user has the identifier that is drawn. -/
  id : user.id = s.supply.userId w.draws.users
  /-- The user repeats no value that has to be unique. -/
  unique : w.db.duplicate? user = none

theorem SameUsers.refl (w : World) : SameUsers w w := ⟨rfl, rfl⟩

theorem joined_createUser {s : Service} {now : Instant} {username email passwordHash : String}
    {user : User} {w w' : World}
    (h : w.createUser s now username email passwordHash = .ok (user, w')) :
    Joined s user w w' := by
  obtain ⟨huser, -, hunique, rfl⟩ := of_createUser_ok h
  exact ⟨rfl, rfl, by rw [huser]; rfl, hunique⟩

theorem joined_register {s : Service} {now : Instant} {account : NewAccount} {user : User}
    {w w' : World} (h : w.register s now account = .ok (user, w')) : Joined s user w w' := by
  obtain ⟨huser, -, hunique, rfl⟩ := of_register_ok h
  exact ⟨rfl, rfl, by rw [huser]; rfl, hunique⟩

end World

/-- An admitted user exists. -/
theorem mem_of_admits {s : Service} {now : Instant} {r : Request} {w w' : World} {user : User}
    (h : Admits s now r w user w') : user ∈ w'.db.users := by
  cases h with
  | logIn hroute hread hvalid => exact (LoginForm.of_validate_ok hvalid).1
  | register hroute hread hvalid hmade =>
    rw [(World.joined_register hmade).users]
    simp

/-! ### The actions -/

namespace Route

variable {m : Moment} {r : Request} {v : Visit}

/-- The routes that bind a session or clear it. -/
def changesSession : Route → Bool
  | .logIn => true
  | .register => true
  | .logOut => true
  | _ => false

/-- What the action of a route did to the session and to the store. -/
inductive Acted (m : Moment) (r : Request) (v : Visit) (route : Route) :
    Outcome → Visit → Prop where
  /-- The store stays as it is, and the session is not going to be saved. -/
  | idle {outcome : Outcome} {v' : Visit} (hstore : v'.world.sessions = v.world.sessions)
      (hsave : v'.session.modified = false ∨ ∃ e, outcome = .error (.session e))
      (hfailed : route.changesSession = true → ∃ f, outcome = .error f) :
      Acted m r v route outcome v'
  /-- A user was admitted, and the session is bound to this user. -/
  | admitted {user : User} {w : World} {l : Live} {v' : Visit}
      (hadmitted : Admits m.service m.now r v.world user w)
      (hbound : Live.LoggedIn m.setting user passwordBackend v.live l)
      (hworld : v'.world = ((v.withWorld w).withLive l).world) (hsession : v'.session = l.session) :
      Acted m r v route (.ok (Visit.usernameBody user)) v'
  /-- The session was cleared, and its record erased if there was one. -/
  | cleared {body : Json} {v' : Visit} (hroute : route = .logOut)
      (hempty : v'.session.isEmpty = true)
      (hstore : (∃ id data, v.session.id = some id ∧
          v.world.sessions.find? id m.now = some data ∧
          v'.world.sessions = v.world.sessions.erase id) ∨
        (v.world.sessions.seen? m.now v.session.id = none ∧
          v'.world.sessions = v.world.sessions)) :
      Acted m r v route (.ok body) v'

theorem acted_logIn (hunread : v.session.loaded = none) (hclean : v.session.modified = false)
    (hroute : ofPath? r.path = some .logIn) :
    Acted m r v .logIn (withForm (LoginForm.read r) (Visit.logIn m) v).1
      (withForm (LoginForm.read r) (Visit.logIn m) v).2 := by
  unfold withForm
  cases hread : LoginForm.read r with
  | error errors => exact .idle rfl (.inl hclean) fun _ => ⟨_, rfl⟩
  | ok form =>
    dsimp only
    unfold Visit.logIn
    cases hvalid : form.validate m.service.kdf v.world.db with
    | error f => exact .idle rfl (.inl hclean) fun _ => ⟨_, rfl⟩
    | ok user =>
      dsimp only
      cases hbind : v.bindUser m user with
      | mk result v₁ =>
        obtain ⟨e, l, rfl, rfl, hstore⟩ | ⟨l, events, rfl, rfl, hbound⟩ :=
          Visit.bindUser_cases hunread hbind
        · -- The session may have been marked as changed, but the failure keeps it from being saved.
          exact .idle hstore (.inr ⟨e, rfl⟩) fun _ => ⟨_, rfl⟩
        · exact .admitted (.logIn hroute hread hvalid) hbound rfl rfl

theorem acted_register (hunread : v.session.loaded = none) (hclean : v.session.modified = false)
    (hroute : ofPath? r.path = some .register) :
    Acted m r v .register (withForm (RegistrationForm.read r) (Visit.register m) v).1
      (withForm (RegistrationForm.read r) (Visit.register m) v).2 := by
  unfold withForm
  cases hread : RegistrationForm.read r with
  | error errors => exact .idle rfl (.inl hclean) fun _ => ⟨_, rfl⟩
  | ok form =>
    dsimp only
    unfold Visit.register
    cases hvalid : form.validate v.world.db with
    | error f => exact .idle rfl (.inl hclean) fun _ => ⟨_, rfl⟩
    | ok account =>
      dsimp only
      cases hmade : v.world.register m.service m.now account with
      | error f => exact .idle rfl (.inl hclean) fun _ => ⟨_, rfl⟩
      | ok made =>
        obtain ⟨user, w⟩ := made
        -- Making the user does not touch the sessions, so the session is the one of the request.
        have hlive : (v.withWorld w).live = v.live := by
          obtain ⟨-, -, -, rfl⟩ := World.of_register_ok hmade
          rfl
        dsimp only
        cases hbind : (v.withWorld w).bindUser m user with
        | mk result v₁ =>
          obtain ⟨e, l, rfl, rfl, hstore⟩ | ⟨l, events, rfl, rfl, hbound⟩ :=
            Visit.bindUser_cases (v := v.withWorld w) hunread hbind
          · refine .idle (hstore.trans ?_) (.inr ⟨e, rfl⟩) fun _ => ⟨_, rfl⟩
            exact congrArg Live.store hlive
          · rw [hlive] at hbound
            exact .admitted (.register hroute hread hvalid hmade) hbound rfl rfl

theorem acted_logOut (hunread : v.session.loaded = none) :
    Acted m r v .logOut (v.logOut m).1 (v.logOut m).2 := by
  unfold Visit.logOut
  cases huser : v.userId m with
  | mk result v₁ =>
    obtain ⟨e, l, rfl, rfl, hstore⟩ | ⟨bound, loaded, l, rfl, rfl, hload, -⟩ :=
      Visit.userId_cases huser
    · exact .idle hstore (.inr ⟨e, rfl⟩) fun _ => ⟨_, rfl⟩
    · have hread : l.store = v.world.sessions := by
        have := Live.store_load m.setting v.live
        rw [hload] at this
        exact this
      dsimp only
      rw [Visit.live_note, Visit.live_withLive]
      cases hlogOut : l.logOut with
      | mk result l' =>
        cases result with
        | error e =>
          exact .idle ((Live.store_logOut_of_error hlogOut).trans hread) (.inr ⟨e, rfl⟩)
            fun _ => ⟨_, rfl⟩
        | ok _ =>
          obtain ⟨hempty, hstore⟩ :=
            Live.logOut_of_opened (Live.opened_of_load hunread hload) hlogOut
          exact .cleared rfl hempty hstore

theorem acted_resetPassword (hclean : v.session.modified = false) :
    Acted m r v .resetPassword (withForm (ResetForm.read r) (Visit.resetPassword m) v).1
      (withForm (ResetForm.read r) (Visit.resetPassword m) v).2 := by
  unfold withForm
  split
  · exact .idle rfl (.inl hclean) (by simp [changesSession])
  · unfold Visit.resetPassword
    split
    · exact .idle rfl (.inl hclean) (by simp [changesSession])
    · next request hvalid =>
      have hsame := World.sameAccounts_sendResets m.service m.now
        (.standard m.service.config.siteName m.service.config.siteDomain) request.users v.world
      dsimp only
      split <;>
        next hsend =>
          rw [hsend] at hsame
          obtain ⟨_, _, _, rfl⟩ := hsame
          exact .idle rfl (.inl hclean) (by simp [changesSession])

/-- Every action on a session that was not read yet is of one of the three kinds. -/
theorem acted_run {route : Route} (hunread : v.session.loaded = none)
    (hclean : v.session.modified = false) (hroute : ofPath? r.path = some route) :
    Acted m r v route (route.run m r v).1 (route.run m r v).2 := by
  cases route with
  | health => exact .idle rfl (.inl hclean) (by simp [changesSession])
  | logIn => exact acted_logIn hunread hclean hroute
  | logOut => exact acted_logOut hunread
  | register => exact acted_register hunread hclean hroute
  | status =>
    obtain ⟨hstore, hsave⟩ := Visit.idle_status m hclean
    exact .idle hstore hsave (by simp [changesSession])
  | resetPassword => exact acted_resetPassword hclean

end Route

end CookieAuth
