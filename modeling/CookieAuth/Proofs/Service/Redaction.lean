import CookieAuth.Proofs.Service.Requests

/-!
# Worlds that differ in secrets only

Two worlds may have the same tokens with other secrets, and the same mails with other texts.  Their
redacted forms, without secrets and texts, are then the same.  Every action except that on a
forgotten password does the same in both worlds, and leaves two worlds that again differ in secrets
only.

The proofs follow the actions: each part of one has a lemma that takes visits that are alike to
results that are alike.

## Main definitions

* `World.redact`: a world without the secrets of tokens and the texts of mails;
* `shown`: the events of a log that are more important than mere details;
* `Service.withSecrets`: the service that draws other secrets;
* `Visit.Alike`, `AlikeAfter`, `Handled.Alike`: visits, results of actions and answers that differ
  in secrets only.

## Main results

* `Route.run_alike`: every action except that on a forgotten password keeps visits alike;
* `Service.handle_alike`: if the action of a request keeps visits alike, the request is answered
  alike.
-/

namespace CookieAuth

open Http Time Mail

/-! ### Redacted worlds -/

/-- A token without its secret. -/
def ResetToken.redact (token : ResetToken) : ResetToken :=
  { token with token := "" }

/-- A mail without its text. -/
def Mail.Message.redact (message : Message) : Message :=
  { message with body := "" }

/-- A mailer whose mails have no text. -/
def Mail.Mailer.redact (mailer : Mailer) : Mailer :=
  { mailer with outbox := mailer.outbox.map Message.redact }

/-- A database whose tokens have no secrets. -/
def Database.redact (db : Database) : Database :=
  { db with tokens := db.tokens.map ResetToken.redact }

/-- A world without the secrets of tokens and the texts of mails. -/
def World.redact (w : World) : World :=
  { w with
    db := w.db.redact
    mailer := w.mailer.redact }

/-- The events of a log that are more important than mere details. -/
def shown (log : List Event) : List Event :=
  log.filter (·.level ≠ .debug)

theorem shown_append (log more : List Event) : shown (log ++ more) = shown log ++ shown more :=
  List.filter_append ..

/-- The service that draws other secrets. -/
def Service.withSecrets (s : Service) (secret : Nat → String) : Service :=
  { s with supply := { s.supply with token := secret } }

/-- The same moment of the service that draws other secrets. -/
def Moment.withSecrets (m : Moment) (secret : Nat → String) : Moment :=
  { m with service := m.service.withSecrets secret }

section

variable (s : Service) (m : Moment) (secret : Nat → String)

@[simp] theorem Service.kdf_withSecrets : (s.withSecrets secret).kdf = s.kdf := rfl

@[simp] theorem Service.config_withSecrets : (s.withSecrets secret).config = s.config := rfl

@[simp] theorem Service.lifetime_withSecrets : (s.withSecrets secret).lifetime = s.lifetime := rfl

@[simp] theorem Moment.service_withSecrets :
    (m.withSecrets secret).service = m.service.withSecrets secret := rfl

@[simp] theorem Moment.setting_withSecrets : (m.withSecrets secret).setting = m.setting := rfl

@[simp] theorem Moment.now_withSecrets : (m.withSecrets secret).now = m.now := rfl

end

/-! ### Checks -/

section

variable (db : Database)

@[simp] theorem Database.findByUsername_redact (username : String) :
    db.redact.findByUsername username = db.findByUsername username := rfl

@[simp] theorem Database.findByEmail_redact (email : String) :
    db.redact.findByEmail email = db.findByEmail email := rfl

@[simp] theorem Database.findActiveByEmail_redact (email : String) :
    db.redact.findActiveByEmail email = db.findActiveByEmail email := rfl

@[simp] theorem Database.findById_redact (id : String) :
    db.redact.findById id = db.findById id := rfl

/-- Checking a form does not read secrets. -/
theorem LoginForm.validate_redact (kdf : Password.KeyDerivation) (form : LoginForm) :
    form.validate kdf db.redact = form.validate kdf db := by
  unfold validate authenticate
  rw [Database.findByUsername_redact]

theorem RegistrationForm.validate_redact (form : RegistrationForm) :
    form.validate db.redact = form.validate db := by
  have husername : checkUsername db.redact = checkUsername db := by
    funext form errors
    unfold checkUsername
    rw [Database.findByUsername_redact]
  have hemail : checkEmail db.redact = checkEmail db := by
    funext form errors
    unfold checkEmail
    rw [Database.findByEmail_redact]
  unfold validate errors
  rw [husername, hemail]

theorem ResetForm.validate_redact (form : ResetForm) :
    form.validate db.redact = form.validate db := by
  unfold validate
  dsimp only
  rw [Database.findActiveByEmail_redact]

theorem Visit.findUser_redact (id : String) : findUser db.redact id = findUser db id := by
  unfold findUser
  rw [Database.findById_redact]

end

/-! ### Statements -/

/-- Results that become equal under a function are the same error, or values with the same image. -/
theorem of_map_eq_map {ε α β : Type} {f : α → β} {x y : Except ε α} (h : x.map f = y.map f) :
    (∃ e, x = .error e ∧ y = .error e) ∨ ∃ a b, x = .ok a ∧ y = .ok b ∧ f a = f b := by
  cases x with
  | error e =>
    cases y with
    | error e' =>
      obtain rfl := Except.error.inj h
      exact .inl ⟨e, rfl, rfl⟩
    | ok b => simp [Except.map] at h
  | ok a =>
    cases y with
    | error e' => simp [Except.map] at h
    | ok b => exact .inr ⟨a, b, rfl, rfl, Except.ok.inj h⟩

namespace Database

/-- Statements beside those on tokens do not read secrets. -/
theorem insertUser_redact (db : Database) (user : User) :
    db.redact.insertUser user = (db.insertUser user).map redact := by
  have haccess : db.redact.access .users = db.access .users := rfl
  have hunique : db.redact.duplicate? user = db.duplicate? user := rfl
  unfold insertUser on
  rw [haccess, hunique]
  cases db.access .users with
  | error e => rfl
  | ok _ => cases db.duplicate? user <;> rfl

theorem insertEntry_redact (db : Database) (userId : Option String) (now : Instant) :
    db.redact.insertEntry userId now = (db.insertEntry userId now).map (Prod.map id redact) := by
  have haccess : db.redact.access .auditEntries = db.access .auditEntries := rfl
  have hknown : db.redact.hasUser = db.hasUser := rfl
  unfold insertEntry on
  rw [haccess, hknown]
  cases db.access .auditEntries with
  | error e => rfl
  | ok _ =>
    dsimp only
    split <;> rfl

/-- With a user go the same tokens, whatever their secrets. -/
theorem deleteUser_redact (db : Database) (id : String) :
    db.redact.deleteUser id = (db.deleteUser id).map redact := by
  have haccess : db.redact.access .users = db.access .users := rfl
  unfold deleteUser on
  rw [haccess]
  cases db.access .users with
  | error e => rfl
  | ok _ =>
    simp only [redact, Except.map, List.filter_map]
    rfl

theorem isExpired_redact (now : Instant) (token : ResetToken) :
    isExpired now token.redact = isExpired now token := by
  have hexpires : token.redact.expires = token.expires := rfl
  unfold isExpired
  rw [hexpires]

/-- The same tokens expire, whatever their secrets. -/
theorem deleteExpired_redact (db : Database) (now : Instant) :
    db.redact.deleteExpired now = (db.deleteExpired now).map (Prod.map id redact) := by
  have haccess : db.redact.access .resetTokens = db.access .resetTokens := rfl
  have hexpired : isExpired now ∘ ResetToken.redact = isExpired now := by
    funext token
    rw [Function.comp_apply, isExpired_redact]
  have hspared : (!isExpired now ·) ∘ ResetToken.redact = (!isExpired now ·) := by
    funext token
    rw [Function.comp_apply, isExpired_redact]
  unfold deleteExpired on
  rw [haccess]
  cases db.access .resetTokens with
  | error e => rfl
  | ok _ =>
    simp only [redact, Except.map, List.filter_map, List.countP_map, hexpired, hspared,
      Prod.map_apply, id_eq]

end Database

namespace World

variable {w₁ w₂ : World}

theorem draws_of_redact (h : w₁.redact = w₂.redact) : w₁.draws = w₂.draws := by
  have hdraws := congrArg World.draws h
  exact hdraws

theorem sessions_of_redact (h : w₁.redact = w₂.redact) : w₁.sessions = w₂.sessions := by
  have hsessions := congrArg World.sessions h
  exact hsessions

theorem db_of_redact (h : w₁.redact = w₂.redact) : w₁.db.redact = w₂.db.redact := by
  have hdb := congrArg World.db h
  exact hdb

theorem redact_congr_db (h : w₁.redact = w₂.redact) {db₁ db₂ : Database}
    (hdb : db₁.redact = db₂.redact) :
    redact { w₁ with db := db₁ } = redact { w₂ with db := db₂ } := by
  change { w₁.redact with db := db₁.redact } = { w₂.redact with db := db₂.redact }
  rw [h, hdb]

theorem redact_congr_draws (h : w₁.redact = w₂.redact) (draws : Draws) :
    redact { w₁ with draws } = redact { w₂ with draws } := by
  change { w₁.redact with draws } = { w₂.redact with draws }
  rw [h]

/-- Making a user does the same in worlds that differ in secrets only. -/
theorem createUser_alike (s : Service) (now : Instant) (secret₁ secret₂ : Nat → String)
    (h : w₁.redact = w₂.redact) (username email passwordHash : String) :
    (w₁.createUser (s.withSecrets secret₁) now username email passwordHash).map (Prod.map id redact)
      = (w₂.createUser (s.withSecrets secret₂) now username email passwordHash).map
        (Prod.map id redact) := by
  have hinsert : ∀ user, (w₁.db.insertUser user).map Database.redact
      = (w₂.db.insertUser user).map Database.redact := by
    intro user
    rw [← Database.insertUser_redact, ← Database.insertUser_redact, db_of_redact h]
  unfold createUser
  rw [draws_of_redact h]
  dsimp only [Service.withSecrets]
  rcases of_map_eq_map (hinsert _) with ⟨e, h₁, h₂⟩ | ⟨db₁, db₂, h₁, h₂, hsame⟩
  · rw [h₁, h₂]
  · rw [h₁, h₂]
    simp only [Except.map, Prod.map_apply, id_eq]
    rw [redact_congr_draws (redact_congr_db h hsame)]

/-- Making an account does the same in worlds that differ in secrets only. -/
theorem register_alike (s : Service) (now : Instant) (secret₁ secret₂ : Nat → String)
    (h : w₁.redact = w₂.redact) (account : NewAccount) :
    (w₁.register (s.withSecrets secret₁) now account).map (Prod.map id redact)
      = (w₂.register (s.withSecrets secret₂) now account).map (Prod.map id redact) := by
  have hhash : w₁.hashNext (s.withSecrets secret₁) account.password
      = w₂.hashNext (s.withSecrets secret₂) account.password := by
    unfold hashNext
    rw [draws_of_redact h]
    rfl
  have hcreate := createUser_alike s now secret₁ secret₂ h account.username account.email
    (w₂.hashNext (s.withSecrets secret₂) account.password)
  unfold register
  rw [hhash]
  rcases of_map_eq_map hcreate with ⟨e, h₁, h₂⟩ | ⟨_, _, h₁, h₂, hsame⟩
  · rw [h₁, h₂]
  · rw [h₁, h₂]
    exact congrArg Except.ok hsame

end World

/-! ### Visits -/

/-- The visits differ in secrets only, and their logs in details only. -/
structure Visit.Alike (v₁ v₂ : Visit) : Prop where
  /-- The worlds differ in secrets only. -/
  world : v₁.world.redact = v₂.world.redact
  /-- The sessions are the same. -/
  session : v₁.session = v₂.session
  /-- The logs show the same. -/
  log : shown v₁.log = shown v₂.log

/-- The results of two actions are the same, and the visits afterwards are alike. -/
def AlikeAfter {α : Type} (after₁ after₂ : α × Visit) : Prop :=
  after₁.1 = after₂.1 ∧ after₁.2.Alike after₂.2

theorem AlikeAfter.exists_eq {α : Type} {after₁ after₂ : α × Visit} (h : AlikeAfter after₁ after₂) :
    ∃ a v₁ v₂, after₁ = (a, v₁) ∧ after₂ = (a, v₂) ∧ v₁.Alike v₂ := by
  obtain ⟨hresult, halike⟩ := h
  exact ⟨after₁.1, after₁.2, after₂.2, rfl, by rw [hresult], halike⟩

theorem AlikeAfter.ite {α : Type} {c : Prop} [Decidable c] {yes₁ yes₂ no₁ no₂ : α × Visit}
    (hyes : AlikeAfter yes₁ yes₂) (hno : AlikeAfter no₁ no₂) :
    AlikeAfter (if c then yes₁ else no₁) (if c then yes₂ else no₂) := by
  by_cases h : c
  · rw [if_pos h, if_pos h]
    exact hyes
  · rw [if_neg h, if_neg h]
    exact hno

namespace Visit

variable {m : Moment} {v₁ v₂ : Visit} (secret₁ secret₂ : Nat → String)

theorem Alike.live (h : v₁.Alike v₂) : v₁.live = v₂.live := by
  unfold Visit.live
  rw [h.session, World.sessions_of_redact h.world, World.draws_of_redact h.world]

theorem Alike.withLive (h : v₁.Alike v₂) (l : Live) : (v₁.withLive l).Alike (v₂.withLive l) where
  world := by
    change { v₁.world.redact with
        sessions := l.store, draws := { v₁.world.draws with sessions := l.drawn } }
      = { v₂.world.redact with
        sessions := l.store, draws := { v₂.world.draws with sessions := l.drawn } }
    rw [h.world, World.draws_of_redact h.world]
  session := rfl
  log := h.log

theorem Alike.withWorld (h : v₁.Alike v₂) {w₁ w₂ : World} (hworld : w₁.redact = w₂.redact) :
    (v₁.withWorld w₁).Alike (v₂.withWorld w₂) :=
  ⟨hworld, h.session, h.log⟩

theorem Alike.note (h : v₁.Alike v₂) {events₁ events₂ : List Event}
    (hshown : shown events₁ = shown events₂) : (v₁.note events₁).Alike (v₂.note events₂) where
  world := h.world
  session := h.session
  log := by
    change shown (v₁.log ++ events₁) = shown (v₂.log ++ events₂)
    rw [shown_append, shown_append, h.log, hshown]

theorem userId_alike (h : v₁.Alike v₂) :
    AlikeAfter (v₁.userId (m.withSecrets secret₁)) (v₂.userId (m.withSecrets secret₂)) := by
  unfold userId
  rw [h.live, Moment.setting_withSecrets, Moment.setting_withSecrets]
  cases v₂.live.userId m.setting with
  | mk result l => cases result <;> exact ⟨rfl, h.withLive l⟩

theorem bindUser_alike (h : v₁.Alike v₂) (user : User) :
    AlikeAfter (v₁.bindUser (m.withSecrets secret₁) user)
      (v₂.bindUser (m.withSecrets secret₂) user) := by
  unfold bindUser
  rw [h.live, Moment.setting_withSecrets, Moment.setting_withSecrets]
  cases v₂.live.logIn m.setting user passwordBackend with
  | mk result l =>
    cases result with
    | error e => exact ⟨rfl, h.withLive l⟩
    | ok _ => exact ⟨rfl, (h.withLive l).note rfl⟩

theorem audit_alike (h : v₁.Alike v₂) (userId : Option String) :
    AlikeAfter (v₁.audit (m.withSecrets secret₁) userId)
      (v₂.audit (m.withSecrets secret₂) userId) := by
  have hinsert : (v₁.world.db.insertEntry userId m.now).map (Prod.map id Database.redact)
      = (v₂.world.db.insertEntry userId m.now).map (Prod.map id Database.redact) := by
    rw [← Database.insertEntry_redact, ← Database.insertEntry_redact, World.db_of_redact h.world]
  unfold audit
  rw [Moment.now_withSecrets, Moment.now_withSecrets]
  rcases of_map_eq_map hinsert with ⟨e, h₁, h₂⟩ | ⟨after₁, after₂, h₁, h₂, hsame⟩
  · rw [h₁, h₂]
    exact ⟨rfl, h⟩
  · rw [h₁, h₂]
    exact ⟨rfl, World.redact_congr_db h.world (Prod.mk.inj hsame).2, h.session, h.log⟩

theorem logIn_alike (h : v₁.Alike v₂) (form : LoginForm) :
    AlikeAfter (v₁.logIn (m.withSecrets secret₁) form) (v₂.logIn (m.withSecrets secret₂) form) := by
  have hvalidate : form.validate m.service.kdf v₁.world.db
      = form.validate m.service.kdf v₂.world.db := by
    rw [← LoginForm.validate_redact, World.db_of_redact h.world, LoginForm.validate_redact]
  unfold logIn
  rw [Moment.service_withSecrets, Moment.service_withSecrets, Service.kdf_withSecrets,
    Service.kdf_withSecrets, hvalidate]
  cases form.validate m.service.kdf v₂.world.db with
  | error e => exact ⟨rfl, h⟩
  | ok user =>
    dsimp only
    obtain ⟨result, v₁', v₂', h₁, h₂, halike⟩ :=
      (bindUser_alike (m := m) secret₁ secret₂ h user).exists_eq
    rw [h₁, h₂]
    cases result with
    | error e => exact ⟨rfl, halike⟩
    | ok _ => exact ⟨rfl, halike.note rfl⟩

theorem logOut_alike (h : v₁.Alike v₂) :
    AlikeAfter (v₁.logOut (m.withSecrets secret₁)) (v₂.logOut (m.withSecrets secret₂)) := by
  obtain ⟨result, v₁', v₂', h₁, h₂, halike⟩ :=
    (userId_alike (m := m) secret₁ secret₂ h).exists_eq
  unfold logOut
  rw [h₁, h₂]
  cases result with
  | error e => exact ⟨rfl, halike⟩
  | ok bound =>
    dsimp only
    have hnoted := halike.note (rfl : shown (bound.map logOutEvent).toList = _)
    rw [hnoted.live]
    cases (v₂'.note (bound.map logOutEvent).toList).live.logOut with
    | mk result l => cases result <;> exact ⟨rfl, hnoted.withLive l⟩

theorem register_alike (h : v₁.Alike v₂) (form : RegistrationForm) :
    AlikeAfter (v₁.register (m.withSecrets secret₁) form)
      (v₂.register (m.withSecrets secret₂) form) := by
  have hvalidate : form.validate v₁.world.db = form.validate v₂.world.db := by
    rw [← RegistrationForm.validate_redact, World.db_of_redact h.world,
      RegistrationForm.validate_redact]
  unfold register
  rw [hvalidate, Moment.service_withSecrets, Moment.service_withSecrets, Moment.now_withSecrets,
    Moment.now_withSecrets]
  cases form.validate v₂.world.db with
  | error e => exact ⟨rfl, h⟩
  | ok account =>
    dsimp only
    have hmade := World.register_alike m.service m.now secret₁ secret₂ h.world account
    rcases of_map_eq_map hmade with ⟨e, h₁, h₂⟩ | ⟨⟨user, w₁⟩, ⟨user', w₂⟩, h₁, h₂, hsame⟩
    · rw [h₁, h₂]
      exact ⟨rfl, h⟩
    · obtain ⟨huser, hworld⟩ := Prod.mk.inj hsame
      obtain rfl : user = user' := huser
      rw [h₁, h₂]
      dsimp only
      -- The user stays registered, whether the session can be bound or not.
      obtain ⟨result, v₁', v₂', hbind₁, hbind₂, halike⟩ :=
        (bindUser_alike (m := m) secret₁ secret₂ (h.withWorld hworld) user).exists_eq
      rw [hbind₁, hbind₂]
      cases result with
      | error e => exact ⟨rfl, halike⟩
      | ok _ => exact ⟨rfl, halike.note rfl⟩

theorem status_alike (h : v₁.Alike v₂) :
    AlikeAfter (v₁.status (m.withSecrets secret₁)) (v₂.status (m.withSecrets secret₂)) := by
  obtain ⟨result, v₁', v₂', h₁, h₂, halike⟩ :=
    (userId_alike (m := m) secret₁ secret₂ h).exists_eq
  unfold status
  rw [h₁, h₂]
  cases result with
  | error e => exact ⟨rfl, halike⟩
  | ok bound =>
    cases bound with
    | none =>
      dsimp only
      obtain ⟨noted, v₁'', v₂'', hnote₁, hnote₂, hnoted⟩ :=
        (audit_alike (m := m) secret₁ secret₂ halike none).exists_eq
      rw [hnote₁, hnote₂]
      cases noted <;> exact ⟨rfl, hnoted⟩
    | some id =>
      have hfind : findUser v₁'.world.db id = findUser v₂'.world.db id := by
        rw [← findUser_redact, World.db_of_redact halike.world, findUser_redact]
      dsimp only
      rw [hfind]
      cases findUser v₂'.world.db id with
      | error e => exact ⟨rfl, halike⟩
      | ok user =>
        dsimp only
        obtain ⟨noted, v₁'', v₂'', hnote₁, hnote₂, hnoted⟩ :=
          (audit_alike (m := m) secret₁ secret₂ halike (some user.id)).exists_eq
        rw [hnote₁, hnote₂]
        cases noted <;> exact ⟨rfl, hnoted⟩

/-- The session is saved in the same way. -/
theorem finish_alike (h : v₁.Alike v₂) (sent : Bool) (reply : Reply) :
    AlikeAfter (v₁.finish (m.withSecrets secret₁) sent reply)
      (v₂.finish (m.withSecrets secret₂) sent reply) := by
  unfold finish
  rw [h.session, h.live, Moment.setting_withSecrets, Moment.setting_withSecrets]
  apply AlikeAfter.ite
  · exact ⟨rfl, h⟩
  · apply AlikeAfter.ite
    · cases v₂.live.save m.setting with
      | mk result l => cases result <;> exact ⟨rfl, h.withLive l⟩
    · exact ⟨rfl, h⟩

end Visit

/-! ### Requests -/

section

variable {m : Moment} {r : Request} {v₁ v₂ : Visit} (secret₁ secret₂ : Nat → String)

/-- An action on a form keeps visits alike if it does so for every form. -/
theorem withForm_alike {α : Type} {form : Except FormErrors α}
    {action₁ action₂ : α → Visit → Outcome × Visit} (h : v₁.Alike v₂)
    (haction : ∀ a, form = .ok a → AlikeAfter (action₁ a v₁) (action₂ a v₂)) :
    AlikeAfter (withForm form action₁ v₁) (withForm form action₂ v₂) := by
  cases form with
  | error errors => exact ⟨rfl, h⟩
  | ok a => exact haction a rfl

/-- Every action except that on a forgotten password keeps visits alike. -/
theorem Route.run_alike (h : v₁.Alike v₂) {route : Route} (hroute : route ≠ .resetPassword) :
    AlikeAfter (route.run (m.withSecrets secret₁) r v₁)
      (route.run (m.withSecrets secret₂) r v₂) := by
  cases route with
  | health => exact ⟨rfl, h⟩
  | logIn => exact withForm_alike h fun form _ => Visit.logIn_alike secret₁ secret₂ h form
  | logOut => exact Visit.logOut_alike secret₁ secret₂ h
  | register => exact withForm_alike h fun form _ => Visit.register_alike secret₁ secret₂ h form
  | status => exact Visit.status_alike secret₁ secret₂ h
  | resetPassword => exact absurd rfl hroute

/-- Outcomes that are the same are answered in the same way. -/
theorem Visit.conclude_alike {after₁ after₂ : Outcome × Visit} (h : AlikeAfter after₁ after₂) :
    AlikeAfter (conclude after₁) (conclude after₂) := by
  obtain ⟨outcome, v₁, v₂, rfl, rfl, halike⟩ := h.exists_eq
  cases outcome with
  | ok body => exact ⟨rfl, halike⟩
  | error f => exact ⟨rfl, halike.note rfl⟩

/-- If the action of a request keeps visits alike, so does its response. -/
theorem respond_alike (h : v₁.Alike v₂)
    (hrun : ∀ route, Route.ofPath? r.path = some route →
      AlikeAfter (route.run (m.withSecrets secret₁) r v₁)
        (route.run (m.withSecrets secret₂) r v₂)) :
    AlikeAfter (respond (m.withSecrets secret₁) r v₁) (respond (m.withSecrets secret₂) r v₂) := by
  unfold respond
  cases hroute : Route.ofPath? r.path with
  | none => exact ⟨rfl, h⟩
  | some route =>
    -- Whether the action is run depends on the request and the settings only.
    apply AlikeAfter.ite
    · exact ⟨rfl, h.note rfl⟩
    · apply AlikeAfter.ite
      · exact ⟨rfl, h⟩
      · apply AlikeAfter.ite
        · exact ⟨rfl, h⟩
        · exact Visit.conclude_alike (hrun route hroute)

end

/-- The answers are the same, and the worlds and the logs differ in secrets and details only. -/
structure Handled.Alike (h₁ h₂ : Handled) : Prop where
  /-- The answers are the same. -/
  answer : h₁.answer = h₂.answer
  /-- The worlds differ in secrets only. -/
  world : h₁.world.redact = h₂.world.redact
  /-- The logs show the same. -/
  log : shown h₁.log = shown h₂.log

namespace Service

variable {s : Service} {now : Instant} {r : Request} {w₁ w₂ : World}
  (secret₁ secret₂ : Nat → String)

theorem settle_alike {v₁ v₂ : Visit} (h : v₁.Alike v₂) (answer : Answer) :
    ((s.withSecrets secret₁).settle now r answer v₁).Alike
      ((s.withSecrets secret₂).settle now r answer v₂) := by
  have hfinish := Visit.finish_alike (m := s.moment now) secret₁ secret₂ h
    (r.lastCookie? sessionCookie).isSome
  simp only [settle, lifetime_withSecrets]
  cases s.lifetime with
  | none => exact ⟨rfl, h.world, h.log⟩
  | some lifetime =>
    cases answer with
    | error e => exact ⟨rfl, h.world, h.log⟩
    | ok reply =>
      obtain ⟨hreply, halike⟩ := hfinish reply
      exact ⟨congrArg Except.ok hreply, halike.world, halike.log⟩

/-- If the action of a request keeps visits alike, the request is answered alike in worlds that
differ in secrets only. -/
theorem handle_alike (h : w₁.redact = w₂.redact)
    (hrun : ∀ route, Route.ofPath? r.path = some route →
      AlikeAfter (route.run ((s.moment now).withSecrets secret₁) r (s.visit r w₁))
        (route.run ((s.moment now).withSecrets secret₂) r (s.visit r w₂))) :
    ((s.withSecrets secret₁).handle now r w₁).Alike ((s.withSecrets secret₂).handle now r w₂) := by
  -- A visit starts with the session that is presented, and with an empty log.
  have hvisit : (s.visit r w₁).Alike (s.visit r w₂) := ⟨h, rfl, rfl⟩
  obtain ⟨hanswer, halike⟩ := respond_alike secret₁ secret₂ hvisit hrun
  rw [handle_eq_settle, handle_eq_settle]
  change ((s.withSecrets secret₁).settle now r
      (cut r (respond ((s.moment now).withSecrets secret₁) r (s.visit r w₁)).1) _).Alike
    ((s.withSecrets secret₂).settle now r
      (cut r (respond ((s.moment now).withSecrets secret₂) r (s.visit r w₂)).1) _)
  rw [hanswer]
  exact settle_alike secret₁ secret₂ halike _

end Service

end CookieAuth
