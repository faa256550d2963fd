import CookieAuth.Proofs.Account.Addresses
import CookieAuth.Proofs.Account.Conflicts
import CookieAuth.Proofs.Account.Validation
import CookieAuth.Proofs.Service.Soundness

/-!
# Requests fail only for deleted users

In a sound world an action succeeds, or turns down what a form says.  There is one exception: the
status of a session whose user was deleted cannot be told, and asking for it is answered with status
500.  This file goes through the actions one by one and follows their outcomes up to the answer.

## Main definitions

* `Http.Request.AsksStatus`: a request for the status;
* `Route.Ends`: the outcomes of actions in a sound world.

## Main results

* `RegistrationForm.register_of_validate_ok`: once a form was checked, the account can be made;
* `Route.ends_run`: the actions have no other outcomes;
* `Service.serverError_iff_deleted`: a request is answered with status 500 exactly if it asks for
  the status of a session whose user was deleted.
-/

namespace CookieAuth

open Http Text Time

/-- A request for the status, or for its headers only. -/
def Http.Request.AsksStatus (r : Request) : Prop :=
  Route.ofPath? r.path = some .status ∧ (r.method = "GET" ∨ r.method = "HEAD")

/-! ### Forms -/

section Forms

variable {db : Database}

/-- Names and passwords can be compared where all stored hashes can be read. -/
theorem authenticate_of_hashes (kdf : Password.KeyDerivation) (haccess : db.access .users = .ok ())
    (hhashes : ∀ u ∈ db.users, ∃ stored, Password.StoredHash.parse u.passwordHash = .ok stored)
    (username password : String) : ∃ found, authenticate kdf db username password = .ok found := by
  unfold authenticate Database.findByUsername Database.on
  rw [haccess]
  dsimp only
  cases hfind : db.users.find? (·.username = username) with
  | none => exact ⟨none, rfl⟩
  | some user =>
    obtain ⟨stored, hstored⟩ := hhashes user (List.mem_of_find?_eq_some hfind)
    have hverify : Password.verifyPassword kdf password user.passwordHash
        = .ok (stored.verify kdf password) := by
      rw [Password.verifyPassword, hstored]
      rfl
    dsimp only
    rw [hverify]
    cases stored.verify kdf password with
    | true => exact ⟨some user, rfl⟩
    | false => exact ⟨none, rfl⟩

theorem LoginForm.validate_of_hashes (kdf : Password.KeyDerivation)
    (haccess : db.access .users = .ok ())
    (hhashes : ∀ u ∈ db.users, ∃ stored, Password.StoredHash.parse u.passwordHash = .ok stored)
    (form : LoginForm) :
    (∃ user, form.validate kdf db = .ok user) ∨
      ∃ errors, form.validate kdf db = .error (.validation errors) := by
  obtain ⟨found, hfound⟩ :=
    authenticate_of_hashes kdf haccess hhashes (trim form.username) form.password
  unfold validate
  split
  · exact .inr ⟨_, rfl⟩
  · rw [hfound]
    cases found with
    | none => exact .inr ⟨_, rfl⟩
    | some user =>
      dsimp only
      split
      · exact .inl ⟨_, rfl⟩
      · exact .inr ⟨_, rfl⟩

namespace RegistrationForm

theorem validate_of_access (haccess : db.access .users = .ok ()) (form : RegistrationForm) :
    (∃ account, form.validate db = .ok account) ∨
      ∃ errors, form.validate db = .error (.validation errors) := by
  rw [validate_eq_firstMessages haccess]
  split
  · exact .inl ⟨_, rfl⟩
  · exact .inr ⟨_, rfl⟩

/-- Once a form was checked, nothing keeps the account from being made: nobody has its name or its
address, and the next identifier is free. -/
theorem register_of_validate_ok {s : Service} {gone : String → Prop} {w : World}
    {form : RegistrationForm} {account : NewAccount} (h : w.Orderly s gone)
    (hvalid : form.validate w.db = .ok account) (now : Instant) :
    ∃ user w', w.register s now account = .ok (user, w') := by
  have hfree : ∀ u ∈ w.db.users, s.supply.userId w.draws.users ≠ u.id := by
    intro u hu
    exact h.spent u.id (.inl (Database.hasUser_iff.mpr ⟨u, hu, rfl⟩)) _ (Nat.le_refl _)
  rcases World.register_cases (h.access .users) hfree now account with
    hmade | ⟨errors, -, hconflict⟩
  · exact hmade
  · cases hconflict with
    | username hrow htaken => exact absurd htaken (username_of_validate_ok hvalid _ hrow)
    | email hrow htaken =>
      have hother := address_of_validate_ok hvalid _ hrow
      rw [htaken, sameIgnoringCase_self] at hother
      simp at hother

end RegistrationForm

end Forms

/-! ### Visits -/

namespace Visit

variable {m : Moment} {v : Visit} {known : String → Prop} {db : Database} {id : String}

theorem userId_of_reliable (hunread : v.session.loaded = none)
    (h : v.world.sessions.Reliable known) :
    ∃ l, v.userId m = (.ok (v.world.sessions.boundUser? m.now v.session.id), v.withLive l) ∧
      l.store = v.world.sessions := by
  obtain ⟨l, huser, hstore⟩ := Live.userId_of_reliable (σ := m.setting) (l := v.live) hunread h
  refine ⟨l, ?_, hstore⟩
  unfold userId
  rw [huser]
  rfl

theorem bindUser_of_reliable (user : User) (hunread : v.session.loaded = none)
    (h : v.world.sessions.Reliable known) : ∃ v', v.bindUser m user = (.ok (), v') := by
  obtain ⟨l, hbound⟩ :=
    Live.logIn_of_reliable (σ := m.setting) (l := v.live) user passwordBackend hunread h
  unfold bindUser
  rw [hbound]
  exact ⟨_, rfl⟩

/-- The body of the reply to a logout. -/
def successBody : Json :=
  .obj [("result", .str "success")]

/-- Every session can be cleared, which erases the record that is found under its identifier. -/
theorem logOut_of_reliable (m : Moment) (hunread : v.session.loaded = none)
    (h : v.world.sessions.Reliable known) :
    ∃ v', v.logOut m = (.ok successBody, v') ∧ v'.session.isEmpty = true ∧
      ((∃ id data, v.session.id = some id ∧ v.world.sessions.find? id m.now = some data ∧
          v'.world.sessions = v.world.sessions.erase id) ∨
        (v.world.sessions.seen? m.now v.session.id = none ∧
          v'.world.sessions = v.world.sessions)) := by
  obtain ⟨l, huser, hstore⟩ := userId_of_reliable (m := m) hunread h
  obtain ⟨e, l₁, herror, -⟩ | ⟨bound, loaded, l₁, -, hvisit, hload, -⟩ := userId_cases huser
  · simp at herror
  · obtain rfl : l = l₁ := congrArg live hvisit
    have hfaults : l.store.faults = {} := by
      rw [hstore]
      exact h.faultless
    obtain ⟨l', hcleared⟩ := Live.logOut_of_faultless hfaults
    have hended := Live.logOut_of_opened (Live.opened_of_load hunread hload) hcleared
    have hvisit : ∃ v', v.logOut m = (.ok successBody, v') ∧ v'.live = l' := by
      unfold logOut
      rw [huser]
      dsimp only
      rw [live_note, live_withLive, hcleared]
      exact ⟨_, rfl, rfl⟩
    obtain ⟨v', hlogOut, rfl⟩ := hvisit
    exact ⟨v', hlogOut, hended⟩

theorem findUser_of_hasUser (haccess : db.access .users = .ok ()) (h : db.hasUser id = true) :
    ∃ user, findUser db id = .ok user := by
  obtain ⟨u, hu, hid⟩ := Database.hasUser_iff.mp h
  have hsome : (db.users.find? (·.id = id)).isSome = true :=
    List.find?_isSome.mpr ⟨u, hu, by simpa using hid⟩
  obtain ⟨user, hfind⟩ := Option.isSome_iff_exists.mp hsome
  refine ⟨user, ?_⟩
  simp only [findUser, Database.findById, Database.on, haccess, hfind]

theorem findUser_of_absent (haccess : db.access .users = .ok ()) (h : db.hasUser id = false) :
    ∃ text, findUser db id = .error (.userLookup text) := by
  have hnone : db.users.find? (·.id = id) = none := by
    rw [List.find?_eq_none]
    intro u hu hid
    rw [Bool.eq_false_iff] at h
    exact h (Database.hasUser_iff.mpr ⟨u, hu, by simpa using hid⟩)
  simp only [findUser, Database.findById, Database.on, haccess, hnone]
  exact ⟨_, rfl⟩

/-- A check can be noted together with a user who exists, or with nobody. -/
theorem audit_of_known (m : Moment) {userId : Option String}
    (haccess : v.world.db.access .auditEntries = .ok ())
    (hknown : ∀ id, userId = some id → v.world.db.hasUser id = true) :
    ∃ v', v.audit m userId = (.ok (), v') := by
  have hall : userId.all v.world.db.hasUser = true := by
    cases userId with
    | none => rfl
    | some id => exact hknown id rfl
  simp only [audit, Database.insertEntry, Database.on, haccess, hall, if_true]
  exact ⟨_, rfl⟩

end Visit

/-! ### The outcomes of actions -/

namespace Route

variable {s : Service} {gone : String → Prop} {now expires : Instant} {r : Request} {w : World}
  {route : Route}

/-- The outcomes of actions in a sound world, for a request whose session is bound to a user or to
nobody. -/
inductive Ends (w : World) (bound : Option String) (route : Route) : Outcome → Prop where
  /-- The action succeeds; the user of a session whose status is told exists. -/
  | succeeded {body : Json}
      (hpresent : route = .status → ∀ id, bound = some id → w.db.hasUser id = true) :
      Ends w bound route (.ok body)
  /-- The form has errors. -/
  | invalid {errors : FormErrors} (hroute : route ≠ .status) :
      Ends w bound route (.error (.validation errors))
  /-- The user of a session whose status is asked for does not exist. -/
  | orphaned {id text : String} (hroute : route = .status) (hbound : bound = some id)
      (habsent : w.db.hasUser id = false) :
      Ends w bound route (.error (.userLookup text))

theorem Ends.of_ok {bound : Option String} {body : Json} (hroute : route ≠ .status) :
    route.Ends w bound (.ok body) :=
  .succeeded fun hstatus => absurd hstatus hroute

theorem ends_logIn (h : w.Sound s gone) {bound : Option String} :
    Route.logIn.Ends w bound
      (withForm (LoginForm.read r) (Visit.logIn (s.moment now)) (s.visit r w)).1 := by
  unfold withForm
  cases LoginForm.read r with
  | error errors => exact .invalid (by decide)
  | ok form =>
    dsimp only
    unfold Visit.logIn
    rcases form.validate_of_hashes s.kdf (h.access .users) h.hashes with
      ⟨user, hvalid⟩ | ⟨errors, hinvalid⟩
    · obtain ⟨v, hbind⟩ := Visit.bindUser_of_reliable (m := s.moment now) (v := s.visit r w) user
        rfl h.sessions
      rw [show form.validate (s.moment now).service.kdf (s.visit r w).world.db = _ from hvalid]
      dsimp only
      rw [hbind]
      exact .of_ok (by decide)
    · rw [show form.validate (s.moment now).service.kdf (s.visit r w).world.db = _ from hinvalid]
      exact .invalid (by decide)

theorem ends_logOut (h : w.Sound s gone) {bound : Option String} :
    Route.logOut.Ends w bound ((s.visit r w).logOut (s.moment now)).1 := by
  obtain ⟨v, hcleared, -⟩ :=
    Visit.logOut_of_reliable (v := s.visit r w) (s.moment now) rfl h.sessions
  rw [hcleared]
  exact .of_ok (by decide)

theorem ends_register (h : w.Sound s gone) {bound : Option String} :
    Route.register.Ends w bound
      (withForm (RegistrationForm.read r) (Visit.register (s.moment now)) (s.visit r w)).1 := by
  unfold withForm
  cases RegistrationForm.read r with
  | error errors => exact .invalid (by decide)
  | ok form =>
    dsimp only
    unfold Visit.register
    rcases form.validate_of_access (h.access .users) with ⟨account, hvalid⟩ | ⟨errors, hinvalid⟩
    · obtain ⟨user, w', hmade⟩ :=
        RegistrationForm.register_of_validate_ok h.toOrderly hvalid now
      -- Making the user does not touch the sessions.
      have hsessions : w'.sessions.Reliable (w.Knows gone) := by
        obtain ⟨-, -, -, rfl⟩ := World.of_register_ok hmade
        exact h.sessions
      obtain ⟨v, hbind⟩ := Visit.bindUser_of_reliable (m := s.moment now)
        (v := (s.visit r w).withWorld w') user rfl hsessions
      rw [show form.validate (s.visit r w).world.db = _ from hvalid]
      dsimp only
      rw [show (s.visit r w).world.register (s.moment now).service (s.moment now).now account = _
        from hmade]
      dsimp only
      rw [hbind]
      exact .of_ok (by decide)
    · rw [show form.validate (s.visit r w).world.db = _ from hinvalid]
      exact .invalid (by decide)

theorem ends_status (hs : s.Dependable) (h : w.Sound s gone) :
    Route.status.Ends w (w.sessions.boundUser? now r.sessionId?)
      ((s.visit r w).status (s.moment now)).1 := by
  obtain ⟨l, huser, -⟩ :=
    Visit.userId_of_reliable (m := s.moment now) (v := s.visit r w) rfl h.sessions
  rw [Service.id_visit_of_ne_none hs.sessions] at huser
  change (s.visit r w).userId (s.moment now)
    = (.ok (w.sessions.boundUser? now r.sessionId?), _) at huser
  -- Whatever happened to the session, the database is the one of the world.
  have hnoted : ∀ userId, (∀ id, userId = some id → w.db.hasUser id = true) →
      ∃ v, ((s.visit r w).withLive l).audit (s.moment now) userId = (.ok (), v) :=
    fun userId hknown => Visit.audit_of_known (v := (s.visit r w).withLive l) (s.moment now)
      (h.access .auditEntries) hknown
  unfold Visit.status
  rw [huser]
  cases hbound : w.sessions.boundUser? now r.sessionId? with
  | none =>
    obtain ⟨v, haudit⟩ := hnoted none (by simp)
    dsimp only
    rw [haudit]
    exact .succeeded (by simp)
  | some id =>
    dsimp only
    cases hpresent : w.db.hasUser id with
    | true =>
      obtain ⟨user, hfound⟩ := Visit.findUser_of_hasUser (h.access .users) hpresent
      obtain ⟨-, hid⟩ := Visit.of_findUser_ok hfound
      obtain ⟨v, haudit⟩ := hnoted (some user.id) (by
        rintro other hother
        rw [← Option.some.inj hother, hid]
        exact hpresent)
      rw [show Visit.findUser ((s.visit r w).withLive l).world.db id = _ from hfound]
      dsimp only
      rw [haudit]
      refine .succeeded fun _ other hother => ?_
      rw [← Option.some.inj hother]
      exact hpresent
    | false =>
      obtain ⟨text, hlost⟩ := Visit.findUser_of_absent (h.access .users) hpresent
      rw [show Visit.findUser ((s.visit r w).withLive l).world.db id = _ from hlost]
      exact .orphaned rfl rfl hpresent

theorem ends_resetPassword (hs : s.Dependable) (h : w.Sound s gone)
    (hends : now.addMinutes s.config.passwordResetTimeoutMinutes.toInt = .ok expires)
    {bound : Option String} :
    Route.resetPassword.Ends w bound
      (withForm (ResetForm.read r) (Visit.resetPassword (s.moment now)) (s.visit r w)).1 := by
  unfold withForm
  cases ResetForm.read r with
  | error errors => exact .invalid (by decide)
  | ok form =>
    dsimp only
    by_cases hreaches : form.Reaches w.db
    · have howners : ∀ u ∈ w.db.owners (trim form.email), w.db.hasUser u.id = true :=
        fun u hu => Database.hasUser_of_mem_owners hu
      have hsend := World.sendResets_of_accepted (h.toOrderly.canIssue hs hends) howners
        fun k _ => h.mails k
      rw [Service.resetPassword_of_reaches (h.access .users) hreaches hsend]
      exact .of_ok (by decide)
    · obtain ⟨errors, hinvalid⟩ :=
        ResetForm.validate_of_not_reaches (h.access .users) hreaches
      unfold Visit.resetPassword
      rw [show form.validate (s.visit r w).world.db = _ from hinvalid]
      exact .invalid (by decide)

/-- In a sound world the actions have no other outcomes. -/
theorem ends_run (hs : s.Dependable) (h : w.Sound s gone)
    (hends : now.addMinutes s.config.passwordResetTimeoutMinutes.toInt = .ok expires)
    (route : Route) :
    route.Ends w (w.sessions.boundUser? now r.sessionId?)
      (route.run (s.moment now) r (s.visit r w)).1 := by
  cases route with
  | health => exact .of_ok (by decide)
  | logIn => exact ends_logIn h
  | logOut => exact ends_logOut h
  | register => exact ends_register h
  | status => exact ends_status hs h
  | resetPassword => exact ends_resetPassword hs h hends

/-- Only a missing user leads to status 500. -/
theorem Ends.conclude {bound : Option String} {outcome : Outcome} (h : route.Ends w bound outcome)
    (v : Visit) :
    ∃ full, (Visit.conclude (outcome, v)).1 = .ok full ∧ full.status ≤ 500 ∧
      (full.status = 500 ↔ route = .status ∧ ∃ id, bound = some id ∧ w.db.hasUser id = false) := by
  cases h with
  | succeeded hpresent =>
    refine ⟨_, rfl, by simp [Reply.ofJson], by simp [Reply.ofJson], ?_⟩
    rintro ⟨hstatus, id, hbound, habsent⟩
    rw [hpresent hstatus id hbound] at habsent
    simp at habsent
  | invalid hroute => exact ⟨_, rfl, by simp [Reply.ofJson], by simp [Reply.ofJson, hroute]⟩
  | orphaned hroute hbound habsent =>
    exact ⟨_, rfl, Nat.le_refl _, fun _ => ⟨hroute, _, hbound, habsent⟩, fun _ => rfl⟩

end Route

/-! ### Answers -/

namespace Visit

/-- Where the store refuses nothing, saving the session does not change the status. -/
theorem status_finish {v : Visit} (h : v.world.sessions.faults = {}) (m : Moment) (sent : Bool)
    (reply : Reply) : (v.finish m sent reply).1.status = reply.status := by
  obtain ⟨l, hsaved⟩ := Live.save_of_faultless (l := v.live) m.setting h
  unfold finish
  split
  · split <;> rfl
  · split
    · rw [hsaved]
    · rfl

end Visit

namespace Service

variable {s : Service} {gone : String → Prop} {now expires : Instant} {r : Request} {w : World}

theorem reply_settle_of_faultless (s : Service) (now : Instant) (r : Request) {v : Visit}
    (h : v.world.sessions.faults = {}) (full : Reply) :
    ∃ reply, (s.settle now r (cut r (.ok full)) v).answer = .ok reply ∧
      reply.status = full.status := by
  obtain ⟨short, hcut, hstatus, -⟩ := cut_ok r full
  rw [hcut]
  unfold settle
  split
  · next hshort =>
    obtain rfl := Except.ok.inj hshort
    exact ⟨_, rfl, (Visit.status_finish h _ _ _).trans hstatus⟩
  · exact ⟨short, rfl, hstatus⟩

/-- No action makes the store refuse anything. -/
theorem faults_run (s : Service) (now : Instant) (w : World) {route : Route}
    (hroute : Route.ofPath? r.path = some route) :
    (route.run (s.moment now) r (s.visit r w)).2.world.sessions.faults = w.sessions.faults := by
  have hacted := Route.acted_run (m := s.moment now) (v := s.visit r w) rfl rfl hroute
  generalize (route.run (s.moment now) r (s.visit r w)).2 = v at hacted
  generalize (route.run (s.moment now) r (s.visit r w)).1 = outcome at hacted
  cases hacted with
  | idle hstore => rw [hstore]; rfl
  | admitted hadmitted hbound hworld =>
    obtain ⟨_, _, _, _, rfl⟩ := hbound.shape
    rw [hworld]
    rfl
  | cleared hlogOut hempty hstore =>
    rcases hstore with ⟨_, _, -, -, hstore⟩ | ⟨-, hstore⟩
    · rw [hstore]; rfl
    · rw [hstore]; rfl

theorem asksStatus_iff {route : Route} (hroute : Route.ofPath? r.path = some route)
    (haccepts : route.accepts r.method = true) : r.AsksStatus ↔ route = .status := by
  constructor
  · intro hasks
    exact Option.some.inj (hroute.symm.trans hasks.1)
  · rintro rfl
    exact ⟨hroute, by simpa [Route.accepts, Route.isRetrieval] using haccepts⟩

/-- In a sound world every request gets a response, which has status 500 only if the status is asked
for with the session of somebody who does not exist. -/
theorem respond_of_sound (hs : s.Dependable) (h : w.Sound s gone)
    (hends : now.addMinutes s.config.passwordResetTimeoutMinutes.toInt = .ok expires)
    (r : Request) :
    ∃ full, (respond (s.moment now) r (s.visit r w)).1 = .ok full ∧
      (respond (s.moment now) r (s.visit r w)).2.world.sessions.faults = {} ∧
      full.status ≤ 500 ∧
      (full.status = 500 ↔ r.AsksStatus ∧ ∃ id,
        w.sessions.boundUser? now r.sessionId? = some id ∧ w.db.hasUser id = false) := by
  rcases respond_cases (s.moment now) r (s.visit r w) with
    ⟨full, hfull, -, hbelow, -, hworld, -⟩ | ⟨route, hroute, haccepts, -, hrun⟩
  · have hbelow : full.status < 500 := hbelow hs.sessions
    refine ⟨full, hfull, ?_, by omega, by omega, ?_⟩
    · rw [hworld]
      exact h.sessions.faultless
    · -- A request for the status is not turned down.
      rintro ⟨⟨hroute, hmethod⟩, horphaned⟩
      have hrun := respond_of_accepted (m := s.moment now) hroute
        (by simpa [Route.accepts, Route.isRetrieval] using hmethod) (by simp [Route.isProtected])
        (fun _ => hs.sessions) (s.visit r w)
      obtain ⟨full', hfull', -, hiff⟩ := (Route.ends_run hs h hends (r := r) .status).conclude
        (Route.run (s.moment now) r .status (s.visit r w)).2
      rw [hrun] at hfull
      rw [Except.ok.inj (hfull.symm.trans hfull')] at hbelow
      have hstatus := hiff.mpr ⟨rfl, horphaned⟩
      omega
  · obtain ⟨full, hfull, hmost, hiff⟩ := (Route.ends_run hs h hends (r := r) route).conclude
      (route.run (s.moment now) r (s.visit r w)).2
    rw [← asksStatus_iff hroute haccepts] at hiff
    rw [hrun]
    refine ⟨full, hfull, ?_, hmost, hiff⟩
    have hfaults := (faults_run s now w hroute).trans h.sessions.faultless
    unfold Visit.conclude
    split
    · next hok => rw [hok] at hfaults; exact hfaults
    · next herror => rw [herror] at hfaults; exact hfaults

/-- Start with an empty database and no sessions, with a store and a mailer that do not fail, and
let users be made by registrations only.  Then every request is answered, and exactly those requests
for the status are answered with status 500 whose session is bound to a user who was deleted.  Every
stored hash can be read, every session names its user and what checked the user, an account can be
made once its form was checked, and an action fails only because of its form or because the user of
the session is gone. -/
theorem serverError_iff_deleted (s : Service) (w : World) (hs : s.Dependable)
    (hdb : w.db = .empty) (hsessions : w.sessions = {})
    (hmails : ∀ k, w.mailer.refusal? k = none) (deeds : List Deed)
    (hdeeds : ∀ d ∈ deeds, d.Regular s) (now : Instant) (r : Request)
    (hrequest : Deed.Regular s ⟨now, .request r⟩) :
    (∃ reply, (s.handle now r (s.run w deeds).world).answer = .ok reply ∧ reply.status ≤ 500 ∧
      (reply.status = 500 ↔ r.AsksStatus ∧ ∃ id,
        (s.run w deeds).world.sessions.boundUser? now r.sessionId? = some id ∧
          s.Deleted w deeds id)) ∧
    (∀ u ∈ (s.run w deeds).world.db.users,
      ∃ stored, Password.StoredHash.parse u.passwordHash = .ok stored) ∧
    (∀ id record, (s.run w deeds).world.sessions.get? id = some record →
      ∃ userId backend, record.data.Binds userId backend) ∧
    (∀ form account, RegistrationForm.validate (s.run w deeds).world.db form = .ok account →
      ∃ user w', (s.run w deeds).world.register s now account = .ok (user, w')) ∧
    ∀ route f v, Route.ofPath? r.path = some route →
      route.run (s.moment now) r (s.visit r (s.run w deeds).world) = (.error f, v) →
      (∃ errors, f = .validation errors) ∨ (route = .status ∧ ∃ text, f = .userLookup text) := by
  have hsound := sound_run hs (World.sound_of_empty s hdb hsessions hmails) hdeeds
  obtain ⟨expires, hends⟩ := hrequest.ends r rfl
  refine ⟨?_, hsound.hashes, ?_, ?_, ?_⟩
  · obtain ⟨full, hfull, hfaults, hmost, hiff⟩ := respond_of_sound hs hsound hends r
    obtain ⟨reply, hreply, hstatus⟩ := s.reply_settle_of_faultless now r hfaults full
    rw [← hstatus] at hmost hiff
    refine ⟨reply, ?_, hmost, hiff.trans (and_congr_right fun _ => exists_congr fun id =>
      and_congr_right fun hbound => ?_)⟩
    · rw [handle_eq_settle, hfull]
      exact hreply
    · -- The user of a session exists or was deleted.
      constructor
      · intro habsent
        rcases hsound.sessions.of_boundUser? hbound with hpresent | hgone
        · rw [habsent] at hpresent
          simp at hpresent
        · exact hgone
      · exact hsound.departed id
  · intro id record hget
    obtain ⟨userId, backend, hbinds, -⟩ := hsound.sessions.bound id record hget
    exact ⟨userId, backend, hbinds⟩
  · intro form account hvalid
    exact RegistrationForm.register_of_validate_ok hsound.toOrderly hvalid now
  · intro route f v hroute hrun
    have hended := Route.ends_run hs hsound hends (r := r) route
    rw [hrun] at hended
    cases hended with
    | invalid => exact .inl ⟨_, rfl⟩
    | orphaned hstatus => exact .inr ⟨hstatus, _, rfl⟩

end Service

namespace Sample

/-- Alice registers. -/
def joining : Request :=
  post "/api/auth/register"
    "username=alice&email=alice%40example.com&password1=long-enough&password2=long-enough" ""

/-- Alice's registration as the only deed. -/
def arrival : List Deed := [⟨⟨0⟩, .request joining⟩]

/-- Alice registers, and the account is deleted. -/
def farewell : List Deed := arrival ++ [⟨⟨1⟩, .deleteUser "u"⟩]

/-- The identifier of Alice's session. -/
def alicesId : SessionId := supply.sessionId 1

/-- The registration makes a user, and binds a session to this user. -/
theorem bound_arrival :
    (service.run {} arrival).world.db.hasUser "u" = true ∧
      (service.run {} arrival).world.sessions.boundUser? ⟨2⟩ (some alicesId) = some "u" := by
  decide +kernel

theorem dependable_service : service.Dependable where
  sessions := by decide
  salts n := by simp [service, supply]
  userIds := userId_injective
  tokens := token_injective

theorem regular_farewell : ∀ d ∈ farewell, d.Regular service := by
  have hends : ∃ expires, Instant.addMinutes ⟨0⟩ service.config.passwordResetTimeoutMinutes.toInt
      = .ok expires := ⟨⟨259200000000000⟩, eq_ok_of_toOption (by decide +kernel)⟩
  intro d hd
  simp only [farewell, arrival, List.cons_append, List.nil_append, List.mem_cons, List.not_mem_nil,
    or_false] at hd
  rcases hd with rfl | rfl
  · exact ⟨by simp, fun _ _ => hends⟩
  · exact ⟨by simp, by simp⟩

end Sample

namespace Service

open Sample

/-- The status of Alice's session cannot be told after the account was deleted. -/
theorem serverError_after_farewell :
    ∃ reply, (service.handle ⟨2⟩ (askStatus alicesId.text)
      (service.run {} farewell).world).answer = .ok reply ∧ reply.status = 500 := by
  have hrequest : Deed.Regular service ⟨⟨2⟩, .request (askStatus alicesId.text)⟩ :=
    ⟨by simp, fun _ _ => ⟨⟨259200000000002⟩, eq_ok_of_toOption (by decide +kernel)⟩⟩
  obtain ⟨⟨reply, hreply, -, hiff⟩, -⟩ := serverError_iff_deleted service {} dependable_service rfl
    rfl (fun _ => rfl) farewell regular_farewell ⟨2⟩ (askStatus alicesId.text) hrequest
  have hpresented : (askStatus alicesId.text).sessionId? = some alicesId := by decide +kernel
  have hkept : (service.run {} farewell).world.sessions
      = (service.run {} arrival).world.sessions := by
    rw [farewell, run_concat, world_after]
    exact sessions_perform service ⟨1⟩ _ (by simp)
  refine ⟨reply, hreply, hiff.mpr ⟨⟨by decide +kernel, .inl rfl⟩, "u", ?_, ?_⟩⟩
  · rw [hkept, hpresented]
    exact bound_arrival.2
  · exact ⟨arrival, ⟨1⟩, [], rfl, bound_arrival.1⟩

end Service

end CookieAuth
