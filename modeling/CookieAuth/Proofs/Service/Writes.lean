import CookieAuth.Proofs.Service.Requests

/-!
# What requests write beside sessions

A request makes at most one user, notes at most one audit entry or issues some tokens.  This file
says once which of these happens, so that a statement about users, audit entries or tokens need not
look into the actions again.

## Main definitions

* `World.base`: a world without its sessions;
* `Route.Wrote`: what the action of a route did to this part of the world;
* `Service.Effect`: what a request can do to it.

## Main results

* `Database.of_insertEntry_ok`, `Database.of_deleteUser_ok`, `Database.of_deleteExpired_ok`: what
  statements that succeed do;
* `Service.effect_handle`: every request has one of these effects;
* `Service.sameUsers_or_registered`, `Service.users_handle`: a request adds at most one user, for an
  account that was checked.
-/

namespace CookieAuth

open Http Time

/-! ### Statements -/

namespace Database

variable {db db' : Database}

theorem hasUser_iff {id : String} : db.hasUser id = true ↔ ∃ u ∈ db.users, u.id = id := by
  simp [hasUser]

/-- An audit entry has the next number and stands after the others, and its user exists. -/
theorem of_insertEntry_ok {userId : Option String} {now : Instant} {n : Nat}
    (h : db.insertEntry userId now = .ok (n, db')) :
    (∀ id, userId = some id → db.hasUser id = true) ∧
      db' = { db with
        entries := db.entries ++ [{ id := ↑(db.lastEntry + 1), userId, createdAt := now.text }]
        lastEntry := db.lastEntry + 1 } := by
  obtain ⟨-, hresult⟩ := of_on_ok h
  split at hresult
  · next hknown =>
    obtain ⟨-, rfl⟩ := Prod.mk.inj (Except.ok.inj hresult)
    refine ⟨?_, rfl⟩
    rintro id rfl
    simpa using hknown
  · simp at hresult

/-- With a user the user's tokens go, and the user's audit entries lose their user. -/
theorem of_deleteUser_ok {id : String} (h : db.deleteUser id = .ok db') :
    db' = { db with
      users := db.users.filter (·.id ≠ id)
      tokens := db.tokens.filter (·.userId ≠ id)
      entries := db.entries.map (forgetUser id) } :=
  (Except.ok.inj (of_on_ok h).2).symm

/-- Deleting a user leaves the others. -/
theorem hasUser_deleteUser_iff {id other : String} (h : db.deleteUser id = .ok db') :
    db'.hasUser other = true ↔ db.hasUser other = true ∧ other ≠ id := by
  obtain rfl := of_deleteUser_ok h
  rw [hasUser_iff, hasUser_iff]
  constructor
  · rintro ⟨u, hu, rfl⟩
    obtain ⟨hmem, hne⟩ := List.mem_filter.mp hu
    exact ⟨⟨u, hmem, rfl⟩, by simpa using hne⟩
  · rintro ⟨⟨u, hmem, rfl⟩, hne⟩
    exact ⟨u, List.mem_filter.mpr ⟨hmem, by simpa using hne⟩, rfl⟩

/-- Deleting expired tokens changes nothing but the tokens. -/
theorem of_deleteExpired_ok {now : Instant} {n : Nat} (h : db.deleteExpired now = .ok (n, db')) :
    db' = { db with tokens := db.tokens.filter (!isExpired now ·) } :=
  (Prod.mk.inj (Except.ok.inj (of_on_ok h).2)).2.symm

end Database

/-! ### Worlds without sessions -/

/-- A world without its sessions. -/
def World.base (w : World) : World :=
  { w with
    sessions := {}
    draws := { w.draws with sessions := 0 } }

/-- Asking for the user of the session concerns only the sessions. -/
theorem Visit.base_userId (m : Moment) (v : Visit) :
    (v.userId m).2.world.base = v.world.base := by
  unfold userId
  split <;> rfl

/-- Binding a user concerns only the sessions. -/
theorem Visit.base_bindUser (m : Moment) (user : User) (v : Visit) :
    (v.bindUser m user).2.world.base = v.world.base := by
  unfold bindUser
  split <;> rfl

/-- Logging in concerns only the sessions, whatever the form is. -/
theorem Visit.base_logIn (m : Moment) (form : LoginForm) (v : Visit) :
    (v.logIn m form).2.world.base = v.world.base := by
  unfold logIn
  split
  · rfl
  · next user _ =>
    have hbase := base_bindUser m user v
    split <;>
      next hbind =>
        rw [hbind] at hbase
        exact hbase

/-- What is written to the log concerns the log only. -/
theorem Visit.base_conclude (result : Outcome × Visit) :
    (conclude result).2.world.base = result.2.world.base := by
  unfold conclude
  split <;> rfl

namespace World

variable {s : Service} {user : User} {w w' w₁ : World}

theorem db_eq_of_base (h : w'.base = w.base) : w'.db = w.db := by
  have hdb := congrArg World.db h
  exact hdb

theorem SameUsers.of_base (h : w'.base = w.base) : SameUsers w w' :=
  ⟨congrArg (·.db.users) h, congrArg (·.draws.users) h⟩

theorem Joined.of_base (hjoined : Joined s user w w₁) (h : w'.base = w₁.base) :
    Joined s user w w' where
  users := (congrArg (·.db.users) h).trans hjoined.users
  draws := (congrArg (·.draws.users) h).trans hjoined.draws
  id := hjoined.id
  unique := hjoined.unique

end World

/-! ### The actions -/

namespace Route

variable {m : Moment} {r : Request} {v : Visit}

/-- What the action of a route did to the world beside the sessions. -/
inductive Wrote (m : Moment) (r : Request) (v : Visit) (route : Route) :
    Outcome → World → Prop where
  /-- Nothing happened; a request for the status failed. -/
  | nothing {outcome : Outcome} {w : World} (hbase : w.base = v.world.base)
      (hfailed : route = .status → ∃ f, outcome = .error f) :
      Wrote m r v route outcome w
  /-- A user was made, whether the session could be bound or not. -/
  | registered {outcome : Outcome} {form : RegistrationForm} {account : NewAccount} {user : User}
      {w₁ w : World} (hroute : route = .register) (hvalid : form.validate v.world.db = .ok account)
      (hmade : v.world.register m.service m.now account = .ok (user, w₁))
      (hbase : w.base = w₁.base) :
      Wrote m r v route outcome w
  /-- The status was told, and noted together with the user whom the session is bound to. -/
  | checked {body : Json} {n : Nat} {db : Database} {w : World} (hroute : route = .status)
      (hnoted : v.world.db.insertEntry (v.world.sessions.boundUser? m.now v.session.id) m.now
        = .ok (n, db))
      (hbase : w.base = World.base { v.world with db }) :
      Wrote m r v route (.ok body) w
  /-- Tokens were issued and sent, up to the first failure. -/
  | mailed {outcome : Outcome} {form : ResetForm} {request : ResetRequest} {w : World}
      (hroute : route = .resetPassword) (hvalid : form.validate v.world.db = .ok request)
      (hbase : w.base = (v.world.sendResets m.service m.now
        (.standard m.service.config.siteName m.service.config.siteDomain) request.users).2.1.base) :
      Wrote m r v route outcome w

/-- A failure of anything but the status that leaves the rest of the world alone writes nothing. -/
theorem Wrote.of_base {route : Route} {outcome : Outcome} {w : World} (hroute : route ≠ .status)
    (hbase : w.base = v.world.base) : Wrote m r v route outcome w :=
  .nothing hbase fun h => absurd h hroute

theorem wrote_logIn :
    Wrote m r v .logIn (withForm (LoginForm.read r) (Visit.logIn m) v).1
      (withForm (LoginForm.read r) (Visit.logIn m) v).2.world := by
  refine .of_base (by decide) ?_
  unfold withForm
  split
  · rfl
  · next form _ => exact Visit.base_logIn m form v

theorem wrote_logOut : Wrote m r v .logOut (v.logOut m).1 (v.logOut m).2.world := by
  refine .of_base (by decide) ?_
  have hbase := Visit.base_userId m v
  unfold Visit.logOut
  split
  · next huser =>
    rw [huser] at hbase
    exact hbase
  · next huser =>
    rw [huser] at hbase
    dsimp only
    split <;> exact hbase

theorem wrote_register :
    Wrote m r v .register (withForm (RegistrationForm.read r) (Visit.register m) v).1
      (withForm (RegistrationForm.read r) (Visit.register m) v).2.world := by
  unfold withForm
  split
  · exact .of_base (by decide) rfl
  · unfold Visit.register
    split
    · exact .of_base (by decide) rfl
    · next account hvalid =>
      split
      · exact .of_base (by decide) rfl
      · next user w hmade =>
        have hbase := Visit.base_bindUser m user (v.withWorld w)
        split <;>
          next hbind =>
            rw [hbind] at hbase
            exact .registered rfl hvalid hmade hbase

theorem wrote_status (hunread : v.session.loaded = none) :
    Wrote m r v .status (v.status m).1 (v.status m).2.world := by
  unfold Visit.status
  cases huser : v.userId m with
  | mk result v₁ =>
    obtain ⟨e, l, rfl, rfl, -⟩ | ⟨bound, loaded, l, rfl, rfl, hload, hlook⟩ :=
      Visit.userId_cases huser
    · exact .nothing rfl fun _ => ⟨_, rfl⟩
    · have hbound : v.world.sessions.boundUser? m.now v.session.id = bound :=
        (Live.opened_of_load hunread hload).userId?_data.symm.trans
          (SessionData.userId?_of_lookup hlook)
      have hnoted : ∀ v' body, (v.withLive l).audit m bound = (.ok (), v') →
          Wrote m r v .status (.ok body) v'.world := by
        intro v' body haudit
        obtain ⟨f, herror, -⟩ | ⟨n, db, -, hinsert, rfl⟩ := Visit.audit_cases haudit
        · simp at herror
        · rw [← hbound] at hinsert
          exact .checked rfl hinsert rfl
      have hfailed : ∀ f v', (v.withLive l).audit m bound = (.error f, v') →
          Wrote m r v .status (.error f) v'.world := by
        intro f v' haudit
        obtain ⟨f, -, rfl⟩ | ⟨n, db, hok, -⟩ := Visit.audit_cases haudit
        · exact .nothing rfl fun _ => ⟨_, rfl⟩
        · simp at hok
      cases bound with
      | none =>
        dsimp only
        split
        · next haudit => exact hfailed _ _ haudit
        · next haudit => exact hnoted _ _ haudit
      | some id =>
        dsimp only
        split
        · exact .nothing rfl fun _ => ⟨_, rfl⟩
        · next user hfound =>
          rw [(Visit.of_findUser_ok hfound).2]
          split
          · next haudit => exact hfailed _ _ haudit
          · next haudit => exact hnoted _ _ haudit

theorem wrote_resetPassword :
    Wrote m r v .resetPassword (withForm (ResetForm.read r) (Visit.resetPassword m) v).1
      (withForm (ResetForm.read r) (Visit.resetPassword m) v).2.world := by
  unfold withForm
  split
  · exact .of_base (by decide) rfl
  · unfold Visit.resetPassword
    split
    · exact .of_base (by decide) rfl
    · next request hvalid =>
      refine .mailed rfl hvalid ?_
      dsimp only
      split <;>
        next hsend =>
          rw [hsend]
          rfl

/-- Every action on a session that was not read yet writes one of these things. -/
theorem wrote_run (route : Route) (hunread : v.session.loaded = none) :
    Wrote m r v route (route.run m r v).1 (route.run m r v).2.world := by
  cases route with
  | health => exact .of_base (by decide) rfl
  | logIn => exact wrote_logIn
  | logOut => exact wrote_logOut
  | register => exact wrote_register
  | status => exact wrote_status hunread
  | resetPassword => exact wrote_resetPassword

end Route

/-! ### Requests as a whole -/

namespace Service

variable {s : Service} {now : Instant} {r : Request} {w : World}

/-- What a request can do to the world beside the sessions. -/
inductive Effect (s : Service) (now : Instant) (r : Request) (w : World) : Handled → Prop where
  /-- Nothing happens, and a request for the status does not succeed. -/
  | nothing {h : Handled} (hbase : h.world.base = w.base)
      (hfailed : Route.ofPath? r.path = some .status → ¬ h.Succeeds) :
      Effect s now r w h
  /-- A registration makes a user. -/
  | registered {h : Handled} {form : RegistrationForm} {account : NewAccount} {user : User}
      {w₁ : World} (hroute : Route.ofPath? r.path = some .register)
      (hvalid : form.validate w.db = .ok account)
      (hmade : w.register s now account = .ok (user, w₁)) (hbase : h.world.base = w₁.base) :
      Effect s now r w h
  /-- A request for the status succeeds and is noted, with the user whom its session is bound to. -/
  | checked {h : Handled} {n : Nat} {db : Database} (hroute : Route.ofPath? r.path = some .status)
      (hok : h.Succeeds)
      (hnoted : w.db.insertEntry (w.sessions.boundUser? now r.sessionId?) now = .ok (n, db))
      (hbase : h.world.base = World.base { w with db }) :
      Effect s now r w h
  /-- Tokens are issued and sent, up to the first failure. -/
  | mailed {h : Handled} {form : ResetForm} {request : ResetRequest}
      (hroute : Route.ofPath? r.path = some .resetPassword)
      (hvalid : form.validate w.db = .ok request)
      (hbase : h.world.base = (w.sendResets s now
        (.standard s.config.siteName s.config.siteDomain) request.users).2.1.base) :
      Effect s now r w h

/-- The end of a request concerns only the sessions. -/
theorem base_settle (s : Service) (now : Instant) (r : Request) (answer : Answer) (v : Visit) :
    (s.settle now r answer v).world.base = v.world.base := by
  unfold settle
  split
  · dsimp only
    unfold Visit.finish
    split
    · rfl
    · split
      · split <;> rfl
      · rfl
  · rfl

/-- The end of a request keeps the status and the body, unless the reply is lost. -/
theorem of_reply_settle {answer : Answer} {v : Visit} {reply : Reply}
    (h : (s.settle now r answer v).answer = .ok reply) (hkept : reply.status ≠ 500) :
    ∃ full, answer = .ok full ∧ reply.status = full.status ∧ reply.body = full.body := by
  unfold settle at h
  split at h
  · next full _ =>
    refine ⟨full, rfl, ?_⟩
    obtain rfl := Except.ok.inj h
    unfold Visit.finish at hkept ⊢
    split
    · split <;> exact ⟨rfl, rfl⟩
    · next hempty =>
      rw [if_neg hempty] at hkept
      split
      · next hsave =>
        rw [if_pos hsave] at hkept
        split
        · next hlost => simp [hlost] at hkept
        · exact ⟨rfl, rfl⟩
      · exact ⟨rfl, rfl⟩
  · exact ⟨reply, h, rfl, rfl⟩

/-- The end of a request turns no other answer into a success. -/
theorem of_succeeds_settle {answer : Answer} {v : Visit}
    (h : (s.settle now r (cut r answer) v).Succeeds) :
    ∃ full, answer = .ok full ∧ full.status = 200 := by
  obtain ⟨reply, hreply, hok⟩ := h
  obtain ⟨short, hcut, hkept, -⟩ := of_reply_settle hreply (by rw [hok]; decide)
  obtain ⟨full, hfull, hsame, -⟩ := cut_of_ok hcut
  exact ⟨full, hfull, by rw [← hsame, ← hkept, hok]⟩

/-- A request for the status whose action succeeds is answered with status 200. -/
theorem succeeds_settle_status {body : Json}
    (h : ((s.visit r w).status (s.moment now)).1 = .ok body) :
    (s.settle now r (cut r (Visit.conclude ((s.visit r w).status (s.moment now))).1)
      (Visit.conclude ((s.visit r w).status (s.moment now))).2).Succeeds := by
  obtain ⟨-, hsave⟩ := Visit.idle_status (s.moment now) (v := s.visit r w) rfl
  cases hvisit : (s.visit r w).status (s.moment now) with
  | mk outcome v =>
    rw [hvisit] at h hsave
    obtain rfl : outcome = .ok body := h
    obtain hclean | ⟨e, herror⟩ := hsave
    · exact succeeds_settle_of_quiet (Visit.quiet_of_unchanged hclean rfl)
    · simp at herror

/-- Every request has one of the effects on the world beside the sessions. -/
theorem effect_handle (s : Service) (now : Instant) (r : Request) (w : World) :
    Effect s now r w (s.handle now r w) := by
  have hsettle := s.base_settle now r (cut r (respond (s.moment now) r (s.visit r w)).1)
    (respond (s.moment now) r (s.visit r w)).2
  rw [handle_eq_settle]
  rcases respond_cases (s.moment now) r (s.visit r w) with
    ⟨full, hfull, hstatus, -, -, hworld, -⟩ | ⟨route, hroute, -, huses, hrun⟩
  · refine .nothing (hsettle.trans (congrArg World.base hworld)) ?_
    intro _ hok
    obtain ⟨full', hfull', hstatus'⟩ := of_succeeds_settle hok
    rw [Except.ok.inj (hfull.symm.trans hfull')] at hstatus
    exact hstatus hstatus'
  · rw [hrun] at hsettle ⊢
    rw [Visit.base_conclude] at hsettle
    have hwrote := Route.wrote_run (m := s.moment now) (r := r) (v := s.visit r w) route rfl
    generalize houtcome : (route.run (s.moment now) r (s.visit r w)).1 = outcome at hwrote
    generalize hafter : (route.run (s.moment now) r (s.visit r w)).2.world = w' at hwrote hsettle
    cases hwrote with
    | nothing hbase hfailed =>
      refine .nothing (hsettle.trans hbase) ?_
      intro hpath hok
      obtain ⟨f, rfl⟩ := hfailed (Option.some.inj (hroute.symm.trans hpath))
      obtain ⟨full, hfull, hstatus⟩ := of_succeeds_settle hok
      have hanswer : (Visit.conclude (route.run (s.moment now) r (s.visit r w))).1 = f.answer := by
        unfold Visit.conclude
        split <;> simp_all
      exact (Failure.of_answer_ok (hanswer.symm.trans hfull)).1 hstatus
    | registered hregister hvalid hmade hbase =>
      subst hregister
      exact .registered hroute hvalid hmade (hsettle.trans hbase)
    | checked hstatus hnoted hbase =>
      subst hstatus
      have hid : (s.visit r w).session.id = r.sessionId? := id_visit_of_ne_none (huses rfl)
      rw [hid] at hnoted
      exact .checked hroute (succeeds_settle_status houtcome) hnoted (hsettle.trans hbase)
    | mailed hreset hvalid hbase =>
      subst hreset
      exact .mailed hroute hvalid (hsettle.trans hbase)

/-- A request leaves the users alone, except that a registration may add one, for an account that
was checked. -/
theorem sameUsers_or_registered (s : Service) (now : Instant) (r : Request) (w : World) :
    World.SameUsers w (s.handle now r w).world ∨
      ∃ (form : RegistrationForm) (account : NewAccount) (user : User) (w₁ : World),
        form.validate w.db = .ok account ∧ w.register s now account = .ok (user, w₁) ∧
          World.Joined s user w (s.handle now r w).world := by
  cases s.effect_handle now r w with
  | nothing hbase => exact .inl (.of_base hbase)
  | registered _ hvalid hmade hbase =>
    exact .inr ⟨_, _, _, _, hvalid, hmade, (World.joined_register hmade).of_base hbase⟩
  | checked _ _ hnoted hbase =>
    obtain ⟨-, rfl⟩ := Database.of_insertEntry_ok hnoted
    exact .inl ⟨congrArg (·.db.users) hbase, congrArg (·.draws.users) hbase⟩
  | @mailed _ request _ _ hbase =>
    obtain ⟨_, _, _, hsame⟩ := World.sameAccounts_sendResets s now
      (.standard s.config.siteName s.config.siteDomain) request.users w
    rw [hsame] at hbase
    exact .inl ⟨congrArg (·.db.users) hbase, congrArg (·.draws.users) hbase⟩

/-- A request adds at most one user. -/
theorem users_handle (s : Service) (now : Instant) (r : Request) (w : World) :
    World.SameUsers w (s.handle now r w).world ∨
      ∃ user, World.Joined s user w (s.handle now r w).world := by
  rcases s.sameUsers_or_registered now r w with hsame | ⟨_, _, user, _, -, -, hjoined⟩
  · exact .inl hsame
  · exact .inr ⟨user, hjoined⟩

end Service

end CookieAuth
