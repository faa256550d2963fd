import CookieAuth.Proofs.Service.Forgery
import CookieAuth.Proofs.Service.Writes

/-!
# Registrations that fail

A registration makes the account first and binds the session to it afterwards.  If the session
cannot be bound or saved then, the request fails although the account was made, and nothing takes it
back.  Every other failure comes before the account and leaves the world as it was.

## Main definitions

* `Enrols`: a registration gets as far as making its account;
* `SessionStore.Rejects`: the session of a request cannot be bound and saved;
* `World.Untouched`: the database, the sessions and the mailer of two worlds are the same.

## Main results

* `Service.untouched_iff_not_rejected`: a registration that fails leaves nothing behind exactly if
  it is not one whose account was made and whose session was rejected.
-/

namespace CookieAuth

open Http Time

/-- A registration makes an account for a user, whatever becomes of its session. -/
structure Enrols (s : Service) (now : Instant) (r : Request) (w : World) (user : User) :
    Prop where
  /-- The form is posted and the request may go on. -/
  posts : s.Posts r .register
  /-- The form describes an account, and the user is made. -/
  made : ∃ form account w₁, RegistrationForm.read r = .ok form ∧ form.validate w.db = .ok account ∧
    w.register s now account = .ok (user, w₁)

/-- The session that a request presents, if it presents one, cannot be bound, or the session that
was bound cannot be saved. -/
def SessionStore.Rejects (store : SessionStore) (now : Instant) (id : Option SessionId) : Prop :=
  store.Blocks now id ∨ store.faults.create = true

/-- The database, the sessions and the mailer of two worlds are the same. -/
structure World.Untouched (w w' : World) : Prop where
  /-- The database stays. -/
  db : w'.db = w.db
  /-- The sessions stay. -/
  sessions : w'.sessions = w.sessions
  /-- The mailer stays. -/
  mailer : w'.mailer = w.mailer

theorem World.Untouched.refl (w : World) : w.Untouched w := ⟨rfl, rfl, rfl⟩

namespace Service

variable {s : Service} {now : Instant} {r : Request} {w : World} {user : User}

/-! ### Registrations without an account -/

/-- A request that fails before anything happens leaves the world as it was. -/
theorem world_of_failed (hworld : (respond (s.moment now) r (s.visit r w)).2.world = w)
    (hquiet : (respond (s.moment now) r (s.visit r w)).2.Quiet
      (respond (s.moment now) r (s.visit r w)).1)
    (hfailed : ∀ reply, (respond (s.moment now) r (s.visit r w)).1 = .ok reply →
      reply.status ≠ 200) :
    ¬ (s.handle now r w).Succeeds ∧ (s.handle now r w).world = w := by
  rw [handle_eq_settle]
  constructor
  · intro hok
    obtain ⟨full, hfull, hstatus⟩ := of_succeeds_settle hok
    exact hfailed full hfull hstatus
  · obtain ⟨hsettled, -, -⟩ := settle_of_quiet s now r (hquiet.cut (r := r))
    exact hsettled.trans hworld

/-- A registration that makes no account fails and leaves the world as it was. -/
theorem world_of_not_enrols (hroute : Route.ofPath? r.path = some .register)
    (h : ∀ user, ¬ Enrols s now r w user) :
    ¬ (s.handle now r w).Succeeds ∧ (s.handle now r w).world = w := by
  by_cases hcsrf : r.passesCsrf s.config.csrfProtection = true
  · rcases respond_cases (s.moment now) r (s.visit r w) with
      ⟨full, hfull, hstatus, -, hcookie, hworld, hsession⟩ | ⟨route, hroute', haccepts, huses, hrun⟩
    · apply world_of_failed hworld
      · rw [hfull]
        exact Visit.quiet_of_unchanged (congrArg Session.modified hsession) hcookie
      · intro reply hreply
        rwa [← Except.ok.inj (hfull.symm.trans hreply)]
    · obtain rfl := Option.some.inj (hroute'.symm.trans hroute)
      have hposts : s.Posts r .register :=
        ⟨hroute, by simpa [Route.accepts, Route.isRetrieval] using haccepts, hcsrf, huses rfl⟩
      -- Up to the account, the action only fails and does nothing.
      obtain ⟨f, hfails⟩ : ∃ f, Route.run (s.moment now) r .register (s.visit r w)
          = (.error f, s.visit r w) := by
        simp only [Route.run, withForm]
        cases hread : RegistrationForm.read r with
        | error errors => exact ⟨_, rfl⟩
        | ok form =>
          dsimp only
          unfold Visit.register
          cases hvalid : form.validate (s.visit r w).world.db with
          | error f => exact ⟨f, rfl⟩
          | ok account =>
            dsimp only
            cases hmade : (s.visit r w).world.register (s.moment now).service (s.moment now).now
                account with
            | error f => exact ⟨f, rfl⟩
            | ok made =>
              exact absurd ⟨hposts, form, account, made.2, hread, hvalid, hmade⟩ (h made.1)
      rw [hfails] at hrun
      apply world_of_failed
      · rw [hrun]
        rfl
      · rw [hrun]
        exact Visit.quiet_conclude (.inl rfl)
      · intro reply hreply
        rw [hrun] at hreply
        exact (Failure.of_answer_ok hreply).1
  · obtain ⟨full, hrefused, hstatus, -, hcookie⟩ := respond_of_refused (m := s.moment now)
      (v := s.visit r w) hroute rfl (Bool.eq_false_iff.mpr hcsrf)
    apply world_of_failed
    · rw [hrefused]
      rfl
    · rw [hrefused]
      exact Visit.quiet_of_unchanged rfl hcookie
    · intro reply hreply
      rw [hrefused] at hreply
      rw [← Except.ok.inj hreply, hstatus]
      decide

/-! ### Registrations with an account -/

/-- A registration that succeeds makes an account. -/
theorem enrols_of_succeeds (hroute : Route.ofPath? r.path = some .register)
    (hok : (s.handle now r w).Succeeds) : ∃ user, Enrols s now r w user := by
  apply Classical.byContradiction
  intro hnobody
  exact (world_of_not_enrols hroute fun user huser => hnobody ⟨user, huser⟩).1 hok

/-- A registration that makes an account goes on to bind the session as it was presented.  The world
has the account by then. -/
theorem run_of_enrols (h : Enrols s now r w user) :
    ∃ v : Visit, v.world.db = { w.db with users := w.db.users ++ [user] } ∧
      v.world.mailer = w.mailer ∧ v.live = opening r w ∧
      (Route.run (s.moment now) r .register (s.visit r w)).1
        = (v.bindUser (s.moment now) user).1.map (fun _ => Visit.usernameBody user) ∧
      (Route.run (s.moment now) r .register (s.visit r w)).2.world
        = (v.bindUser (s.moment now) user).2.world ∧
      (Route.run (s.moment now) r .register (s.visit r w)).2.session
        = (v.bindUser (s.moment now) user).2.session := by
  obtain ⟨form, account, w₁, hread, hvalid, hmade⟩ := h.made
  obtain ⟨lifetime, hlifetime⟩ := Option.ne_none_iff_exists'.mp h.posts.sessions
  have hlive := live_visit_of_some (r := r) (w := w) hlifetime
  obtain ⟨-, -, -, hw₁⟩ := World.of_register_ok hmade
  refine ⟨(s.visit r w).withWorld w₁, ?_, ?_, ?_, ?_⟩
  · rw [hw₁]
    rfl
  · rw [hw₁]
    rfl
  · rw [hw₁]
    exact hlive
  · simp only [Route.run, withForm, hread]
    unfold Visit.register
    rw [show form.validate (s.visit r w).world.db = _ from hvalid]
    dsimp only
    rw [show (s.visit r w).world.register (s.moment now).service (s.moment now).now account = _
      from hmade]
    dsimp only
    split
    · next hbind =>
      rw [hbind]
      exact ⟨rfl, rfl, rfl⟩
    · next hbind =>
      rw [hbind]
      exact ⟨rfl, rfl, rfl⟩

/-- The account is in the database afterwards, whatever became of the session, and nothing else
changed there. -/
theorem account_of_enrols (h : Enrols s now r w user) :
    (s.handle now r w).world.db = { w.db with users := w.db.users ++ [user] } ∧
      (s.handle now r w).world.mailer = w.mailer := by
  obtain ⟨v, hdb, hmailer, -, -, hworld, -⟩ := run_of_enrols h
  have hbase : (s.handle now r w).world.base = v.world.base := by
    rw [handle_of_posts h.posts rfl, base_settle, Visit.base_conclude, hworld, Visit.base_bindUser]
  have hsame := congrArg World.mailer hbase
  exact ⟨(World.db_eq_of_base hbase).trans hdb, hsame.trans hmailer⟩

/-- If the session cannot be bound, the request is answered with status 500, and the sessions stay
as they were. -/
theorem handle_of_blocks (h : Enrols s now r w user)
    (hblocks : w.sessions.Blocks now r.sessionId?) :
    (∃ reply, (s.handle now r w).answer = .ok reply ∧ reply.status = 500) ∧
      (s.handle now r w).world.sessions = w.sessions := by
  obtain ⟨v, -, -, hlive, houtcome, hworld, -⟩ := run_of_enrols h
  rw [handle_of_posts h.posts rfl]
  obtain ⟨e, l, hlogIn⟩ : ∃ e l, v.live.logIn (s.moment now).setting user passwordBackend
      = (.error e, l) := by
    cases hlogIn : v.live.logIn (s.moment now).setting user passwordBackend with
    | mk result l =>
      cases result with
      | error e => exact ⟨e, l, rfl⟩
      | ok _ =>
        rw [hlive] at hlogIn
        exact absurd hblocks (Live.not_blocks_of_logIn rfl hlogIn)
  have hbind : v.bindUser (s.moment now) user = (.error (.session e), v.withLive l) := by
    rw [Visit.bindUser, hlogIn]
  have hstore : l.store = w.sessions := by
    rw [Live.store_logIn_of_error hlogIn, hlive]
    rfl
  rw [hbind] at houtcome hworld
  generalize Route.run (s.moment now) r .register (s.visit r w) = result at houtcome hworld
  obtain ⟨outcome, v'⟩ := result
  obtain rfl : outcome = .error (.session e) := houtcome
  have hquiet : (Visit.conclude (.error (.session e), v')).2.Quiet _ :=
    Visit.quiet_conclude (.inr ⟨e, rfl⟩)
  obtain ⟨hsettled, -, -⟩ := settle_of_quiet s now r hquiet
  obtain ⟨reply, hreply, hstatus, -⟩ := reply_settle_of_quiet s now r hquiet
  refine ⟨⟨reply, hreply, hstatus⟩, ?_⟩
  rw [hsettled]
  exact (congrArg World.sessions hworld).trans hstore

/-- If the session can be bound, the request succeeds exactly if the session can be saved, and
otherwise is answered with status 500. -/
theorem handle_of_not_blocks (h : Enrols s now r w user)
    (hblocks : ¬ w.sessions.Blocks now r.sessionId?) :
    (w.sessions.faults.create = false → (s.handle now r w).Succeeds) ∧
      (w.sessions.faults.create = true →
        ∃ reply, (s.handle now r w).answer = .ok reply ∧ reply.status = 500) := by
  obtain ⟨v, -, -, hlive, houtcome, hworld, hsession⟩ := run_of_enrols h
  obtain ⟨lifetime, hlifetime⟩ := Option.ne_none_iff_exists'.mp h.posts.sessions
  rw [handle_of_posts h.posts rfl]
  obtain ⟨l, hlogIn⟩ := Live.logIn_of_not_blocks (σ := (s.moment now).setting)
    (l := opening r w) user passwordBackend rfl hblocks
  have hbound := Live.loggedIn_of_logIn rfl hlogIn
  obtain ⟨events, hbind⟩ : ∃ events,
      v.bindUser (s.moment now) user = (.ok (), (v.withLive l).note events) := by
    rw [Visit.bindUser, hlive, hlogIn]
    exact ⟨_, rfl⟩
  rw [hbind] at houtcome hworld hsession
  generalize Route.run (s.moment now) r .register (s.visit r w) = result
    at houtcome hworld hsession
  obtain ⟨outcome, v'⟩ := result
  obtain rfl : outcome = .ok (Visit.usernameBody user) := houtcome
  have hlive' : v'.live = l := by
    unfold Visit.live
    rw [show v'.world = _ from hworld, show v'.session = _ from hsession]
    rfl
  refine ⟨?_, settle_of_refused hlifetime hbound hlive'⟩
  intro hcreate
  obtain ⟨id, data, hanswer, -⟩ := settle_of_creatable hlifetime hbound hlive' hcreate
  exact ⟨_, hanswer, rfl⟩

/-- A registration that makes an account succeeds exactly if its session is not rejected, and
otherwise is answered with status 500. -/
theorem succeeds_of_enrols (h : Enrols s now r w user) :
    ((s.handle now r w).Succeeds ↔ ¬ w.sessions.Rejects now r.sessionId?) ∧
      (w.sessions.Rejects now r.sessionId? →
        ∃ reply, (s.handle now r w).answer = .ok reply ∧ reply.status = 500) := by
  have hfails : w.sessions.Rejects now r.sessionId? →
      ∃ reply, (s.handle now r w).answer = .ok reply ∧ reply.status = 500 := by
    intro hrejects
    by_cases hblocks : w.sessions.Blocks now r.sessionId?
    · exact (handle_of_blocks h hblocks).1
    · exact (handle_of_not_blocks h hblocks).2 (hrejects.resolve_left hblocks)
  refine ⟨⟨?_, ?_⟩, hfails⟩
  · rintro ⟨reply, hreply, hok⟩ hrejects
    obtain ⟨reply', hreply', hstatus⟩ := hfails hrejects
    rw [Except.ok.inj (hreply.symm.trans hreply'), hstatus] at hok
    simp at hok
  · intro hrejects
    have hcreate : w.sessions.faults.create = false :=
      Bool.eq_false_iff.mpr fun hrefused => hrejects (.inr hrefused)
    exact (handle_of_not_blocks h fun hblocks => hrejects (.inl hblocks)).1 hcreate

/-- A registration that fails leaves the database, the sessions and the mailer as they were, unless
its account was made and its session rejected.  Then it is answered with status 500, and the account
stays: it is all that is added to the database, and the sessions stay as they were if the session
could not be bound.  A registration that makes no account fails and changes nothing at all. -/
theorem untouched_iff_not_rejected (s : Service) (now : Instant) (r : Request) (w : World)
    (hroute : Route.ofPath? r.path = some .register) :
    ((¬ (s.handle now r w).Succeeds → w.Untouched (s.handle now r w).world) ↔
      ¬ ((∃ user, Enrols s now r w user) ∧ w.sessions.Rejects now r.sessionId?)) ∧
    ((∀ user, ¬ Enrols s now r w user) →
      ¬ (s.handle now r w).Succeeds ∧ (s.handle now r w).world = w) ∧
    ∀ user, Enrols s now r w user →
      ((s.handle now r w).Succeeds ↔ ¬ w.sessions.Rejects now r.sessionId?) ∧
      (w.sessions.Rejects now r.sessionId? →
        ∃ reply, (s.handle now r w).answer = .ok reply ∧ reply.status = 500) ∧
      (s.handle now r w).world.db = { w.db with users := w.db.users ++ [user] } ∧
      (s.handle now r w).world.mailer = w.mailer ∧
      (w.sessions.Blocks now r.sessionId? →
        (s.handle now r w).world.sessions = w.sessions) := by
  refine ⟨⟨?_, ?_⟩, world_of_not_enrols hroute, ?_⟩
  · rintro huntouched ⟨⟨user, henrols⟩, hrejects⟩
    -- One user more is a change of the database.
    have hfailed : ¬ (s.handle now r w).Succeeds := fun hok =>
      (succeeds_of_enrols henrols).1.mp hok hrejects
    have husers := congrArg Database.users
      ((account_of_enrols henrols).1.symm.trans (huntouched hfailed).db)
    simp at husers
  · intro hunless hfailed
    by_cases henrols : ∃ user, Enrols s now r w user
    · obtain ⟨user, henrols⟩ := henrols
      have hrejects : ¬ w.sessions.Rejects now r.sessionId? := fun hrejects =>
        hunless ⟨⟨user, henrols⟩, hrejects⟩
      exact absurd ((succeeds_of_enrols henrols).1.mpr hrejects) hfailed
    · have hnobody : ∀ user, ¬ Enrols s now r w user := fun user huser => henrols ⟨user, huser⟩
      rw [(world_of_not_enrols hroute hnobody).2]
      exact .refl w
  · intro user henrols
    obtain ⟨hiff, hfails⟩ := succeeds_of_enrols henrols
    obtain ⟨hdb, hmailer⟩ := account_of_enrols henrols
    exact ⟨hiff, hfails, hdb, hmailer, fun hblocks => (handle_of_blocks henrols hblocks).2⟩

end Service

/-! ### A session that holds no text -/

namespace Sample

/-- A store with a session that holds a number where the identifier of its user should be. -/
def crossed : World where
  sessions := { records := [(oldId, ⟨[(userIdKey, .int 5)], ⟨1⟩⟩)] }

/-- Anna registers with the cookie of this session. -/
def annasForm : Request :=
  post "/api/auth/register"
    "username=anna&email=anna%40example.com&password1=long-enough&password2=long-enough" oldId.text

theorem blocks_crossed : crossed.sessions.Blocks ⟨0⟩ annasForm.sessionId? := by
  have hpresented : annasForm.sessionId? = some oldId := by decide +kernel
  have hseen : crossed.sessions.seen? ⟨0⟩ (some oldId) = some [(userIdKey, .int 5)] := rfl
  have hlook : List.lookup userIdKey [(userIdKey, .int 5)] = some (Json.int 5) := rfl
  rw [hpresented]
  refine .malformed hseen hlook ?_
  intro text heq
  cases heq

end Sample

namespace Service

open Sample

/-- The session of Anna's registration is rejected, so that the account is all that is left. -/
theorem account_stays_after_rejection :
    (∃ reply, (service.handle ⟨0⟩ annasForm crossed).answer = .ok reply ∧ reply.status = 500) ∧
      ∃ user, (service.handle ⟨0⟩ annasForm crossed).world.db.users = [user] := by
  obtain ⟨-, hnone, hsome⟩ := untouched_iff_not_rejected service ⟨0⟩ annasForm crossed
    (by decide +kernel)
  obtain ⟨user, henrols⟩ : ∃ user, Enrols service ⟨0⟩ annasForm crossed user := by
    apply Classical.byContradiction
    intro hnobody
    have hworld := (hnone fun user huser => hnobody ⟨user, huser⟩).2
    have husers : (service.handle ⟨0⟩ annasForm crossed).world.db.users ≠ [] := by decide +kernel
    rw [hworld] at husers
    exact husers rfl
  obtain ⟨-, hfails, hdb, -⟩ := hsome user henrols
  refine ⟨hfails (.inl blocks_crossed), user, ?_⟩
  rw [hdb]
  rfl

/-- A registration can fail and leave its account behind. -/
theorem failed_registration_leaves_account :
    (service.handle ⟨0⟩ annasForm crossed).status? = some 500 ∧ crossed.db.users = [] ∧
      (service.handle ⟨0⟩ annasForm crossed).world.db.users.map (·.username) = ["anna"] := by
  decide +kernel

end Service

end CookieAuth
