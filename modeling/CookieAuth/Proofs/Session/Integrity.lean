import CookieAuth.Proofs.Service.Run
import CookieAuth.Proofs.Service.Sample
import CookieAuth.Proofs.Service.Status
import Mathlib.Data.List.Nodup

/-!
# Sessions belong to whoever logged in

The service tells a client that a user is logged in if the client's session is bound to the user.
That is to be trusted: the identifier of the session was issued to somebody who had the user's
password or made the user's account, and neither a logout nor another login with it came after that.

The invariant ties every record that can still be found to the exchange that made it.  Records that
have ended are left out, since a login or logout with an ended session leaves its record in the
store.

## Main definitions

* `Exchange.Leaves`: an exchange after which the session that it presents is over;
* `Trace.Origin`: the exchange that bound a session to a user, with none after it that ended this;
* `Trace.Faithful`: every session that can be found has its origin.

## Main results

* `Service.faithful_after`: every deed keeps the sessions faithful;
* `Service.authenticated_of_origin`: a client who is told to be a user presents a session with an
  origin.
-/

namespace CookieAuth

open Http Text Time

namespace Exchange

/-- The answer sets the session cookie to an identifier. -/
def Issues (s : Service) (x : Exchange) (id : SessionId) : Prop :=
  (x.handled s).Issues id

/-- The session of an identifier is over: a login, registration or logout that presents it is
answered with status 200. -/
def Leaves (s : Service) (x : Exchange) (id : SessionId) : Prop :=
  x.request.sessionId? = some id ∧
    (∃ route, Route.ofPath? x.request.path = some route ∧ route.changesSession = true) ∧
    (x.handled s).Succeeds

/-- A login or registration of a user is answered with status 200. -/
def Binds (s : Service) (x : Exchange) (user : User) : Prop :=
  (∃ w, Admits s x.now x.request x.before user w) ∧ (x.handled s).Succeeds

/-- Whoever is bound by a login has the password of an account that is active. -/
theorem Binds.password {s : Service} {x : Exchange} {user : User} (h : x.Binds s user)
    (hroute : Route.ofPath? x.request.path = some .logIn) :
    ∃ form, LoginForm.read x.request = .ok form ∧ user ∈ x.before.db.users ∧
      user.username = trim form.username ∧
      Password.verifyPassword s.kdf form.password user.passwordHash = .ok true ∧
      user.isActive = true := by
  obtain ⟨⟨w, hadmitted⟩, -⟩ := h
  cases hadmitted with
  | logIn hlogIn hread hvalid => exact ⟨_, hread, LoginForm.of_validate_ok hvalid⟩
  | register hregister hread hvalid hmade =>
    rw [hroute] at hregister
    simp at hregister

end Exchange

namespace Trace

/-- The latest exchange that issued an identifier bound it to the user, and since then the session
is not over. -/
def Origin (s : Service) (t : Trace) (id : SessionId) (user : User) : Prop :=
  ∃ earlier x later, t.exchanges = earlier ++ x :: later ∧ x.Issues s id ∧ x.Binds s user ∧
    ∀ y ∈ later, ¬ y.Issues s id ∧ ¬ y.Leaves s id

/-- From now on, every session that can be found is bound to a user and has its origin, and
identifiers belong to one user each. -/
structure Faithful (s : Service) (t : Trace) (now : Instant) : Prop where
  /-- Every user has an identifier of their own. -/
  users : ∀ u ∈ t.world.db.users, t.world.Identifies s u
  /-- Every session that can be found has its origin. -/
  sessions : ∀ id data later, now ≤ later → t.world.sessions.find? id later = some data →
    ∃ user, SessionData.Binds data user.id passwordBackend ∧ t.world.Identifies s user ∧
      t.Origin s id user

variable {s : Service} {t t' : Trace} {id : SessionId} {user : User}

theorem Origin.of_same (h : t.Origin s id user) (hsame : t'.exchanges = t.exchanges) :
    t'.Origin s id user := by
  unfold Origin
  rw [hsame]
  exact h

/-- An exchange that neither issues an identifier nor ends its session leaves the origin. -/
theorem Origin.of_concat {y : Exchange} (h : t.Origin s id user)
    (hexchanges : t'.exchanges = t.exchanges ++ [y]) (hissue : ¬ y.Issues s id)
    (hleave : ¬ y.Leaves s id) : t'.Origin s id user := by
  obtain ⟨earlier, x, later, hsplit, hx, hbinds, hlater⟩ := h
  refine ⟨earlier, x, later ++ [y], by rw [hexchanges, hsplit]; simp, hx, hbinds, ?_⟩
  intro z hz
  rw [List.mem_append, List.mem_singleton] at hz
  rcases hz with hz | rfl
  · exact hlater z hz
  · exact ⟨hissue, hleave⟩

/-- An exchange that binds a session is its origin. -/
theorem origin_of_issues {y : Exchange} (hexchanges : t'.exchanges = t.exchanges ++ [y])
    (hissue : y.Issues s id) (hbinds : y.Binds s user) : t'.Origin s id user :=
  ⟨t.exchanges, y, [], hexchanges, hissue, hbinds, by simp⟩

end Trace

namespace Service

variable {s : Service} {now later : Instant} {r : Request} {w : World} {id : SessionId}
  {data : SessionData}

/-- A session that is found after a request was found before, and the request did not touch it; or
else the request bound it. -/
theorem found_handle (hle : now ≤ later)
    (hfind : (s.handle now r w).world.sessions.find? id later = some data) :
    (w.sessions.find? id later = some data ∧ ¬ Exchange.Issues s ⟨now, r, w⟩ id ∧
      ¬ Exchange.Leaves s ⟨now, r, w⟩ id) ∨
    ∃ user, Exchange.Issues s ⟨now, r, w⟩ id ∧ Exchange.Binds s ⟨now, r, w⟩ user ∧
      SessionData.Binds data user.id passwordBackend ∧
      user ∈ (s.handle now r w).world.db.users := by
  cases sessionEffect_handle s now r w with
  | idle hstore hissue hfailed =>
    rw [hstore] at hfind
    refine .inl ⟨hfind, hissue id, ?_⟩
    rintro ⟨-, ⟨route, hroute, hchanges⟩, hok⟩
    exact hfailed route hroute hchanges hok
  | cleared hroute hissue hstore =>
    rcases hstore with ⟨p, old, hp, -, hstore⟩ | ⟨hnone, hstore⟩
    · rw [hstore] at hfind
      obtain ⟨hne, hfind⟩ := SessionStore.find?_of_erase hfind
      refine .inl ⟨hfind, hissue id, ?_⟩
      rintro ⟨hpresented, -, -⟩
      exact hne (Option.some.inj (hpresented.symm.trans hp))
    · -- The presented session was not found, so it is not one that can be found later.
      rw [hstore] at hfind
      refine .inl ⟨hfind, hissue id, ?_⟩
      rintro ⟨hpresented, -, -⟩
      exact SessionStore.ne_of_seen?_eq_none hle hnone hfind hpresented
  | @bound lifetime user w₁ l l' id' hlifetime hadmitted hbound hsave hid hanswer hworld =>
    obtain ⟨id'', data, hid'', hstore, hbinds⟩ := hbound.stored hsave
    obtain rfl := Option.some.inj (hid.symm.trans hid'')
    have hissues : Exchange.Issues s ⟨now, r, w⟩ id' := ⟨_, _, hanswer, rfl⟩
    have hok : (s.handle now r w).Succeeds := ⟨_, hanswer, rfl⟩
    rw [show (s.handle now r w).world.sessions = l'.store by rw [hworld], hstore] at hfind
    -- The session is the one that was bound, or one that binding it left in the store.
    rcases SessionStore.find?_of_insert hfind with ⟨rfl, rfl⟩ | ⟨hne, hfind⟩
    · have hmem := mem_of_admits hadmitted
      refine .inr ⟨user, hissues, ⟨⟨w₁, hadmitted⟩, hok⟩, hbinds, ?_⟩
      rw [hworld]
      exact hmem
    · obtain ⟨hother, hfind⟩ := hbound.find?_of_store hle hfind
      refine .inl ⟨hfind, fun hissue => hne (Handled.issues_unique hissue hissues), ?_⟩
      rintro ⟨hpresented, -, -⟩
      exact hother hpresented
  | lost hstore hissue hfailed =>
    obtain ⟨erased, hstore⟩ := hstore
    rw [hstore] at hfind
    refine .inl ⟨(SessionStore.find?_of_erase hfind).2, hissue id, ?_⟩
    rintro ⟨-, -, hok⟩
    exact hfailed hok

theorem exchanges_after_request (s : Service) (t : Trace) (now : Instant) (r : Request) :
    (s.after t ⟨now, .request r⟩).exchanges = t.exchanges ++ [⟨now, r, t.world⟩] := rfl

/-- Every deed keeps the sessions faithful, from its own time on. -/
theorem faithful_after (honce : ∀ m n, s.supply.userId m = s.supply.userId n → m = n) {t : Trace}
    {d : Deed} (h : t.Faithful s d.now) : (s.after t d).Faithful s d.now where
  users := identifies_users_perform honce h.users d.now d.act
  sessions id data later hle hfind := by
    obtain ⟨now, act⟩ := d
    by_cases hrequest : ∃ r, act = .request r
    · obtain ⟨r, rfl⟩ := hrequest
      rcases found_handle hle hfind with
        ⟨hold, hissue, hleave⟩ | ⟨user, hissue, hbinds, hdata, hmem⟩
      · -- The request had nothing to do with the session.
        obtain ⟨user, hdata, hown, horigin⟩ := h.sessions id data later hle hold
        refine ⟨user, hdata, identifies_perform hown now (.request r), ?_⟩
        exact horigin.of_concat (exchanges_after_request s t now r) hissue hleave
      · -- The request bound the session, so that it is the origin itself.
        refine ⟨user, hdata, ?_, ?_⟩
        · exact identifies_users_perform honce h.users now (.request r) user hmem
        · exact Trace.origin_of_issues (exchanges_after_request s t now r) hissue hbinds
    · have hother : ∀ r, act ≠ .request r := fun r heq => hrequest ⟨r, heq⟩
      rw [show (s.after t ⟨now, act⟩).world.sessions = t.world.sessions from
        sessions_perform s now t.world hother] at hfind
      obtain ⟨user, hdata, hown, horigin⟩ := h.sessions id data later hle hfind
      refine ⟨user, hdata, identifies_perform hown now act, horigin.of_same ?_⟩
      cases act with
      | request r => exact absurd rfl (hother r)
      | _ => exact List.append_nil _

/-- Where a run starts: there is no session, every user has an identifier of their own, and the
identifiers of users are never drawn twice. -/
structure Starts (s : Service) (w : World) : Prop where
  /-- There is no session. -/
  sessions : w.sessions.records = []
  /-- The identifiers of the users differ. -/
  ids : (w.db.users.map (·.id)).Nodup
  /-- No identifier of a user is going to be drawn. -/
  fresh : ∀ u ∈ w.db.users, ∀ n, w.draws.users ≤ n → s.supply.userId n ≠ u.id
  /-- No identifier is drawn twice. -/
  once : ∀ m n, s.supply.userId m = s.supply.userId n → m = n

theorem faithful_start (h : s.Starts w) (now : Instant) : Trace.Faithful s { world := w } now where
  users u hu := by
    refine ⟨h.fresh u hu, ?_⟩
    intro other hother hid
    exact List.inj_on_of_nodup_map h.ids hother hu hid
  sessions id data later _ hfind := by
    obtain ⟨record, hget, -, -⟩ := SessionStore.find?_eq_some_iff.mp hfind
    simp [SessionStore.get?, h.sessions] at hget

/-- The sessions stay faithful along a run. -/
theorem faithful_run (h : s.Starts w) {deeds : List Deed} (hordered : InOrder deeds)
    (hnow : ∀ d ∈ deeds, d.now ≤ now) : (s.run w deeds).Faithful s now := by
  refine run_induction (P := fun t now => t.Faithful s now) (faithful_start h) ?_ ?_ hordered hnow
  · intro t now later hle hfaithful
    refine ⟨hfaithful.users, ?_⟩
    intro id data latest hlatest
    exact hfaithful.sessions id data latest (Instant.le_trans hle hlatest)
  · intro t d hfaithful
    exact faithful_after h.once hfaithful

/-- Along every run, a client who is told to be a user presents an identifier that was last issued
to this user, in answer to a login with the user's password or to the registration of the user; and
since then no login, registration or logout with this identifier was answered with status 200. -/
theorem authenticated_of_origin (s : Service) (w : World) (hstart : s.Starts w) (deeds : List Deed)
    (now : Instant) (r : Request) (username : String)
    (hordered : InOrder (deeds ++ [⟨now, .request r⟩]))
    (hroute : Route.ofPath? r.path = some .status) (hmethod : r.method = "GET")
    (hnames : (s.handle now r (s.run w deeds).world).Names username) :
    ∃ id user earlier x later, r.sessionId? = some id ∧
      -- the user exists and has the name
      user ∈ (s.run w deeds).world.db.users ∧ user.username = username ∧
      -- the latest exchange that issued the identifier is the login or registration of the user
      (s.run w deeds).exchanges = earlier ++ x :: later ∧ x.Issues s id ∧
      (∀ y ∈ later, ¬ y.Issues s id) ∧ x.Binds s user ∧
      -- if it is a login, its password is that of the user, who was active
      (Route.ofPath? x.request.path = some .logIn →
        ∃ form, LoginForm.read x.request = .ok form ∧ user ∈ x.before.db.users ∧
          user.username = trim form.username ∧
          Password.verifyPassword s.kdf form.password user.passwordHash = .ok true ∧
          user.isActive = true) ∧
      -- since then the session is not over
      ∀ y ∈ later, ¬ y.Leaves s id := by
  obtain ⟨hdeeds, -, hbefore⟩ := List.pairwise_append.mp hordered
  have hnow : ∀ d ∈ deeds, d.now ≤ now := by
    intro d hd
    exact hbefore d hd ⟨now, .request r⟩ (List.mem_singleton_self _)
  have hfaithful := faithful_run hstart hdeeds hnow
  obtain ⟨id, data, found, hpresented, hfind, hlook, hmem, hname⟩ := of_names hroute hmethod hnames
  obtain ⟨user, hdata, hown, earlier, x, later, hsplit, hissues, hbinds, hlater⟩ :=
    hfaithful.sessions id data now (Instant.le_refl now) hfind
  -- The user whom the session names by identifier is the one who was bound.
  have hid : found.id = user.id := by
    have := hlook.symm.trans hdata.user
    simpa using this
  obtain rfl := hown.unique found hmem hid
  refine ⟨id, found, earlier, x, later, hpresented, hmem, hname, hsplit, hissues, ?_, hbinds,
    hbinds.password, ?_⟩
  · intro y hy
    exact (hlater y hy).1
  · intro y hy
    exact (hlater y hy).2

end Service

namespace Sample

/-- A user is made and logs in without a session. -/
def bobsDeeds : List Deed :=
  [⟨⟨0⟩, .createUser "bob" "bob@example.com" (hash "bobs-word")⟩,
    ⟨⟨1⟩, .request (post "/api/auth/login" "username=bob&password=bobs-word" "")⟩]

/-- The identifier that the login issues.  An earlier one is drawn when the session is read. -/
def bobsId : SessionId := supply.sessionId 1

theorem starts_empty : service.Starts {} where
  sessions := rfl
  ids := List.nodup_nil
  fresh := by simp
  once := userId_injective

end Sample

namespace Service

open Sample

/-- With the identifier of the login a client is told to be Bob, and a login by Bob issued it. -/
theorem authenticated_after_login :
    ∃ id user x, id = bobsId ∧ x ∈ (service.run {} bobsDeeds).exchanges ∧
      x.Issues service id ∧ x.Binds service user ∧ user.username = "bob" := by
  obtain ⟨id, user, earlier, x, later, hid, -, hname, hsplit, hissues, -, hbinds, -, -⟩ :=
    authenticated_of_origin service {} starts_empty bobsDeeds ⟨2⟩
      (askStatus bobsId.text) "bob" (by decide) (by decide +kernel) rfl
      (by decide +kernel)
  have hpresented : (askStatus bobsId.text).sessionId? = some bobsId := by decide +kernel
  refine ⟨id, user, x, Option.some.inj (hid.symm.trans hpresented), ?_, hissues, hbinds, hname⟩
  rw [hsplit]
  simp

end Service

end CookieAuth
