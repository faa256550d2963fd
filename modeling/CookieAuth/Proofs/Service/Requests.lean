import CookieAuth.Proofs.Service.Actions
import CookieAuth.Proofs.Session.Reliability

/-!
# What requests do to sessions

A request is routed, its action is run and its session is saved if that is called for.  This file
says what all of that together does to the session store.

## Main definitions

* `Http.Request.sessionId?`: the session identifier that a request presents;
* `Handled.Answers`, `Handled.Succeeds`, `Handled.Issues`: requests that are answered with a status
  and a body, those that are answered with status 200, and those whose answer sets the session
  cookie to an identifier;
* `Service.Posts`: requests that post something to a route and may go on;
* `Service.SessionEffect`: what a request can do to the session store.

## Main results

* `Visit.finish_of_saved`, `Visit.finish_of_unsaved`: the end of a visit whose session was bound;
* `Service.settle_of_creatable`, `Service.settle_of_refused`: the end of a request that bound a
  session, depending on whether the store makes records;
* `Service.sessionEffect_handle`: every request does one of these things to the store.
-/

namespace CookieAuth

open Http Time

/-- The session identifier that a request presents: its cookie holds the text of one. -/
def Http.Request.sessionId? (r : Request) : Option SessionId :=
  (r.lastCookie? sessionCookie).bind SessionId.parse?

namespace Handled

/-- The request is answered with a status and a body. -/
def Answers (h : Handled) (status : Nat) (body : Json) : Prop :=
  ∃ reply, h.answer = .ok reply ∧ reply.status = status ∧ reply.body = body.render

/-- The request is answered with status 200. -/
def Succeeds (h : Handled) : Prop :=
  ∃ reply, h.answer = .ok reply ∧ reply.status = 200

/-- The answer sets the session cookie to an identifier. -/
def Issues (h : Handled) (id : SessionId) : Prop :=
  ∃ reply maxAge, h.answer = .ok reply ∧ reply.setCookie = some (.issue id maxAge)

/-- The status of the answer. -/
def status? (h : Handled) : Option Nat :=
  h.answer.toOption.map (·.status)

/-- The identifier that the answer sets the session cookie to. -/
def issued? (h : Handled) : Option SessionId :=
  match h.answer with
  | .ok { setCookie := some (.issue id _), .. } => some id
  | _ => none

theorem status?_eq_iff (h : Handled) : h.status? = some 200 ↔ h.Succeeds := by
  unfold status? Succeeds
  cases h.answer with
  | error e => simp [Except.toOption]
  | ok reply => simp [Except.toOption]

theorem issued?_eq_iff (h : Handled) (id : SessionId) : h.issued? = some id ↔ h.Issues id := by
  unfold issued? Issues
  split
  · next hanswer => simp [hanswer]
  · next hnone =>
    refine ⟨by simp, ?_⟩
    rintro ⟨reply, maxAge, hreply, hcookie⟩
    obtain ⟨status, contentType, allow, body, length, setCookie⟩ := reply
    obtain rfl := hcookie
    exact absurd hreply (hnone _ _ _ _ _ _ _)

instance (h : Handled) : Decidable h.Succeeds :=
  decidable_of_iff _ h.status?_eq_iff

instance (h : Handled) (id : SessionId) : Decidable (h.Issues id) :=
  decidable_of_iff _ (h.issued?_eq_iff id)

theorem issues_unique {h : Handled} {id id' : SessionId} (hid : h.Issues id)
    (hid' : h.Issues id') : id = id' := by
  obtain ⟨reply, maxAge, hreply, hcookie⟩ := hid
  obtain ⟨reply', maxAge', hreply', hcookie'⟩ := hid'
  obtain rfl := Except.ok.inj (hreply.symm.trans hreply')
  exact (SetCookie.issue.inj (Option.some.inj (hcookie.symm.trans hcookie'))).1

end Handled

/-! ### Failures -/

namespace Failure

/-- A failure is answered with a status other than 200 and with no cookie, and one of the session
with a status from 500 on. -/
theorem of_answer_ok {f : Failure} {reply : Reply} (h : f.answer = .ok reply) :
    reply.status ≠ 200 ∧ reply.setCookie = none ∧ ((∃ e, f = .session e) → 500 ≤ reply.status) := by
  cases f with
  | crash cause => simp [answer] at h
  | _ =>
    obtain rfl := Except.ok.inj h
    simp [errorReply, Reply.ofJson]

end Failure

/-! ### Routing -/

section Routing

variable {m : Moment} {r : Request} {v : Visit}

/-- A request is turned down with the visit as it was, or the action of its route is run.  Where
there are sessions, a request that is turned down is not a failure of the service. -/
theorem respond_cases (m : Moment) (r : Request) (v : Visit) :
    (∃ reply, (respond m r v).1 = .ok reply ∧ reply.status ≠ 200 ∧
      (m.service.lifetime ≠ none → reply.status < 500) ∧ reply.setCookie = none ∧
      (respond m r v).2.world = v.world ∧ (respond m r v).2.session = v.session) ∨
    ∃ route, Route.ofPath? r.path = some route ∧ route.accepts r.method = true ∧
      (route.usesSession = true → m.service.lifetime ≠ none) ∧
      respond m r v = Visit.conclude (route.run m r v) := by
  unfold respond
  split
  · exact .inl ⟨_, rfl, by decide, fun _ => by decide, rfl, rfl, rfl⟩
  · next route hroute =>
    split
    · refine .inl ⟨_, rfl, ?_, ?_, ?_, rfl, rfl⟩ <;>
        split <;> simp [Failure.errorReply, Reply.ofJson]
    · unfold Route.answer
      split
      · exact .inl ⟨_, rfl, by simp, by simp, rfl, rfl, rfl⟩
      · next haccepts =>
        split
        · next hnone =>
          refine .inl ⟨_, rfl, by decide, fun hsome => ?_, rfl, rfl, rfl⟩
          rw [Bool.and_eq_true, Option.isNone_iff_eq_none] at hnone
          exact absurd hnone.2 hsome
        · next hsession =>
          refine .inr ⟨route, hroute, by simpa using haccepts, ?_, rfl⟩
          intro huses hnone
          simp [huses, hnone] at hsession

/-- The action of a route is run for a request with one of its methods that is not forged, if there
are sessions where one is needed. -/
theorem respond_of_accepted {route : Route} (hroute : Route.ofPath? r.path = some route)
    (haccepts : route.accepts r.method = true)
    (hgenuine : route.isProtected = true →
      r.passesCsrf m.service.config.csrfProtection = true)
    (huses : route.usesSession = true → m.service.lifetime ≠ none) (v : Visit) :
    respond m r v = Visit.conclude (route.run m r v) := by
  have hpassed : (route.isProtected && !r.passesCsrf m.service.config.csrfProtection) = false := by
    cases hprotected : route.isProtected with
    | false => rfl
    | true => simp [hgenuine hprotected]
  have hsession : (route.usesSession && m.service.lifetime.isNone) = false := by
    cases hneeds : route.usesSession with
    | false => rfl
    | true => simpa [Option.isSome_iff_ne_none] using huses hneeds
  unfold respond Route.answer
  simp only [hroute, hpassed, haccepts, hsession, Bool.not_true, Bool.false_eq_true, if_false]

/-- The answer without its body where only the headers are asked for. -/
def cut (r : Request) (answer : Answer) : Answer :=
  if r.method = "HEAD" then answer.map Reply.withoutBody else answer

theorem dispatch_eq_cut (m : Moment) (r : Request) (v : Visit) :
    dispatch m r v = (cut r (respond m r v).1, (respond m r v).2) := by
  unfold dispatch cut
  cases respond m r v with
  | mk answer v' => rfl

/-- Leaving out the body keeps the status and the cookie. -/
theorem cut_of_ok {answer : Answer} {reply : Reply} (h : cut r answer = .ok reply) :
    ∃ full, answer = .ok full ∧ reply.status = full.status ∧ reply.setCookie = full.setCookie := by
  unfold cut at h
  split at h
  · cases answer with
    | error e => simp [Except.map] at h
    | ok full =>
      obtain rfl := Except.ok.inj h
      exact ⟨full, rfl, rfl, rfl⟩
  · exact ⟨reply, h, rfl, rfl⟩

/-- A reply without its body is a reply. -/
theorem cut_ok (r : Request) (full : Reply) :
    ∃ reply, cut r (.ok full) = .ok reply ∧ reply.status = full.status ∧
      reply.setCookie = full.setCookie := by
  unfold cut
  split
  · exact ⟨_, rfl, rfl, rfl⟩
  · exact ⟨_, rfl, rfl, rfl⟩

theorem cut_of_ne {answer : Answer} (h : r.method ≠ "HEAD") : cut r answer = answer :=
  if_neg h

end Routing

/-! ### Saving the session afterwards -/

namespace Visit

variable {m : Moment} {r : Request} {v : Visit} {answer : Answer} {reply : Reply}

/-- After this answer the session is not saved: it is empty or was not changed, or the request
failed inside the service. -/
def Quiet (v : Visit) (answer : Answer) : Prop :=
  ∀ reply, answer = .ok reply → reply.setCookie = none ∧
    (v.session.isEmpty = true ∨ v.session.modified = false ∨ 500 ≤ reply.status)

theorem quiet_of_unchanged (hclean : v.session.modified = false)
    (hcookie : reply.setCookie = none) : v.Quiet (.ok reply) := by
  intro reply' hreply
  obtain rfl := Except.ok.inj hreply
  exact ⟨hcookie, .inr (.inl hclean)⟩

/-- Leaving out the body does not call for saving the session. -/
theorem Quiet.cut (h : v.Quiet answer) : v.Quiet (cut r answer) := by
  intro reply hreply
  obtain ⟨full, hfull, hstatus, hcookie⟩ := cut_of_ok hreply
  obtain ⟨hnone, hquiet⟩ := h full hfull
  rw [hstatus, hcookie]
  exact ⟨hnone, hquiet⟩

/-- An action that did not change the session, or failed because of it, is quiet. -/
theorem quiet_conclude {outcome : Outcome}
    (hsave : v.session.modified = false ∨ ∃ e, outcome = .error (.session e)) :
    (conclude (outcome, v)).2.Quiet (conclude (outcome, v)).1 := by
  cases outcome with
  | ok body =>
    obtain hclean | ⟨e, herror⟩ := hsave
    · exact quiet_of_unchanged hclean rfl
    · simp at herror
  | error f =>
    intro reply hreply
    obtain ⟨-, hnone, hsession⟩ := Failure.of_answer_ok hreply
    obtain hclean | ⟨e, herror⟩ := hsave
    · exact ⟨hnone, .inr (.inl hclean)⟩
    · exact ⟨hnone, .inr (.inr (hsession ⟨e, Except.error.inj herror⟩))⟩

/-- A quiet visit ends as it is, with the status and the body of its answer and no new cookie. -/
theorem finish_of_quiet (hquiet : v.Quiet (.ok reply)) (m : Moment) (sent : Bool) :
    (v.finish m sent reply).2 = v ∧ (v.finish m sent reply).1.status = reply.status ∧
      (v.finish m sent reply).1.body = reply.body ∧
      ∀ id maxAge, (v.finish m sent reply).1.setCookie ≠ some (.issue id maxAge) := by
  obtain ⟨hcookie, hcases⟩ := hquiet reply rfl
  unfold finish
  split
  · -- The cookie of an empty session is removed, which is not issuing one.
    split <;> simp [hcookie]
  · next hempty =>
    split
    · next hsave =>
      simp only [Bool.and_eq_true, decide_eq_true_eq] at hsave
      rcases hcases with h | h | h
      · exact absurd h hempty
      · rw [h] at hsave
        exact absurd hsave.1 (by simp)
      · omega
    · simp [hcookie]

/-- A session that was bound and can be saved is saved, and its identifier is issued. -/
theorem finish_of_saved {user : User} {backend : String} {id : SessionId} {data : SessionData}
    {l : Live} (hsession : v.session = Live.boundSession user backend id data)
    (hstatus : reply.status < 500) (hsave : v.live.save m.setting = (.ok (), l)) (sent : Bool) :
    v.finish m sent reply
      = ({ reply with setCookie := l.session.id.map (.issue · m.lifetime.maxAge) },
        v.withLive l) := by
  have hempty := Live.isEmpty_boundSession user backend id data
  have hmodified : (Live.boundSession user backend id data).modified = true := rfl
  rw [← hsession] at hempty hmodified
  unfold finish
  simp [hempty, hmodified, hstatus, hsave]

/-- If a session that was bound cannot be saved, the reply is lost. -/
theorem finish_of_unsaved {user : User} {backend : String} {id : SessionId} {data : SessionData}
    {l : Live} {e : SessionError} (hsession : v.session = Live.boundSession user backend id data)
    (hstatus : reply.status < 500) (hsave : v.live.save m.setting = (.error e, l)) (sent : Bool) :
    v.finish m sent reply = ({ status := 500 }, v.withLive l) := by
  have hempty := Live.isEmpty_boundSession user backend id data
  have hmodified : (Live.boundSession user backend id data).modified = true := rfl
  rw [← hsession] at hempty hmodified
  unfold finish
  simp [hempty, hmodified, hstatus, hsave]

end Visit

/-! ### Requests as a whole -/

namespace Service

/-- What a request depends on. -/
def moment (s : Service) (now : Instant) : Moment :=
  ⟨s, s.lifetime.getD .browser, now⟩

/-- The session of a request together with the store, before anything happens. -/
def opening (r : Request) (w : World) : Live :=
  ⟨{ id := r.sessionId? }, w.sessions, w.draws.sessions⟩

/-- The visit with which a request starts. -/
def visit (s : Service) (r : Request) (w : World) : Visit where
  world := w
  session := { id := if s.lifetime.isSome then r.sessionId? else none }

/-- The end of a request: where there are sessions, the session is saved if that is called for. -/
def settle (s : Service) (now : Instant) (r : Request) (answer : Answer) (v : Visit) : Handled :=
  match s.lifetime, answer with
  | some _, .ok reply =>
    match v.finish (s.moment now) (r.lastCookie? sessionCookie).isSome reply with
    | (reply, v) => { answer := .ok reply, world := v.world, log := v.log }
  | _, answer => { answer, world := v.world, log := v.log }

/-- A request consists in its response and its end. -/
theorem handle_eq_settle (s : Service) (now : Instant) (r : Request) (w : World) :
    s.handle now r w = s.settle now r (cut r (respond (s.moment now) r (s.visit r w)).1)
      (respond (s.moment now) r (s.visit r w)).2 := by
  unfold handle settle moment visit
  cases hlifetime : s.lifetime with
  | none =>
    simp only [dispatch_eq_cut, Option.getD_none, Option.isSome_none, Bool.false_eq_true, if_false]
  | some lifetime =>
    simp only [dispatch_eq_cut, Option.getD_some, Option.isSome_some, if_true, Visit.start,
      Request.sessionId?]
    cases cut r (respond ⟨s, lifetime, now⟩ r _).1 with
    | error e => rfl
    | ok reply => rfl

/-- A request posts something to a route and may go on. -/
structure Posts (s : Service) (r : Request) (route : Route) : Prop where
  /-- The request is for the route. -/
  route : Route.ofPath? r.path = some route
  /-- It posts something. -/
  method : r.method = "POST"
  /-- It is not forged, as far as that is checked. -/
  csrf : r.passesCsrf s.config.csrfProtection = true
  /-- There are sessions. -/
  sessions : s.lifetime ≠ none

/-- A request that posts something consists in the action of its route and its end. -/
theorem handle_of_posts {s : Service} {r : Request} {route : Route} (h : s.Posts r route)
    (hpost : route.isRetrieval = false) (now : Instant) (w : World) :
    s.handle now r w
      = s.settle now r (Visit.conclude (route.run (s.moment now) r (s.visit r w))).1
        (Visit.conclude (route.run (s.moment now) r (s.visit r w))).2 := by
  have hmethod : r.method ≠ "HEAD" := by
    rw [h.method]
    decide
  have haccepts : route.accepts r.method = true := by
    simp [Route.accepts, hpost, h.method]
  rw [handle_eq_settle, cut_of_ne hmethod,
    respond_of_accepted (m := s.moment now) h.route haccepts (fun _ => h.csrf) fun _ => h.sessions]

/-- What a request can do to the session store. -/
inductive SessionEffect (s : Service) (now : Instant) (r : Request) (w : World) :
    Handled → Prop where
  /-- The store stays as it is and no cookie is issued; a request that asked for more failed. -/
  | idle {h : Handled} (hstore : h.world.sessions = w.sessions) (hissue : ∀ id, ¬ h.Issues id)
      (hfailed : ∀ route, Route.ofPath? r.path = some route → route.changesSession = true →
        ¬ h.Succeeds) :
      SessionEffect s now r w h
  /-- The session is cleared, and its record erased if there was one. -/
  | cleared {h : Handled} (hroute : Route.ofPath? r.path = some .logOut)
      (hissue : ∀ id, ¬ h.Issues id)
      (hstore : (∃ id data, r.sessionId? = some id ∧ w.sessions.find? id now = some data ∧
          h.world.sessions = w.sessions.erase id) ∨
        (w.sessions.seen? now r.sessionId? = none ∧ h.world.sessions = w.sessions))
      (hok : h.Succeeds) :
      SessionEffect s now r w h
  /-- A user was admitted, and the session is bound to this user and saved. -/
  | bound {h : Handled} {lifetime : Lifetime} {user : User} {w₁ : World} {l l' : Live}
      {id : SessionId} (hlifetime : s.lifetime = some lifetime)
      (hadmitted : Admits s now r w user w₁)
      (hbound : Live.LoggedIn (s.moment now).setting user passwordBackend (opening r w) l)
      (hsave : l.save (s.moment now).setting = (.ok (), l')) (hid : l'.session.id = some id)
      (hanswer : h.answer = .ok { Reply.ofJson 200 (Visit.usernameBody user) with
        setCookie := some (.issue id lifetime.maxAge) })
      (hworld : h.world = { w₁ with
        sessions := l'.store
        draws := { w₁.draws with sessions := l'.drawn } }) :
      SessionEffect s now r w h
  /-- A user was admitted, but the session cannot be saved because the store makes no records. -/
  | lost {h : Handled} {user : User} {w₁ : World}
      (hstore : ∃ id, h.world.sessions = w.sessions.erase id)
      (hissue : ∀ id, ¬ h.Issues id) (hfailed : ¬ h.Succeeds)
      (hadmitted : Admits s now r w user w₁) (hrefused : w.sessions.faults.create = true) :
      SessionEffect s now r w h

variable {s : Service} {now : Instant} {r : Request} {w : World}

/-- A quiet visit ends with the world as it is, no cookie is issued, and status and body are those
of the answer. -/
theorem settle_of_quiet (s : Service) (now : Instant) (r : Request) {answer : Answer} {v : Visit}
    (hquiet : v.Quiet answer) :
    (s.settle now r answer v).world = v.world ∧ (∀ id, ¬ (s.settle now r answer v).Issues id) ∧
      ∀ reply, (s.settle now r answer v).answer = .ok reply →
        ∃ full, answer = .ok full ∧ reply.status = full.status ∧ reply.body = full.body := by
  unfold settle
  split
  · next lifetime full hlifetime =>
    obtain ⟨hvisit, hstatus, hbody, hissue⟩ := Visit.finish_of_quiet hquiet (s.moment now)
      (r.lastCookie? sessionCookie).isSome
    refine ⟨congrArg Visit.world hvisit, ?_, ?_⟩
    · rintro id ⟨reply, maxAge, hreply, hset⟩
      obtain rfl := Except.ok.inj hreply
      exact hissue id maxAge hset
    · intro reply hreply
      obtain rfl := Except.ok.inj hreply
      exact ⟨full, rfl, hstatus, hbody⟩
  · refine ⟨rfl, ?_, fun reply hreply => ⟨reply, hreply, rfl, rfl⟩⟩
    rintro id ⟨reply, maxAge, hreply, hset⟩
    rw [(hquiet reply hreply).1] at hset
    simp at hset

/-- A reply stays a reply at the end of a quiet visit, with its status and its body. -/
theorem reply_settle_of_quiet (s : Service) (now : Instant) (r : Request) {full : Reply} {v : Visit}
    (hquiet : v.Quiet (.ok full)) :
    ∃ reply, (s.settle now r (.ok full) v).answer = .ok reply ∧ reply.status = full.status ∧
      reply.body = full.body := by
  obtain ⟨-, -, hsame⟩ := settle_of_quiet s now r hquiet
  have hreply : ∃ reply, (s.settle now r (.ok full) v).answer = .ok reply := by
    unfold settle
    split
    · exact ⟨_, rfl⟩
    · exact ⟨_, rfl⟩
  obtain ⟨reply, hreply⟩ := hreply
  obtain ⟨full', hfull, hstatus, hbody⟩ := hsame reply hreply
  obtain rfl := Except.ok.inj hfull
  exact ⟨reply, hreply, hstatus, hbody⟩

/-- A quiet visit whose action succeeded is answered with status 200. -/
theorem succeeds_settle_of_quiet {body : Json} {v : Visit}
    (hquiet : v.Quiet (.ok (.ofJson 200 body))) :
    (s.settle now r (cut r (.ok (.ofJson 200 body))) v).Succeeds := by
  obtain ⟨short, hshort, hstatus, -⟩ := cut_ok r (.ofJson 200 body)
  have hcut := hquiet.cut (r := r)
  rw [hshort] at hcut ⊢
  obtain ⟨reply, hreply, hsame, -⟩ := reply_settle_of_quiet s now r hcut
  exact ⟨reply, hreply, hsame.trans hstatus⟩

/-- A quiet visit that leaves the store alone has no effect on the store. -/
theorem sessionEffect_of_idle {answer : Answer} {v : Visit}
    (hstore : v.world.sessions = w.sessions) (hquiet : v.Quiet answer)
    (hfailed : ∀ route, Route.ofPath? r.path = some route → route.changesSession = true →
      ∀ reply, answer = .ok reply → reply.status ≠ 200) :
    SessionEffect s now r w (s.settle now r (cut r answer) v) := by
  obtain ⟨hworld, hissue, hanswer⟩ := settle_of_quiet s now r (hquiet.cut (r := r))
  refine .idle (by rw [hworld]; exact hstore) hissue ?_
  rintro route hroute hchanges ⟨reply, hreply, hok⟩
  obtain ⟨short, hshort, hstatus, -⟩ := hanswer reply hreply
  obtain ⟨full, hfull, hstatus', -⟩ := cut_of_ok hshort
  exact hfailed route hroute hchanges full hfull (hstatus'.symm.trans (hstatus.symm.trans hok))

/-- If the store makes records, a session that was bound is saved under an identifier that is
issued, as a record that binds the user until it ends. -/
theorem settle_of_creatable {user : User} {l : Live} {v : Visit} {lifetime : Lifetime}
    (hlifetime : s.lifetime = some lifetime)
    (hbound : Live.LoggedIn (s.moment now).setting user passwordBackend (opening r w) l)
    (hlive : v.live = l) (hcreate : w.sessions.faults.create = false) :
    ∃ id data, (s.settle now r (.ok (.ofJson 200 (Visit.usernameBody user))) v).answer
        = .ok { Reply.ofJson 200 (Visit.usernameBody user) with
          setCookie := some (.issue id lifetime.maxAge) } ∧
      (s.settle now r (.ok (.ofJson 200 (Visit.usernameBody user))) v).world.sessions
        = l.store.insert id ⟨data, (s.moment now).setting.expires⟩ ∧
      SessionData.Binds data user.id passwordBackend := by
  obtain ⟨id₀, data₀, erased, drawn, hshape⟩ := hbound.shape
  obtain ⟨l', hsave⟩ : ∃ l', l.save (s.moment now).setting = (.ok (), l') := by
    rw [hshape]
    exact Live.save_of_bound_iff.mpr hcreate
  obtain ⟨id, data, hid, hstore, hbinds⟩ := hbound.stored hsave
  have hsession : v.session = Live.boundSession user passwordBackend id₀ data₀ :=
    congrArg Live.session (hlive.trans hshape)
  have hstatus : (Reply.ofJson 200 (Visit.usernameBody user)).status < 500 := by simp [Reply.ofJson]
  unfold settle
  rw [hlifetime]
  dsimp only
  rw [Visit.finish_of_saved hsession hstatus (hlive ▸ hsave)]
  refine ⟨id, data, ?_, hstore, hbinds⟩
  simp [hid, moment, hlifetime]

/-- If the store makes no records, the reply to a request that bound a session is lost. -/
theorem settle_of_refused {user : User} {l : Live} {v : Visit} {lifetime : Lifetime}
    (hlifetime : s.lifetime = some lifetime)
    (hbound : Live.LoggedIn (s.moment now).setting user passwordBackend (opening r w) l)
    (hlive : v.live = l) (hcreate : w.sessions.faults.create = true) :
    ∃ reply, (s.settle now r (.ok (.ofJson 200 (Visit.usernameBody user))) v).answer = .ok reply ∧
      reply.status = 500 := by
  obtain ⟨id, data, erased, drawn, hshape⟩ := hbound.shape
  have hsession : v.session = Live.boundSession user passwordBackend id data :=
    congrArg Live.session (hlive.trans hshape)
  have hstatus : (Reply.ofJson 200 (Visit.usernameBody user)).status < 500 := by simp [Reply.ofJson]
  cases hsave : l.save (s.moment now).setting with
  | mk result l' =>
    cases result with
    | ok _ =>
      rw [hshape] at hsave
      have hmakes : ((opening r w).store.erase erased).faults.create = false :=
        Live.save_of_bound_iff.mp ⟨l', hsave⟩
      rw [show w.sessions.faults.create = false from hmakes] at hcreate
      simp at hcreate
    | error e =>
      unfold settle
      rw [hlifetime]
      dsimp only
      rw [Visit.finish_of_unsaved hsession hstatus (hlive ▸ hsave)]
      exact ⟨_, rfl, rfl⟩

/-- Once a user is admitted, the session is saved under an identifier that is issued, or the request
fails. -/
theorem sessionEffect_of_admitted {user : User} {w₁ : World} {l : Live} {v : Visit}
    {lifetime : Lifetime} (hlifetime : s.lifetime = some lifetime)
    (hadmitted : Admits s now r w user w₁)
    (hbound : Live.LoggedIn (s.moment now).setting user passwordBackend (opening r w) l)
    (hworld : v.world = { w₁ with
      sessions := l.store
      draws := { w₁.draws with sessions := l.drawn } }) (hsession : v.session = l.session) :
    SessionEffect s now r w
      (s.settle now r (.ok (.ofJson 200 (Visit.usernameBody user))) v) := by
  obtain ⟨id, data, erased, drawn, hshape⟩ := hbound.shape
  have hlive : v.live = l := by
    unfold Visit.live
    rw [hworld, hsession]
  have hbinds : v.session = Live.boundSession user passwordBackend id data := by
    rw [hsession, hshape]
  have hstatus : (Reply.ofJson 200 (Visit.usernameBody user)).status < 500 := by simp [Reply.ofJson]
  unfold settle
  rw [hlifetime]
  dsimp only
  cases hsave : l.save (s.moment now).setting with
  | mk result l' =>
    cases result with
    | error e =>
      -- The old record is gone by now, and the reply is replaced by a failure.
      rw [Visit.finish_of_unsaved hbinds hstatus (hlive ▸ hsave)]
      refine .lost ⟨erased, ?_⟩ ?_ ?_ hadmitted ?_
      · have hstore := Live.store_save_of_error hsave
        rw [hshape] at hstore
        exact hstore
      · rintro id ⟨reply, maxAge, hreply, hset⟩
        obtain rfl := Except.ok.inj hreply
        simp at hset
      · rintro ⟨reply, hreply, hok⟩
        obtain rfl := Except.ok.inj hreply
        simp at hok
      · -- A session that was bound is saved unless records are refused.
        rw [← Bool.not_eq_false]
        intro hcreate
        have hmakes : ((opening r w).store.erase erased).faults.create = false := hcreate
        obtain ⟨l', hsaved⟩ := Live.save_of_bound_iff.mpr hmakes
        rw [hshape, hsaved] at hsave
        simp at hsave
    | ok _ =>
      rw [Visit.finish_of_saved hbinds hstatus (hlive ▸ hsave)]
      have hid : ∃ id, l'.session.id = some id := by
        rw [hshape] at hsave
        obtain ⟨id', drawn', -, rfl⟩ := Live.save_of_ok hsave
        exact ⟨id', rfl⟩
      obtain ⟨id', hid⟩ := hid
      refine .bound hlifetime hadmitted hbound hsave hid ?_ ?_
      · simp [hid, moment, hlifetime, Reply.ofJson]
      · simp [Visit.withLive, hworld]

/-- The route of an admitted user takes only requests that change something. -/
theorem method_of_admits {user : User} {w₁ : World} {route : Route}
    (hadmitted : Admits s now r w user w₁) (hroute : Route.ofPath? r.path = some route)
    (haccepts : route.accepts r.method = true) :
    r.method ≠ "HEAD" ∧ route.usesSession = true := by
  -- Both routes are posted to, and a request for headers only does not post.
  have hpost : route = .logIn ∨ route = .register := by
    cases hadmitted with
    | logIn hpath => exact .inl (Option.some.inj (hroute.symm.trans hpath))
    | register hpath => exact .inr (Option.some.inj (hroute.symm.trans hpath))
  have hmethod : r.method = "POST" := by
    rcases hpost with rfl | rfl <;> simpa [Route.accepts, Route.isRetrieval] using haccepts
  rw [hmethod]
  rcases hpost with rfl | rfl <;> exact ⟨by decide, rfl⟩

theorem live_visit_of_some {lifetime : Lifetime} (h : s.lifetime = some lifetime) :
    (s.visit r w).live = opening r w := by
  simp [Visit.live, visit, opening, h]

theorem id_visit_of_ne_none (h : s.lifetime ≠ none) : (s.visit r w).session.id = r.sessionId? := by
  have hsome : s.lifetime.isSome = true := Option.isSome_iff_ne_none.mpr h
  exact if_pos hsome

/-- The action of a route and the end of its request have one of the effects on the store. -/
theorem sessionEffect_of_acted {route : Route} {outcome : Outcome} {v : Visit}
    (hroute : Route.ofPath? r.path = some route) (haccepts : route.accepts r.method = true)
    (huses : route.usesSession = true → s.lifetime ≠ none)
    (hacted : route.Acted (s.moment now) r (s.visit r w) outcome v) :
    SessionEffect s now r w (s.settle now r (cut r (Visit.conclude (outcome, v)).1)
      (Visit.conclude (outcome, v)).2) := by
  cases hacted with
  | idle hstore hsave hfailed =>
    refine sessionEffect_of_idle ?_ (Visit.quiet_conclude hsave) ?_
    · cases outcome <;> exact hstore
    · intro route' hroute' hchanges reply hreply
      obtain rfl := Option.some.inj (hroute.symm.trans hroute')
      obtain ⟨f, rfl⟩ := hfailed hchanges
      exact (Failure.of_answer_ok hreply).1
  | @admitted user w₁ l v hadmitted hbound hworld hsession =>
    obtain ⟨hmethod, hsessions⟩ := method_of_admits hadmitted hroute haccepts
    obtain ⟨lifetime, hlifetime⟩ := Option.ne_none_iff_exists'.mp (huses hsessions)
    rw [live_visit_of_some hlifetime] at hbound
    rw [cut_of_ne hmethod]
    exact sessionEffect_of_admitted hlifetime hadmitted hbound hworld hsession
  | @cleared body v hlogOut hempty hstore =>
    subst hlogOut
    have hquiet : v.Quiet (Visit.conclude (.ok body, v)).1 := by
      intro reply hreply
      obtain rfl := Except.ok.inj hreply
      exact ⟨rfl, .inl hempty⟩
    obtain ⟨hworld, hissue, -⟩ := settle_of_quiet s now r (hquiet.cut (r := r))
    rw [id_visit_of_ne_none (huses rfl)] at hstore
    refine .cleared hroute hissue ?_ ?_
    · rw [show (Visit.conclude (.ok body, v)).2 = v from rfl, hworld]
      exact hstore
    · exact succeeds_settle_of_quiet hquiet

/-- Every request has one of the effects on the session store. -/
theorem sessionEffect_handle (s : Service) (now : Instant) (r : Request) (w : World) :
    SessionEffect s now r w (s.handle now r w) := by
  rw [handle_eq_settle]
  rcases respond_cases (s.moment now) r (s.visit r w) with
    ⟨full, hfull, hstatus, -, hcookie, hworld, hsession⟩ | ⟨route, hroute, haccepts, huses, hrun⟩
  · rw [hfull]
    refine sessionEffect_of_idle (congrArg World.sessions hworld)
      (Visit.quiet_of_unchanged (congrArg Session.modified hsession) hcookie) ?_
    intro route _ _ reply hreply
    obtain rfl := Except.ok.inj hreply
    exact hstatus
  · rw [hrun]
    exact sessionEffect_of_acted hroute haccepts huses (Route.acted_run rfl rfl hroute)

end Service

end CookieAuth
