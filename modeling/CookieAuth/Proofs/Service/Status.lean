import CookieAuth.Proofs.Json.Strings
import CookieAuth.Proofs.Service.Requests

/-!
# What the status of a session tells

The status route names the user whom the presented session is bound to.  This file says what has to
be in the store and in the database for such an answer, and that the answer determines the name.

## Main definitions

* `Visit.statusBody`, `Visit.anonymousBody`: the bodies that name a user, and nobody;
* `Handled.Names`: an answer that names a user.

## Main results

* `Visit.name_of_statusBody`: bodies with the same text name the same user;
* `Service.of_status_ok`: what a request for the status found, from its answer;
* `Service.answers_of_status`: a request for the status is answered with what its action tells.
-/

namespace CookieAuth

open Http Time

namespace Visit

variable {m : Moment} {v v' : Visit}

/-- The body of a status that names a user. -/
def statusBody (username : String) : Json :=
  .obj [("authenticated", .bool true), ("username", .str username)]

/-- The body of a status that names nobody. -/
def anonymousBody : Json :=
  .obj [("authenticated", .bool false)]

/-- The text of a body determines the name in it. -/
theorem name_of_statusBody {name other : String}
    (h : (statusBody name).render = (statusBody other).render) : name = other := by
  have hchars := congrArg String.toList h
  simp only [statusBody, Json.render, Json.renderFields] at hchars
  -- What stands around the two names is the same.
  have htext : (Json.stringText name).toList = (Json.stringText other).toList := by
    simpa using hchars
  exact Json.stringText_inj (String.toList_inj.mp htext)

theorem statusBody_ne_anonymousBody (name : String) :
    (statusBody name).render ≠ anonymousBody.render := by
  intro h
  have hchars := congrArg String.toList h
  simp only [statusBody, anonymousBody, Json.render, Json.renderFields] at hchars
  simp at hchars

/-- What a visit that is told its status found: a session that is bound to nobody, or one that is
bound to a user who exists. -/
theorem of_status_ok {body : Json} (hunread : v.session.loaded = none)
    (h : v.status m = (.ok body, v')) :
    (body = anonymousBody ∧ ∀ data, v.world.sessions.seen? m.now v.session.id = some data →
      data.lookup userIdKey = none) ∨
    ∃ id data user, v.session.id = some id ∧ v.world.sessions.find? id m.now = some data ∧
      data.lookup userIdKey = some (.str user.id) ∧ user ∈ v.world.db.users ∧
      body = statusBody user.username := by
  unfold status at h
  cases huser : v.userId m with
  | mk result v₁ =>
    rw [huser] at h
    obtain ⟨e, l, rfl, rfl, -⟩ | ⟨bound, loaded, l, rfl, rfl, hload, hlook⟩ := userId_cases huser
    · simp at h
    · have hdata := (Live.opened_of_load hunread hload).data_cases
      cases bound with
      | none =>
        dsimp only at h
        split at h
        · simp at h
        · refine .inl ⟨(Except.ok.inj (Prod.mk.inj h).1).symm, ?_⟩
          intro data hseen
          rcases hdata with ⟨id, hid, hfind⟩ | ⟨hnone, -⟩
          · rw [show v.session.id = some id from hid] at hseen
            rw [← Option.some.inj (hfind.symm.trans hseen)]
            exact hlook
          · rw [show v.world.sessions.seen? m.now v.session.id = none from hnone] at hseen
            simp at hseen
      | some userId =>
        dsimp only at h
        split at h
        · simp at h
        · next user hfound =>
          split at h
          · simp at h
          · obtain ⟨hmem, hid⟩ := of_findUser_ok hfound
            -- Data that names a user was not made afresh, so it was found in the store.
            rcases hdata with ⟨id, hpresented, hfind⟩ | ⟨-, hempty⟩
            · refine .inr ⟨id, loaded.data, user, hpresented, hfind, ?_, hmem,
                (Except.ok.inj (Prod.mk.inj h).1).symm⟩
              rw [hid]
              exact hlook
            · rw [hempty] at hlook
              simp at hlook

end Visit

/-- The request is answered with status 200 and a body that names a user. -/
def Handled.Names (h : Handled) (username : String) : Prop :=
  ∃ reply, h.answer = .ok reply ∧ reply.status = 200 ∧
    reply.body = (Visit.statusBody username).render

instance (h : Handled) (username : String) : Decidable (h.Names username) :=
  match hanswer : h.answer with
  | .error e => .isFalse (by rintro ⟨reply, hreply, -⟩; simp [hanswer] at hreply)
  | .ok reply =>
    decidable_of_iff (reply.status = 200 ∧ reply.body = (Visit.statusBody username).render)
      (by simp [Handled.Names, hanswer])

namespace Service

variable {s : Service} {now : Instant} {r : Request} {w : World} {reply : Reply}

/-- What a request for the status that is answered with status 200 found: a session that is bound to
nobody, or one that is bound to a user who exists and is named. -/
theorem of_status_ok (hroute : Route.ofPath? r.path = some .status) (hmethod : r.method = "GET")
    (hanswer : (s.handle now r w).answer = .ok reply) (hok : reply.status = 200) :
    (reply.body = Visit.anonymousBody.render ∧
      ∀ data, w.sessions.seen? now r.sessionId? = some data → data.lookup userIdKey = none) ∨
    ∃ id data user, r.sessionId? = some id ∧ w.sessions.find? id now = some data ∧
      data.lookup userIdKey = some (.str user.id) ∧ user ∈ w.db.users ∧
      reply.body = (Visit.statusBody user.username).render := by
  rw [handle_eq_settle, cut_of_ne (by rw [hmethod]; decide)] at hanswer
  rcases respond_cases (s.moment now) r (s.visit r w) with
    ⟨full, hfull, hstatus, -, hcookie, -, hsession⟩ | ⟨route, hroute', -, huses, hrun⟩
  · -- A request that is turned down is not answered with status 200.
    rw [hfull] at hanswer
    have hquiet := Visit.quiet_of_unchanged (congrArg Session.modified hsession) hcookie
    obtain ⟨-, -, hsame⟩ := settle_of_quiet s now r hquiet
    obtain ⟨full', hfull', hstatus', -⟩ := hsame reply hanswer
    obtain rfl := Except.ok.inj hfull'
    exact absurd (hstatus'.symm.trans hok) hstatus
  · obtain rfl := Option.some.inj (hroute'.symm.trans hroute)
    have hid : (s.visit r w).session.id = r.sessionId? := id_visit_of_ne_none (huses rfl)
    obtain ⟨-, hsave⟩ := Visit.idle_status (s.moment now) (v := s.visit r w) rfl
    rw [hrun] at hanswer
    obtain ⟨-, -, hsame⟩ := settle_of_quiet s now r (Visit.quiet_conclude hsave)
    obtain ⟨full, hfull, hstatus, hbody⟩ := hsame reply hanswer
    rw [hstatus] at hok
    rw [hbody]
    -- A failure has another status, so the action succeeded.
    cases hvisit : (s.visit r w).status (s.moment now) with
    | mk outcome v =>
      rw [hvisit] at hfull
      cases outcome with
      | error f => exact absurd hok (Failure.of_answer_ok hfull).1
      | ok body =>
        obtain rfl := Except.ok.inj hfull
        rcases Visit.of_status_ok rfl hvisit with
          ⟨rfl, hnobody⟩ | ⟨id, data, user, hpresented, hfind, hlook, hmem, rfl⟩
        · rw [hid] at hnobody
          exact .inl ⟨rfl, hnobody⟩
        · rw [hid] at hpresented
          exact .inr ⟨id, data, user, hpresented, hfind, hlook, hmem, rfl⟩

/-- A request for the status whose action succeeds is answered with its body. -/
theorem answers_of_status (hsessions : s.lifetime ≠ none)
    (hroute : Route.ofPath? r.path = some .status) (hmethod : r.method = "GET") {body : Json}
    {v : Visit} (hstatus : (s.visit r w).status (s.moment now) = (.ok body, v)) :
    (s.handle now r w).Answers 200 body := by
  have hhead : r.method ≠ "HEAD" := by
    rw [hmethod]
    decide
  have hrun := respond_of_accepted (m := s.moment now) hroute (by rw [hmethod]; rfl)
    (by simp [Route.isProtected]) (fun _ => hsessions) (s.visit r w)
  obtain ⟨-, hsave⟩ := Visit.idle_status (s.moment now) (v := s.visit r w) rfl
  rw [hstatus] at hsave
  obtain ⟨reply, hreply, hok, hbody⟩ := reply_settle_of_quiet s now r (Visit.quiet_conclude hsave)
  refine ⟨reply, ?_, hok, hbody⟩
  rw [handle_eq_settle, cut_of_ne hhead, hrun]
  simp only [Route.run, hstatus]
  exact hreply

/-- A request for the status that names a user presents a session of a user with this name. -/
theorem of_names {username : String} (hroute : Route.ofPath? r.path = some .status)
    (hmethod : r.method = "GET") (h : (s.handle now r w).Names username) :
    ∃ id data user, r.sessionId? = some id ∧ w.sessions.find? id now = some data ∧
      data.lookup userIdKey = some (.str user.id) ∧ user ∈ w.db.users ∧
      user.username = username := by
  obtain ⟨reply, hanswer, hok, hbody⟩ := h
  rcases of_status_ok hroute hmethod hanswer hok with
    ⟨hanonymous, -⟩ | ⟨id, data, user, hpresented, hfind, hlook, hmem, hnamed⟩
  · exact absurd (hbody.symm.trans hanonymous) (Visit.statusBody_ne_anonymousBody username)
  · exact ⟨id, data, user, hpresented, hfind, hlook, hmem,
      Visit.name_of_statusBody (hnamed.symm.trans hbody)⟩

end Service

end CookieAuth
