import CookieAuth.Proofs.Service.Robustness
import CookieAuth.Proofs.Session.Draws
import CookieAuth.Proofs.Session.Integrity
import CookieAuth.Proofs.Session.Rotation

/-!
# Logging out ends a session for good

Whoever logs out must not be taken for logged in afterwards, whatever other clients do with the old
cookie.  A session comes back only if it is found or if its identifier is drawn again.  A session
that is over is not found and is not drawn, and no act can change that.

## Main definitions

* `World.Over`: a session is not found since some point in time, and is not going to be drawn;
* `World.Arises`: a world that acts lead to from one without sessions;
* `Request.logOutReply`: the reply to a logout.

## Main results

* `Service.over_perform`, `Service.over_run`: a session that is over stays over;
* `Service.logOut_ends_session`: in every world that arises, a logout succeeds and ends the session
  that is presented, and a second one changes nothing.
-/

namespace CookieAuth

open Http Time

/-- A session is over since some point in time: it is not found, and its identifier is not going to
be drawn again. -/
structure World.Over (s : Service) (w : World) (id : SessionId) (since : Instant) : Prop where
  /-- The session is not found. -/
  unfound : w.sessions.find? id since = none
  /-- The identifier is not going to be drawn. -/
  undrawn : ∀ n, w.draws.sessions ≤ n → s.supply.sessionId n ≠ id

/-- The sessions bind users and can be read and written, and the audit log can be written. -/
structure World.Serves (w : World) : Prop where
  /-- The sessions can be used. -/
  sessions : w.sessions.Reliable fun _ => True
  /-- Checks of the status can be noted. -/
  auditable : w.db.access .auditEntries = .ok ()

/-- Acts lead to the world from one that has no session and whose audit log can be written. -/
def World.Arises (s : Service) (w : World) : Prop :=
  ∃ start deeds, start.sessions = {} ∧ start.db.access .auditEntries = .ok () ∧
    w = (s.run start deeds).world

/-- The reply to a logout: the session cookie is removed, if there is one. -/
def Http.Request.logOutReply (r : Request) : Reply :=
  { Reply.ofJson 200 Visit.successBody with
    setCookie := if (r.lastCookie? sessionCookie).isSome then some .remove else none }

/-! ### Sessions that are over -/

namespace World

variable {s : Service} {since later : Instant} {w : World} {id : SessionId}

theorem Over.find?_eq_none (h : w.Over s id since) (hle : since ≤ later) :
    w.sessions.find? id later = none := by
  rw [Option.eq_none_iff_forall_ne_some]
  intro data hdata
  have hearlier := SessionStore.find?_of_le hle hdata
  rw [h.unfound] at hearlier
  simp at hearlier

end World

namespace Service

variable {s : Service} {now since later : Instant} {r : Request} {w : World} {id : SessionId}

/-- A request does not bring back a session that it would not find. -/
theorem find?_of_handle (hunfound : w.sessions.find? id now = none)
    (hundrawn : ∀ n, w.draws.sessions ≤ n → s.supply.sessionId n ≠ id) {data : SessionData}
    (hfind : (s.handle now r w).world.sessions.find? id later = some data) :
    w.sessions.find? id later = some data := by
  cases s.sessionEffect_handle now r w with
  | idle hstore =>
    rwa [hstore] at hfind
  | cleared _ _ hstore =>
    rcases hstore with ⟨old, _, -, -, hstore⟩ | ⟨-, hstore⟩
    · rw [hstore] at hfind
      exact (SessionStore.find?_of_erase hfind).2
    · rwa [hstore] at hfind
  | @bound _ _ _ l l' issued _ _ hbound hsave hid _ hworld =>
    obtain ⟨issued', record, hid', hstore, -⟩ := hbound.stored hsave
    obtain rfl := Option.some.inj (hid.symm.trans hid')
    rw [show (s.handle now r w).world.sessions = l'.store by rw [hworld], hstore] at hfind
    -- The session is not the one that was bound: that one was found before, or has a new identifier.
    have hother : id ≠ issued := by
      rintro rfl
      rcases hbound.id_cases hsave hid with ⟨data, hfound⟩ | ⟨n, hn, hdrawn⟩
      · rw [show w.sessions.find? id now = some data from hfound] at hunfound
        simp at hunfound
      · exact hundrawn n hn hdrawn.symm
    rcases SessionStore.find?_of_insert hfind with ⟨hsame, -⟩ | ⟨-, hfind⟩
    · exact absurd hsame hother
    · obtain ⟨_, _, erased, _, rfl⟩ := hbound.shape
      exact (SessionStore.find?_of_erase hfind).2
  | lost hstore =>
    obtain ⟨erased, hstore⟩ := hstore
    rw [hstore] at hfind
    exact (SessionStore.find?_of_erase hfind).2

/-- No later act brings back a session that is over. -/
theorem over_perform (h : w.Over s id since) (hle : since ≤ now) (act : Act) :
    (s.perform now w act).Over s id since where
  unfound := by
    cases act with
    | request r =>
      rw [Option.eq_none_iff_forall_ne_some]
      intro data hdata
      have hbefore := find?_of_handle (h.find?_eq_none hle) h.undrawn hdata
      rw [h.unfound] at hbefore
      simp at hbefore
    | _ =>
      rw [sessions_perform s now w (by simp)]
      exact h.unfound
  undrawn n hn := h.undrawn n (Nat.le_trans (s.draws_sessions_perform now w act) hn)

/-- A session that is over stays over along every later run. -/
theorem over_run (h : w.Over s id since) {deeds : List Deed} (hle : ∀ d ∈ deeds, since ≤ d.now) :
    (s.run w deeds).world.Over s id since := by
  apply world_run_induction (P := fun w => w.Over s id since) h
  intro w d hd hover
  exact over_perform hover (hle d hd) d.act

/-! ### Worlds that arise -/

theorem serves_perform (h : w.Serves) (now : Instant) (act : Act) : (s.perform now w act).Serves where
  sessions := by
    cases act with
    | request r =>
      -- Whom the sessions bind does not matter here: everybody counts as gone.
      have hknown : w.sessions.Reliable (w.Knows fun _ => True) :=
        h.sessions.mono fun _ _ => .inr trivial
      exact (reliable_handle hknown).mono fun _ _ => trivial
    | _ =>
      rw [sessions_perform s now w (by simp)]
      exact h.sessions
  auditable := (s.access_perform now w act .auditEntries).trans h.auditable

theorem serves_run (h : w.Serves) (deeds : List Deed) : (s.run w deeds).world.Serves := by
  apply world_run_induction (P := World.Serves) h
  intro w d _ hserves
  exact serves_perform hserves d.now d.act

theorem serves_of_arises (h : w.Arises s) : w.Serves := by
  obtain ⟨start, deeds, hsessions, haccess, rfl⟩ := h
  apply serves_run
  refine ⟨?_, haccess⟩
  rw [hsessions]
  exact SessionStore.reliable_empty _

/-! ### The logout -/

/-- Where there are sessions, the cookie of an empty session is removed. -/
theorem settle_of_isEmpty (hsessions : s.lifetime ≠ none) {v : Visit} {reply : Reply}
    (hempty : v.session.isEmpty = true) (hcookie : reply.setCookie = none) :
    s.settle now r (.ok reply) v = {
      answer := .ok { reply with
        setCookie := if (r.lastCookie? sessionCookie).isSome then some .remove else none }
      world := v.world
      log := v.log } := by
  obtain ⟨lifetime, hlifetime⟩ := Option.ne_none_iff_exists'.mp hsessions
  unfold settle Visit.finish
  rw [hlifetime]
  dsimp only
  rw [if_pos hempty]
  by_cases hsent : (r.lastCookie? sessionCookie).isSome = true
  · simp [hsent]
  · simp [hsent, ← hcookie]

/-- A logout is answered in one way, and erases the record that is found under the presented
identifier. -/
theorem handle_logOut (hsessions : s.lifetime ≠ none) (h : w.Serves)
    (hroute : Route.ofPath? r.path = some .logOut) (hmethod : r.method = "POST") (now : Instant) :
    (s.handle now r w).answer = .ok r.logOutReply ∧
      ((∃ id data, r.sessionId? = some id ∧ w.sessions.find? id now = some data ∧
          (s.handle now r w).world.sessions = w.sessions.erase id) ∨
        (w.sessions.seen? now r.sessionId? = none ∧
          (s.handle now r w).world.sessions = w.sessions)) := by
  obtain ⟨v, hcleared, hempty, hstore⟩ :=
    Visit.logOut_of_reliable (v := s.visit r w) (s.moment now) rfl h.sessions
  have hhead : r.method ≠ "HEAD" := by
    rw [hmethod]
    decide
  have hrun := respond_of_accepted (m := s.moment now) hroute (by rw [hmethod]; rfl)
    (by simp [Route.isProtected]) (fun _ => hsessions) (s.visit r w)
  have hhandle : s.handle now r w = s.settle now r (.ok (.ofJson 200 Visit.successBody)) v := by
    rw [handle_eq_settle, cut_of_ne hhead, hrun]
    simp only [Route.run, hcleared, Visit.conclude]
  rw [id_visit_of_ne_none hsessions] at hstore
  rw [hhandle, settle_of_isEmpty hsessions hempty rfl]
  exact ⟨rfl, hstore⟩

/-- A logout leaves a record only if it had ended before. -/
theorem get?_handle_logOut (hsessions : s.lifetime ≠ none) (h : w.Serves)
    (hroute : Route.ofPath? r.path = some .logOut) (hmethod : r.method = "POST")
    (hid : r.sessionId? = some id) :
    (s.handle now r w).world.sessions.get? id = leftover w.sessions now id := by
  rcases (handle_logOut hsessions h hroute hmethod now).2 with
    ⟨id', data, hid', hfind, hstore⟩ | ⟨hunseen, hstore⟩
  · obtain rfl := Option.some.inj (hid.symm.trans hid')
    rw [hstore, SessionStore.get?_erase, if_pos rfl, leftover, hfind]
    rfl
  · rw [hid] at hunseen
    rw [hstore, leftover, show w.sessions.find? id now = none from hunseen]
    rfl

/-- A logout does not write to the database. -/
theorem db_handle_logOut (hroute : Route.ofPath? r.path = some .logOut) (s : Service) (now : Instant)
    (w : World) : (s.handle now r w).world.db = w.db := by
  cases s.effect_handle now r w with
  | nothing hbase => exact World.db_eq_of_base hbase
  | registered hother => simp [hroute] at hother
  | checked hother => simp [hroute] at hother
  | mailed hother => simp [hroute] at hother

/-- A request to log out with another method is turned down. -/
theorem handle_logOut_of_ne (hroute : Route.ofPath? r.path = some .logOut)
    (hmethod : r.method ≠ "POST") (s : Service) (now : Instant) (w : World) :
    (∃ reply, (s.handle now r w).answer = .ok reply ∧ reply.status = 405) ∧
      (s.handle now r w).world = w := by
  have hresponse : respond (s.moment now) r (s.visit r w)
      = (.ok { status := 405, allow := some Route.logOut.allowed }, s.visit r w) := by
    unfold respond Route.answer
    simp [hroute, Route.isProtected, Route.accepts, Route.isRetrieval, hmethod]
  obtain ⟨short, hshort, hstatus, hcookie⟩ :=
    cut_ok r { status := 405, allow := some Route.logOut.allowed }
  have hquiet : (s.visit r w).Quiet (.ok short) := Visit.quiet_of_unchanged rfl hcookie
  obtain ⟨hworld, -, -⟩ := settle_of_quiet s now r hquiet
  obtain ⟨reply, hreply, hsame, -⟩ := reply_settle_of_quiet s now r hquiet
  rw [handle_eq_settle, hresponse, hshort]
  exact ⟨⟨reply, hreply, hsame.trans hstatus⟩, hworld⟩

/-- The status of a session that is not found is that of nobody. -/
theorem answers_of_unseen (hsessions : s.lifetime ≠ none) (h : w.Serves)
    (hroute : Route.ofPath? r.path = some .status) (hmethod : r.method = "GET")
    (hunseen : w.sessions.seen? now r.sessionId? = none) :
    (s.handle now r w).Answers 200 Visit.anonymousBody := by
  obtain ⟨l, huser, -⟩ :=
    Visit.userId_of_reliable (m := s.moment now) (v := s.visit r w) rfl h.sessions
  have hnobody : (s.visit r w).world.sessions.boundUser? (s.moment now).now
      (s.visit r w).session.id = none := by
    rw [id_visit_of_ne_none hsessions, SessionStore.boundUser?,
      show (s.visit r w).world.sessions.seen? (s.moment now).now r.sessionId? = none from hunseen]
    rfl
  obtain ⟨v, haudit⟩ : ∃ v, ((s.visit r w).withLive l).audit (s.moment now) none = (.ok (), v) :=
    Visit.audit_of_known (s.moment now) h.auditable (by simp)
  apply answers_of_status hsessions hroute hmethod (v := v)
  unfold Visit.status
  rw [huser, hnobody]
  dsimp only
  rw [haudit]
  rfl

/-- In every world that arises, a logout is answered with success and ends the session that is
presented.  No record of it is found from then on, and none is kept unless the session had ended
before.  If its identifier is not drawn again, then whoever presents it after any later run is told
to be nobody.  A second logout is answered alike and changes nothing, and neither does a request
with another method. -/
theorem logOut_ends_session (s : Service) (hsessions : s.lifetime ≠ none) (w : World)
    (hw : w.Arises s) (now : Instant) (r : Request)
    (hroute : Route.ofPath? r.path = some .logOut) :
    (r.method ≠ "POST" →
      (∃ reply, (s.handle now r w).answer = .ok reply ∧ reply.status = 405) ∧
        (s.handle now r w).world = w) ∧
    (r.method = "POST" →
      (s.handle now r w).answer = .ok r.logOutReply ∧
      (∀ later, now ≤ later →
        (s.handle later r (s.handle now r w).world).answer = .ok r.logOutReply ∧
        (s.handle later r (s.handle now r w).world).world.sessions
          = (s.handle now r w).world.sessions ∧
        (s.handle later r (s.handle now r w).world).world.db = (s.handle now r w).world.db) ∧
      ∀ id, r.sessionId? = some id →
        (∀ later, now ≤ later → (s.handle now r w).world.sessions.load id later = .ok none) ∧
        ((s.handle now r w).world.sessions.get? id = none ↔ ¬ PresentsEnded now r w) ∧
        ((∀ n, (s.handle now r w).world.draws.sessions ≤ n → s.supply.sessionId n ≠ id) →
          ∀ deeds, (∀ d ∈ deeds, now ≤ d.now) → ∀ later check, now ≤ later →
            Route.ofPath? check.path = some .status → check.method = "GET" →
            check.sessionId? = some id →
            (s.handle later check (s.run (s.handle now r w).world deeds).world).Answers 200
              Visit.anonymousBody)) := by
  refine ⟨fun hmethod => handle_logOut_of_ne hroute hmethod s now w, fun hmethod => ?_⟩
  have hserves := serves_of_arises hw
  have hafter : (s.handle now r w).world.Serves := serves_perform hserves now (.request r)
  -- What is left under the presented identifier is not found any more.
  have hunfound : ∀ id later, r.sessionId? = some id → now ≤ later →
      (s.handle now r w).world.sessions.find? id later = none := fun id later hid hle =>
    find?_of_leftover (get?_handle_logOut hsessions hserves hroute hmethod hid) hle
  refine ⟨(handle_logOut hsessions hserves hroute hmethod now).1, ?_, ?_⟩
  · intro later hle
    obtain ⟨hanswer, hstore⟩ := handle_logOut hsessions hafter hroute hmethod later
    refine ⟨hanswer, ?_, db_handle_logOut hroute s later _⟩
    rcases hstore with ⟨id, data, hid, hfind, -⟩ | ⟨-, hsame⟩
    · rw [hunfound id later hid hle] at hfind
      simp at hfind
    · exact hsame
  · intro id hid
    refine ⟨?_, ?_, ?_⟩
    · intro later hle
      rw [SessionStore.load, hafter.sessions.faultless, hunfound id later hid hle]
      rfl
    · rw [get?_handle_logOut hsessions hserves hroute hmethod hid, ← leftover_eq_none_iff]
      constructor
      · intro hnone p hp
        rwa [← Option.some.inj (hid.symm.trans hp)]
      · intro hnone
        exact hnone id hid
    · intro hundrawn deeds hdeeds later check hle hcheck hget hpresented
      have hover := over_run ⟨hunfound id now hid (Instant.le_refl now), hundrawn⟩ hdeeds
      apply answers_of_unseen hsessions (serves_run hafter deeds) hcheck hget
      rw [hpresented]
      exact hover.find?_eq_none hle

end Service

namespace Sample

/-- A supply that does not draw its first two session identifiers again. -/
def startingSupply : Supply :=
  { supply with
    sessionId := fun n => if n < 2 then sessionIdOf [2, UInt8.ofNat n] else supply.sessionId n }

def startingService : Service := { service with supply := startingSupply }

/-- The identifier of the first session that is bound. -/
def firstId : SessionId := startingSupply.sessionId 1

theorem sessionId_ne_firstId (n : Nat) (hn : 2 ≤ n) : startingSupply.sessionId n ≠ firstId := by
  have hlater : startingSupply.sessionId n = supply.sessionId n := if_neg (Nat.not_lt.mpr hn)
  have hfirst : firstId = sessionIdOf [2, 1] := rfl
  rw [hlater, hfirst]
  intro h
  have hhead := congrArg (fun id => id.bytes.head?) h
  simp [supply, sessionIdOf] at hhead

/-- Bob logs out. -/
def bobsLogout : Request := post "/api/auth/logout" "" firstId.text

/-- Bob logs out, and another cookie of the same name stands behind that of the session. -/
def bobsGarbledLogout : Request := post "/api/auth/logout" "" (firstId.text ++ "; id=x")

/-- Bob logs in once more, and still sends the old cookie. -/
def bobsReturn : List Deed :=
  [⟨⟨3⟩, .request (post "/api/auth/login" "username=bob&password=bobs-word" firstId.text)⟩]

end Sample

namespace Service

open Sample

/-- The cookie of Bob's first session names Bob before the logout, and nobody after it, although Bob
logs in again with it. -/
theorem bobs_cookie_expires :
    (startingService.handle ⟨2⟩ (askStatus firstId.text)
      (startingService.run {} bobsDeeds).world).Names "bob" ∧
    (startingService.handle ⟨4⟩ (askStatus firstId.text)
      (startingService.run (startingService.handle ⟨2⟩ bobsLogout
        (startingService.run {} bobsDeeds).world).world bobsReturn).world).Answers 200
        Visit.anonymousBody := by
  refine ⟨by decide +kernel, ?_⟩
  have hdrawn : 2 ≤ (startingService.handle ⟨2⟩ bobsLogout
      (startingService.run {} bobsDeeds).world).world.draws.sessions := by decide +kernel
  have hends := logOut_ends_session startingService (by decide)
    (startingService.run {} bobsDeeds).world ⟨{}, bobsDeeds, rfl, rfl, rfl⟩ ⟨2⟩ bobsLogout
    (by decide +kernel)
  obtain ⟨-, -, hsession⟩ := hends.2 rfl
  obtain ⟨-, -, hlater⟩ := hsession firstId (by decide +kernel)
  exact hlater (fun n hn => sessionId_ne_firstId n (Nat.le_trans hdrawn hn)) bobsReturn
    (by decide +kernel) ⟨4⟩ (askStatus firstId.text) (by decide) (by decide +kernel) rfl
    (by decide +kernel)

/-- A logout may leave the record of a session that was sent.  Long after Bob's session has ended, a
logout that presents it succeeds, and the record is still there.  And if a second cookie hides that
of a live session, then the logout succeeds as well, and the session names Bob as before. -/
theorem bobs_record_outlives_logout :
    (startingService.run {} bobsDeeds).world.Arises startingService ∧
    (bobsLogout.sessionId? = some firstId ∧
      (startingService.handle ⟨1000000000000000000⟩ bobsLogout
        (startingService.run {} bobsDeeds).world).Succeeds ∧
      ((startingService.handle ⟨1000000000000000000⟩ bobsLogout
        (startingService.run {} bobsDeeds).world).world.sessions.get? firstId).isSome = true) ∧
    bobsGarbledLogout.sessionId? = none ∧
    (startingService.handle ⟨2⟩ bobsGarbledLogout
      (startingService.run {} bobsDeeds).world).Succeeds ∧
    (startingService.handle ⟨4⟩ (askStatus firstId.text)
      (startingService.handle ⟨2⟩ bobsGarbledLogout
        (startingService.run {} bobsDeeds).world).world).Names "bob" := by
  refine ⟨⟨{}, bobsDeeds, rfl, rfl, rfl⟩, ?_⟩
  decide +kernel

end Service

end CookieAuth
