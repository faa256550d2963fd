import CookieAuth.Proofs.Service.Sample
import CookieAuth.Proofs.Session.Reliability
import Mathlib.Data.List.Chain

/-!
# Session data does not cross users

A session may hold data of its own, such as what somebody put in before logging in.  Whoever logs in
takes it over if nobody was logged in before, and keeps it by logging in again.  The data of another
user is dropped.  This file follows the data of a session through any number of logins, several of
which may happen during one request: the data that was there at the beginning is there at the end
if only one user ever had the session, and otherwise nothing but the last login is left of it.

## Main definitions

* `SessionData.values`, `SessionData.rebound`: the values by name, and those after a login;
* `SessionData.bindTo`, `SessionData.bindAll`: session data after a login, and after several ones;
* `LoginRequest`: a request during which users log in;
* `LoginRequest.serve`, `LoginRequest.serveAll`: what such requests do, each with the session that
  the one before it left.

## Main results

* `SessionData.bindAll_cases`: what is left of the data after several logins;
* `Live.logIns_of_load`: what logins during one request do to the data;
* `LoginRequest.serveAll_stores`: the data that is stored after requests of this kind;
* `LoginRequest.stored_data_of_one_user`: both together.
-/

namespace CookieAuth

open Http Time

/-! ### Session data after logins -/

theorem Json.same_str_iff {s t : String} : same (.str s) (.str t) = true ↔ s = t := by
  rw [same, beq_iff_eq]

namespace SessionData

variable {data : SessionData} {bound : Option String} {userId backend : String}

/-- The values by name. -/
def values (data : SessionData) : String → Option Json :=
  fun key => data.lookup key

/-- Values of which the two that a login sets are overwritten. -/
def rebound (userId backend : String) (values : String → Option Json) : String → Option Json :=
  fun key =>
    if key = userIdKey then some (.str userId)
    else if key = backendKey then some (.str backend)
    else values key

/-- Session data that holds a login and nothing else. -/
def loginOnly (userId backend : String) : SessionData :=
  [(backendKey, .str backend), (userIdKey, .str userId)]

/-- What a user takes over of session data: nothing if it belongs to somebody else. -/
def takenOver (userId : String) (data : SessionData) : SessionData :=
  if data.userId?.any (· ≠ userId) then [] else data

/-- Session data after a login. -/
def bindTo (data : SessionData) (userId backend : String) : SessionData :=
  put backendKey (.str backend) (put userIdKey (.str userId) (data.takenOver userId))

/-- Session data after several logins. -/
def bindAll (data : SessionData) (logins : List (User × String)) : SessionData :=
  logins.foldl (fun data login => data.bindTo login.1.id login.2) data

theorem rebound_rebound (userId backend other otherBackend : String)
    (values : String → Option Json) :
    rebound userId backend (rebound other otherBackend values) = rebound userId backend values := by
  funext key
  unfold rebound
  by_cases huser : key = userIdKey
  · rw [if_pos huser, if_pos huser]
  · by_cases hbackend : key = backendKey
    · simp only [if_neg huser, if_pos hbackend]
    · simp only [if_neg huser, if_neg hbackend]

theorem values_put_put (userId backend : String) (data : SessionData) :
    (put backendKey (.str backend) (put userIdKey (.str userId) data)).values
      = rebound userId backend data.values := by
  funext key
  unfold rebound values
  by_cases huser : key = userIdKey
  · subst huser
    rw [if_pos rfl, lookup_put_of_ne _ _ (by decide), lookup_put_str]
  · rw [if_neg huser]
    by_cases hbackend : key = backendKey
    · subst hbackend
      rw [if_pos rfl, lookup_put_str]
    · rw [if_neg hbackend, lookup_put_of_ne _ _ hbackend, lookup_put_of_ne _ _ huser]

theorem put_put_nil (userId backend : String) :
    put backendKey (.str backend) (put userIdKey (.str userId) []) = loginOnly userId backend := rfl

/-- Of a login that is overwritten nothing is left. -/
theorem put_put_loginOnly (userId backend other otherBackend : String) :
    put backendKey (.str backend) (put userIdKey (.str userId) (loginOnly other otherBackend))
      = loginOnly userId backend := by
  have huser : put userIdKey (.str userId) (loginOnly other otherBackend)
      = loginOnly userId otherBackend := by
    by_cases hsame : userId = other
    · subst hsame
      exact if_pos (Json.same_str_iff.mpr rfl)
    · exact if_neg (mt Json.same_str_iff.mp hsame)
  rw [huser]
  by_cases hsame : backend = otherBackend
  · subst hsame
    exact if_pos (Json.same_str_iff.mpr rfl)
  · exact if_neg (mt Json.same_str_iff.mp hsame)

theorem lookup_bindTo (data : SessionData) (userId backend : String) :
    (data.bindTo userId backend).lookup userIdKey = (some userId).map .str :=
  (binds_put_put _ userId backend).user

/-- A user takes over data that belongs to nobody else. -/
theorem takenOver_of_own (hbound : data.lookup userIdKey = bound.map .str)
    (hown : bound = none ∨ bound = some userId) : data.takenOver userId = data := by
  unfold takenOver
  rw [userId?_of_lookup hbound]
  rcases hown with rfl | rfl
  · rfl
  · exact if_neg (by simp)

/-- A login over the data of somebody else is all that is left. -/
theorem bindTo_of_other (hbound : data.lookup userIdKey = bound.map .str)
    (hother : ¬ (bound = none ∨ bound = some userId)) (backend : String) :
    data.bindTo userId backend = loginOnly userId backend := by
  have hnone : data.takenOver userId = [] := by
    unfold takenOver
    rw [userId?_of_lookup hbound]
    cases bound with
    | none => simp at hother
    | some other => exact if_pos (by simpa using hother)
  rw [bindTo, hnone, put_put_nil]

/-- A login over a login is all that is left, whoever logged in before. -/
theorem bindTo_loginOnly (userId backend other otherBackend : String) :
    (loginOnly other otherBackend).bindTo userId backend = loginOnly userId backend := by
  have hbound : (loginOnly other otherBackend).lookup userIdKey = (some other).map .str := rfl
  by_cases hown : some other = none ∨ some other = some userId
  · rw [bindTo, takenOver_of_own hbound hown, put_put_loginOnly]
  · exact bindTo_of_other hbound hown backend

theorem bindAll_append (data : SessionData) (first second : List (User × String)) :
    data.bindAll (first ++ second) = (data.bindAll first).bindAll second :=
  List.foldl_append

theorem bindAll_cons (data : SessionData) (login : User × String)
    (rest : List (User × String)) :
    data.bindAll (login :: rest) = (data.bindTo login.1.id login.2).bindAll rest := rfl

/-- After logins over a login the last one is all that is left. -/
theorem bindAll_loginOnly (earlier : List (User × String)) (user : User) (backend other : String)
    (otherBackend : String) :
    (loginOnly other otherBackend).bindAll (earlier ++ [(user, backend)])
      = loginOnly user.id backend := by
  induction earlier generalizing other otherBackend with
  | nil => exact bindTo_loginOnly user.id backend other otherBackend
  | cons login rest ih =>
    rw [List.cons_append, bindAll_cons, bindTo_loginOnly]
    exact ih login.1.id login.2

/-- Data after logins binds the session to the user of the last one. -/
theorem lookup_bindAll (data : SessionData) {logins : List (User × String)} (h : logins ≠ []) :
    ∃ userId, (data.bindAll logins).lookup userIdKey = (some userId).map .str := by
  obtain hnil | ⟨earlier, login, rfl⟩ := List.eq_nil_or_concat' logins
  · exact absurd hnil h
  · rw [bindAll_append]
    exact ⟨login.1.id, lookup_bindTo _ login.1.id login.2⟩

theorem bindAll_ne_nil (data : SessionData) {logins : List (User × String)} (h : logins ≠ []) :
    data.bindAll logins ≠ [] := by
  intro hnil
  obtain ⟨userId, hlook⟩ := lookup_bindAll data h
  rw [hnil] at hlook
  simp at hlook

/-- The session belongs to one user, from the data on that it starts with. -/
def OneUser (bound : Option String) (earlier : List (User × String)) (userId : String) : Prop :=
  (bound = none ∨ bound = some userId) ∧ ∀ login ∈ earlier, login.1.id = userId

/-- After several logins the data is still there if the session always belonged to one user, and
otherwise the last login is all that is left. -/
theorem bindAll_cases (hbound : data.lookup userIdKey = bound.map .str)
    (earlier : List (User × String)) (user : User) (backend : String) :
    (OneUser bound earlier user.id →
      (data.bindAll (earlier ++ [(user, backend)])).values
        = rebound user.id backend data.values) ∧
    (¬ OneUser bound earlier user.id →
      data.bindAll (earlier ++ [(user, backend)]) = loginOnly user.id backend) := by
  induction earlier generalizing data bound with
  | nil =>
    refine ⟨fun hone => ?_, fun hnot => ?_⟩
    · show (data.bindTo user.id backend).values = _
      rw [bindTo, takenOver_of_own hbound hone.1, values_put_put]
    · apply bindTo_of_other hbound
      intro hown
      exact hnot ⟨hown, by simp⟩
  | cons login rest ih =>
    obtain ⟨hkept, hlost⟩ := ih (lookup_bindTo data login.1.id login.2)
    rw [List.cons_append, bindAll_cons]
    refine ⟨fun hone => ?_, fun hnot => ?_⟩
    · obtain ⟨hown, hsame⟩ := hone
      have hfirst : login.1.id = user.id := hsame login List.mem_cons_self
      have hrest : ∀ other ∈ rest, other.1.id = user.id := fun other hmem =>
        hsame other (List.mem_cons_of_mem _ hmem)
      rw [hkept ⟨.inr (congrArg some hfirst), hrest⟩, bindTo,
        takenOver_of_own hbound (by rw [hfirst]; exact hown), values_put_put, rebound_rebound]
    · by_cases hown : bound = none ∨ bound = some login.1.id
      · apply hlost
        rintro ⟨hfirst, hrest⟩
        -- If the first of these users is the last one, the data belonged to nobody else.
        have hfirst : login.1.id = user.id := by simpa using hfirst
        refine hnot ⟨by rw [← hfirst]; exact hown, ?_⟩
        intro other hmem
        rcases List.mem_cons.mp hmem with rfl | hmem
        · exact hfirst
        · exact hrest other hmem
      · rw [bindTo_of_other hbound hown]
        exact bindAll_loginOnly rest user backend login.1.id login.2

end SessionData

/-! ### Logins during a request -/

namespace Live

variable {σ : Setting} {l l₁ : Live} {loaded : Loaded} {bound : Option String}

/-- Bind a session to several users, one after the other. -/
def logIns (σ : Setting) : List (User × String) → Live → Except SessionError Unit × Live
  | [], l => (.ok (), l)
  | (user, backend) :: rest, l =>
    match l.logIn σ user backend with
    | (.error e, l) => (.error e, l)
    | (.ok (), l) => logIns σ rest l

/-- Once a session was read, its data is at hand. -/
theorem loaded_of_load (h : l.load σ = (.ok loaded, l₁)) : l₁.session.loaded = some loaded := by
  cases hread : l.session.loaded with
  | none => exact loaded_of_opened (opened_of_load hread h)
  | some loaded' =>
    rw [load_of_loaded hread] at h
    obtain ⟨hsame, rfl⟩ := Prod.mk.inj h
    rw [hread, Except.ok.inj hsame]

/-- Leaving the state of a session that was read drops the data if it belongs to another user. -/
theorem leave_of_loaded (σ : Setting) (bound : Option String) (user : User)
    (hloaded : l.session.loaded = some loaded) (hfaults : l.store.faults = {}) :
    ∃ id store drawn, store.faults = {} ∧
      l.leave σ bound user = (.ok (), ⟨⟨none,
        some ⟨id, if bound.any (· ≠ user.id) then [] else loaded.data⟩, true⟩, store, drawn⟩) := by
  have hdelete : ∀ id, l.store.delete id = .ok (l.store.erase id) := fun id =>
    SessionStore.delete_of_deletable (by rw [hfaults])
  by_cases hother : bound.any (· ≠ user.id) = true
  · rw [leave, if_pos hother, if_pos hother]
    unfold flush
    simp only [cleared, hloaded]
    cases hid : l.session.id with
    | none => exact ⟨loaded.id, l.store, l.drawn, hfaults, rfl⟩
    | some id =>
      simp only [hdelete]
      exact ⟨loaded.id, l.store.erase id, l.drawn, hfaults, rfl⟩
  · rw [leave, if_neg hother, if_neg hother]
    unfold cycleId
    rw [load_of_loaded hloaded]
    simp only [hdelete]
    exact ⟨σ.draw l.drawn, l.store.erase loaded.id, l.drawn + 1, hfaults, rfl⟩

/-- A login gives a session, whether it was read before or not, the data after this login. -/
theorem logIn_of_load (user : User) (backend : String) (hload : l.load σ = (.ok loaded, l₁))
    (hbound : loaded.data.lookup userIdKey = bound.map .str) (hfaults : l.store.faults = {}) :
    ∃ id store drawn, store.faults = {} ∧
      l.logIn σ user backend
        = (.ok (),
          ⟨⟨none, some ⟨id, loaded.data.bindTo user.id backend⟩, true⟩, store, drawn⟩) := by
  have hstore : l₁.store = l.store := by
    have hread := store_load σ l
    rwa [hload] at hread
  obtain ⟨id, store, drawn, hkept, hleave⟩ :=
    leave_of_loaded σ bound user (loaded_of_load hload) (by rw [hstore]; exact hfaults)
  have hlogIn := logIn_of_leave (getText_of_lookup hload hbound) hleave backend
  refine ⟨id, store, drawn, hkept, ?_⟩
  rw [hlogIn, SessionData.bindTo, SessionData.takenOver, SessionData.userId?_of_lookup hbound]
  rfl

/-- Several logins during one request give a session the data after all of them. -/
theorem logIns_of_load {logins : List (User × String)} (hlogins : logins ≠ [])
    (hload : l.load σ = (.ok loaded, l₁))
    (hbound : loaded.data.lookup userIdKey = bound.map .str) (hfaults : l.store.faults = {}) :
    ∃ id store drawn, store.faults = {} ∧
      l.logIns σ logins
        = (.ok (), ⟨⟨none, some ⟨id, loaded.data.bindAll logins⟩, true⟩, store, drawn⟩) := by
  induction logins generalizing l l₁ loaded bound with
  | nil => exact absurd rfl hlogins
  | cons login rest ih =>
    obtain ⟨user, backend⟩ := login
    obtain ⟨id, store, drawn, hkept, hlogIn⟩ := logIn_of_load user backend hload hbound hfaults
    simp only [logIns, hlogIn]
    by_cases hrest : rest = []
    · subst hrest
      exact ⟨id, store, drawn, hkept, rfl⟩
    · -- The session is at hand for the other logins, and belongs to the user of this one.
      have hread : Session.loaded ⟨none, some ⟨id, loaded.data.bindTo user.id backend⟩, true⟩
          = some ⟨id, loaded.data.bindTo user.id backend⟩ := rfl
      exact ih hrest (load_of_loaded (l := ⟨_, store, drawn⟩) hread)
        (SessionData.lookup_bindTo loaded.data user.id backend) hkept

end Live

/-! ### Requests with logins -/

/-- A request during which users log in, and its reply. -/
structure LoginRequest where
  /-- When and where it happens. -/
  moment : Moment
  /-- The users, each with what checked the user. -/
  logins : List (User × String)
  /-- There is one at least. -/
  logins_ne_nil : logins ≠ []
  /-- The reply. -/
  reply : Reply
  /-- It does not report a failure of the service. -/
  status_lt : reply.status < 500

namespace LoginRequest

variable {w : World} {id : Option SessionId} {data : SessionData} {bound : Option String}

/-- The visit of a request that presents a session, before anything happens. -/
def arrival (id : Option SessionId) (w : World) : Visit where
  world := w
  session := { id }

/-- What the request does with a session that is presented to it: the users log in, and the session
is saved when the reply is sent.  The result is the identifier of the session then, and the
world. -/
def serve (q : LoginRequest) (id : Option SessionId) (w : World) :
    Except SessionError (Option SessionId × World) :=
  match (arrival id w).live.logIns q.moment.setting q.logins with
  | (.error e, _) => .error e
  | (.ok (), l) =>
    match ((arrival id w).withLive l).finish q.moment id.isSome q.reply with
    | (_, v) => .ok (v.session.id, v.world)

/-- What requests do one after the other, each with the session that the one before it left. -/
def serveAll : List LoginRequest → Option SessionId → World →
    Except SessionError (Option SessionId × World)
  | [], id, w => .ok (id, w)
  | q :: rest, id, w =>
    match q.serve id w with
    | .error e => .error e
    | .ok (id, w) => serveAll rest id w

/-- What a request finds is read; where there is no session the data is empty. -/
theorem load_of_found {l : Live} (σ : Setting) (hunread : l.session.loaded = none)
    (hfaults : l.store.faults = {})
    (hfound : (l.store.seen? σ.now l.session.id).getD [] = data) :
    ∃ id l₁, l.load σ = (.ok ⟨id, data⟩, l₁) := by
  obtain ⟨loaded, l₁, hload, -⟩ := Live.load_of_faultless σ hfaults
  have hdata : loaded.data = data := by
    rw [← hfound]
    rcases (Live.opened_of_load hunread hload).data_cases with ⟨id, hid, hfind⟩ | ⟨hnone, hempty⟩
    · rw [hid, show l.store.seen? σ.now (some id) = some loaded.data from hfind]
      rfl
    · rw [hnone, hempty]
      rfl
  subst hdata
  exact ⟨loaded.id, l₁, hload⟩

/-- A changed session that is not empty is stored when the reply is sent. -/
theorem stored_of_finish {v : Visit} {m : Moment} {reply : Reply} {sid : SessionId}
    (hsession : v.session = ⟨none, some ⟨sid, data⟩, true⟩) (hdata : data ≠ [])
    (hfaults : v.world.sessions.faults = {}) (hstatus : reply.status < 500) (sent : Bool) :
    ∃ id, (v.finish m sent reply).2.session.id = some id ∧
      (v.finish m sent reply).2.world.sessions.faults = {} ∧
      (v.finish m sent reply).2.world.sessions.get? id = some ⟨data, m.setting.expires⟩ := by
  have hempty : v.session.isEmpty = false := by
    simp [hsession, Session.isEmpty, hdata]
  have hmodified : (v.session.modified && reply.status < 500) = true := by
    simp [hsession, hstatus]
  have hlive : v.live
      = ⟨⟨none, some ⟨sid, data⟩, true⟩, v.world.sessions, v.world.draws.sessions⟩ := by
    rw [Visit.live, hsession]
  obtain ⟨l, hsave⟩ := Live.save_of_faultless (l := v.live) m.setting hfaults
  have hfinish : (v.finish m sent reply).2 = v.withLive l := by
    unfold Visit.finish
    simp [hempty, hmodified, hsave]
  rw [hlive] at hsave
  obtain ⟨id, drawn, -, rfl⟩ := Live.save_of_ok hsave
  rw [hfinish]
  refine ⟨id, rfl, hfaults, ?_⟩
  show (v.world.sessions.insert id ⟨data, m.setting.expires⟩).get? id = _
  rw [SessionStore.get?_insert, if_pos rfl]

/-- A request stores the data that it finds, after its logins. -/
theorem serve_of_found (q : LoginRequest) (hfaults : w.sessions.faults = {})
    (hfound : (w.sessions.seen? q.moment.now id).getD [] = data)
    (hbound : data.lookup userIdKey = bound.map .str) :
    ∃ sid w', q.serve id w = .ok (some sid, w') ∧ w'.sessions.faults = {} ∧
      w'.sessions.get? sid = some ⟨data.bindAll q.logins, q.moment.setting.expires⟩ := by
  obtain ⟨id₁, l₁, hload⟩ :=
    load_of_found (l := (arrival id w).live) q.moment.setting rfl hfaults hfound
  obtain ⟨id₂, store, drawn, hkept, hlogIns⟩ :=
    Live.logIns_of_load q.logins_ne_nil hload hbound hfaults
  obtain ⟨sid, hid, hfaults', hget⟩ := stored_of_finish (m := q.moment)
    (v := (arrival id w).withLive
      ⟨⟨none, some ⟨id₂, data.bindAll q.logins⟩, true⟩, store, drawn⟩) rfl
    (data.bindAll_ne_nil q.logins_ne_nil) hkept q.status_lt id.isSome
  refine ⟨sid, _, ?_, hfaults', hget⟩
  unfold serve
  rw [hlogIns]
  dsimp only
  rw [hid]

/-- Requests one after the other store the data that the first one finds, after all of their logins,
provided that no session ends between two of them. -/
theorem serveAll_stores {requests : List LoginRequest} (hrequests : requests ≠ [])
    (hfaults : w.sessions.faults = {})
    (hfound : ∀ q ∈ requests.head?, (w.sessions.seen? q.moment.now id).getD [] = data)
    (hbound : data.lookup userIdKey = bound.map .str)
    (hchain : requests.IsChain fun q next => next.moment.now < q.moment.setting.expires) :
    ∃ sid w' record, serveAll requests id w = .ok (some sid, w') ∧
      w'.sessions.get? sid = some record ∧
      record.data = data.bindAll (requests.flatMap (·.logins)) := by
  induction requests generalizing id w data bound with
  | nil => exact absurd rfl hrequests
  | cons q rest ih =>
    obtain ⟨sid, w₁, hserve, hfaults₁, hget⟩ := q.serve_of_found hfaults (hfound q rfl) hbound
    obtain ⟨hnext, hchain⟩ := List.isChain_cons.mp hchain
    simp only [serveAll, hserve]
    by_cases hrest : rest = []
    · subst hrest
      exact ⟨sid, w₁, _, rfl, hget, by simp⟩
    · -- The next request comes before the record ends, and finds it.
      have hfound₁ : ∀ next ∈ rest.head?, (w₁.sessions.seen? next.moment.now (some sid)).getD []
          = data.bindAll q.logins := by
        intro next hmem
        have hfind : w₁.sessions.seen? next.moment.now (some sid)
            = some (data.bindAll q.logins) :=
          SessionStore.find?_eq_some_iff.mpr ⟨_, hget, hnext next hmem, rfl⟩
        rw [hfind]
        rfl
      obtain ⟨userId, hbound₁⟩ := data.lookup_bindAll q.logins_ne_nil
      obtain ⟨sid', w', record, hall, hget', hdata⟩ := ih hrest hfaults₁ hfound₁ hbound₁ hchain
      refine ⟨sid', w', record, hall, hget', ?_⟩
      rw [hdata, List.flatMap_cons, SessionData.bindAll_append]

/-- Whatever a session holds when a sequence of logins begins, the data that is stored at their end
is the same, with the two values of the last login in it, if the session was nobody else's than the
last user's at the beginning and nobody else logged in since.  In every other case it consists of
the two values of the last login and nothing else, so that it does not depend on what was there.
The logins may be spread over requests in any way, as long as no session ends in between; a single
login is the case without earlier ones. -/
theorem stored_data_of_one_user (requests : List LoginRequest) (earlier : List (User × String))
    (user : User) (backend : String)
    (hlogins : requests.flatMap (·.logins) = earlier ++ [(user, backend)])
    (hchain : requests.IsChain fun q next => next.moment.now < q.moment.setting.expires)
    (w : World) (hfaults : w.sessions.faults = {}) (id : Option SessionId) (data : SessionData)
    (hfound : ∀ q ∈ requests.head?, (w.sessions.seen? q.moment.now id).getD [] = data)
    (bound : Option String) (hbound : data.lookup userIdKey = bound.map .str) :
    ∃ sid w' record, serveAll requests id w = .ok (some sid, w') ∧
      w'.sessions.get? sid = some record ∧
      (SessionData.OneUser bound earlier user.id →
        record.data.values = SessionData.rebound user.id backend data.values) ∧
      (¬ SessionData.OneUser bound earlier user.id →
        record.data = [(backendKey, .str backend), (userIdKey, .str user.id)]) := by
  have hrequests : requests ≠ [] := by
    rintro rfl
    simp at hlogins
  obtain ⟨sid, w', record, hall, hget, hdata⟩ :=
    serveAll_stores hrequests hfaults hfound hbound hchain
  obtain ⟨hkept, hlost⟩ := SessionData.bindAll_cases hbound earlier user backend
  rw [hlogins] at hdata
  rw [← hdata] at hkept hlost
  exact ⟨sid, w', record, hall, hget, hkept, hlost⟩

end LoginRequest

namespace Sample

/-- Session data of somebody who put something into a cart before logging in. -/
def cart : SessionData := [("cart", .arr [.str "tea"])]

/-- A world with this session. -/
def withCart : World where
  sessions := { records := [(oldId, ⟨cart, ⟨1⟩⟩)] }

/-- The account of somebody. -/
def account (name : String) : User :=
  newUser name name name "" ⟨0⟩

/-- A request during which somebody logs in. -/
def loginOf (name : String) : LoginRequest where
  moment := ⟨service, .browser, ⟨0⟩⟩
  logins := [(account name, passwordBackend)]
  logins_ne_nil := List.cons_ne_nil _ _
  reply := { status := 200 }
  status_lt := by decide

end Sample

namespace LoginRequest

open Sample

/-- Ann finds the cart after logging in twice, but not after somebody else used the session. -/
theorem cart_kept_and_dropped :
    (∃ sid w' record,
      serveAll [loginOf "ann", loginOf "ann"] (some oldId) withCart = .ok (some sid, w') ∧
      w'.sessions.get? sid = some record ∧
      record.data.values "cart" = some (.arr [.str "tea"])) ∧
    ∃ sid w' record,
      serveAll [loginOf "ann", loginOf "bob", loginOf "ann"] (some oldId) withCart
        = .ok (some sid, w') ∧
      w'.sessions.get? sid = some record ∧
      record.data = [(backendKey, .str passwordBackend), (userIdKey, .str "ann")] := by
  have hfound : ∀ rest, ∀ q ∈ (loginOf "ann" :: rest).head?,
      (withCart.sessions.seen? q.moment.now (some oldId)).getD [] = cart := by
    intro rest q hq
    obtain rfl := Option.some.inj hq
    rfl
  refine ⟨?_, ?_⟩
  · obtain ⟨sid, w', record, hall, hget, hkept, -⟩ := stored_data_of_one_user
      [loginOf "ann", loginOf "ann"] [(account "ann", passwordBackend)] (account "ann")
      passwordBackend rfl (by decide) withCart rfl (some oldId) cart (hfound _) none rfl
    refine ⟨sid, w', record, hall, hget, ?_⟩
    rw [hkept ⟨.inl rfl, by decide⟩]
    rfl
  · obtain ⟨sid, w', record, hall, hget, -, hlost⟩ := stored_data_of_one_user
      [loginOf "ann", loginOf "bob", loginOf "ann"]
      [(account "ann", passwordBackend), (account "bob", passwordBackend)] (account "ann")
      passwordBackend rfl (by decide) withCart rfl (some oldId) cart (hfound _) none rfl
    refine ⟨sid, w', record, hall, hget, hlost fun hone => ?_⟩
    exact absurd (hone.2 (account "bob", passwordBackend) (by simp)) (by decide)

end LoginRequest

end CookieAuth
