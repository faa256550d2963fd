import CookieAuth.Proofs.Account.Addresses
import CookieAuth.Proofs.Account.Atomicity
import CookieAuth.Proofs.Password.Storage
import CookieAuth.Proofs.Service.Robustness
import CookieAuth.Proofs.Service.Status

/-!
# Registered users can log in

Whoever registered logs in with the name and the password of the form, as they were typed, at any
later time.  What happens in between does not matter as long as the account is not deleted: no act
changes an account, and no other account gets the same name or identifier.

## Main definitions

* `World.Keeps`: an account is there, and nothing else has its name or its identifier.

## Main results

* `SessionId.parse?_text`: an identifier is found again from its text;
* `Service.keeps_perform`, `Service.keeps_run`: accounts are kept until they are deleted;
* `Service.names_iff_of_bound`: a session names its user exactly until it ends;
* `Service.logs_in_after_registration`: the registered user logs in, and the session names the user.
-/

namespace CookieAuth

open Http Text Time

/-- An identifier is found again from its text. -/
theorem SessionId.parse?_text (id : SessionId) : parse? id.text = some id := by
  unfold parse? text
  rw [Base64.decode?_encode Base64.faithful_urlSafe]
  exact dif_pos id.length_bytes

/-! ### Accounts that are kept -/

/-- The tables can be reached and the session store refuses nothing.  The user is there, and nobody
else has the user's name or identifier. -/
structure World.Keeps (w : World) (user : User) : Prop where
  /-- The tables can be reached. -/
  access : ∀ table, w.db.access table = .ok ()
  /-- No operation on sessions is refused. -/
  faultless : w.sessions.faults = {}
  /-- The user is there. -/
  mem : user ∈ w.db.users
  /-- Nobody else has the name or the identifier. -/
  unique : ∀ u ∈ w.db.users, u.username = user.username ∨ u.id = user.id → u = user

namespace World.Keeps

variable {w w' : World} {user joined : User}

/-- The only user with a property is the one who is found by it. -/
theorem find?_eq (h : w.Keeps user) {p : User → Bool} (hself : p user = true)
    (hp : ∀ u, p u = true → u.username = user.username ∨ u.id = user.id) :
    w.db.users.find? p = some user := by
  have hsome : (w.db.users.find? p).isSome = true := List.find?_isSome.mpr ⟨user, h.mem, hself⟩
  obtain ⟨found, hfound⟩ := Option.isSome_iff_exists.mp hsome
  have hsame := hp found (List.find?_some hfound)
  rw [hfound, h.unique found (List.mem_of_find?_eq_some hfound) hsame]

theorem findUser_eq (h : w.Keeps user) : Visit.findUser w.db user.id = .ok user := by
  have hfind : w.db.users.find? (·.id = user.id) = some user :=
    h.find?_eq (by simp) fun u hu => .inr (by simpa using hu)
  simp only [Visit.findUser, Database.findById, Database.on, h.access, hfind]

/-- A form with the name and the password of an active user names the user. -/
theorem validate_eq (h : w.Keeps user) {kdf : Password.KeyDerivation} {form : LoginForm}
    (hname : user.username = trim form.username)
    (hpassword : Password.verifyPassword kdf form.password user.passwordHash = .ok true)
    (hactive : user.isActive = true)
    (hblank : isBlankText form.username = false ∧ isBlankText form.password = false) :
    form.validate kdf w.db = .ok user := by
  have hfind : w.db.users.find? (·.username = trim form.username) = some user := by
    rw [← hname]
    exact h.find?_eq (by simp) fun u hu => .inl (by simpa using hu)
  have hfound : authenticate kdf w.db (trim form.username) form.password = .ok (some user) := by
    simp only [authenticate, Database.findByUsername, Database.on, h.access, hfind, hpassword]
  have hblanks : form.blanks.isEmpty = true := by
    simp only [LoginForm.blanks, FormErrors.isEmpty_require_iff, hblank, and_true]
    rfl
  simp only [LoginForm.validate, hblanks, Bool.not_true, Bool.false_eq_true, if_false, hfound,
    hactive, if_true]

end World.Keeps

namespace Service

variable {s : Service} {now later : Instant} {r : Request} {w : World} {user : User}

/-- A registration leaves its account kept. -/
theorem keeps_of_enrols (h : Enrols s now r w user) (haccess : ∀ table, w.db.access table = .ok ())
    (hfaults : w.sessions.faults = {}) : (s.handle now r w).world.Keeps user where
  access table := (s.access_handle now r w table).trans (haccess table)
  faultless := (s.faults_handle now r w).trans hfaults
  mem := by
    rw [(account_of_enrols h).1]
    simp
  unique u hu hsame := by
    obtain ⟨form, account, w₁, -, -, hmade⟩ := h.made
    obtain ⟨-, -, hunique, -⟩ := World.of_register_ok hmade
    rw [(account_of_enrols h).1] at hu
    rcases List.mem_append.mp hu with hold | hnew
    · -- Nobody had the name or the identifier before.
      obtain ⟨-, hname, hid⟩ := Database.of_duplicate?_eq_none hunique u hold
      exact absurd hsame (not_or.mpr ⟨hname, hid⟩)
    · exact List.mem_singleton.mp hnew

/-- An account is kept by every act other than its deletion. -/
theorem keeps_perform (h : w.Keeps user) (now : Instant) {act : Act}
    (hact : act ≠ .deleteUser user.id) : (s.perform now w act).Keeps user where
  access table := (s.access_perform now w act table).trans (h.access table)
  faultless := (s.faults_perform now w act).trans h.faultless
  mem := mem_perform h.mem now hact
  unique u hu hsame := by
    rcases s.users_perform now w act with hfewer | ⟨joined, hjoined⟩
    · exact h.unique u (hfewer.users u hu) hsame
    · rw [hjoined.users] at hu
      rcases List.mem_append.mp hu with hold | hnew
      · exact h.unique u hold hsame
      · -- Whoever joins repeats neither name nor identifier of the user.
        obtain ⟨-, hname, hid⟩ := Database.of_duplicate?_eq_none hjoined.unique user h.mem
        obtain rfl := List.mem_singleton.mp hnew
        exact absurd hsame (not_or.mpr ⟨hname.symm, hid.symm⟩)

/-- An account is kept along every run that does not delete it. -/
theorem keeps_run (h : w.Keeps user) {deeds : List Deed}
    (hdeeds : ∀ d ∈ deeds, d.act ≠ .deleteUser user.id) : (s.run w deeds).world.Keeps user :=
  world_run_induction (P := fun w => w.Keeps user) h fun _ d hd hkept =>
    keeps_perform hkept d.now (hdeeds d hd)

/-! ### Logging in -/

/-- A login without a session binds the user to a new one, which lives as long as sessions do. -/
theorem handle_of_logIn {form : LoginForm} (h : w.Keeps user) (hposts : s.Posts r .logIn)
    (hnone : r.sessionId? = none) (hread : LoginForm.read r = .ok form)
    (hvalid : form.validate s.kdf w.db = .ok user) (now : Instant) :
    ∃ id data, (s.handle now r w).Answers 200 (Visit.usernameBody user) ∧
      (s.handle now r w).Issues id ∧ SessionData.Binds data user.id passwordBackend ∧
      (s.handle now r w).world.sessions.get? id
        = some ⟨data, (s.moment now).setting.expires⟩ := by
  obtain ⟨lifetime, hlifetime⟩ := Option.ne_none_iff_exists'.mp hposts.sessions
  -- Without a presented session, only the store could keep the new one from being bound.
  have hopen : ¬ (opening r w).store.Blocks (s.moment now).setting.now
      (opening r w).session.id := by
    intro hblocks
    cases hblocks with
    | unreadable hid => exact hid hnone
    | malformed hseen =>
      rw [show (opening r w).session.id = none from hnone] at hseen
      simp [SessionStore.seen?] at hseen
    | undeletable hdelete =>
      rw [show (opening r w).store.faults = {} from h.faultless] at hdelete
      simp at hdelete
  obtain ⟨l, hlogIn⟩ := Live.logIn_of_not_blocks user passwordBackend rfl hopen
  obtain ⟨v, hrun, hlive⟩ : ∃ v, Route.run (s.moment now) r .logIn (s.visit r w)
      = (.ok (Visit.usernameBody user), v) ∧ v.live = l := by
    simp only [Route.run, withForm, hread]
    unfold Visit.logIn Visit.bindUser
    rw [show form.validate (s.moment now).service.kdf (s.visit r w).world.db = _ from hvalid]
    dsimp only
    rw [live_visit_of_some hlifetime, hlogIn]
    exact ⟨_, rfl, rfl⟩
  obtain ⟨id, data, hanswer, hstore, hbinds⟩ := settle_of_creatable hlifetime
    (Live.loggedIn_of_logIn rfl hlogIn) hlive (by rw [h.faultless])
  rw [handle_of_posts hposts rfl, hrun]
  simp only [Visit.conclude]
  refine ⟨id, data, ⟨_, hanswer, rfl, rfl⟩, ⟨_, _, hanswer, rfl⟩, hbinds, ?_⟩
  rw [hstore, SessionStore.get?_insert, if_pos rfl]

/-! ### The status afterwards -/

/-- The status of a session that is bound to a user who is there names the user. -/
theorem status_of_bound {id : SessionId} {data : SessionData} {backend : String}
    (h : w.Keeps user) (hsessions : s.lifetime ≠ none) (hid : r.sessionId? = some id)
    (hfind : w.sessions.find? id now = some data) (hbinds : data.Binds user.id backend) :
    ∃ v, (s.visit r w).status (s.moment now) = (.ok (Visit.statusBody user.username), v) := by
  obtain ⟨lifetime, hlifetime⟩ := Option.ne_none_iff_exists'.mp hsessions
  have hlive := live_visit_of_some (r := r) (w := w) hlifetime
  obtain ⟨loaded, l, hload, -⟩ :=
    Live.load_of_faultless (l := opening r w) (s.moment now).setting h.faultless
  have hdata : loaded.data = data := by
    rcases (Live.opened_of_load rfl hload).data_cases with ⟨id', hid', hfind'⟩ | ⟨hnone, -⟩
    · obtain rfl := Option.some.inj (hid.symm.trans hid')
      exact Option.some.inj (hfind'.symm.trans hfind)
    · rw [show (opening r w).session.id = some id from hid] at hnone
      rw [show w.sessions.find? id now = none from hnone] at hfind
      simp at hfind
  have huser : (s.visit r w).userId (s.moment now)
      = (.ok (some user.id), (s.visit r w).withLive l) := by
    have hlook : loaded.data.lookup userIdKey = (some user.id).map .str := by
      rw [hdata]
      exact hbinds.user
    unfold Visit.userId Live.userId
    rw [hlive, Live.getText_of_lookup hload hlook]
  have hknown : ∀ other, some user.id = some other → w.db.hasUser other = true := by
    intro other hother
    rw [← Option.some.inj hother]
    exact Database.hasUser_iff.mpr ⟨user, h.mem, rfl⟩
  obtain ⟨v, haudit⟩ := Visit.audit_of_known (v := (s.visit r w).withLive l) (s.moment now)
    (h.access .auditEntries) hknown
  unfold Visit.status
  rw [huser]
  dsimp only
  rw [show Visit.findUser ((s.visit r w).withLive l).world.db user.id = _ from h.findUser_eq]
  dsimp only
  rw [haudit]
  exact ⟨v, rfl⟩

/-- A session names its user exactly until it ends. -/
theorem names_iff_of_bound {id : SessionId} {record : Record} {backend : String}
    (h : w.Keeps user) (hsessions : s.lifetime ≠ none)
    (hroute : Route.ofPath? r.path = some .status) (hmethod : r.method = "GET")
    (hid : r.sessionId? = some id) (hget : w.sessions.get? id = some record)
    (hbinds : record.data.Binds user.id backend) :
    (s.handle later r w).Names user.username ↔ later < record.expires := by
  constructor
  · intro hnames
    obtain ⟨id', data, user', hid', hfind, -⟩ := of_names hroute hmethod hnames
    obtain rfl := Option.some.inj (hid.symm.trans hid')
    obtain ⟨record', hget', hlive, -⟩ := SessionStore.find?_eq_some_iff.mp hfind
    rwa [← Option.some.inj (hget.symm.trans hget')] at hlive
  · intro hlive
    have hfind := SessionStore.find?_eq_some_iff.mpr ⟨record, hget, hlive, rfl⟩
    obtain ⟨v, hstatus⟩ := status_of_bound h hsessions hid hfind hbinds
    exact answers_of_status hsessions hroute hmethod hstatus

/-- After a registration that succeeded, and after any run that does not delete the account, a login
with the name and the password as they were typed into the form is answered with the user's name.
The session that is issued then names the user exactly until it ends. -/
theorem logs_in_after_registration (s : Service) (hsalts : ∀ n, (s.supply.salt n).length = 16)
    (now : Instant) (r : Request) (w : World) (haccess : ∀ table, w.db.access table = .ok ())
    (hfaults : w.sessions.faults = {}) (hroute : Route.ofPath? r.path = some .register)
    {form : RegistrationForm} (hread : RegistrationForm.read r = .ok form)
    (hok : (s.handle now r w).Succeeds) :
    ∃ user, (s.handle now r w).world.db.users = w.db.users ++ [user] ∧
      user.username = trim form.username ∧
      ∀ deeds : List Deed, (∀ d ∈ deeds, d.act ≠ .deleteUser user.id) →
      ∀ (afterwards : Instant) (login : Request), s.Posts login .logIn → login.sessionId? = none →
        LoginForm.read login = .ok ⟨form.username, form.password1⟩ →
      ∃ id, (s.handle afterwards login (s.run (s.handle now r w).world deeds).world).Answers 200
          (Visit.usernameBody user) ∧
        (s.handle afterwards login (s.run (s.handle now r w).world deeds).world).Issues id ∧
        ∀ (later : Instant) (check : Request), Route.ofPath? check.path = some .status →
          check.method = "GET" → check.lastCookie? sessionCookie = some id.text →
          ((s.handle later check
            (s.handle afterwards login (s.run (s.handle now r w).world deeds).world).world).Names
              user.username ↔ later < (s.moment afterwards).setting.expires) := by
  obtain ⟨user, henrols⟩ := enrols_of_succeeds hroute hok
  obtain ⟨form', account, w₁, hread', hvalid, hmade⟩ := henrols.made
  obtain rfl := Except.ok.inj (hread.symm.trans hread')
  obtain ⟨huser, -, -, -⟩ := World.of_register_ok hmade
  obtain ⟨haccount, -⟩ := RegistrationForm.of_validate_ok hvalid
  have hname : user.username = trim form.username := by
    rw [huser, haccount]
    rfl
  have hpassword : Password.verifyPassword s.kdf form.password1 user.passwordHash = .ok true := by
    rw [huser, haccount]
    exact Password.verifyPassword_hashPassword s.kdf form.password1 (by rw [hsalts]; decide)
      (by rw [hsalts]; decide)
  have hactive : user.isActive = true := by
    rw [huser]
    rfl
  refine ⟨user, congrArg Database.users (account_of_enrols henrols).1, hname, ?_⟩
  intro deeds hdeeds afterwards login hposts hnone hlogin
  have hkept : (s.run (s.handle now r w).world deeds).world.Keeps user :=
    keeps_run (keeps_of_enrols henrols haccess hfaults) hdeeds
  have hnamed : LoginForm.validate s.kdf (s.run (s.handle now r w).world deeds).world.db
      ⟨form.username, form.password1⟩ = .ok user :=
    hkept.validate_eq hname hpassword hactive (RegistrationForm.not_blank_of_validate_ok hvalid)
  obtain ⟨id, data, hanswers, hissues, hbinds, hget⟩ :=
    handle_of_logIn hkept hposts hnone hlogin hnamed afterwards
  refine ⟨id, hanswers, hissues, ?_⟩
  intro later check hcheck hmethod hcookie
  have hid : check.sessionId? = some id := by
    rw [Request.sessionId?, hcookie]
    exact id.parse?_text
  -- The login is an act that keeps the account.
  have hkept' : (s.perform afterwards (s.run (s.handle now r w).world deeds).world
      (.request login)).Keeps user := keeps_perform hkept afterwards (by simp)
  exact names_iff_of_bound hkept' hposts.sessions hcheck hmethod hid hget hbinds

end Service

/-! ### A name that was typed with blanks -/

namespace Sample

/-- Alice registers and types blanks around the name. -/
def spacedForm : Request :=
  post "/api/auth/register"
    "username=+alice+&email=alice%40example.com&password1=long-enough&password2=long-enough" ""

/-- Alice logs in and types the name in the same way. -/
def spacedLogin : Request :=
  post "/api/auth/login" "username=+alice+&password=long-enough" ""

/-- Somebody else comes and goes. -/
def meanwhile : List Deed :=
  [⟨⟨1⟩, .createUser "bob" "bob@example.com" ""⟩, ⟨⟨2⟩, .deleteUser "ui"⟩, ⟨⟨2⟩, .cleanUp⟩]

/-- The identifier of the session that Alice's login draws. -/
def reunionId : SessionId := supply.sessionId 3

/-- The login issues this identifier. -/
theorem issues_spacedLogin :
    (service.handle ⟨3⟩ spacedLogin (service.run (service.handle ⟨0⟩ spacedForm {}).world
      meanwhile).world).Issues reunionId := by
  decide +kernel

end Sample

namespace Service

open Sample

/-- Alice logs in, and the session that is issued names Alice. -/
theorem logs_in_with_blanks :
    (service.handle ⟨4⟩ (askStatus reunionId.text)
      (service.handle ⟨3⟩ spacedLogin (service.run (service.handle ⟨0⟩ spacedForm {}).world
        meanwhile).world).world).Names "alice" := by
  obtain ⟨user, husers, hname, hrun⟩ := logs_in_after_registration service
    dependable_service.salts ⟨0⟩ spacedForm {} (fun table => by cases table <;> rfl) rfl
    (by decide +kernel)
    (show RegistrationForm.read spacedForm
      = .ok ⟨" alice ", "alice@example.com", "long-enough", "long-enough"⟩ from
        eq_ok_of_toOption (by decide +kernel)) (by decide +kernel)
  have halice : user.username = "alice" := hname.trans (by decide +kernel)
  have hid : user.id = "u" := by
    have hids : (service.handle ⟨0⟩ spacedForm {}).world.db.users.map (·.id) = ["u"] := by
      decide +kernel
    rw [husers] at hids
    simpa using hids
  have hothers : ∀ d ∈ meanwhile, d.act ≠ .deleteUser user.id := by
    rw [hid]
    simp [meanwhile]
  have hposts : service.Posts spacedLogin .logIn :=
    ⟨by decide +kernel, rfl, by decide +kernel, by decide⟩
  obtain ⟨id, -, hissues, hchecks⟩ := hrun meanwhile hothers ⟨3⟩ spacedLogin hposts
    (by decide +kernel) (eq_ok_of_toOption (by decide +kernel))
  obtain rfl := Handled.issues_unique hissues issues_spacedLogin
  rw [← halice]
  exact (hchecks ⟨4⟩ (askStatus reunionId.text) (by decide +kernel) rfl
    (by decide +kernel)).mpr (by decide)

end Service

end CookieAuth
