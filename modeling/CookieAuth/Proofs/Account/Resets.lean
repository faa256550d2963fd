import CookieAuth.Proofs.Database.Collation
import CookieAuth.Proofs.Mail.Rendering
import CookieAuth.Proofs.Service.Sample
import CookieAuth.Proofs.Service.Writes

/-!
# Tokens for forgotten passwords

Whoever forgot a password submits a mail address.  Each active user of this address is issued a
token and sent a mail with it, one after the other, until a mail is refused.  This file follows the
users one by one and says what the world is like after the last of them, or after the first refusal.

Mails go to the address that is stored with a user.  It may differ from the submitted one in case,
and in everything behind a zero byte.

## Main definitions

* `Database.owners`: the active users of an address;
* `Dispatch`, `Service.dispatches`: a token and a mail for each of some users;
* `World.afterMails`: the world after some tokens were issued and some mails were sent;
* `World.CanIssue`: tokens can be issued and will not be repeated.

## Main results

* `World.sendReset_of_accepted`, `World.sendReset_of_refused`: what happens for one user;
* `World.sendResets_of_accepted`, `World.sendResets_of_refused`: what happens for all of them;
* `Service.dispatched_to_owners`: the answer to a submitted address, and what it leads to.
-/

namespace CookieAuth

open Http Text Time Mail Email

/-! ### Mailers -/

namespace Mail.Mailer

variable {mailer : Mailer} {message : Message}

/-- Why a mail is refused that is handed over after `k` others, unless it is accepted. -/
def refusal? (mailer : Mailer) (k : Nat) : Option String :=
  match mailer.transport with
  | .log => none
  | .memory refusal => refusal (mailer.attempts + k)

/-- A mailer to which mails were handed over.  Only the accepted ones are kept, if any are. -/
def handed (mailer : Mailer) (attempts : Nat) (accepted : List Message) : Mailer :=
  { mailer with
    attempts := mailer.attempts + attempts
    outbox := match mailer.transport with
      | .log => mailer.outbox
      | .memory _ => mailer.outbox ++ accepted }

/-- What is written to the log about a mail. -/
def report (mailer : Mailer) (message : Message) : List Event :=
  match mailer.transport with
  | .log => events message
  | .memory _ => []

@[simp] theorem transport_handed (mailer : Mailer) (n : Nat) (accepted : List Message) :
    (mailer.handed n accepted).transport = mailer.transport := rfl

theorem refusal?_handed (mailer : Mailer) (n k : Nat) (accepted : List Message) :
    (mailer.handed n accepted).refusal? k = mailer.refusal? (n + k) := by
  unfold refusal?
  rw [transport_handed]
  cases mailer.transport with
  | log => rfl
  | memory refusal => exact congrArg refusal (Nat.add_assoc _ _ _)

theorem handed_handed (mailer : Mailer) (m n : Nat) (first second : List Message) :
    (mailer.handed m first).handed n second = mailer.handed (m + n) (first ++ second) := by
  unfold handed
  cases mailer.transport with
  | log => simp [Nat.add_assoc]
  | memory refusal => simp [Nat.add_assoc]

theorem handed_zero (mailer : Mailer) : mailer.handed 0 [] = mailer := by
  obtain ⟨transport, attempts, outbox⟩ := mailer
  unfold handed
  cases transport with
  | log => rfl
  | memory refusal => simp

theorem send_of_accepted (h : mailer.refusal? 0 = none) :
    mailer.send message = (.ok (), mailer.handed 1 [message], mailer.report message) := by
  unfold send handed report
  unfold refusal? at h
  cases htransport : mailer.transport with
  | log => simp
  | memory refusal =>
    rw [htransport] at h
    dsimp only
    rw [show refusal mailer.attempts = none from h]

theorem send_of_refused {reason : String} (h : mailer.refusal? 0 = some reason) :
    mailer.send message = (.error (.unavailable reason), mailer.handed 1 [], []) := by
  unfold send handed
  unfold refusal? at h
  cases htransport : mailer.transport with
  | log => simp [htransport] at h
  | memory refusal =>
    rw [htransport] at h
    dsimp only
    rw [show refusal mailer.attempts = some reason from h]
    simp

end Mail.Mailer

/-! ### The users of an address -/

/-- The active users of an address. -/
def Database.owners (db : Database) (email : String) : List User :=
  db.users.filter fun u => u.isActive && sameIgnoringCase u.email email

/-- The owners of an address exist. -/
theorem Database.hasUser_of_mem_owners {db : Database} {email : String} {user : User}
    (h : user ∈ db.owners email) : db.hasUser user.id = true :=
  hasUser_iff.mpr ⟨user, (List.mem_filter.mp h).1, rfl⟩

/-- The owners of an address without a zero byte are the active users whose address equals it up to
case. -/
theorem Database.mem_owners_iff {db : Database} {email : String} (hzero : 0 ∉ bytesOf email)
    {user : User} :
    user ∈ db.owners email ↔
      user ∈ db.users ∧ user.isActive = true ∧ foldCase user.email = foldCase email := by
  unfold owners
  rw [List.mem_filter, Bool.and_eq_true, sameIgnoringCase_iff hzero]

namespace ResetForm

variable {db : Database} {form : ResetForm}

/-- The address is neither blank nor malformed, and some active user has it. -/
def Reaches (form : ResetForm) (db : Database) : Prop :=
  isBlankText (trim form.email) = false ∧ isEmail (trim form.email) = true ∧
    db.owners (trim form.email) ≠ []

instance (form : ResetForm) (db : Database) : Decidable (form.Reaches db) :=
  inferInstanceAs (Decidable (_ ∧ _ ∧ _))

/-- There are no messages about an address that is neither blank nor malformed. -/
theorem isEmpty_errors_iff (email : String) :
    (errors email).isEmpty = true ↔ isBlankText email = false ∧ isEmail email = true := by
  unfold errors FormErrors.require
  cases hblank : isBlankText email with
  | true =>
    -- A message about the field is there already, so that nothing is added to it.
    cases isEmail email <;> decide
  | false =>
    cases isEmail email <;> decide

theorem findActiveByEmail_eq (haccess : db.access .users = .ok ()) (email : String) :
    db.findActiveByEmail email = .ok (db.owners email) := by
  unfold Database.findActiveByEmail Database.on Database.usersWithEmail Database.owners
  rw [haccess, List.filter_filter]

theorem validate_of_reaches (haccess : db.access .users = .ok ()) (h : form.Reaches db) :
    form.validate db = .ok ⟨trim form.email, db.owners (trim form.email)⟩ := by
  obtain ⟨hblank, hemail, howners⟩ := h
  have hvalid := (isEmpty_errors_iff _).mpr ⟨hblank, hemail⟩
  unfold validate
  simp only [hvalid, Bool.not_true, Bool.false_eq_true, if_false, findActiveByEmail_eq haccess]

theorem validate_of_not_reaches (haccess : db.access .users = .ok ()) (h : ¬ form.Reaches db) :
    ∃ messages, form.validate db = .error (.validation messages) := by
  unfold validate
  by_cases hvalid : (errors (trim form.email)).isEmpty = true
  · have hnobody : db.owners (trim form.email) = [] := by
      obtain ⟨hblank, hemail⟩ := (isEmpty_errors_iff _).mp hvalid
      by_cases howners : db.owners (trim form.email) = []
      · exact howners
      · exact absurd ⟨hblank, hemail, howners⟩ h
    simp only [hvalid, Bool.not_true, Bool.false_eq_true, if_false, findActiveByEmail_eq haccess,
      hnobody]
    exact ⟨_, rfl⟩
  · simp only [hvalid, Bool.not_false, if_true]
    exact ⟨_, rfl⟩

/-- The users whom a form reaches exist. -/
theorem hasUser_of_validate_ok {request : ResetRequest} (haccess : db.access .users = .ok ())
    (h : form.validate db = .ok request) : ∀ u ∈ request.users, db.hasUser u.id = true := by
  intro u hu
  by_cases hreaches : form.Reaches db
  · rw [validate_of_reaches haccess hreaches] at h
    obtain rfl := Except.ok.inj h
    exact Database.hasUser_of_mem_owners hu
  · obtain ⟨messages, hinvalid⟩ := validate_of_not_reaches haccess hreaches
    rw [hinvalid] at h
    simp at h

end ResetForm

/-! ### Tokens and mails -/

/-- A token that is issued has the given owner and the given secret. -/
theorem ResetToken.of_issue_ok {userId secret : String} {minutes : Int} {now : Instant}
    {token : ResetToken} (h : issue userId secret minutes now = .ok token) :
    ∃ expires, now.addMinutes minutes = .ok expires ∧
      token = { userId, token := secret, created := now, expires } := by
  unfold issue at h
  cases hends : now.addMinutes minutes with
  | error e => rw [hends] at h; simp [Except.map] at h
  | ok expires =>
    rw [hends] at h
    exact ⟨expires, rfl, (Except.ok.inj h).symm⟩

/-- A token for a user, and the mail with it. -/
structure Dispatch where
  /-- The user. -/
  user : User
  /-- The token. -/
  token : ResetToken
  /-- The mail. -/
  message : Message
  deriving DecidableEq, Repr

/-- The token belongs to the user, and the mail goes to the user's own address and has a link with
the user's identifier and the token. -/
structure Dispatch.Fits (config : Config) (d : Dispatch) : Prop where
  /-- The token belongs to the user. -/
  owner : d.token.userId = d.user.id
  /-- The mail goes to the address that is stored with the user. -/
  recipient : d.message.recipient = d.user.email
  /-- The link has the user's identifier and the token. -/
  link : ∃ before after, d.message.body = before
    ++ resetLink config.protocol config.siteDomain d.user.id d.token.token ++ after
  /-- They stand there as they are, if nothing in them is escaped. -/
  verbatim : Plain d.user.id → Plain d.token.token → ∃ before after,
    d.message.body = before ++ "/reset/" ++ d.user.id ++ "/" ++ d.token.token ++ "/" ++ after

namespace Service

variable (s : Service) (now expires : Instant)

/-- The token and the mail for a user with the `n`-th secret. -/
def dispatch (n : Nat) (user : User) : Dispatch where
  user := user
  token := { userId := user.id, token := s.supply.token n, created := now, expires := expires }
  message := s.config.resetMail user (s.supply.token n)

/-- The tokens and mails for some users, with the secrets from the `n`-th on. -/
def dispatches : Nat → List User → List Dispatch
  | _, [] => []
  | n, user :: rest => s.dispatch now expires n user :: dispatches (n + 1) rest

theorem map_user_dispatches (n : Nat) (users : List User) :
    (s.dispatches now expires n users).map (·.user) = users := by
  induction users generalizing n with
  | nil => rfl
  | cons user rest ih => rw [dispatches, List.map_cons, ih]; rfl

@[simp] theorem length_dispatches (n : Nat) (users : List User) :
    (s.dispatches now expires n users).length = users.length := by
  rw [← List.length_map (·.user), map_user_dispatches]

theorem fits_dispatch (n : Nat) (user : User) : (s.dispatch now expires n user).Fits s.config where
  owner := rfl
  recipient := rfl
  link := ⟨_, _, rfl⟩
  verbatim hid htoken := by
    refine ⟨s.config.beforeLink ++ escape s.config.protocol ++ "://" ++ escape s.config.siteDomain,
      s.config.afterLink user, ?_⟩
    rw [← escape_of_plain hid, ← escape_of_plain htoken]
    simp only [dispatch, Config.resetMail, resetLink, String.append_assoc]

theorem fits_of_mem_dispatches {n : Nat} {users : List User} {d : Dispatch}
    (h : d ∈ s.dispatches now expires n users) : d.Fits s.config := by
  induction users generalizing n with
  | nil => simp [dispatches] at h
  | cons user rest ih =>
    rw [dispatches, List.mem_cons] at h
    rcases h with rfl | h
    · exact s.fits_dispatch now expires n user
    · exact ih h

end Service

namespace World

variable {s : Service} {now expires : Instant} {w : World} {user : User} {users : List User}

/-- The world after the first tokens were issued and the first mails were accepted, out of one
attempt for each token. -/
def afterMails (w : World) (ds : List Dispatch) (issued accepted : Nat) : World :=
  { w with
    db := { w.db with tokens := w.db.tokens ++ (ds.take issued).map (·.token) }
    mailer := w.mailer.handed issued ((ds.take accepted).map (·.message))
    draws := { w.draws with tokens := w.draws.tokens + issued } }

/-- What the log says about dispatches. -/
def reports (w : World) (ds : List Dispatch) : List Event :=
  ds.flatMap fun d => w.mailer.report d.message ++ [dispatchedEvent d.user]

theorem reports_cons (w : World) (d : Dispatch) (ds : List Dispatch) :
    w.reports (d :: ds) = w.reports [d] ++ w.reports ds := by
  simp [reports]

theorem reports_afterMails (w : World) (sent ds : List Dispatch) (issued accepted : Nat) :
    (w.afterMails sent issued accepted).reports ds = w.reports ds := rfl

theorem afterMails_nil (w : World) : w.afterMails [] 0 0 = w := by
  simp [afterMails, Mailer.handed_zero]

/-- The world after the first dispatch and then some others. -/
theorem afterMails_cons (w : World) (d : Dispatch) (ds : List Dispatch) (m n : Nat) :
    (w.afterMails [d] 1 1).afterMails ds m n = w.afterMails (d :: ds) (m + 1) (n + 1) := by
  simp [afterMails, Mailer.handed_handed, Nat.add_comm, Nat.add_left_comm]

/-- After one mail, the next one is handed over first. -/
theorem refusal?_afterMails (w : World) (d : Dispatch) (accepted k : Nat) :
    (w.afterMails [d] 1 accepted).mailer.refusal? k = w.mailer.refusal? (k + 1) := by
  rw [Nat.add_comm]
  exact Mailer.refusal?_handed _ 1 k _

/-- Tokens can be issued now, and none of them is there already. -/
structure CanIssue (s : Service) (now expires : Instant) (w : World) : Prop where
  /-- The tokens can be reached. -/
  access : w.db.access .resetTokens = .ok ()
  /-- The end of a token can be computed. -/
  ends : now.addMinutes s.config.passwordResetTimeoutMinutes.toInt = .ok expires
  /-- No secret that is going to be drawn is there. -/
  fresh : ∀ n, w.draws.tokens ≤ n → ∀ t ∈ w.db.tokens, t.token ≠ s.supply.token n
  /-- No secret is drawn twice. -/
  once : ∀ m n, s.supply.token m = s.supply.token n → m = n

/-- More tokens can be issued after one was. -/
theorem CanIssue.afterMails (h : w.CanIssue s now expires) (user : User) (accepted : Nat) :
    (w.afterMails [s.dispatch now expires w.draws.tokens user] 1 accepted).CanIssue s now
      expires where
  access := h.access
  ends := h.ends
  fresh n hn t ht := by
    have hn : w.draws.tokens + 1 ≤ n := hn
    have ht : t ∈ w.db.tokens ++ [(s.dispatch now expires w.draws.tokens user).token] := ht
    rw [List.mem_append, List.mem_singleton] at ht
    rcases ht with hold | rfl
    · exact h.fresh n (by omega) t hold
    · intro hsame
      have := h.once _ _ hsame
      omega
  once := h.once

/-- A token is issued for a user who exists. -/
theorem issueToken_of_canIssue (h : w.CanIssue s now expires)
    (huser : w.db.hasUser user.id = true) :
    w.issueToken s now user.id s.config.passwordResetTimeoutMinutes.toInt
      = .ok ((s.dispatch now expires w.draws.tokens user).token, { w with
        db := { w.db with
          tokens := w.db.tokens ++ [(s.dispatch now expires w.draws.tokens user).token] }
        draws := { w.draws with tokens := w.draws.tokens + 1 } }) := by
  have hissue : ResetToken.issue user.id (s.supply.token w.draws.tokens)
      s.config.passwordResetTimeoutMinutes.toInt now
        = .ok (s.dispatch now expires w.draws.tokens user).token := by
    unfold ResetToken.issue
    rw [h.ends]
    rfl
  have hnew : w.db.tokens.any
      (·.token = (s.dispatch now expires w.draws.tokens user).token.token) = false := by
    rw [List.any_eq_false]
    intro t ht hsame
    exact h.fresh _ (Nat.le_refl _) t ht (of_decide_eq_true hsame)
  have howner : w.db.hasUser (s.dispatch now expires w.draws.tokens user).token.userId = true :=
    huser
  unfold issueToken Database.insertToken Database.on
  rw [hissue]
  simp only [h.access, hnew, howner, Bool.false_eq_true, if_false, if_true]

/-- A user whose mail is accepted: the token is issued, and the mail is sent. -/
theorem sendReset_of_accepted (h : w.CanIssue s now expires) (huser : w.db.hasUser user.id = true)
    (haccepted : w.mailer.refusal? 0 = none) :
    w.sendReset s now (.standard s.config.siteName s.config.siteDomain) user
      = (.ok (), w.afterMails [s.dispatch now expires w.draws.tokens user] 1 1,
        w.reports [s.dispatch now expires w.draws.tokens user]) := by
  unfold sendReset
  rw [issueToken_of_canIssue h huser]
  simp only [ResetMail.message_standard, Mailer.send_of_accepted haccepted]
  simp [afterMails, reports, Service.dispatch]

/-- A user whose mail is refused: the token is issued all the same. -/
theorem sendReset_of_refused {reason : String} (h : w.CanIssue s now expires)
    (huser : w.db.hasUser user.id = true) (hrefused : w.mailer.refusal? 0 = some reason) :
    w.sendReset s now (.standard s.config.siteName s.config.siteDomain) user
      = (.error (.mail (.unavailable reason)),
        w.afterMails [s.dispatch now expires w.draws.tokens user] 1 0, []) := by
  unfold sendReset
  rw [issueToken_of_canIssue h huser]
  simp only [ResetMail.message_standard, Mailer.send_of_refused hrefused]
  simp [afterMails]

/-- If no mail is refused, every user is issued a token and sent a mail. -/
theorem sendResets_of_accepted (h : w.CanIssue s now expires)
    (husers : ∀ u ∈ users, w.db.hasUser u.id = true)
    (haccepted : ∀ k < users.length, w.mailer.refusal? k = none) :
    w.sendResets s now (.standard s.config.siteName s.config.siteDomain) users
      = (.ok (), w.afterMails (s.dispatches now expires w.draws.tokens users) users.length
          users.length,
        w.reports (s.dispatches now expires w.draws.tokens users)) := by
  induction users generalizing w with
  | nil =>
    rw [Service.dispatches, List.length_nil, afterMails_nil]
    rfl
  | cons user rest ih =>
    have hfirst := sendReset_of_accepted h (husers user List.mem_cons_self)
      (haccepted 0 (Nat.zero_lt_succ _))
    have hrest := ih (h.afterMails user 1)
      (fun u hu => husers u (List.mem_cons_of_mem _ hu))
      (fun k hk => (refusal?_afterMails _ _ _ k).trans (haccepted (k + 1) (Nat.succ_lt_succ hk)))
    unfold sendResets
    rw [hfirst]
    dsimp only
    rw [hrest]
    dsimp only
    rw [afterMails_cons, reports_afterMails, ← reports_cons]
    rfl

/-- More tokens can be issued after all of them were. -/
theorem canIssue_sendResets (h : w.CanIssue s now expires)
    (husers : ∀ u ∈ users, w.db.hasUser u.id = true)
    (haccepted : ∀ k < users.length, w.mailer.refusal? k = none) :
    (w.sendResets s now (.standard s.config.siteName s.config.siteDomain)
      users).2.1.CanIssue s now expires := by
  induction users generalizing w with
  | nil => exact h
  | cons user rest ih =>
    have hrest := ih (h.afterMails user 1) (fun u hu => husers u (List.mem_cons_of_mem _ hu))
      (fun k hk => (refusal?_afterMails _ _ _ k).trans (haccepted (k + 1) (Nat.succ_lt_succ hk)))
    unfold sendResets
    rw [sendReset_of_accepted h (husers user List.mem_cons_self) (haccepted 0 (Nat.zero_lt_succ _))]
    exact hrest

/-- If a mail is refused, the users before are issued tokens and sent mails, the user of the mail is
issued a token, and nothing happens to the others. -/
theorem sendResets_of_refused {k : Nat} {reason : String} (h : w.CanIssue s now expires)
    (husers : ∀ u ∈ users, w.db.hasUser u.id = true) (hk : k < users.length)
    (haccepted : ∀ j < k, w.mailer.refusal? j = none)
    (hrefused : w.mailer.refusal? k = some reason) :
    w.sendResets s now (.standard s.config.siteName s.config.siteDomain) users
      = (.error (.mail (.unavailable reason)),
        w.afterMails (s.dispatches now expires w.draws.tokens users) (k + 1) k,
        w.reports ((s.dispatches now expires w.draws.tokens users).take k)) := by
  induction users generalizing w k with
  | nil => simp at hk
  | cons user rest ih =>
    have huser := husers user List.mem_cons_self
    unfold sendResets
    cases k with
    | zero =>
      rw [sendReset_of_refused h huser hrefused]
      simp [Service.dispatches, afterMails, reports]
    | succ k =>
      have hrest := ih (h.afterMails user 1)
        (fun u hu => husers u (List.mem_cons_of_mem _ hu)) (Nat.lt_of_succ_lt_succ hk)
        (fun j hj => (refusal?_afterMails _ _ _ j).trans (haccepted (j + 1) (Nat.succ_lt_succ hj)))
        ((refusal?_afterMails _ _ _ k).trans hrefused)
      rw [sendReset_of_accepted h huser (haccepted 0 (Nat.zero_lt_succ _))]
      dsimp only
      rw [hrest]
      dsimp only
      rw [afterMails_cons, reports_afterMails, ← reports_cons]
      rfl

end World

/-! ### Requests -/

namespace Service

variable {s : Service} {now expires : Instant} {r : Request} {w : World} {form : ResetForm}

/-- A request that may go on submits the form for a forgotten password. -/
structure AsksReset (s : Service) (r : Request) (form : ResetForm) : Prop where
  /-- The request is for the right route. -/
  route : Route.ofPath? r.path = some .resetPassword
  /-- The form is posted. -/
  method : r.method = "POST"
  /-- The request is not forged, as far as that is checked. -/
  csrf : r.passesCsrf s.config.csrfProtection = true
  /-- The form can be read. -/
  read : ResetForm.read r = .ok form

/-- The events of a request are those of its visit. -/
theorem log_settle (s : Service) (now : Instant) (r : Request) (answer : Answer) (v : Visit) :
    (s.settle now r answer v).log = v.log := by
  unfold settle
  split
  · dsimp only
    unfold Visit.finish
    split
    · rfl
    · split
      · split <;> rfl
      · rfl
  · rfl

/-- The request runs the action on the form, and what the action leaves is the outcome. -/
theorem handle_of_asksReset (h : s.AsksReset r form) {full : Reply} {v : Visit}
    (hrun : Visit.conclude (Visit.resetPassword (s.moment now) form (s.visit r w)) = (.ok full, v))
    (hclean : v.session.modified = false) (hcookie : full.setCookie = none) :
    (∃ reply, (s.handle now r w).answer = .ok reply ∧ reply.status = full.status ∧
      reply.body = full.body) ∧ (s.handle now r w).world = v.world ∧
      (s.handle now r w).log = v.log := by
  have hrespond : respond (s.moment now) r (s.visit r w) = (.ok full, v) := by
    rw [respond_of_accepted h.route (by rw [h.method]; rfl) (fun _ => h.csrf)
      (by simp [Route.usesSession]), ← hrun]
    simp only [Route.run, withForm, h.read]
  have hquiet : v.Quiet (.ok full) := Visit.quiet_of_unchanged hclean hcookie
  rw [handle_eq_settle, hrespond, cut_of_ne (by rw [h.method]; decide)]
  exact ⟨reply_settle_of_quiet s now r hquiet, (settle_of_quiet s now r hquiet).1,
    log_settle s now r _ v⟩

/-- A form that reaches nobody is answered with messages, and nothing happens. -/
theorem handle_of_not_reaches (hasks : s.AsksReset r form) (husers : w.db.access .users = .ok ())
    (h : ¬ form.Reaches w.db) :
    (∃ body, (s.handle now r w).Answers 400 body) ∧ (s.handle now r w).world = w := by
  obtain ⟨messages, hinvalid⟩ := ResetForm.validate_of_not_reaches husers h
  have hrun : Visit.resetPassword (s.moment now) form (s.visit r w)
      = (.error (.validation messages), s.visit r w) := by
    unfold Visit.resetPassword
    rw [show form.validate (s.visit r w).world.db = _ from hinvalid]
  obtain ⟨⟨reply, hreply, hstatus, hbody⟩, hworld, -⟩ :=
    handle_of_asksReset hasks (congrArg Visit.conclude hrun) rfl rfl
  exact ⟨⟨_, reply, hreply, hstatus, hbody⟩, hworld⟩

/-- The action for a form that reaches somebody sends the tokens. -/
theorem resetPassword_of_reaches {result : Except Failure Unit} {w' : World} {events : List Event}
    (husers : w.db.access .users = .ok ()) (h : form.Reaches w.db)
    (hsend : w.sendResets s now (.standard s.config.siteName s.config.siteDomain)
      (w.db.owners (trim form.email)) = (result, w', events)) :
    Visit.resetPassword (s.moment now) form (s.visit r w)
      = (result.map fun _ => .obj [("result", .str "success"), ("email", .str (trim form.email))],
        ((s.visit r w).withWorld w').note events) := by
  have hvalid := ResetForm.validate_of_reaches husers h
  unfold Visit.resetPassword
  rw [show form.validate (s.visit r w).world.db = _ from hvalid]
  dsimp only
  rw [show (s.visit r w).world.sendResets (s.moment now).service (s.moment now).now
    (.standard (s.moment now).service.config.siteName (s.moment now).service.config.siteDomain)
    (w.db.owners (trim form.email)) = _ from hsend]
  cases result with
  | error e => rfl
  | ok _ => rfl

/-- A submitted address that is blank or malformed, or that no active user has, is answered with
status 400, and nothing happens.  Otherwise its owners are taken in order, each with a token of
their own and a mail to their own address.  If no mail is refused, all tokens are issued and all
mails sent.  Otherwise the first refusal ends the request with status 500: the mails before it were
sent, and the tokens up to it issued.  Nothing else in the world changes.  The owners of an address
without a zero byte are the active users whose address equals it up to the case of ASCII
letters. -/
theorem dispatched_to_owners (s : Service) (now expires : Instant) (r : Request) (w : World)
    (form : ResetForm) (hasks : s.AsksReset r form) (husers : w.db.access .users = .ok ())
    (hissue : w.CanIssue s now expires) :
    (¬ form.Reaches w.db →
      (∃ body, (s.handle now r w).Answers 400 body) ∧ (s.handle now r w).world = w) ∧
    (form.Reaches w.db → ∃ ds : List Dispatch,
      ds.map (·.user) = w.db.owners (trim form.email) ∧ (∀ d ∈ ds, d.Fits s.config) ∧
      -- No mail is refused.
      ((∀ k < ds.length, w.mailer.refusal? k = none) →
        (s.handle now r w).Answers 200
          (.obj [("result", .str "success"), ("email", .str (trim form.email))]) ∧
        (s.handle now r w).world = w.afterMails ds ds.length ds.length ∧
        (s.handle now r w).log = w.reports ds) ∧
      -- A mail is refused, and those before it are not.
      (∀ k < ds.length, (∀ j < k, w.mailer.refusal? j = none) →
        ∀ reason, w.mailer.refusal? k = some reason →
          (s.handle now r w).Answers 500 (.obj [("error", .str "Mail error")]) ∧
          (s.handle now r w).world = w.afterMails ds (k + 1) k ∧
          (s.handle now r w).log
            = w.reports (ds.take k) ++ (Failure.mail (.unavailable reason)).events)) ∧
    (0 ∉ bytesOf (trim form.email) → ∀ user, user ∈ w.db.owners (trim form.email) ↔
      user ∈ w.db.users ∧ user.isActive = true ∧
        foldCase user.email = foldCase (trim form.email)) := by
  refine ⟨handle_of_not_reaches hasks husers, ?_, fun hzero user => Database.mem_owners_iff hzero⟩
  intro hreaches
  have hexist : ∀ u ∈ w.db.owners (trim form.email), w.db.hasUser u.id = true :=
    fun u hu => Database.hasUser_of_mem_owners hu
  refine ⟨s.dispatches now expires w.draws.tokens (w.db.owners (trim form.email)),
    s.map_user_dispatches now expires _ _, fun d hd => s.fits_of_mem_dispatches now expires hd,
    ?_, ?_⟩
  · intro haccepted
    rw [length_dispatches] at haccepted ⊢
    have hrun := resetPassword_of_reaches (r := r) husers hreaches
      (World.sendResets_of_accepted hissue hexist haccepted)
    obtain ⟨⟨reply, hreply, hstatus, hbody⟩, hworld, hlog⟩ :=
      handle_of_asksReset hasks (congrArg Visit.conclude hrun) rfl rfl
    exact ⟨⟨reply, hreply, hstatus, hbody⟩, hworld, hlog⟩
  · intro k hk haccepted reason hrefused
    rw [length_dispatches] at hk
    have hrun := resetPassword_of_reaches (r := r) husers hreaches
      (World.sendResets_of_refused hissue hexist hk haccepted hrefused)
    obtain ⟨⟨reply, hreply, hstatus, hbody⟩, hworld, hlog⟩ :=
      handle_of_asksReset hasks (congrArg Visit.conclude hrun) rfl rfl
    exact ⟨⟨reply, hreply, hstatus, hbody⟩, hworld, hlog⟩

end Service

namespace Sample

/-- A user with a name and an address. -/
def owner (id username email : String) : User :=
  newUser id username email "" ⟨0⟩

/-- Two users whose addresses differ in case, with a mailer that accepts one mail. -/
def twoOwners : World where
  db := { users := [owner "u" "bob" "Bob@example.com", owner "ui" "rob" "bob@example.com"] }
  mailer := .limited 1 "full"

/-- A user whose address has a zero byte. -/
def zeroOwner : World where
  db := { users := [owner "u" "alice" "a@\x00x[::1]"] }

/-- An address is submitted for which the password is forgotten. -/
def forgotten (email : String) : Request :=
  post "/api/auth/password_reset" ("email=" ++ email) ""

/-- The address of both users is submitted, in another case. -/
def bobForgot : Request := forgotten "BOB%40example.com"

end Sample

namespace Service

open Sample

/-- The second mail is refused: both users are issued tokens, and only the first one gets a mail. -/
theorem dispatched_to_first_owner :
    (service.handle ⟨0⟩ bobForgot twoOwners).Answers 500 (.obj [("error", .str "Mail error")]) ∧
      (service.handle ⟨0⟩ bobForgot twoOwners).world.db.tokens.map (·.userId) = ["u", "ui"] ∧
      (service.handle ⟨0⟩ bobForgot twoOwners).world.mailer.outbox.map (·.recipient)
        = ["Bob@example.com"] := by
  have hasks : service.AsksReset bobForgot ⟨"BOB@example.com"⟩ :=
    ⟨by decide +kernel, rfl, by decide +kernel, eq_ok_of_toOption (by decide +kernel)⟩
  have hissue : twoOwners.CanIssue service ⟨0⟩ ⟨259200000000000⟩ :=
    ⟨rfl, eq_ok_of_toOption (by decide +kernel), by simp [twoOwners], token_injective⟩
  obtain ⟨-, hreach, -⟩ := dispatched_to_owners service ⟨0⟩ ⟨259200000000000⟩ bobForgot twoOwners
    ⟨"BOB@example.com"⟩ hasks rfl hissue
  obtain ⟨ds, hds, hfits, -, hrefused⟩ := hreach (by decide +kernel)
  have howners : twoOwners.db.owners (trim "BOB@example.com")
      = [owner "u" "bob" "Bob@example.com", owner "ui" "rob" "bob@example.com"] := by
    decide +kernel
  rw [howners] at hds
  obtain ⟨d₁, rest, rfl, hd₁, hrest⟩ := List.map_eq_cons_iff.mp hds
  obtain ⟨d₂, none, rfl, hd₂, hnone⟩ := List.map_eq_cons_iff.mp hrest
  obtain rfl := List.map_eq_nil_iff.mp hnone
  obtain ⟨hanswer, hworld, -⟩ := hrefused 1 (by simp) (by decide) "full" (by decide)
  have hfirst := hfits d₁ (by simp)
  have hsecond := hfits d₂ (by simp)
  refine ⟨hanswer, ?_, ?_⟩
  · rw [hworld]
    simp [World.afterMails, twoOwners, hfirst.owner, hsecond.owner, hd₁, hd₂, owner, newUser]
  · rw [hworld]
    simp [World.afterMails, Mailer.handed, twoOwners, Mailer.limited, hfirst.recipient, hd₁, owner,
      newUser]

/-- A mail goes to a user whose address is another one: the addresses differ behind a zero byte. -/
theorem dispatched_behind_zero_byte :
    (∀ u ∈ zeroOwner.db.users, foldCase u.email ≠ foldCase "a@\x00y[::1]") ∧
      (service.handle ⟨0⟩ (forgotten "a%40%00y%5B%3A%3A1%5D") zeroOwner).Succeeds ∧
      (service.handle ⟨0⟩ (forgotten "a%40%00y%5B%3A%3A1%5D") zeroOwner).world.mailer.outbox.map
        (·.recipient) = ["a@\x00x[::1]"] := by
  decide +kernel

end Service

end CookieAuth
