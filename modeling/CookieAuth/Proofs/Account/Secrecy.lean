import CookieAuth.Proofs.Account.TokenLifetime
import CookieAuth.Proofs.Service.Redaction

/-!
# The secrets of tokens stay hidden

Whoever knows the secret of a token can choose a new password, so only the mail to the owner may
have it.  This file compares two runs of the same deeds that draw different secrets.  Clients and
operators see the same in both: the same answers, the same results of statements and the same log,
up to details.  The worlds differ in the secrets of tokens and the texts of mails only.

An event about a failure does not spell out all causes, so the failures themselves are compared as
well.  Their full texts are then the same.

Secrets matter in one place, since the database refuses one that it has already.  Where no secret is
drawn twice this never happens, in neither run.

## Main definitions

* `World.AllSpent`: no secret in the database is going to be drawn;
* `World.Twins`: worlds that differ in secrets only, in two runs that draw every secret once;
* `Service.failure?`: the failure that a request ends in;
* `Shown`, `Service.shows`: what a deed shows to whoever does it;
* `Service.observations`: what the deeds of a run show.

## Main results

* `World.sendResets_alike`: issuing and sending tokens does the same with other secrets;
* `Service.log_of_failure?`: the failure that a request ends in is what the log says last;
* `Service.perform_alike`: every act shows the same with other secrets, and leaves worlds that
  differ in secrets only;
* `Service.secrets_unobservable`: the same for runs.
-/

namespace CookieAuth

open Http Text Time Mail

/-! ### Tokens -/

/-- A token with a new secret is added in the same way, whatever the secret is. -/
theorem Database.insertToken_alike {db₁ db₂ : Database} (h : db₁.redact = db₂.redact)
    {token₁ token₂ : ResetToken} (htoken : token₁.redact = token₂.redact)
    (hnew₁ : ∀ t ∈ db₁.tokens, t.token ≠ token₁.token)
    (hnew₂ : ∀ t ∈ db₂.tokens, t.token ≠ token₂.token) :
    (db₁.insertToken token₁).map redact = (db₂.insertToken token₂).map redact := by
  have haccess : db₁.access .resetTokens = db₂.access .resetTokens := by
    have hredact := congrArg (fun db => db.access .resetTokens) h
    exact hredact
  have howner : db₁.hasUser token₁.userId = db₂.hasUser token₂.userId := by
    have hredact := congrArg₂ (fun db token => db.hasUser token.userId) h htoken
    exact hredact
  have hfresh₁ : db₁.tokens.any (·.token = token₁.token) = false := by simpa using hnew₁
  have hfresh₂ : db₂.tokens.any (·.token = token₂.token) = false := by simpa using hnew₂
  have hadded : redact { db₁ with tokens := db₁.tokens ++ [token₁] }
      = redact { db₂ with tokens := db₂.tokens ++ [token₂] } := by
    have htokens : db₁.tokens.map ResetToken.redact = db₂.tokens.map ResetToken.redact :=
      congrArg tokens h
    change { db₁.redact with tokens := (db₁.tokens ++ [token₁]).map ResetToken.redact }
      = { db₂.redact with tokens := (db₂.tokens ++ [token₂]).map ResetToken.redact }
    rw [h, List.map_append, List.map_append, htokens, List.map_singleton, List.map_singleton,
      htoken]
  -- The check of the secret is the only one that could tell the two databases apart.
  unfold insertToken on
  rw [haccess, hfresh₁, hfresh₂, howner]
  cases db₂.access .resetTokens with
  | error e => rfl
  | ok _ =>
    dsimp only
    rw [if_neg Bool.false_ne_true, if_neg Bool.false_ne_true]
    by_cases hknown : db₂.hasUser token₂.userId = true
    · rw [if_pos hknown, if_pos hknown]
      exact congrArg Except.ok hadded
    · rw [if_neg hknown, if_neg hknown]

/-- A mail is handed over in the same way, whatever its text is. -/
theorem Mail.Mailer.send_alike {mailer₁ mailer₂ : Mailer} (h : mailer₁.redact = mailer₂.redact)
    {a₁ a₂ : Message} (hmail : a₁.redact = a₂.redact) :
    (mailer₁.send a₁).1 = (mailer₂.send a₂).1 ∧
      (mailer₁.send a₁).2.1.redact = (mailer₂.send a₂).2.1.redact ∧
      shown (mailer₁.send a₁).2.2 = shown (mailer₂.send a₂).2.2 := by
  have htransport : mailer₁.transport = mailer₂.transport := by
    have hredact := congrArg transport h
    exact hredact
  have hattempts : mailer₁.attempts = mailer₂.attempts := by
    have hredact := congrArg attempts h
    exact hredact
  have houtbox : mailer₁.outbox.map Message.redact = mailer₂.outbox.map Message.redact :=
    congrArg outbox h
  have hkept : (mailer₁.outbox ++ [a₁]).map Message.redact
      = (mailer₂.outbox ++ [a₂]).map Message.redact := by
    rw [List.map_append, List.map_append, houtbox, List.map_singleton, List.map_singleton, hmail]
  -- The text of a mail shows in the details only.
  have hevents : shown (events a₁) = shown (events a₂) := by
    have hredact := congrArg (fun a => shown (events a)) hmail
    exact hredact
  unfold send
  rw [htransport, hattempts]
  cases mailer₂.transport with
  | log => exact ⟨rfl, congrArg (Mailer.mk _ _) houtbox, hevents⟩
  | memory refusal =>
    dsimp only
    cases refusal mailer₂.attempts with
    | none => exact ⟨rfl, congrArg (Mailer.mk _ _) hkept, rfl⟩
    | some reason => exact ⟨rfl, congrArg (Mailer.mk _ _) houtbox, rfl⟩

namespace World

variable {s : Service} {now : Instant} {w w' w₁ w₂ : World} {secret₁ secret₂ : Nat → String}

/-- No secret in the database is going to be drawn. -/
def AllSpent (s : Service) (w : World) : Prop :=
  ∀ token ∈ w.db.tokens, w.Spends s token

/-- Secrets that are issued are spent. -/
theorem Issued.allSpent (honce : ∀ m n, s.supply.token m = s.supply.token n → m = n)
    (h : Issued s w w') (hspent : w.AllSpent s) : w'.AllSpent s := by
  obtain ⟨issued, htokens, hsecrets⟩ := h.tokens
  intro token htoken
  rw [htokens] at htoken
  rcases List.mem_append.mp htoken with hold | hnew
  · exact (hspent token hold).mono h.draws
  · obtain ⟨k, -, hlt, hsecret⟩ := hsecrets token hnew
    -- A later draw of the same secret would be the same draw, but this one is over.
    intro n hn hsame
    have hsameNumber := honce n k (hsame.trans hsecret)
    omega

/-- Worlds that differ in secrets only, from which two services go on that draw every secret
once. -/
structure Twins (s : Service) (secret₁ secret₂ : Nat → String) (w₁ w₂ : World) : Prop where
  /-- The worlds differ in secrets only. -/
  redact : w₁.redact = w₂.redact
  /-- The first service draws no secret twice. -/
  once₁ : ∀ m n, secret₁ m = secret₁ n → m = n
  /-- The second service draws no secret twice. -/
  once₂ : ∀ m n, secret₂ m = secret₂ n → m = n
  /-- The first service has drawn the secrets of its tokens. -/
  spent₁ : w₁.AllSpent (s.withSecrets secret₁)
  /-- The second service has drawn the secrets of its tokens. -/
  spent₂ : w₂.AllSpent (s.withSecrets secret₂)

/-- Worlds in which tokens were issued are twins if they differ in secrets only. -/
theorem Twins.issued {w₁' w₂' : World} (h : Twins s secret₁ secret₂ w₁ w₂)
    (h₁ : Issued (s.withSecrets secret₁) w₁ w₁') (h₂ : Issued (s.withSecrets secret₂) w₂ w₂')
    (hredact : w₁'.redact = w₂'.redact) : Twins s secret₁ secret₂ w₁' w₂' where
  redact := hredact
  once₁ := h.once₁
  once₂ := h.once₂
  spent₁ := h₁.allSpent h.once₁ h.spent₁
  spent₂ := h₂.allSpent h.once₂ h.spent₂

/-- Issuing a token does the same with another secret. -/
theorem issueToken_alike (h : Twins s secret₁ secret₂ w₁ w₂) (now : Instant) (userId : String)
    (minutes : Int) :
    (w₁.issueToken (s.withSecrets secret₁) now userId minutes).map (·.2.redact)
      = (w₂.issueToken (s.withSecrets secret₂) now userId minutes).map (·.2.redact) := by
  unfold issueToken ResetToken.issue
  cases now.addMinutes minutes with
  | error e => rfl
  | ok expires =>
    have hinsert : (w₁.db.insertToken ⟨userId, secret₁ w₁.draws.tokens, now, expires⟩).map
          Database.redact
        = (w₂.db.insertToken ⟨userId, secret₂ w₂.draws.tokens, now, expires⟩).map
          Database.redact := by
      refine Database.insertToken_alike (db_of_redact h.redact) ?_ ?_ ?_
      · rfl
      · intro t ht
        exact (h.spent₁ t ht _ (Nat.le_refl _)).symm
      · intro t ht
        exact (h.spent₂ t ht _ (Nat.le_refl _)).symm
    dsimp only [Except.map, Service.withSecrets]
    rcases of_map_eq_map hinsert with ⟨e, h₁, h₂⟩ | ⟨db₁, db₂, h₁, h₂, hdb⟩
    · rw [h₁, h₂]
    · rw [h₁, h₂]
      dsimp only
      rw [draws_of_redact h.redact, redact_congr_draws (redact_congr_db h.redact hdb)]

/-- Sending mails has the same result, and leaves worlds and events that differ in secrets only. -/
def SentAlike (sent₁ sent₂ : Except Failure Unit × World × List Event) : Prop :=
  sent₁.1 = sent₂.1 ∧ sent₁.2.1.redact = sent₂.2.1.redact ∧ shown sent₁.2.2 = shown sent₂.2.2

/-- Issuing and sending a token does the same with another secret. -/
theorem sendReset_alike (h : Twins s secret₁ secret₂ w₁ w₂) (now : Instant) (user : User) :
    SentAlike
      (w₁.sendReset (s.withSecrets secret₁) now (.standard s.config.siteName s.config.siteDomain)
        user)
      (w₂.sendReset (s.withSecrets secret₂) now (.standard s.config.siteName s.config.siteDomain)
        user) := by
  have hissue := issueToken_alike h now user.id s.config.passwordResetTimeoutMinutes.toInt
  unfold sendReset
  rw [Service.config_withSecrets, Service.config_withSecrets]
  rcases of_map_eq_map hissue with
    ⟨f, h₁, h₂⟩ | ⟨⟨token₁, w₁'⟩, ⟨token₂, w₂'⟩, h₁, h₂, hissued⟩
  · rw [h₁, h₂]
    exact ⟨rfl, h.redact, rfl⟩
  · rw [h₁, h₂]
    dsimp only
    rw [ResetMail.message_standard, ResetMail.message_standard]
    dsimp only
    -- The two mails differ in the link, which is part of the text.
    have hmail : (s.config.resetMail user token₁.token).redact
        = (s.config.resetMail user token₂.token).redact := by
      simp only [Config.resetMail, Message.redact]
    have hmailer : w₁'.mailer.redact = w₂'.mailer.redact := congrArg World.mailer hissued
    obtain ⟨hresult, hafter, hshown⟩ := Mailer.send_alike hmailer hmail
    cases hsend₁ : w₁'.mailer.send (s.config.resetMail user token₁.token) with
    | mk result₁ rest₁ =>
      cases hsend₂ : w₂'.mailer.send (s.config.resetMail user token₂.token) with
      | mk result₂ rest₂ =>
        rw [hsend₁, hsend₂] at hresult hafter hshown
        obtain rfl : result₁ = result₂ := hresult
        have hworld : redact { w₁' with mailer := rest₁.1 }
            = redact { w₂' with mailer := rest₂.1 } := by
          change { w₁'.redact with mailer := rest₁.1.redact }
            = { w₂'.redact with mailer := rest₂.1.redact }
          rw [hissued, show rest₁.1.redact = rest₂.1.redact from hafter]
        cases result₁ with
        | error e => exact ⟨rfl, hworld, hshown⟩
        | ok _ =>
          refine ⟨rfl, hworld, ?_⟩
          change shown (rest₁.2 ++ [dispatchedEvent user])
            = shown (rest₂.2 ++ [dispatchedEvent user])
          rw [shown_append, shown_append, show shown rest₁.2 = shown rest₂.2 from hshown]

/-- Issuing and sending tokens does the same with other secrets. -/
theorem sendResets_alike (h : Twins s secret₁ secret₂ w₁ w₂) (now : Instant) (users : List User) :
    SentAlike
      (w₁.sendResets (s.withSecrets secret₁) now (.standard s.config.siteName s.config.siteDomain)
        users)
      (w₂.sendResets (s.withSecrets secret₂) now (.standard s.config.siteName s.config.siteDomain)
        users) := by
  induction users generalizing w₁ w₂ with
  | nil => exact ⟨rfl, h.redact, rfl⟩
  | cons user rest ih =>
    obtain ⟨hresult, hworld, hshown⟩ := sendReset_alike h now user
    -- The other mails start from what the first one leaves.
    obtain ⟨hresults, hworlds, hshowns⟩ :=
      ih (h.issued (issued_sendReset _ _ _ _ _) (issued_sendReset _ _ _ _ _) hworld)
    unfold sendResets
    cases hsend₁ : w₁.sendReset (s.withSecrets secret₁) now
        (.standard s.config.siteName s.config.siteDomain) user with
    | mk result₁ rest₁ =>
      cases hsend₂ : w₂.sendReset (s.withSecrets secret₂) now
          (.standard s.config.siteName s.config.siteDomain) user with
      | mk result₂ rest₂ =>
        rw [hsend₁, hsend₂] at hresult hworld hshown hresults hworlds hshowns
        obtain rfl : result₁ = result₂ := hresult
        cases result₁ with
        | error e => exact ⟨rfl, hworld, hshown⟩
        | ok _ =>
          refine ⟨hresults, hworlds, ?_⟩
          change shown (rest₁.2 ++ _) = shown (rest₂.2 ++ _)
          rw [shown_append, shown_append, show shown rest₁.2 = shown rest₂.2 from hshown, hshowns]

end World

/-! ### Deeds -/

/-- The action on a forgotten password keeps visits alike. -/
theorem Visit.resetPassword_alike {m : Moment} {v₁ v₂ : Visit} {secret₁ secret₂ : Nat → String}
    (h : v₁.Alike v₂) (htwins : World.Twins m.service secret₁ secret₂ v₁.world v₂.world)
    (form : ResetForm) :
    AlikeAfter (v₁.resetPassword (m.withSecrets secret₁) form)
      (v₂.resetPassword (m.withSecrets secret₂) form) := by
  have hvalidate : form.validate v₁.world.db = form.validate v₂.world.db := by
    rw [← ResetForm.validate_redact, World.db_of_redact h.world, ResetForm.validate_redact]
  unfold resetPassword
  rw [hvalidate]
  cases form.validate v₂.world.db with
  | error e => exact ⟨rfl, h⟩
  | ok request =>
    obtain ⟨hresult, hworld, hshown⟩ := World.sendResets_alike htwins m.now request.users
    dsimp only
    rw [Moment.service_withSecrets, Moment.service_withSecrets, Service.config_withSecrets,
      Service.config_withSecrets, Moment.now_withSecrets, Moment.now_withSecrets]
    cases hsend₁ : v₁.world.sendResets (m.service.withSecrets secret₁) m.now
        (.standard m.service.config.siteName m.service.config.siteDomain) request.users with
    | mk result₁ rest₁ =>
      cases hsend₂ : v₂.world.sendResets (m.service.withSecrets secret₂) m.now
          (.standard m.service.config.siteName m.service.config.siteDomain) request.users with
      | mk result₂ rest₂ =>
        rw [hsend₁, hsend₂] at hresult hworld hshown
        obtain rfl : result₁ = result₂ := hresult
        cases result₁ <;> exact ⟨rfl, (h.withWorld hworld).note hshown⟩

/-- What an act shows to whoever does it. -/
inductive Shown where
  /-- A request is answered, perhaps because of a failure, and its events are written to the log. -/
  | reply (answer : Answer) (failure : Option Failure) (log : List Event)
  /-- A user is made, or not. -/
  | made (result : Except DbError User)
  /-- A user is deleted, or not. -/
  | deleted (result : Except DbError Unit)
  /-- Some expired tokens are deleted, or none are. -/
  | cleaned (result : Except DbError Nat)

namespace Service

/-- Whether a request gets to the action of its route. -/
def admits (s : Service) (r : Request) (route : Route) : Bool :=
  !(route.isProtected && !r.passesCsrf s.config.csrfProtection) && route.accepts r.method
    && !(route.usesSession && s.lifetime.isNone)

/-- The failure of the action of a request, if the request gets to it and it fails. -/
def failure? (s : Service) (now : Instant) (r : Request) (w : World) : Option Failure :=
  (Route.ofPath? r.path).bind fun route =>
    if s.admits r route then
      match (route.run (s.moment now) r (s.visit r w)).1 with
      | .ok _ => none
      | .error f => some f
    else none

/-- What an act shows to whoever does it, without mere details in the log. -/
def shows (s : Service) (now : Instant) (w : World) : Act → Shown
  | .request r =>
    .reply (s.handle now r w).answer (s.failure? now r w) (shown (s.handle now r w).log)
  | .createUser username email passwordHash =>
    .made ((w.createUser s now username email passwordHash).map Prod.fst)
  | .deleteUser id => .deleted ((w.db.deleteUser id).map fun _ => ())
  | .cleanUp => .cleaned ((w.db.deleteExpired now).map Prod.fst)

/-- What the deeds of a run show, one after the other. -/
def observations (s : Service) : World → List Deed → List Shown
  | _, [] => []
  | w, d :: rest => s.shows d.now w d.act :: s.observations (s.perform d.now w d.act) rest

variable {s : Service} {now : Instant} {w w₁ w₂ : World} {secret₁ secret₂ : Nat → String}

/-- No act brings a secret back that is going to be drawn. -/
theorem allSpent_perform (honce : ∀ m n, s.supply.token m = s.supply.token n → m = n)
    (hspent : w.AllSpent s) (now : Instant) (act : Act) : (s.perform now w act).AllSpent s := by
  -- Only requests draw secrets; all other acts keep or remove tokens.
  cases act with
  | request r => exact (s.issued_handle now r w).allSpent honce hspent
  | createUser username email passwordHash =>
    simp only [perform]
    split
    · next hmade =>
      obtain ⟨-, -, -, rfl⟩ := World.of_createUser_ok hmade
      exact hspent
    · exact hspent
  | deleteUser id =>
    simp only [perform]
    split
    · next hdelete =>
      obtain rfl := Database.of_deleteUser_ok hdelete
      intro token htoken
      exact hspent token (List.mem_filter.mp htoken).1
    · exact hspent
  | cleanUp =>
    simp only [perform]
    split
    · next hdelete =>
      obtain rfl := Database.of_deleteExpired_ok hdelete
      intro token htoken
      exact hspent token (List.mem_filter.mp htoken).1
    · exact hspent

theorem respond_of_admits {r : Request} {route : Route} (hroute : Route.ofPath? r.path = some route)
    (hadmits : s.admits r route = true) (now : Instant) (v : Visit) :
    respond (s.moment now) r v = Visit.conclude (route.run (s.moment now) r v) := by
  simp only [admits, Bool.and_eq_true, Bool.not_eq_true'] at hadmits
  obtain ⟨⟨hgenuine, haccepts⟩, hsession⟩ := hadmits
  refine respond_of_accepted hroute haccepts (fun hprotected => ?_) (fun huses => ?_) v
  · simpa [moment, hprotected] using hgenuine
  · simpa [moment, huses, Option.isSome_iff_ne_none] using hsession

/-- The failure that a request ends in is what the log says last. -/
theorem log_of_failure? {r : Request} {f : Failure} (h : s.failure? now r w = some f) :
    ∃ before, (s.handle now r w).log = before ++ f.events := by
  obtain ⟨route, hroute, hfailure⟩ := Option.bind_eq_some_iff.mp h
  split at hfailure
  · next hadmits =>
    rw [handle_eq_settle, log_settle, respond_of_admits hroute hadmits]
    cases hrun : route.run (s.moment now) r (s.visit r w) with
    | mk outcome v =>
      rw [hrun] at hfailure
      cases outcome with
      | ok body => exact nomatch hfailure
      | error e =>
        obtain rfl := Option.some.inj hfailure
        exact ⟨v.log, rfl⟩
  · exact nomatch hfailure

/-- The action of every route keeps visits alike. -/
theorem action_alike (h : World.Twins s secret₁ secret₂ w₁ w₂) (now : Instant) (r : Request)
    (route : Route) :
    AlikeAfter (route.run ((s.moment now).withSecrets secret₁) r (s.visit r w₁))
      (route.run ((s.moment now).withSecrets secret₂) r (s.visit r w₂)) := by
  have hvisit : (s.visit r w₁).Alike (s.visit r w₂) := ⟨h.redact, rfl, rfl⟩
  by_cases hroute : route = .resetPassword
  · subst hroute
    exact withForm_alike hvisit fun form _ => Visit.resetPassword_alike hvisit h form
  · exact Route.run_alike secret₁ secret₂ hvisit hroute

/-- A request is answered alike with other secrets. -/
theorem request_alike (h : World.Twins s secret₁ secret₂ w₁ w₂) (now : Instant) (r : Request) :
    ((s.withSecrets secret₁).handle now r w₁).Alike ((s.withSecrets secret₂).handle now r w₂) :=
  handle_alike secret₁ secret₂ h.redact fun route _ => action_alike h now r route

/-- A request ends in the same failure with other secrets. -/
theorem failure?_alike (h : World.Twins s secret₁ secret₂ w₁ w₂) (now : Instant) (r : Request) :
    (s.withSecrets secret₁).failure? now r w₁ = (s.withSecrets secret₂).failure? now r w₂ := by
  have houtcome : ∀ route : Route,
      (route.run ((s.withSecrets secret₁).moment now) r ((s.withSecrets secret₁).visit r w₁)).1
        = (route.run ((s.withSecrets secret₂).moment now) r
          ((s.withSecrets secret₂).visit r w₂)).1 :=
    fun route => (action_alike h now r route).1
  have hadmits : (s.withSecrets secret₁).admits r = (s.withSecrets secret₂).admits r := rfl
  unfold failure?
  simp only [hadmits, houtcome]

/-- Every act shows the same with other secrets, and leaves worlds that differ in secrets only. -/
theorem perform_alike (h : World.Twins s secret₁ secret₂ w₁ w₂) (now : Instant) (act : Act) :
    (s.withSecrets secret₁).shows now w₁ act = (s.withSecrets secret₂).shows now w₂ act ∧
      ((s.withSecrets secret₁).perform now w₁ act).redact
        = ((s.withSecrets secret₂).perform now w₂ act).redact := by
  have hredact := h.redact
  cases act with
  | request r =>
    obtain ⟨hanswer, hworld, hlog⟩ := request_alike h now r
    refine ⟨?_, hworld⟩
    simp only [shows]
    rw [hanswer, failure?_alike h now r, hlog]
  | createUser username email passwordHash =>
    have hmade := World.createUser_alike s now secret₁ secret₂ hredact username email passwordHash
    simp only [shows, perform]
    rcases of_map_eq_map hmade with ⟨e, h₁, h₂⟩ | ⟨made₁, made₂, h₁, h₂, hsame⟩
    · rw [h₁, h₂]
      exact ⟨rfl, hredact⟩
    · obtain ⟨huser, hworld⟩ := Prod.mk.inj hsame
      rw [h₁, h₂]
      exact ⟨congrArg (fun user => Shown.made (.ok user)) huser, hworld⟩
  | deleteUser id =>
    have hdelete : (w₁.db.deleteUser id).map Database.redact
        = (w₂.db.deleteUser id).map Database.redact := by
      rw [← Database.deleteUser_redact, ← Database.deleteUser_redact, World.db_of_redact hredact]
    simp only [shows, perform]
    rcases of_map_eq_map hdelete with ⟨e, h₁, h₂⟩ | ⟨db₁, db₂, h₁, h₂, hsame⟩
    · rw [h₁, h₂]
      exact ⟨rfl, hredact⟩
    · rw [h₁, h₂]
      exact ⟨rfl, World.redact_congr_db hredact hsame⟩
  | cleanUp =>
    have hdelete : (w₁.db.deleteExpired now).map (Prod.map id Database.redact)
        = (w₂.db.deleteExpired now).map (Prod.map id Database.redact) := by
      rw [← Database.deleteExpired_redact, ← Database.deleteExpired_redact,
        World.db_of_redact hredact]
    simp only [shows, perform]
    rcases of_map_eq_map hdelete with ⟨e, h₁, h₂⟩ | ⟨cleaned₁, cleaned₂, h₁, h₂, hsame⟩
    · rw [h₁, h₂]
      exact ⟨rfl, hredact⟩
    · obtain ⟨hcount, hdb⟩ := Prod.mk.inj hsame
      rw [h₁, h₂]
      exact ⟨congrArg (fun n => Shown.cleaned (.ok n)) hcount, World.redact_congr_db hredact hdb⟩

/-- Twins stay twins. -/
theorem twins_perform (h : World.Twins s secret₁ secret₂ w₁ w₂) (now : Instant) (act : Act) :
    World.Twins s secret₁ secret₂ ((s.withSecrets secret₁).perform now w₁ act)
      ((s.withSecrets secret₂).perform now w₂ act) where
  redact := (perform_alike h now act).2
  once₁ := h.once₁
  once₂ := h.once₂
  spent₁ := allSpent_perform h.once₁ h.spent₁ now act
  spent₂ := allSpent_perform h.once₂ h.spent₂ now act

/-- Two runs of the same deeds from twins show the same, and end in worlds that differ in secrets
only. -/
theorem run_alike (h : World.Twins s secret₁ secret₂ w₁ w₂) (deeds : List Deed) :
    (s.withSecrets secret₁).observations w₁ deeds = (s.withSecrets secret₂).observations w₂ deeds ∧
      ((s.withSecrets secret₁).run w₁ deeds).world.redact
        = ((s.withSecrets secret₂).run w₂ deeds).world.redact := by
  -- Each deed starts from the twins that the deeds before it leave.
  rw [world_run, world_run]
  induction deeds generalizing w₁ w₂ with
  | nil => exact ⟨rfl, h.redact⟩
  | cons d rest ih =>
    obtain ⟨hshows, -⟩ := perform_alike h d.now d.act
    obtain ⟨hobservations, hend⟩ := ih (twins_perform h d.now d.act)
    refine ⟨?_, hend⟩
    rw [observations, observations, hshows, hobservations]

/-- Take any deeds, and let tokens have other secrets, which are drawn once each.  Nothing of that
shows in the answer to a request, in the failure that it ends in, in the log except for details, or
in the result of a statement; and the world at the end differs in the secrets of tokens and the
texts of mails only. -/
theorem secrets_unobservable (s : Service) (w : World) (deeds : List Deed)
    (secret₁ secret₂ : Nat → String) (honce₁ : ∀ m n, secret₁ m = secret₁ n → m = n)
    (honce₂ : ∀ m n, secret₂ m = secret₂ n → m = n)
    (hspent : ∀ token ∈ w.db.tokens, ∀ n, w.draws.tokens ≤ n →
      secret₁ n ≠ token.token ∧ secret₂ n ≠ token.token) :
    (s.withSecrets secret₁).observations w deeds = (s.withSecrets secret₂).observations w deeds ∧
      ((s.withSecrets secret₁).run w deeds).world.redact
        = ((s.withSecrets secret₂).run w deeds).world.redact := by
  have htwins : World.Twins s secret₁ secret₂ w w :=
    { redact := rfl
      once₁ := honce₁
      once₂ := honce₂
      spent₁ := fun token htoken n hn => (hspent token htoken n hn).1
      spent₂ := fun token htoken n hn => (hspent token htoken n hn).2 }
  exact run_alike htwins deeds

end Service

namespace Sample

/-- Other numbered secrets. -/
def otherSecret (n : Nat) : String :=
  String.ofList ('x' :: List.replicate n 'i')

theorem otherSecret_injective (m n : Nat) (h : otherSecret m = otherSecret n) : m = n := by
  have hlength := congrArg (fun text => text.toList.length) h
  simpa [otherSecret] using hlength

/-- Both owners of an address are sent tokens, and then there is a cleanup. -/
def bothForgot : List Deed :=
  [⟨⟨0⟩, .request bobForgot⟩, cleanUpAt 1]

end Sample

namespace Service

open Sample

/-- Two runs issue tokens with different secrets, and show the same. -/
theorem bothForgot_unobservable :
    (service.withSecrets Sample.supply.token).observations twoOwners bothForgot
        = (service.withSecrets otherSecret).observations twoOwners bothForgot ∧
      ((service.withSecrets Sample.supply.token).run twoOwners bothForgot).world.db.tokens.map
        (·.token) = ["t", "ti"] ∧
      ((service.withSecrets otherSecret).run twoOwners bothForgot).world.db.tokens.map
        (·.token) = ["x", "xi"] := by
  obtain ⟨hsame, -⟩ := secrets_unobservable service twoOwners bothForgot
    Sample.supply.token otherSecret token_injective otherSecret_injective (by simp [twoOwners])
  exact ⟨hsame, by decide +kernel, by decide +kernel⟩

end Service

end CookieAuth
