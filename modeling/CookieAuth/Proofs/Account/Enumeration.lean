import CookieAuth.Proofs.Json.Strings
import CookieAuth.Proofs.Service.Sample
import CookieAuth.Proofs.Service.Writes
import CookieAuth.Proofs.Text.Basic

/-!
# Failed logins do not tell accounts apart

Somebody who does not know the password of an account must not learn from the login route whether
the account exists or is active.  This file proves that a login with a wrong password has one and
the same answer in all worlds, whether its account is missing, active or inactive there.  The
message about an inactive account shows only to those who have the password.

## Main definitions

* `LoginForm.RejectedBy`: the password of a form is wrong for whoever has its name;
* `LoginForm.refusal`: why such a form is refused;
* `FormErrors.body`: the body that reports errors in a form.

## Main results

* `LoginForm.validate_of_rejectedBy`: a rejected form is refused for a reason that does not depend
  on the accounts;
* `FormErrors.message_of_body`: bodies with the same text report the same message;
* `Service.handle_logIn_of_invalid`: a login that is refused for a given reason is answered alike in
  all worlds, and leaves them as they are;
* `Service.inactive_of_answers`: what the message about an inactive account says about the account;
* `Service.wrong_passwords_alike`: both together.
-/

namespace CookieAuth

open Http Text Time

/-! ### Wrong passwords -/

namespace LoginForm

variable {kdf : Password.KeyDerivation} {db : Database} {form : LoginForm} {errors : FormErrors}

/-- Whoever has the name in the form has a stored hash that can be read, and another password. -/
def RejectedBy (kdf : Password.KeyDerivation) (db : Database) (form : LoginForm) : Prop :=
  ∀ user ∈ db.users, user.username = trim form.username →
    Password.verifyPassword kdf form.password user.passwordHash = .ok false

/-- Why a form with a wrong password is refused.  This depends on the form, and on whether the users
can be looked up at all. -/
def refusal (form : LoginForm) (access : Except DbError Unit) : Failure :=
  if !form.blanks.isEmpty then .validation form.blanks
  else
    match access with
    | .error e => .database e
    | .ok () => .validation (.nonField invalidLogin)

/-- A name whose password is another one is as good as an unknown name. -/
theorem authenticate_of_rejectedBy (h : form.RejectedBy kdf db) :
    authenticate kdf db (trim form.username) form.password
      = match db.access .users with
        | .error e => .error (.database e)
        | .ok () => .ok none := by
  unfold authenticate Database.findByUsername Database.on
  cases db.access .users with
  | error e => rfl
  | ok _ =>
    cases hfound : db.users.find? (·.username = trim form.username) with
    | none => rfl
    | some user =>
      have hname : user.username = trim form.username := by simpa using List.find?_some hfound
      simp only [h user (List.mem_of_find?_eq_some hfound) hname]

/-- A form with a wrong password is refused for a reason that does not depend on the accounts. -/
theorem validate_of_rejectedBy (h : form.RejectedBy kdf db) :
    form.validate kdf db = .error (form.refusal (db.access .users)) := by
  unfold validate refusal
  rw [authenticate_of_rejectedBy h]
  split
  · rfl
  · cases db.access .users with
    | error e => rfl
    | ok _ => rfl

/-- A failure to look up a name and a password is not a fault of the form. -/
theorem of_authenticate_error {username password : String} {f : Failure}
    (h : authenticate kdf db username password = .error f) : f ≠ .validation errors := by
  unfold authenticate at h
  split at h
  · obtain rfl := Except.error.inj h
    simp
  · simp at h
  · split at h
    · obtain rfl := Except.error.inj h
      simp
    · simp at h
    · simp at h

/-- The errors of a form: a field is blank, nobody has the name and the password, or whoever has
them is inactive. -/
theorem of_validate_error (h : form.validate kdf db = .error (.validation errors)) :
    errors = form.blanks ∨ errors = .nonField invalidLogin ∨
      (errors = .nonField inactive ∧ ∃ user ∈ db.users, user.username = trim form.username ∧
        Password.verifyPassword kdf form.password user.passwordHash = .ok true ∧
        user.isActive = false) := by
  unfold validate at h
  split at h
  · exact .inl (Failure.validation.inj (Except.error.inj h)).symm
  · split at h
    · next hfailed => exact absurd (Except.error.inj h) (of_authenticate_error hfailed)
    · exact .inr (.inl (Failure.validation.inj (Except.error.inj h)).symm)
    · next user hfound =>
      split at h
      · simp at h
      · next hinactive =>
        obtain ⟨hmem, hname, hverify⟩ := of_authenticate_ok hfound
        refine .inr (.inr ⟨(Failure.validation.inj (Except.error.inj h)).symm, user, hmem, hname,
          hverify, ?_⟩)
        simpa using hinactive

end LoginForm

/-! ### Bodies that report errors -/

/-- The body that reports errors in a form. -/
def FormErrors.body (errors : FormErrors) : Json :=
  .obj [("errors", errors.toJson), ("result", .str "error")]

/-- Only errors in a form are answered with status 400. -/
theorem Failure.of_answer_badRequest {f : Failure} {reply : Reply} (h : f.answer = .ok reply)
    (hstatus : reply.status = 400) :
    ∃ errors, f = .validation errors ∧ reply.body = errors.body.render := by
  cases f with
  | validation errors =>
    obtain rfl := Except.ok.inj h
    exact ⟨errors, rfl, rfl⟩
  | crash cause => simp [answer] at h
  | _ =>
    obtain rfl := Except.ok.inj h
    simp [errorReply, Reply.ofJson] at hstatus

/-- The text of a body determines the message in it. -/
theorem FormErrors.message_of_body {message other : String}
    (h : (nonField message).body.render = (nonField other).body.render) : message = other := by
  have hchars := congrArg String.toList h
  simp only [body, nonField, empty, add, insert, toJson, List.map_cons, List.map_nil, Json.render,
    Json.renderFields, Json.renderItems] at hchars
  -- What stands around the two messages is the same.
  have htext : (Json.stringText message).toList = (Json.stringText other).toList := by
    simpa using hchars
  exact Json.stringText_inj (String.toList_inj.mp htext)

/-- A request without a form has one of the errors of the input. -/
theorem LoginForm.of_read_error {r : Request} {errors : FormErrors} (h : read r = .error errors) :
    ∃ e : Form.InputError, errors = .nonField e.message := by
  unfold read Form.read at h
  split at h
  · simp [Except.map] at h
  · next e _ => exact ⟨e, (Except.error.inj h).symm⟩

/-- The messages about the input all begin with the same letter. -/
theorem Form.InputError.head?_message (e : InputError) : e.message.toList.head? = some 'F' := by
  cases e with
  | wrongType => decide
  | tooLong => decide
  | repeated inBody field =>
    have hfailed : "Failed to deserialize form".toList.head? = some 'F' := by decide
    unfold message
    rw [String.toList_append, String.toList_append, String.toList_append, String.toList_append,
      List.head?_append, List.head?_append, List.head?_append, List.head?_append, hfailed]
    rfl

theorem Form.InputError.message_ne_inactive (e : InputError) : e.message ≠ LoginForm.inactive := by
  intro h
  have hhead := e.head?_message
  rw [h] at hhead
  exact absurd hhead (by decide)

/-- No blank field is reported as an inactive account. -/
theorem LoginForm.body_blanks_ne (form : LoginForm) :
    form.blanks.body.render ≠ (FormErrors.nonField inactive).body.render := by
  unfold blanks FormErrors.require
  -- Which fields are blank leaves four bodies to compare with.
  split <;> split <;> decide +kernel

/-! ### Requests -/

/-- A login that is refused for a given reason has the same response during all visits, and leaves
them as they are. -/
theorem respond_logIn_of_invalid {r : Request} {form : LoginForm} (m : Moment)
    (hroute : Route.ofPath? r.path = some .logIn) (hread : LoginForm.read r = .ok form)
    (f : Failure) :
    ∃ answer events, ∀ v : Visit, form.validate m.service.kdf v.world.db = .error f →
      respond m r v = (answer, v.note events) := by
  have hnote : ∀ v : Visit, v.note [] = v := by
    intro v
    simp [Visit.note]
  have hrun : ∀ v : Visit, form.validate m.service.kdf v.world.db = .error f →
      Route.logIn.run m r v = (.error f, v) := by
    intro v hinvalid
    simp only [Route.run, withForm, hread, Visit.logIn, hinvalid]
  -- What is checked before the action does not depend on the visit, so the answer can be chosen
  -- first.
  unfold respond
  simp only [hroute]
  by_cases hforged : (Route.logIn.isProtected &&
      !r.passesCsrf m.service.config.csrfProtection) = true
  · simp only [if_pos hforged]
    exact ⟨_, _, fun _ _ => rfl⟩
  · simp only [if_neg hforged, Route.answer]
    by_cases hmethod : (!Route.logIn.accepts r.method) = true
    · simp only [if_pos hmethod]
      exact ⟨_, [], fun v _ => by rw [hnote]⟩
    · simp only [if_neg hmethod]
      by_cases hnone : (Route.logIn.usesSession && m.service.lifetime.isNone) = true
      · simp only [if_pos hnone]
        exact ⟨_, [], fun v _ => by rw [hnote]⟩
      · simp only [if_neg hnone]
        exact ⟨_, _, fun v hinvalid => by rw [hrun v hinvalid]; rfl⟩

/-- A response with status 400 comes from an action that failed. -/
theorem of_respond_badRequest {m : Moment} {r : Request} {v : Visit} {reply : Reply}
    (h : (respond m r v).1 = .ok reply) (hstatus : reply.status = 400) :
    ∃ route f, Route.ofPath? r.path = some route ∧ route.accepts r.method = true ∧
      (route.run m r v).1 = .error f ∧ f.answer = .ok reply := by
  unfold respond at h
  split at h
  · obtain rfl := Except.ok.inj h
    simp at hstatus
  · next route hroute =>
    split at h
    · obtain rfl := Except.ok.inj h
      split at hstatus <;> simp [Failure.errorReply, Reply.ofJson] at hstatus
    · unfold Route.answer at h
      split at h
      · obtain rfl := Except.ok.inj h
        simp at hstatus
      · next haccepts =>
        split at h
        · obtain rfl := Except.ok.inj h
          simp [noSession, Reply.ofText] at hstatus
        · cases hrun : route.run m r v with
          | mk outcome v' =>
            rw [hrun] at h
            cases outcome with
            | ok body =>
              obtain rfl := Except.ok.inj h
              simp [Reply.ofJson] at hstatus
            | error f => exact ⟨route, f, hroute, by simpa using haccepts, by rw [hrun], h⟩

/-- A login that fails because of its form has no form, or one that is not valid. -/
theorem Visit.of_logIn_invalid {m : Moment} {r : Request} {v : Visit} {errors : FormErrors}
    (hunread : v.session.loaded = none)
    (h : (Route.logIn.run m r v).1 = .error (.validation errors)) :
    LoginForm.read r = .error errors ∨ ∃ form, LoginForm.read r = .ok form ∧
      form.validate m.service.kdf v.world.db = .error (.validation errors) := by
  change (withForm (LoginForm.read r) (Visit.logIn m) v).1 = _ at h
  unfold withForm at h
  split at h
  · next hread =>
    obtain rfl := Failure.validation.inj (Except.error.inj h)
    exact .inl hread
  · next form hread =>
    refine .inr ⟨form, hread, ?_⟩
    unfold Visit.logIn at h
    split at h
    · next hinvalid =>
      obtain rfl := Except.error.inj h
      exact hinvalid
    · split at h
      · next hbind =>
        -- Binding the session fails for other reasons.
        obtain rfl := Except.error.inj h
        rcases bindUser_cases hunread hbind with ⟨e, l, herror, -⟩ | ⟨l, events, hok, -⟩
        · simp at herror
        · simp at hok
      · simp at h

namespace Service

variable {s : Service} {now : Instant} {r : Request} {w : World}

/-- A request that leaves its session as it is ends in the same way in all worlds. -/
theorem settle_of_unmodified (s : Service) (now : Instant) (r : Request) (answer : Answer)
    (session : Session) (events : List Event) (hclean : session.modified = false) :
    ∃ final, ∀ w, s.settle now r answer ⟨w, session, events⟩
      = { answer := final, world := w, log := events } := by
  unfold settle
  cases s.lifetime with
  | none => exact ⟨answer, fun _ => rfl⟩
  | some lifetime =>
    cases answer with
    | error e => exact ⟨.error e, fun _ => rfl⟩
    | ok reply =>
      unfold Visit.finish
      by_cases hempty : session.isEmpty = true
      · simp only [if_pos hempty]
        exact ⟨_, fun _ => rfl⟩
      · have hunsaved : ¬ (session.modified && reply.status < 500) = true := by simp [hclean]
        simp only [if_neg hempty, if_neg hunsaved]
        exact ⟨_, fun _ => rfl⟩

/-- A login that is refused for a given reason has the same answer and the same log in all worlds,
and leaves them as they are. -/
theorem handle_logIn_of_invalid {form : LoginForm} (s : Service) (now : Instant)
    (hroute : Route.ofPath? r.path = some .logIn) (hread : LoginForm.read r = .ok form)
    (f : Failure) :
    ∃ answer events, ∀ w : World, form.validate s.kdf w.db = .error f →
      s.handle now r w = { answer, world := w, log := events } := by
  obtain ⟨answer, events, hrespond⟩ := respond_logIn_of_invalid (s.moment now) hroute hread f
  obtain ⟨final, hsettle⟩ := s.settle_of_unmodified now r (cut r answer)
    { id := if s.lifetime.isSome then r.sessionId? else none } events rfl
  refine ⟨final, events, fun w hinvalid => ?_⟩
  rw [handle_eq_settle, hrespond (s.visit r w) hinvalid]
  exact hsettle w

/-- The message about an inactive account is given only to somebody who has the password of an
account that is inactive. -/
theorem inactive_of_answers (hroute : Route.ofPath? r.path = some .logIn)
    (h : (s.handle now r w).Answers 400 (FormErrors.nonField LoginForm.inactive).body) :
    ∃ form user, LoginForm.read r = .ok form ∧ user ∈ w.db.users ∧
      user.username = trim form.username ∧
      Password.verifyPassword s.kdf form.password user.passwordHash = .ok true ∧
      user.isActive = false := by
  obtain ⟨reply, hreply, hstatus, hbody⟩ := h
  rw [handle_eq_settle] at hreply
  obtain ⟨short, hcut, hkept, hshort⟩ := of_reply_settle hreply (by rw [hstatus]; decide)
  obtain ⟨full, hfull, hsame, -⟩ := cut_of_ok hcut
  have hbad : full.status = 400 := by rw [← hsame, ← hkept, hstatus]
  obtain ⟨route, f, hroute', haccepts, hfailed, hanswer⟩ := of_respond_badRequest hfull hbad
  obtain rfl := Option.some.inj (hroute'.symm.trans hroute)
  obtain ⟨errors, rfl, herrors⟩ := Failure.of_answer_badRequest hanswer hbad
  -- The route takes no request for headers only, so the body is the one of the failure.
  have hmethod : r.method ≠ "HEAD" := by
    intro hhead
    simp [Route.accepts, Route.isRetrieval, hhead] at haccepts
  rw [cut_of_ne hmethod, hfull] at hcut
  obtain rfl := Except.ok.inj hcut
  have hshown : errors.body.render = (FormErrors.nonField LoginForm.inactive).body.render := by
    rw [← herrors, ← hshort, hbody]
  -- Of all errors that a login reports, one has the message about an inactive account.
  obtain hunread | ⟨form, hread, hinvalid⟩ := Visit.of_logIn_invalid rfl hfailed
  · obtain ⟨e, rfl⟩ := LoginForm.of_read_error hunread
    exact absurd (FormErrors.message_of_body hshown) e.message_ne_inactive
  · rcases LoginForm.of_validate_error hinvalid with
      rfl | rfl | ⟨-, user, hmem, hname, hverify, hoff⟩
    · exact absurd hshown (LoginForm.body_blanks_ne form)
    · exact absurd (FormErrors.message_of_body hshown) (by decide)
    · exact ⟨form, user, hread, hmem, hname, hverify, hoff⟩

/-- Logins with a wrong password are answered alike, with the same events in the log, in all worlds
in which the users can be looked up alike: it does not matter who else has an account, and whether
the account with the given name is missing, active or inactive.  They change nothing.  The message
about an inactive account is given only to somebody who has its password. -/
theorem wrong_passwords_alike (s : Service) (now : Instant) (r : Request)
    (hroute : Route.ofPath? r.path = some .logIn) :
    (∀ form, LoginForm.read r = .ok form → ∀ w₁ w₂ : World,
      w₁.db.access .users = w₂.db.access .users →
      form.RejectedBy s.kdf w₁.db → form.RejectedBy s.kdf w₂.db →
      (s.handle now r w₁).answer = (s.handle now r w₂).answer ∧
      (s.handle now r w₁).log = (s.handle now r w₂).log ∧
      (s.handle now r w₁).world = w₁ ∧ (s.handle now r w₂).world = w₂) ∧
    ∀ w, (s.handle now r w).Answers 400 (FormErrors.nonField LoginForm.inactive).body →
      ∃ form user, LoginForm.read r = .ok form ∧ user ∈ w.db.users ∧
        user.username = trim form.username ∧
        Password.verifyPassword s.kdf form.password user.passwordHash = .ok true ∧
        user.isActive = false := by
  refine ⟨?_, fun w => inactive_of_answers hroute⟩
  intro form hread w₁ w₂ haccess hwrong₁ hwrong₂
  have hrefused₁ := LoginForm.validate_of_rejectedBy hwrong₁
  have hrefused₂ := LoginForm.validate_of_rejectedBy hwrong₂
  rw [← haccess] at hrefused₂
  obtain ⟨answer, events, hhandle⟩ := s.handle_logIn_of_invalid now hroute hread
    (form.refusal (w₁.db.access .users))
  rw [hhandle w₁ hrefused₁, hhandle w₂ hrefused₂]
  exact ⟨rfl, rfl, rfl, rfl⟩

end Service

namespace Sample

/-- A world with Alice's account, which is active or not. -/
def aliceAs (active : Bool) : World where
  db := { users := [{ newUser "a" "alice" "alice@example.com" (hash "alices-word") ⟨0⟩ with
    isActive := active }] }

/-- Somebody logs in as Alice. -/
def asAlice (password : String) : Request :=
  post "/api/auth/login" ("username=+alice&password=" ++ password) oldId.text

end Sample

namespace Service

open Sample

/-- A guess at Alice's password is answered as if there were no account, whether it is active or not,
while the right password shows that it is inactive. -/
theorem guesses_alike :
    (service.handle ⟨0⟩ (asAlice "guess") (aliceAs true)).answer
        = (service.handle ⟨0⟩ (asAlice "guess") {}).answer ∧
      (service.handle ⟨0⟩ (asAlice "guess") (aliceAs false)).answer
        = (service.handle ⟨0⟩ (asAlice "guess") {}).answer ∧
      (service.handle ⟨0⟩ (asAlice "alices-word") (aliceAs false)).Answers 400
        (FormErrors.nonField LoginForm.inactive).body ∧
      ∃ form user, LoginForm.read (asAlice "alices-word") = .ok form ∧
        user ∈ (aliceAs false).db.users ∧
        Password.verifyPassword Sample.kdf form.password user.passwordHash = .ok true := by
  have hread : LoginForm.read (asAlice "guess") = .ok ⟨" alice", "guess"⟩ :=
    eq_ok_of_toOption (by decide +kernel)
  have hwrong : ∀ active,
      LoginForm.RejectedBy Sample.kdf (aliceAs active).db ⟨" alice", "guess"⟩ := by
    intro active user hmem _
    obtain rfl := List.mem_singleton.mp hmem
    change Password.verifyPassword Sample.kdf "guess" (hash "alices-word") = .ok false
    exact eq_ok_of_toOption (by decide +kernel)
  have hunknown : LoginForm.RejectedBy Sample.kdf ({} : World).db ⟨" alice", "guess"⟩ := by
    intro user hmem
    simp at hmem
  obtain ⟨halike, -⟩ := wrong_passwords_alike service ⟨0⟩ (asAlice "guess") (by decide +kernel)
  obtain ⟨-, hshown⟩ :=
    wrong_passwords_alike service ⟨0⟩ (asAlice "alices-word") (by decide +kernel)
  have hinactive : (service.handle ⟨0⟩ (asAlice "alices-word") (aliceAs false)).Answers 400
      (FormErrors.nonField LoginForm.inactive).body :=
    ⟨.ofJson 400 (FormErrors.nonField LoginForm.inactive).body,
      eq_ok_of_toOption (by decide +kernel), rfl, rfl⟩
  obtain ⟨form, user, hform, hmem, -, hverify, -⟩ := hshown _ hinactive
  obtain ⟨hactive, -⟩ := halike _ hread (aliceAs true) {} rfl (hwrong true) hunknown
  obtain ⟨hpassive, -⟩ := halike _ hread (aliceAs false) {} rfl (hwrong false) hunknown
  exact ⟨hactive, hpassive, hinactive, form, user, hform, hmem, hverify⟩

end Service

end CookieAuth
