import CookieAuth.Proofs.Service.Sample
import CookieAuth.Proofs.Text.Basic

/-!
# Requests that may be forged

A page of another site can make a browser send a form together with its cookies, but it can neither
read a cookie nor set a header.  The three routes with forms therefore want the value of a cookie
repeated in a header.  This file proves that nothing else is asked for, and that whoever does not
repeat it achieves nothing.

## Main definitions

* `Http.Request.RepeatsToken`: the first cookie with the name of the token has a value, and a header
  repeats it;
* `Service.unprotected`: the service with the protection switched off.

## Main results

* `Http.Request.tokenMatches_iff`: the check of a request decides whether it repeats the token;
* `Service.handle_unprotected`: a request that may go on is handled as if there were no protection;
* `Service.gated_by_token`: a form is handled so, or refused without a trace.
-/

namespace CookieAuth

open Http Text Time

namespace Http

/-! ### Texts of visible characters -/

/-- A text that consists of visible characters, blanks and tabulators. -/
def Visible (text : String) : Prop :=
  ∀ c ∈ text.toList, ∃ b, isVisible b = true ∧ c = Char.ofNat b.toNat

/-- A visible character is written as one byte. -/
theorem utf8EncodeChar_of_visible {b : UInt8} (h : isVisible b = true) :
    String.utf8EncodeChar (Char.ofNat b.toNat) = [b] := by
  revert h
  apply forall_byte (P := fun b => isVisible b = true →
    String.utf8EncodeChar (Char.ofNat b.toNat) = [b])
  decide +kernel

/-- The bytes of a header that can be read are those of its text. -/
theorem of_visibleText? {value : List UInt8} {text : String} (h : visibleText? value = some text) :
    Visible text ∧ bytesOf text = value := by
  unfold visibleText? at h
  split at h
  · next hall =>
    obtain rfl := Option.some.inj h
    rw [List.all_eq_true] at hall
    refine ⟨?_, ?_⟩
    · intro c hc
      rw [String.toList_ofList, List.mem_map] at hc
      obtain ⟨b, hb, rfl⟩ := hc
      exact ⟨b, hall b hb, rfl⟩
    · unfold bytesOf
      rw [String.toList_ofList, List.flatMap_map]
      clear h
      induction value with
      | nil => rfl
      | cons b rest ih =>
        rw [List.flatMap_cons, utf8EncodeChar_of_visible (hall b List.mem_cons_self),
          ih fun b' hb' => hall b' (List.mem_cons_of_mem b hb')]
        rfl
  · simp at h

/-- The bytes of a text of visible characters can be read. -/
theorem visibleText?_bytesOf {text : String} (h : Visible text) :
    visibleText? (bytesOf text) = some text := by
  -- Character by character, the byte is visible and stands for the character.
  have hlist : ∀ cs : List Char, (∀ c ∈ cs, ∃ b, isVisible b = true ∧ c = Char.ofNat b.toNat) →
      (cs.flatMap String.utf8EncodeChar).all isVisible = true ∧
        (cs.flatMap String.utf8EncodeChar).map (fun b => Char.ofNat b.toNat) = cs := by
    intro cs
    induction cs with
    | nil => simp
    | cons c rest ih =>
      intro hcs
      obtain ⟨b, hb, rfl⟩ := hcs c List.mem_cons_self
      obtain ⟨hall, hmap⟩ := ih fun c' hc' => hcs c' (List.mem_cons_of_mem _ hc')
      rw [List.flatMap_cons, utf8EncodeChar_of_visible hb]
      exact ⟨by simp [hb, hall], by simp [hmap]⟩
  obtain ⟨hall, hmap⟩ := hlist text.toList h
  unfold visibleText? bytesOf
  rw [if_pos hall, hmap, String.ofList_toList]

/-! ### The token of a request -/

/-- The value of a cookie has only characters of its header. -/
theorem visible_of_mem_cookiePairs {header name value : String} (hheader : Visible header)
    (h : (name, value) ∈ cookiePairs header) : Visible value := by
  unfold cookiePairs at h
  obtain ⟨segment, hsegment, hpair⟩ := List.mem_filterMap.mp h
  unfold cookiePair? at hpair
  split at hpair
  · simp at hpair
  · next before after hsplit =>
    dsimp only at hpair
    split at hpair
    · simp at hpair
    · obtain ⟨-, rfl⟩ := Prod.mk.inj (Option.some.inj hpair)
      intro c hc
      rw [String.toList_ofList] at hc
      apply hheader c
      apply mem_of_mem_splitAll hsegment
      rw [append_of_splitFirst? hsplit]
      simp [mem_of_mem_trimList hc]

namespace Request

variable {r : Request}

/-- The cookies in the headers that can be read, in order. -/
def readableCookies (r : Request) : List (String × String) :=
  ((r.values cookieHeader).filterMap visibleText?).flatMap cookiePairs

/-- The first cookie with the name of the token has a value that is not empty, and this value is
repeated in the header for the token. -/
def RepeatsToken (r : Request) : Prop :=
  ∃ token earlier later, r.readableCookies = earlier ++ (csrfCookie, token) :: later ∧
    (∀ cookie ∈ earlier, cookie.1 ≠ csrfCookie) ∧ token ≠ "" ∧
    (r.values csrfHeader).head? = some (bytesOf token)

theorem visible_of_mem_readableCookies {name value : String}
    (h : (name, value) ∈ r.readableCookies) : Visible value := by
  obtain ⟨header, hheader, hmem⟩ := List.mem_flatMap.mp h
  obtain ⟨bytes, -, hread⟩ := List.mem_filterMap.mp hheader
  exact visible_of_mem_cookiePairs (of_visibleText? hread).1 hmem

/-- The first cookie of a name comes after cookies of other names. -/
theorem firstCookie?_eq_some_iff {name value : String} :
    r.firstCookie? name = some value ↔
      ∃ earlier later, r.readableCookies = earlier ++ (name, value) :: later ∧
        ∀ cookie ∈ earlier, cookie.1 ≠ name := by
  have hlookup : r.firstCookie? name = r.readableCookies.lookup name := rfl
  simp only [hlookup, List.lookup_eq_some_iff, bne_iff_ne, ne_comm]

/-- The check of a request decides whether it repeats the token. -/
theorem tokenMatches_iff : r.tokenMatches = true ↔ r.RepeatsToken := by
  unfold tokenMatches
  constructor
  · intro h
    split at h
    · next cookie header hcookie hheader =>
      obtain ⟨hvalue, rfl⟩ : cookie ≠ "" ∧ cookie = header := by simpa using h
      obtain ⟨earlier, later, hsplit, hearlier⟩ := firstCookie?_eq_some_iff.mp hcookie
      obtain ⟨bytes, hbytes, hread⟩ := Option.bind_eq_some_iff.mp hheader
      refine ⟨cookie, earlier, later, hsplit, hearlier, hvalue, ?_⟩
      rw [hbytes, (of_visibleText? hread).2]
    · simp at h
  · rintro ⟨token, earlier, later, hsplit, hearlier, hvalue, hheader⟩
    have hcookie := firstCookie?_eq_some_iff.mpr ⟨earlier, later, hsplit, hearlier⟩
    -- The value comes from a header that can be read, so the header for the token can be, too.
    have hvisible : Visible token := by
      have hmem : (csrfCookie, token) ∈ r.readableCookies := by
        rw [hsplit]
        simp
      exact visible_of_mem_readableCookies hmem
    rw [hcookie, hheader, Option.bind_some, visibleText?_bytesOf hvisible]
    simpa using hvalue

/-- A form may go on exactly if it repeats the token. -/
theorem passesCsrf_iff_of_post (h : r.method = "POST") :
    r.passesCsrf true = true ↔ r.RepeatsToken := by
  unfold passesCsrf isSafe
  rw [h, ← tokenMatches_iff]
  simp

end Request

end Http

/-! ### Without protection -/

/-- The service with the protection switched off. -/
def Service.unprotected (s : Service) : Service :=
  { s with config := { s.config with csrfProtection := false } }

/-- The same moment with the protection switched off. -/
def Moment.unprotected (m : Moment) : Moment :=
  { m with service := m.service.unprotected }

@[simp] theorem Moment.service_unprotected (m : Moment) :
    m.unprotected.service = m.service.unprotected := rfl

@[simp] theorem Moment.now_unprotected (m : Moment) : m.unprotected.now = m.now := rfl

@[simp] theorem Service.kdf_unprotected (s : Service) : s.unprotected.kdf = s.kdf := rfl

@[simp] theorem Service.siteName_unprotected (s : Service) :
    s.unprotected.config.siteName = s.config.siteName := rfl

@[simp] theorem Service.siteDomain_unprotected (s : Service) :
    s.unprotected.config.siteDomain = s.config.siteDomain := rfl

/-- Sending tokens does not depend on the protection. -/
theorem World.sendResets_unprotected (s : Service) (now : Instant) (mail : ResetMail)
    (users : List User) (w : World) :
    w.sendResets s.unprotected now mail users = w.sendResets s now mail users := by
  induction users generalizing w with
  | nil => rfl
  | cons user rest ih =>
    have hone : w.sendReset s.unprotected now mail user = w.sendReset s now mail user := rfl
    simp only [sendResets, hone, ih]

/-- Making a user does not depend on the protection. -/
theorem World.register_unprotected (s : Service) (now : Instant) (account : NewAccount)
    (w : World) :
    w.register s.unprotected now account = w.register s now account := by
  unfold register createUser hashNext
  rfl

/-- Binding a user does not depend on the protection. -/
theorem Visit.bindUser_unprotected (m : Moment) (user : User) (v : Visit) :
    v.bindUser m.unprotected user = v.bindUser m user := rfl

/-- No action depends on the protection. -/
theorem Route.run_unprotected (m : Moment) (r : Request) (route : Route) (v : Visit) :
    route.run m.unprotected r v = route.run m r v := by
  cases route with
  | health => rfl
  | logIn =>
    have haction : Visit.logIn m.unprotected = Visit.logIn m := by
      funext form v
      unfold Visit.logIn
      simp [Visit.bindUser_unprotected]
    exact congrArg (fun action => withForm (LoginForm.read r) action v) haction
  | logOut => rfl
  | register =>
    have haction : Visit.register m.unprotected = Visit.register m := by
      funext form v
      unfold Visit.register
      simp [Visit.bindUser_unprotected, World.register_unprotected]
    exact congrArg (fun action => withForm (RegistrationForm.read r) action v) haction
  | status => rfl
  | resetPassword =>
    have haction : Visit.resetPassword m.unprotected = Visit.resetPassword m := by
      funext form v
      unfold Visit.resetPassword
      simp [World.sendResets_unprotected]
    exact congrArg (fun action => withForm (ResetForm.read r) action v) haction

variable {m : Moment} {r : Request} {v : Visit}

/-- A request that may go on is answered as if there were no protection. -/
theorem respond_unprotected (h : r.passesCsrf m.service.config.csrfProtection = true) :
    respond m.unprotected r v = respond m r v := by
  unfold respond
  split
  · rfl
  · next route _ =>
    have hanswer : route.answer m.unprotected r v = route.answer m r v := by
      unfold Route.answer
      rw [Route.run_unprotected]
      rfl
    have hoff : r.passesCsrf m.unprotected.service.config.csrfProtection = true := rfl
    rw [hanswer, h, hoff]

/-- A request that may not go on is answered with the message about forged requests, and nothing
happens. -/
theorem respond_of_refused {route : Route} (hroute : Route.ofPath? r.path = some route)
    (hprotected : route.isProtected = true)
    (h : r.passesCsrf m.service.config.csrfProtection = false) :
    ∃ reply, respond m r v = (.ok reply, v.note [csrfEvent r]) ∧ reply.status = 403 ∧
      reply.body = (Json.obj [("error", .str csrfFailure)]).render ∧ reply.setCookie = none := by
  unfold respond
  rw [hroute]
  simp only [hprotected, h, Bool.not_false, Bool.and_self, if_true, refuse]
  split
  · exact ⟨_, rfl, rfl, rfl, rfl⟩
  · exact ⟨_, rfl, rfl, rfl, rfl⟩

namespace Service

variable {s : Service} {now : Instant} {w : World}

/-- The end of a request does not depend on the protection. -/
theorem settle_unprotected (s : Service) (now : Instant) (r : Request) (answer : Answer)
    (v : Visit) : s.unprotected.settle now r answer v = s.settle now r answer v := rfl

/-- A request that may go on is handled as if there were no protection. -/
theorem handle_unprotected (h : r.passesCsrf s.config.csrfProtection = true) :
    s.unprotected.handle now r w = s.handle now r w := by
  have hrespond : respond (s.unprotected.moment now) r (s.unprotected.visit r w)
      = respond (s.moment now) r (s.visit r w) :=
    respond_unprotected (m := s.moment now) h
  rw [handle_eq_settle, handle_eq_settle, hrespond, settle_unprotected]

/-- A form that does not repeat the token is refused, and the world stays as it is. -/
theorem handle_of_refused {route : Route} (hroute : Route.ofPath? r.path = some route)
    (hprotected : route.isProtected = true) (hmethod : r.method ≠ "HEAD")
    (h : r.passesCsrf s.config.csrfProtection = false) :
    (s.handle now r w).Answers 403 (.obj [("error", .str csrfFailure)]) ∧
      (s.handle now r w).world = w := by
  obtain ⟨full, hrespond, hstatus, hbody, hcookie⟩ :=
    respond_of_refused (m := s.moment now) (v := s.visit r w) hroute hprotected h
  have hquiet : ((s.visit r w).note [csrfEvent r]).Quiet (.ok full) :=
    Visit.quiet_of_unchanged rfl hcookie
  obtain ⟨hworld, -, -⟩ := settle_of_quiet s now r hquiet
  obtain ⟨reply, hreply, hstatus', hbody'⟩ := reply_settle_of_quiet s now r hquiet
  rw [handle_eq_settle, cut_of_ne hmethod, hrespond]
  exact ⟨⟨reply, hreply, hstatus'.trans hstatus, hbody'.trans hbody⟩, hworld⟩

/-- While the service is protected, a form for one of the three routes is handled exactly as without
protection if it repeats the token.  Otherwise it is refused, and nothing changes: no user, token or
audit entry, no session and no mail. -/
theorem gated_by_token (s : Service) (hon : s.config.csrfProtection = true) (now : Instant)
    (r : Request) (w : World) (hmethod : r.method = "POST")
    (hpath : r.path = Route.logIn.path ∨ r.path = Route.register.path ∨
      r.path = Route.resetPassword.path) :
    (r.RepeatsToken → s.handle now r w = s.unprotected.handle now r w) ∧
    (¬ r.RepeatsToken →
      (s.handle now r w).Answers 403 (.obj [("error", .str csrfFailure)]) ∧
        (s.handle now r w).world = w) := by
  have hgate := Request.passesCsrf_iff_of_post hmethod
  refine ⟨?_, ?_⟩
  · intro htoken
    refine (handle_unprotected ?_).symm
    rw [hon]
    exact hgate.mpr htoken
  · intro hnone
    obtain ⟨route, hroute, hprotected⟩ :
        ∃ route, Route.ofPath? r.path = some route ∧ route.isProtected = true := by
      rcases hpath with hpath | hpath | hpath <;> rw [hpath, Route.ofPath?_path]
      · exact ⟨_, rfl, rfl⟩
      · exact ⟨_, rfl, rfl⟩
      · exact ⟨_, rfl, rfl⟩
    refine handle_of_refused hroute hprotected (by rw [hmethod]; decide) ?_
    rw [hon]
    exact Bool.eq_false_iff.mpr fun hpass => hnone (hgate.mp hpass)

end Service

namespace Sample

/-- A form with the cookie of the token, sent by a page that does not know its value. -/
def forged : Request where
  method := "POST"
  target := "/api/auth/login"
  headers := [("content-type", bytesOf Form.formType), ("x-csrftoken", bytesOf "u"),
    ("cookie", bytesOf "theme=dark"), ("cookie", bytesOf "csrftoken=t; csrftoken=u")]
  body := bytesOf "username=bob&password=bobs-word"

end Sample

namespace Service

open Sample

/-- A login with the token goes on; with a second cookie for the header's value it is refused. -/
theorem gated_login_and_forged :
    service.handle ⟨0⟩ (post "/api/auth/login" "username=bob&password=bobs-word" "") {}
        = service.unprotected.handle ⟨0⟩
          (post "/api/auth/login" "username=bob&password=bobs-word" "") {} ∧
      (service.handle ⟨0⟩ forged {}).Answers 403 (.obj [("error", .str csrfFailure)]) ∧
      (service.handle ⟨0⟩ forged {}).world = {} := by
  have hpost := gated_by_token service rfl ⟨0⟩
    (post "/api/auth/login" "username=bob&password=bobs-word" "") {} rfl (.inl (by decide +kernel))
  have hforged := gated_by_token service rfl ⟨0⟩ forged {} rfl (.inl (by decide +kernel))
  have htoken : (post "/api/auth/login" "username=bob&password=bobs-word" "").RepeatsToken :=
    Request.tokenMatches_iff.mp (by decide +kernel)
  have hnone : ¬ forged.RepeatsToken := by
    rw [← Request.tokenMatches_iff]
    decide +kernel
  exact ⟨hpost.1 htoken, hforged.2 hnone⟩

end Service

end CookieAuth
