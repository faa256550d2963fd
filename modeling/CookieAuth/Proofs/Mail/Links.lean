import CookieAuth.Account.Registration
import CookieAuth.Proofs.Account.Dispatches
import CookieAuth.Service.Supply

/-!
# The links in mails

The mail about a forgotten password is markup, so everything in it that comes from outside is
escaped, the link too.  A link with something escaped in it would lead nowhere.  What the service
itself puts into a link has nothing to escape: identifiers and secrets are hexadecimal digits, and
the names that can be registered consist of letters, numbers and five other characters.  So the mail
of a site whose name and host are plain has all values as they are.  It also tells users and secrets
apart, because what stands before a name has a fixed length.

## Main definitions

* `IsDrawnId`, `IsDrawnSecret`: identifiers and secrets as they are drawn;
* `ResetMail.Genuine`: a user and a secret as the service has them;
* `Mail.verbatim`: the text of the parts of a template with the values as they are.

## Main results

* `plain_of_isValidUsername`: nothing is escaped in names that can be registered;
* `Mail.filled_of_plain`: a template with plain values is rendered as it stands;
* `Config.eq_of_body_eq`: a mail determines the identifier, the secret and the name;
* `World.reset_link_survives`: the mails that are sent.
-/

namespace CookieAuth

open Text Time Mail

/-! ### Texts that the service draws -/

/-- An identifier as it is drawn for a user. -/
def IsDrawnId (text : String) : Prop :=
  ∃ bytes : List UInt8, bytes.length = 16 ∧ text = uuidText bytes

/-- The secret of a token as it is drawn. -/
def IsDrawnSecret (text : String) : Prop :=
  ∃ bytes : List UInt8, bytes.length = 16 ∧ text = simpleText bytes

theorem length_hexBytes (bytes : List UInt8) : (hexBytes bytes).length = 2 * bytes.length := by
  induction bytes with
  | nil => rfl
  | cons b rest ih =>
    rw [hexBytes, List.flatMap_cons, List.length_append, List.length_cons, ← hexBytes, ih, hexByte]
    simp only [List.length_cons, List.length_nil]
    omega

theorem not_mem_markup_of_mem_hexBytes {c : Char} {bytes : List UInt8} (h : c ∈ hexBytes bytes) :
    c ∉ markup := by
  have hdigits : ∀ n < 16, Nat.digitChar n ∉ markup := by decide
  obtain ⟨b, -, hc⟩ := List.mem_flatMap.mp h
  have hb : b.toNat < 256 := b.toNat_lt
  rw [hexByte, List.mem_cons, List.mem_singleton] at hc
  rcases hc with rfl | rfl
  · exact hdigits _ (by omega)
  · exact hdigits _ (by omega)

namespace IsDrawnId

variable {text : String}

theorem length (h : IsDrawnId text) : text.toList.length = 36 := by
  obtain ⟨bytes, hbytes, rfl⟩ := h
  rw [uuidText, String.toList_ofList]
  simp [length_hexBytes, hbytes]

theorem plain (h : IsDrawnId text) : Plain text := by
  obtain ⟨bytes, -, rfl⟩ := h
  rw [plain_iff, uuidText, String.toList_ofList]
  intro c hc
  have hdash : '-' ∉ markup := by decide
  have hgroup : ∀ {i n : Nat}, c ∈ ((hexBytes bytes).drop i).take n → c ∉ markup := fun hc =>
    not_mem_markup_of_mem_hexBytes (List.mem_of_mem_drop (List.mem_of_mem_take hc))
  -- A character is a digit of one of the five groups, or stands between two of them.
  simp only [List.mem_append, List.mem_cons] at hc
  rcases hc with (((hc | rfl | hc) | rfl | hc) | rfl | hc) | rfl | hc
  · exact not_mem_markup_of_mem_hexBytes (List.mem_of_mem_take hc)
  · exact hdash
  · exact hgroup hc
  · exact hdash
  · exact hgroup hc
  · exact hdash
  · exact hgroup hc
  · exact hdash
  · exact not_mem_markup_of_mem_hexBytes (List.mem_of_mem_drop hc)

end IsDrawnId

namespace IsDrawnSecret

variable {text : String}

theorem length (h : IsDrawnSecret text) : text.toList.length = 32 := by
  obtain ⟨bytes, hbytes, rfl⟩ := h
  rw [simpleText, String.toList_ofList, length_hexBytes, hbytes]

theorem plain (h : IsDrawnSecret text) : Plain text := by
  obtain ⟨bytes, -, rfl⟩ := h
  rw [plain_iff, simpleText, String.toList_ofList]
  exact fun c hc => not_mem_markup_of_mem_hexBytes hc

end IsDrawnSecret

/-! ### Seeds -/

theorem length_markRandom (bytes : List UInt8) : (markRandom bytes).length = bytes.length := by
  rw [markRandom, List.length_modify, List.length_modify]

theorem length_derived (seed purpose : String) (n : Nat) : (derived seed purpose n).length = 16 :=
  Crypto.Blake2b.length_digest (by decide) _

/-- What is drawn from a seed has the form of identifiers and secrets. -/
theorem isDrawn_ofSeed (seed : String) (n : Nat) :
    IsDrawnId ((Supply.ofSeed seed).userId n) ∧ IsDrawnSecret ((Supply.ofSeed seed).token n) :=
  ⟨⟨_, (length_markRandom _).trans (length_derived seed "user" n), rfl⟩,
    ⟨_, (length_markRandom _).trans (length_derived seed "token" n), rfl⟩⟩

/-! ### Plain values -/

/-- Nothing is escaped in a name that can be registered. -/
theorem plain_of_isValidUsername {name : String} (h : isValidUsername name = true) :
    Plain name := by
  have hmarkup : ∀ c ∈ markup, isUsernameChar c = false :=
    forall_mem_of_all (by decide +kernel)
  rw [plain_iff]
  intro c hc hmem
  have hvalid := List.all_eq_true.mp h c hc
  rw [hmarkup c hmem] at hvalid
  exact Bool.noConfusion hvalid

theorem Config.plain_protocol (config : Config) : Plain config.protocol := by
  unfold Config.protocol
  split
  · decide
  · decide

/-! ### Texts of mails -/

namespace Mail

/-- The text of a value by name. -/
def valueAt (context : Json) (name : String) : String :=
  ((context.get? name).map valueText).getD ""

/-- The text of the parts of a template, with the values as they are. -/
def verbatim (context : Json) : List Piece → String
  | [] => ""
  | .literal text :: rest => text ++ verbatim context rest
  | .place name :: rest => valueAt context name ++ verbatim context rest

/-- Plain values make no difference between the two. -/
theorem filled_of_plain {context : Json} {pieces : List Piece}
    (h : ∀ name, .place name ∈ pieces → Plain (valueAt context name)) :
    filled context pieces = verbatim context pieces := by
  induction pieces with
  | nil => rfl
  | cons piece rest ih =>
    have hrest := ih fun name hname => h name (List.mem_cons_of_mem _ hname)
    cases piece with
    | literal text => rw [filled, verbatim, hrest]
    | place name =>
      rw [filled, verbatim, hrest, ← valueAt, escape_of_plain (h name List.mem_cons_self)]

end Mail

/-- The text between the link and the name of the user. -/
def Mail.beforeName : String := "\n\nYour username, in case you've forgotten: "

/-- The text after the name of the user. -/
def Config.afterName (config : Config) : String :=
  "\n\nThanks for using our site!\n\nThe " ++ escape config.siteName ++ " team\n"

theorem Config.afterLink_eq (config : Config) (user : User) :
    config.afterLink user = beforeName ++ escape user.username ++ config.afterName := by
  unfold Config.afterLink Config.afterName beforeName
  simp only [String.append_assoc]

/-- The text of a mail if nothing in what belongs to the user is escaped. -/
theorem Config.body_resetMail (config : Config) {user : User} {token : String}
    (hid : Plain user.id) (htoken : Plain token) (hname : Plain user.username) :
    (config.resetMail user token).body
      = config.beforeLink ++ (escape config.protocol ++ "://" ++ escape config.siteDomain
        ++ "/reset/" ++ user.id ++ "/" ++ token ++ "/") ++ beforeName ++ user.username
        ++ config.afterName := by
  have hbody : (config.resetMail user token).body = config.beforeLink
    ++ resetLink config.protocol config.siteDomain user.id token ++ config.afterLink user := rfl
  rw [hbody, config.afterLink_eq, resetLink, escape_of_plain hid, escape_of_plain htoken,
    escape_of_plain hname, ← String.append_assoc, ← String.append_assoc]

/-- A user and a secret as the service has them. -/
structure ResetMail.Genuine (user : User) (token : String) : Prop where
  /-- The identifier is drawn. -/
  id : IsDrawnId user.id
  /-- The name is one that can be registered. -/
  username : isValidUsername user.username = true
  /-- The secret is drawn. -/
  token : IsDrawnSecret token

theorem ResetMail.Genuine.plain_username {user : User} {token : String}
    (h : ResetMail.Genuine user token) : Plain user.username :=
  plain_of_isValidUsername h.username

/-- The text of a mail determines what belongs to the user. -/
theorem Config.eq_of_body_eq (config : Config) {user user' : User} {token token' : String}
    (h : ResetMail.Genuine user token) (h' : ResetMail.Genuine user' token')
    (hbody : (config.resetMail user token).body = (config.resetMail user' token').body) :
    user.id = user'.id ∧ token = token' ∧ user.username = user'.username := by
  rw [config.body_resetMail h.id.plain h.token.plain h.plain_username,
    config.body_resetMail h'.id.plain h'.token.plain h'.plain_username] at hbody
  have hlist := congrArg String.toList hbody
  simp only [String.toList_append, List.append_assoc, List.append_cancel_left_eq] at hlist
  -- The identifiers have one length, and so have the secrets.
  obtain ⟨hid, hlist⟩ := List.append_inj hlist (h.id.length.trans h'.id.length.symm)
  obtain ⟨htoken, hlist⟩ := List.append_inj (List.append_cancel_left hlist)
    (h.token.length.trans h'.token.length.symm)
  have hname := List.append_cancel_right (List.append_cancel_left (List.append_cancel_left hlist))
  exact ⟨String.toList_inj.mp hid, String.toList_inj.mp htoken, String.toList_inj.mp hname⟩

namespace ResetMail

variable (config : Config) {siteName domain : String} {user : User} {token : String}

/-- The mail of a site whose name and host are not those of the settings. -/
theorem message_of_site (siteName domain : String) (user : User) (token : String) :
    (standard siteName domain).message config user token
      = .ok (Config.resetMail { config with siteName, siteDomain := domain } user token) :=
  message_standard { config with siteName, siteDomain := domain } user token

/-- The values for the text of the mail are plain. -/
theorem plain_valueAt (hname : Plain siteName) (hdomain : Plain domain)
    (h : Genuine user token) {place : String} (hplace : .place place ∈ resetBody.pieces) :
    Plain (valueAt ((standard siteName domain).context config user token) place) := by
  have hmem := place_mem_of_templates (t := resetBody) (by decide) hplace
  simp only [List.mem_cons, List.not_mem_nil, or_false] at hmem
  rcases hmem with rfl | rfl | rfl | rfl | rfl | rfl
  · exact hdomain
  · exact config.plain_protocol
  · exact hname
  · exact h.token.plain
  · exact h.id.plain
  · exact h.plain_username

end ResetMail

namespace World

open ResetMail (Genuine)

/-- For a site whose name and host have nothing to escape, and a user and a secret as the service
has them, the mail can be written, and its text is the template with all values as they are.  So it
has the link, and after it the name of the user.  Two mails of the site with the same text have the
same identifier, secret and name.  All mails that are sent are such mails, if secrets and
identifiers are drawn and names can be registered. -/
theorem reset_link_survives (s : Service) (siteName domain : String)
    (hname : ∀ c ∈ siteName.toList, c ∉ markup) (hdomain : ∀ c ∈ domain.toList, c ∉ markup) :
    -- The mail has the values as they are.
    (∀ user token, Genuine user token → ∃ message,
      (ResetMail.standard siteName domain).message s.config user token = .ok message ∧
      message.body = verbatim
        ((ResetMail.standard siteName domain).context s.config user token) resetBody.pieces ∧
      ∃ before between after, message.body = before
        ++ (s.config.protocol ++ "://" ++ domain ++ "/reset/" ++ user.id ++ "/" ++ token ++ "/")
        ++ between ++ user.username ++ after) ∧
    -- The text tells mails apart.
    (∀ user user' token token' message message', Genuine user token → Genuine user' token' →
      (ResetMail.standard siteName domain).message s.config user token = .ok message →
      (ResetMail.standard siteName domain).message s.config user' token' = .ok message' →
      message.body = message'.body →
        user.id = user'.id ∧ token = token' ∧ user.username = user'.username) ∧
    -- What is sent are mails of this kind.
    (∀ (now : Instant) (users : List User) (w : World), ∃ sent,
      w.Dispatched s (.standard siteName domain) users
        (w.sendResets s now (.standard siteName domain) users) sent ∧
      ((∀ n, IsDrawnSecret (s.supply.token n)) →
        (∀ u ∈ users, IsDrawnId u.id ∧ isValidUsername u.username = true) →
        ∀ d ∈ sent, Genuine d.user d.token.token)) := by
  have hname := plain_iff.mpr hname
  have hdomain := plain_iff.mpr hdomain
  refine ⟨fun user token h => ?_, ?_, fun now users w => ?_⟩
  · refine ⟨_, ResetMail.message_of_site s.config siteName domain user token, ?_, ?_⟩
    · -- The settings of the site only differ in its name and its host.
      rw [← filled_of_plain fun _ hplace => ResetMail.plain_valueAt s.config hname hdomain h hplace]
      exact (ResetMail.filled_resetBody { s.config with siteName, siteDomain := domain } user
        token).symm
    · have hbody := Config.body_resetMail { s.config with siteName, siteDomain := domain }
        h.id.plain h.token.plain h.plain_username
      rw [escape_of_plain (Config.plain_protocol _), escape_of_plain hdomain] at hbody
      exact ⟨_, _, _, hbody⟩
  · intro user user' token token' message message' h h' hmessage hmessage' hbody
    rw [ResetMail.message_of_site] at hmessage hmessage'
    obtain rfl := Except.ok.inj hmessage
    obtain rfl := Except.ok.inj hmessage'
    exact Config.eq_of_body_eq _ h h' hbody
  · obtain ⟨sent, hsent⟩ := dispatched_sendResets s now (.standard siteName domain) users w
    refine ⟨sent, hsent, fun htokens husers d hd => ?_⟩
    obtain ⟨hid, husername⟩ := husers d.user (hsent.inOrder.subset (List.mem_map_of_mem hd))
    obtain ⟨n, hn⟩ := (hsent.writtenBy d hd).drawn
    exact ⟨hid, husername, hn ▸ htokens n⟩

end World

namespace Sample

/-- A service whose values come from a seed. -/
def seeded : Service := { service with supply := .ofSeed "seed" }

/-- A user whose identifier is made from sixteen equal bytes. -/
def plainOwner : User := owner "abababab-abab-abab-abab-abababababab" "ann+1" "ann@example.com"

/-- A world with this user. -/
def plainWorld : World where
  db := { users := [plainOwner] }

/-- A secret that is made from sixteen equal bytes. -/
def secretOf (b : UInt8) : String := simpleText (List.replicate 16 b)

theorem genuine_plainOwner (b : UInt8) : ResetMail.Genuine plainOwner (secretOf b) where
  id := ⟨List.replicate 16 0xab, rfl, by decide⟩
  username := by decide +kernel
  token := ⟨List.replicate 16 b, rfl, rfl⟩

end Sample

namespace World

open Sample

/-- A user's link, a second mail with another secret, and a mail with a secret from a seed. -/
theorem links_of_blue_house :
    (∃ message, (ResetMail.standard "Blue House" "example.com").message seeded.config plainOwner
        (secretOf 0xcd) = .ok message ∧
      ∃ before between after, message.body = before
        ++ ("http://example.com/reset/"
          ++ "abababab-abab-abab-abab-abababababab/cdcdcdcdcdcdcdcdcdcdcdcdcdcdcdcd/")
        ++ between ++ "ann+1" ++ after) ∧
    (∀ message message',
      (ResetMail.standard "Blue House" "example.com").message seeded.config plainOwner
        (secretOf 0xcd) = .ok message →
      (ResetMail.standard "Blue House" "example.com").message seeded.config plainOwner
        (secretOf 0xce) = .ok message' → message.body ≠ message'.body) ∧
    ∃ d, plainWorld.Dispatched seeded (.standard "Blue House" "example.com") [plainOwner]
        (plainWorld.sendResets seeded ⟨0⟩ (.standard "Blue House" "example.com") [plainOwner])
        [d] ∧
      ResetMail.Genuine d.user d.token.token := by
  obtain ⟨hwritten, hdiffer, hsent⟩ := reset_link_survives seeded "Blue House" "example.com"
    (forall_mem_of_all (by decide)) (forall_mem_of_all (by decide))
  refine ⟨?_, ?_, ?_⟩
  · obtain ⟨message, hmessage, -, hlink⟩ := hwritten _ _ (genuine_plainOwner 0xcd)
    have hliteral : seeded.config.protocol ++ "://" ++ "example.com" ++ "/reset/" ++ plainOwner.id
        ++ "/" ++ secretOf 0xcd ++ "/" = "http://example.com/reset/"
          ++ "abababab-abab-abab-abab-abababababab/cdcdcdcdcdcdcdcdcdcdcdcdcdcdcdcd/" := by
      decide
    rw [hliteral] at hlink
    exact ⟨message, hmessage, hlink⟩
  · intro message message' hmessage hmessage' hsame
    have htokens := (hdiffer _ _ _ _ _ _ (genuine_plainOwner 0xcd) (genuine_plainOwner 0xce)
      hmessage hmessage' hsame).2.1
    revert htokens
    decide
  · obtain ⟨sent, hdispatched, hgenuine⟩ := hsent ⟨0⟩ [plainOwner] plainWorld
    have husers := hdispatched.complete (eq_ok_of_toOption (by decide +kernel))
    obtain ⟨d, rest, rfl, -, hrest⟩ := List.map_eq_cons_iff.mp husers
    obtain rfl := List.map_eq_nil_iff.mp hrest
    refine ⟨d, hdispatched, ?_⟩
    refine hgenuine (fun n => (isDrawn_ofSeed "seed" n).2) ?_ d List.mem_cons_self
    intro u hu
    obtain rfl := List.mem_singleton.mp hu
    exact ⟨(genuine_plainOwner 0).id, (genuine_plainOwner 0).username⟩

end World

end CookieAuth
