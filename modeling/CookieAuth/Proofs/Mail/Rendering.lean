import CookieAuth.Account.PasswordReset
import CookieAuth.Proofs.Text.Basic

/-!
# The mails about forgotten passwords

A template can be rendered if all of its places have values, and the values that the service puts
into its two templates are always complete.  So every user can be sent a mail, and this file has its
text.

## Main definitions

* `Mail.filled`: the text of the parts of a template with the values of a context;
* `Mail.markup`, `Mail.Plain`: the characters that are escaped, and texts without them;
* `Mail.resetLink`, `Config.resetMail`: the link and the whole mail for a user and a token.

## Main results

* `Mail.render_of_covered`: a template whose places all have values can be rendered;
* `ResetMail.message_standard`: the mail of the service to a user.
-/

namespace CookieAuth

namespace Mail

/-! ### Templates -/

/-- The text of the parts of a template, with the escaped values of a context at the places. -/
def filled (context : Json) : List Piece → String
  | [] => ""
  | .literal text :: rest => text ++ filled context rest
  | .place name :: rest =>
    escape (((context.get? name).map valueText).getD "") ++ filled context rest

/-- Parts whose places all have values can be rendered from every position. -/
theorem renderFrom_of_covered {template : String} {fields : List (String × Json)}
    {pieces : List Piece}
    (hcovered : ∀ name, .place name ∈ pieces → (fields.lookup name).isSome = true) (p : Position) :
    renderFrom template (.obj fields) p pieces = .ok (filled (.obj fields) pieces) := by
  induction pieces generalizing p with
  | nil => rfl
  | cons piece rest ih =>
    have hrest := ih fun name hname => hcovered name (List.mem_cons_of_mem _ hname)
    cases piece with
    | literal text =>
      simp only [renderFrom, hrest]
      rfl
    | place name =>
      obtain ⟨value, hvalue⟩ := Option.isSome_iff_exists.mp (hcovered name List.mem_cons_self)
      have hget : (Json.obj fields).get? name = some value := hvalue
      simp only [renderFrom, lookUp, hget, hrest, filled]
      rfl

/-- A template whose places all have values can be rendered. -/
theorem render_of_covered {name : String} {t : Template} {fields : List (String × Json)}
    (hname : template? name = some t)
    (hcovered : ∀ place, .place place ∈ t.pieces → (fields.lookup place).isSome = true) :
    render name (.obj fields) = .ok (filled (.obj fields) t.pieces) := by
  unfold render
  rw [hname]
  exact renderFrom_of_covered hcovered {}

/-! ### Escaping -/

/-- The characters that are escaped. -/
def markup : List Char := "<>\"&'`=".toList

/-- All other characters stay as they are. -/
theorem escapeChar_eq_self_iff {c : Char} : escapeChar c = [c] ↔ c ∉ markup := by
  constructor
  · have hescaped : ∀ d ∈ markup, escapeChar d ≠ [d] := Text.forall_mem_of_all (by decide)
    exact fun h hmarkup => hescaped c hmarkup h
  · intro h
    have hne : ∀ d ∈ markup, c ≠ d := by
      rintro d hd rfl
      exact h hd
    have hcode : ∀ n, Char.ofNat n ∈ markup → c.toNat ≠ n := by
      rintro n hn rfl
      rw [Char.ofNat_toNat] at hn
      exact h hn
    unfold escapeChar
    rw [if_neg (hne _ (by decide)), if_neg (hne _ (by decide)), if_neg (hne _ (by decide)),
      if_neg (hne _ (by decide)), if_neg (hcode _ (by decide)), if_neg (hcode _ (by decide)),
      if_neg (hne _ (by decide))]

/-- A text that nothing is escaped in. -/
def Plain (text : String) : Prop :=
  ∀ c ∈ text.toList, escapeChar c = [c]

instance (text : String) : Decidable (Plain text) :=
  List.decidableBAll (fun c => escapeChar c = [c]) text.toList

theorem plain_iff {text : String} : Plain text ↔ ∀ c ∈ text.toList, c ∉ markup :=
  forall₂_congr fun _ _ => escapeChar_eq_self_iff

theorem flatMap_escapeChar_of_plain {cs : List Char} (h : ∀ c ∈ cs, escapeChar c = [c]) :
    cs.flatMap escapeChar = cs := by
  induction cs with
  | nil => rfl
  | cons c rest ih =>
    rw [List.flatMap_cons, h c List.mem_cons_self, ih fun d hd => h d (List.mem_cons_of_mem _ hd)]
    rfl

theorem escape_of_plain {text : String} (h : Plain text) : escape text = text := by
  rw [escape, flatMap_escapeChar_of_plain h, String.ofList_toList]

/-! ### The text of the mails -/

/-- The link to the page where a new password is chosen. -/
def resetLink (protocol domain id token : String) : String :=
  escape protocol ++ "://" ++ escape domain ++ "/reset/" ++ escape id ++ "/" ++ escape token ++ "/"

end Mail

open Mail

namespace Config

/-- The text of the mails before the link. -/
def beforeLink (config : Config) : String :=
  "You're receiving this email because you requested a password reset for your user "
    ++ "account at " ++ escape config.siteName
    ++ ".\n\nPlease go to the following page and choose a new password:\n\n"

/-- The text of the mail to a user after the link. -/
def afterLink (config : Config) (user : User) : String :=
  "\n\nYour username, in case you've forgotten: " ++ escape user.username
    ++ "\n\nThanks for using our site!\n\nThe " ++ escape config.siteName ++ " team\n"

/-- The mail to a user about a token. -/
def resetMail (config : Config) (user : User) (token : String) : Message where
  sender := config.defaultFromEmail
  recipient := user.email
  subject := oneLine ("Password reset on " ++ escape config.siteName ++ "\n")
  body := config.beforeLink ++ resetLink config.protocol config.siteDomain user.id token
    ++ config.afterLink user

end Config

namespace ResetMail

variable (m : ResetMail) (config : Config) (user : User) (token : String)

/-- The fields of the values for the templates. -/
def fields : List (String × Json) :=
  [("domain", .str m.domain), ("email", .str user.email), ("protocol", .str config.protocol),
    ("site_name", .str m.siteName), ("token", .str token), ("uid", .str user.id),
    ("username", .str user.username)]

/-- The values that the templates have places for. -/
theorem place_mem_of_templates {t : Template} (ht : t ∈ templates) {name : String}
    (hname : .place name ∈ t.pieces) :
    name ∈ ["domain", "protocol", "site_name", "token", "uid", "username"] := by
  have hnames : ∀ t ∈ templates, ∀ piece ∈ t.pieces, ∀ name, piece = .place name →
      name ∈ ["domain", "protocol", "site_name", "token", "uid", "username"] := by
    simp [templates, resetSubject, resetBody]
  exact hnames t ht _ hname name rfl

/-- The values for the templates are complete. -/
theorem covers_templates {t : Template} (ht : t ∈ templates) :
    ∀ name, .place name ∈ t.pieces → ((m.fields config user token).lookup name).isSome = true := by
  intro name hname
  have hmem := place_mem_of_templates ht hname
  simp only [List.mem_cons, List.not_mem_nil, or_false] at hmem
  rcases hmem with rfl | rfl | rfl | rfl | rfl | rfl <;> simp [fields, Json.lookup_cons]

theorem filled_resetSubject :
    filled (.obj (m.fields config user token)) resetSubject.pieces
      = "Password reset on " ++ escape m.siteName ++ "\n" := by
  simp only [filled, resetSubject, Json.get?, fields, Json.lookup_cons, String.reduceEq, if_false,
    if_true, Option.map_some, Option.getD_some, valueText, String.append_empty, String.append_assoc]

theorem filled_resetBody :
    filled (.obj ((standard config.siteName config.siteDomain).fields config user token))
        resetBody.pieces
      = config.beforeLink ++ resetLink config.protocol config.siteDomain user.id token
        ++ config.afterLink user := by
  -- The template has the last slash of the link and the text after it in one part.
  have hslash : "/\n\nYour username, in case you've forgotten: "
      = "/" ++ "\n\nYour username, in case you've forgotten: " := rfl
  unfold Config.beforeLink Config.afterLink resetLink
  simp only [hslash, filled, resetBody, Json.get?, fields, Json.lookup_cons, String.reduceEq,
    if_false, if_true, Option.map_some, Option.getD_some, valueText, standard, String.append_empty,
    String.append_assoc]

/-- The service can always write its mail to a user. -/
theorem message_standard :
    (standard config.siteName config.siteDomain).message config user token
      = .ok (config.resetMail user token) := by
  have hcovers := fun t ht =>
    (standard config.siteName config.siteDomain).covers_templates config user token (t := t) ht
  have hsubject := render_of_covered (show template? resetSubject.name = some resetSubject from rfl)
    (hcovers resetSubject (by decide))
  have hbody := render_of_covered (show template? resetBody.name = some resetBody from rfl)
    (hcovers resetBody (by decide))
  rw [filled_resetSubject] at hsubject
  rw [filled_resetBody] at hbody
  have hcontext : (standard config.siteName config.siteDomain).context config user token
      = .obj ((standard config.siteName config.siteDomain).fields config user token) := rfl
  have hsubjectName : (standard config.siteName config.siteDomain).subject
      = resetSubject.name := rfl
  have hbodyName : (standard config.siteName config.siteDomain).body = resetBody.name := rfl
  unfold message renderLine
  rw [hcontext, hsubjectName, hbodyName, hsubject, hbody]
  rfl

end ResetMail

end CookieAuth
