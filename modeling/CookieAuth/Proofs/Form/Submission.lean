import CookieAuth.Account.Login
import CookieAuth.Account.PasswordReset
import CookieAuth.Account.Registration
import CookieAuth.Proofs.Form.Encoding

/-!
# The form that was sent is the form that is read

A body is a list of segments with ampersands between them.  Those about the fields of a form give
their values, and all others are skipped.  Whatever the order and the spelling, the values that are
read are those that were written.  A field that occurs twice is an error of the form as a whole.

## Main definitions

* `Form.Fills`: segments give the fields of a form their values;
* `Form.Sends`: a request sends segments as an encoded form;
* `Form.Refused`: one message about a field that occurs twice.

## Main results

* `Form.firstRepeatedFrom?_eq_none_iff`, `Form.of_firstRepeatedFrom?_eq_some`: which field is
  reported as repeated;
* `Form.Fills.value_eq`: the values that are read;
* `sent_form_is_read`: the three forms.
-/

namespace CookieAuth

open Http Text

namespace Form

open Urlencoded

/-! ### Repeated fields -/

section Repeated

variable {known seen : List String} {pairs : List (String × String)}

/-- Nothing is repeated exactly if no known field occurs in two pairs, or in one pair if it has
occurred before. -/
theorem firstRepeatedFrom?_eq_none_iff :
    firstRepeatedFrom? known seen pairs = none ↔ ∀ f ∈ known,
      (f ∈ seen → ∀ p ∈ pairs, p.1 ≠ f) ∧ pairs.Pairwise fun p q => ¬ (p.1 = f ∧ q.1 = f) := by
  induction pairs generalizing seen with
  | nil => simp [firstRepeatedFrom?]
  | cons p rest ih =>
    obtain ⟨name, value⟩ := p
    rw [firstRepeatedFrom?]
    by_cases hknown : name ∈ known
    · rw [if_pos (by simpa using hknown)]
      by_cases hseen : name ∈ seen
      · rw [if_pos (by simpa using hseen)]
        simp only [reduceCtorEq, false_iff]
        intro h
        exact (h name hknown).1 hseen (name, value) List.mem_cons_self rfl
      · -- From here on the field counts as seen, so no later pair may have it.
        rw [if_neg (by simpa using hseen), ih]
        simp only [List.mem_cons, List.pairwise_cons]
        grind
    · rw [if_neg (by simpa using hknown), ih]
      simp only [List.mem_cons, List.pairwise_cons]
      grind

/-- The field that is reported is known and repeated. -/
theorem of_firstRepeatedFrom?_eq_some {field : String}
    (h : firstRepeatedFrom? known seen pairs = some field) :
    field ∈ known ∧ ((field ∈ seen ∧ ∃ p ∈ pairs, p.1 = field) ∨
      ¬ pairs.Pairwise fun p q => ¬ (p.1 = field ∧ q.1 = field)) := by
  induction pairs generalizing seen with
  | nil => simp [firstRepeatedFrom?] at h
  | cons p rest ih =>
    obtain ⟨name, value⟩ := p
    rw [firstRepeatedFrom?] at h
    by_cases hknown : name ∈ known
    · rw [if_pos (by simpa using hknown)] at h
      by_cases hseen : name ∈ seen
      · rw [if_pos (by simpa using hseen)] at h
        obtain rfl := Option.some.inj h
        exact ⟨hknown, .inl ⟨hseen, (name, value), List.mem_cons_self, rfl⟩⟩
      · rw [if_neg (by simpa using hseen)] at h
        have := ih h
        simp only [List.mem_cons, List.pairwise_cons]
        grind
    · rw [if_neg (by simpa using hknown)] at h
      have := ih h
      simp only [List.mem_cons, List.pairwise_cons]
      grind

end Repeated

/-! ### Bodies -/

/-- The segments of a body give the fields of a form their values.  What they say about a field is
its value, a field that is not empty occurs, and none occurs twice.  Nothing is asked of segments
about other fields. -/
structure Fills (fields : List (String × String)) (segments : List (List UInt8)) : Prop where
  /-- What is said about a field is its value. -/
  faithful : ∀ f ∈ fields, ∀ s ∈ segments, ∀ bytes, Sets f.1 bytes s → bytes = bytesOf f.2
  /-- Only an empty field may be left out. -/
  complete : ∀ f ∈ fields, f.2 = "" ∨ ∃ s ∈ segments, Names f.1 s
  /-- No field occurs twice. -/
  once : ∀ f ∈ fields, ¬ Repeats f.1 segments

theorem fills_iff {fields : List (String × String)} {segments : List (List UInt8)} :
    Fills fields segments ↔
      (∀ f ∈ fields, ∀ s ∈ segments, (parts s).1 = bytesOf f.1 → (parts s).2 = bytesOf f.2) ∧
      (∀ f ∈ fields, f.2 = "" ∨ ∃ s ∈ segments, Names f.1 s) ∧
      ∀ f ∈ fields, ¬ Repeats f.1 segments := by
  constructor
  · intro h
    refine ⟨fun f hf s hs hname => ?_, h.complete, h.once⟩
    exact h.faithful f hf s hs _ (sets_iff.mpr (Prod.ext hname rfl))
  · rintro ⟨hfaithful, hcomplete, honce⟩
    refine ⟨fun f hf s hs bytes hsets => ?_, hcomplete, honce⟩
    have hparts := sets_iff.mp hsets
    rw [← hfaithful f hf s hs (by rw [hparts]), hparts]

instance (fields : List (String × String)) (segments : List (List UInt8)) :
    Decidable (Fills fields segments) :=
  decidable_of_iff _ fills_iff.symm

/-- A request that sends an encoded form. -/
structure Sends (r : Request) (segments : List (List UInt8)) : Prop where
  /-- The form is posted. -/
  method : r.method = "POST"
  /-- It is said to be a form, with parameters or without. -/
  type : ∃ params, (r.values "content-type").head? = some (bytesOf formType ++ params) ∧
    ∀ b ∈ params, isVisible b = true
  /-- The body is made of the segments, with ampersands between them. -/
  body : r.body = [0x26].intercalate segments
  /-- The segments have none. -/
  closed : ∀ s ∈ segments, 0x26 ∉ s
  /-- The body is not too long. -/
  limit : r.body.length ≤ 2097152

variable {r : Request} {segments : List (List UInt8)} {field : String}

theorem hasFormType_of_header {params : List UInt8}
    (h : (r.values "content-type").head? = some (bytesOf formType ++ params))
    (hparams : ∀ b ∈ params, isVisible b = true) : hasFormType r = true := by
  have hvisible : (bytesOf formType).all isVisible = true := by decide +kernel
  have htext : (bytesOf formType).map (fun b => Char.ofNat b.toNat) = formType.toList := by
    decide +kernel
  have hall : (bytesOf formType ++ params).all isVisible = true := by
    rw [List.all_append, hvisible, Bool.true_and, List.all_eq_true]
    exact hparams
  unfold hasFormType
  rw [h, Option.bind_some, visibleText?, if_pos hall]
  simp only [String.toList_ofList, List.map_append, htext, List.isPrefixOf_iff_prefix,
    List.prefix_append]

theorem Sends.submitted (h : Sends r segments) : submitted r = .ok (pairsOf segments) := by
  obtain ⟨params, hheader, hparams⟩ := h.type
  have hget : r.method ≠ "GET" := by
    rw [h.method]
    decide
  have hlimit : ¬ bodyLimit < r.body.length := Nat.not_lt.mpr h.limit
  unfold Form.submitted
  rw [if_neg hget, hasFormType_of_header hheader hparams, if_neg (by simp), if_neg hlimit, h.body,
    pairs_intercalate h.closed]

/-- The value of a field on which all pairs agree. -/
theorem value_eq {pairs : List (String × String)} {v : String}
    (hall : ∀ p ∈ pairs, p.1 = field → p.2 = v) (hsome : v = "" ∨ ∃ p ∈ pairs, p.1 = field) :
    value pairs field = v := by
  unfold value
  cases hlookup : pairs.lookup field with
  | none =>
    rcases hsome with rfl | ⟨p, hp, rfl⟩
    · rfl
    · rw [List.lookup_eq_none_iff] at hlookup
      exact absurd (hlookup p hp) (by simp)
  | some value =>
    obtain ⟨before, after, rfl, -⟩ := List.lookup_eq_some_iff.mp hlookup
    exact hall (field, value) (by simp) rfl

variable {fields : List (String × String)}

/-- The form that fills the body has the values that are read. -/
theorem Fills.value_eq (h : Fills fields segments) {f : String × String} (hf : f ∈ fields)
    (hname : IsName f.1) : value (pairsOf segments) f.1 = f.2 := by
  apply Form.value_eq
  · intro p hp hfield
    obtain ⟨s, hs, -, rfl⟩ := mem_pairsOf_iff.mp hp
    obtain ⟨bytes, hsets⟩ := hname.names_iff_pair.mpr hfield
    have hparts := sets_iff.mp hsets
    rw [pair_eq, hparts, h.faithful f hf s hs bytes hsets]
    exact readLossy_bytesOf f.2
  · refine (h.complete f hf).imp_right ?_
    rintro ⟨s, hs, hnames⟩
    exact ⟨pair s, mem_pairsOf_iff.mpr ⟨s, hs, hname.ne_nil hnames, rfl⟩,
      hname.names_iff_pair.mp hnames⟩

/-- A body that gives the fields their values is read as the form with these values. -/
theorem Sends.read_of_fills (hsends : Sends r segments) (h : Fills fields segments)
    (hnames : ∀ name ∈ fields.map (·.1), IsName name) {F : Type}
    {ofPairs : List (String × String) → F} {form : F}
    (hform : (∀ f ∈ fields, value (pairsOf segments) f.1 = f.2) →
      ofPairs (pairsOf segments) = form) :
    (read (fields.map (·.1)) r).map ofPairs = .ok form := by
  have hnone : firstRepeated? (fields.map (·.1)) (pairsOf segments) = none := by
    refine firstRepeatedFrom?_eq_none_iff.mpr fun field hfield => ⟨by simp, ?_⟩
    obtain ⟨f, hf, rfl⟩ := List.mem_map.mp hfield
    exact (hnames f.1 hfield).not_repeats_iff.mp (h.once f hf)
  have hvalues := hform fun f hf => h.value_eq hf (hnames f.1 (List.mem_map_of_mem hf))
  rw [read, readPairs, hsends.submitted]
  simp only [hnone, Except.map, hvalues]

/-- A body in which a known field occurs twice is refused, and the message names such a field. -/
theorem Sends.read_of_repeats (hsends : Sends r segments) {known : List String}
    (hnames : ∀ f ∈ known, IsName f) (hfield : field ∈ known) (h : Repeats field segments) :
    ∃ f ∈ known, Repeats f segments ∧
      read known r = .error (.nonField (InputError.repeated true f).message) := by
  cases hfirst : firstRepeated? known (pairsOf segments) with
  | none =>
    have hpairwise := (firstRepeatedFrom?_eq_none_iff.mp hfirst field hfield).2
    exact absurd h ((hnames field hfield).not_repeats_iff.mpr hpairwise)
  | some f =>
    obtain ⟨hf, ⟨hseen, -⟩ | hpairwise⟩ := of_firstRepeatedFrom?_eq_some hfirst
    · exact absurd hseen (by simp)
    · refine ⟨f, hf, ?_, ?_⟩
      · exact Classical.not_not.mp (mt (hnames f hf).not_repeats_iff.mp hpairwise)
      · have hmethod : (decide (r.method ≠ "GET") && decide (r.method ≠ "HEAD")) = true := by
          rw [hsends.method]
          decide
        rw [read, readPairs, hsends.submitted]
        simp only [hfirst, hmethod]

/-- The result of reading a body in which a field occurs twice: one message about the form as a
whole, which names such a field. -/
def Refused {F : Type} (known : List String) (segments : List (List UInt8))
    (result : Except FormErrors F) : Prop :=
  ∃ f ∈ known, Repeats f segments ∧ result = .error
    { entries := [("__all__", ["Failed to deserialize form body: duplicate field `" ++ f ++ "`"])] }

theorem Sends.refused (hsends : Sends r segments) {known : List String}
    (hnames : ∀ f ∈ known, IsName f) (hfield : field ∈ known) (h : Repeats field segments)
    {F : Type} (ofPairs : List (String × String) → F) :
    Refused known segments ((read known r).map ofPairs) := by
  obtain ⟨f, hf, hrepeats, hread⟩ := hsends.read_of_repeats hnames hfield h
  refine ⟨f, hf, hrepeats, ?_⟩
  rw [hread]
  rfl

end Form

open Form Urlencoded

/-- The fields of the form with their values. -/
def LoginForm.pairs (form : LoginForm) : List (String × String) :=
  [("username", form.username), ("password", form.password)]

/-- The fields of the form with their values. -/
def RegistrationForm.pairs (form : RegistrationForm) : List (String × String) :=
  [("username", form.username), ("email", form.email), ("password1", form.password1),
    ("password2", form.password2)]

/-- The fields of the form with their values. -/
def ResetForm.pairs (form : ResetForm) : List (String × String) :=
  [("email", form.email)]

/-- A request sends an encoded form.  If its segments give the fields of a form their values, in
any spelling and order, then this form is read.  If a field of the form occurs twice, then there is
one message, about the form as a whole. -/
theorem sent_form_is_read (r : Request) (segments : List (List UInt8)) (hsends : Sends r segments) :
    -- The form that was sent is read.
    ((∀ form : LoginForm, Fills form.pairs segments → LoginForm.read r = .ok form) ∧
      (∀ form : RegistrationForm, Fills form.pairs segments → RegistrationForm.read r = .ok form) ∧
      (∀ form : ResetForm, Fills form.pairs segments → ResetForm.read r = .ok form)) ∧
    -- A field that occurs twice is reported.
    ((∀ field ∈ LoginForm.fields, Repeats field segments →
        Refused LoginForm.fields segments (LoginForm.read r)) ∧
      (∀ field ∈ RegistrationForm.fields, Repeats field segments →
        Refused RegistrationForm.fields segments (RegistrationForm.read r)) ∧
      (∀ field ∈ ResetForm.fields, Repeats field segments →
        Refused ResetForm.fields segments (ResetForm.read r))) := by
  have hlogin : ∀ f ∈ LoginForm.fields, IsName f := by decide +kernel
  have hregistration : ∀ f ∈ RegistrationForm.fields, IsName f := by decide +kernel
  have hreset : ∀ f ∈ ResetForm.fields, IsName f := by decide +kernel
  refine ⟨⟨fun form hfills => ?_, fun form hfills => ?_, fun form hfills => ?_⟩,
    fun field hfield h => hsends.refused hlogin hfield h _,
    fun field hfield h => hsends.refused hregistration hfield h _,
    fun field hfield h => hsends.refused hreset hfield h _⟩
  · refine hsends.read_of_fills hfills hlogin fun hvalue => ?_
    simp only [LoginForm.pairs, List.forall_mem_cons] at hvalue
    simp only [LoginForm.ofPairs, hvalue]
  · refine hsends.read_of_fills hfills hregistration fun hvalue => ?_
    simp only [RegistrationForm.pairs, List.forall_mem_cons] at hvalue
    simp only [RegistrationForm.ofPairs, hvalue]
  · refine hsends.read_of_fills hfills hreset fun hvalue => ?_
    simp only [ResetForm.pairs, List.forall_mem_cons] at hvalue
    simp only [ResetForm.ofPairs, hvalue]

namespace Sample

/-- A request that sends segments. -/
def sending (segments : List (List UInt8)) : Request where
  method := "POST"
  target := "/"
  headers := [("Content-Type", bytesOf "application/x-www-form-urlencoded; charset=utf-8")]
  body := [0x26].intercalate segments

/-- Nothing, a byte that is no text, a password in several spellings, and no name. -/
def oddSegments : List (List UInt8) :=
  ["", "x=%FF%", "pass%77ord=%c3%A4+ä%2B=%"].map bytesOf

/-- An address in two segments, of which the second has no value. -/
def twoAddresses : List (List UInt8) :=
  ["email=ann%40example.com", "x", "%65mail"].map bytesOf

theorem sends_sending {segments : List (List UInt8)} (hclosed : ∀ s ∈ segments, 0x26 ∉ s)
    (hlimit : ([0x26].intercalate segments).length ≤ 2097152) :
    Sends (sending segments) segments where
  method := rfl
  type := ⟨bytesOf "; charset=utf-8", rfl, by decide +kernel⟩
  body := rfl
  closed := hclosed
  limit := hlimit

end Sample

open Sample in
/-- A password with a letter, a blank and signs is read, and a second address is refused. -/
theorem sent_password_is_read :
    Fills (LoginForm.pairs ⟨"", "ä ä+=%"⟩) oddSegments ∧
      LoginForm.read (sending oddSegments) = .ok ⟨"", "ä ä+=%"⟩ ∧
      Refused ResetForm.fields twoAddresses (ResetForm.read (sending twoAddresses)) := by
  have hfills : Fills (LoginForm.pairs ⟨"", "ä ä+=%"⟩) oddSegments := by decide +kernel
  have hodd := sent_form_is_read (sending oddSegments) oddSegments
    (sends_sending (by decide +kernel) (by decide +kernel))
  have htwo := sent_form_is_read (sending twoAddresses) twoAddresses
    (sends_sending (by decide +kernel) (by decide +kernel))
  exact ⟨hfills, hodd.1.1 _ hfills, htwo.2.2.2 "email" (by decide) (by decide +kernel)⟩

end CookieAuth
