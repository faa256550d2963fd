import CookieAuth.Http.Csrf
import CookieAuth.Proofs.Text.Basic
import Mathlib.Logic.Relation

/-!
# Cookies do not depend on how headers are cut

A browser sends its cookies in one header, but what is on the way may cut it into several, at any
semicolon, or join several with a semicolon and a blank between them.  A cookie is looked up among
the segments between the semicolons of all headers that can be read, so neither makes a difference.
Segments that are no cookies and headers that cannot be read are passed over.

## Main definitions

* `IsReadable`: a header that can be read as text;
* `cookieSegments`: the segments of the headers that can be read, in order;
* `IsCookie`: a segment is a cookie of a name with a value;
* `Regrouped`: headers are joined or cut, or one without cookies is left out.

## Main results

* `cookiePair?_eq_some_iff`: a segment is read exactly if it is a cookie;
* `Request.firstCookie?_iff`: which value is found;
* `cookiesOf_regrouped`: regrouping headers keeps all cookies in their order;
* `Request.cookies_survive_regrouping`: looking up cookies and checking the token.
-/

namespace CookieAuth.Http

open Text

/-! ### Segments -/

/-- A header that can be read as text. -/
def IsReadable (value : List UInt8) : Prop :=
  ∀ b ∈ value, isVisible b = true

/-- The segments of the headers that can be read, in order. -/
def cookieSegments (values : List (List UInt8)) : List (List Char) :=
  (values.filterMap visibleText?).flatMap fun text => text.toList.splitOn ';'

/-- A segment is a cookie of a name with a value: the name is not empty and stands, with blanks
around it, before the first equals sign, and the value after it. -/
def IsCookie (name value : String) (segment : List Char) : Prop :=
  name ≠ "" ∧ ∃ before after, segment = before ++ '=' :: after ∧ '=' ∉ before ∧
    String.ofList (trimList before) = name ∧ String.ofList (trimList after) = value

/-- A segment is read exactly if it is a cookie. -/
theorem cookiePair?_eq_some_iff {name value : String} {segment : List Char} :
    cookiePair? segment = some (name, value) ↔ IsCookie name value segment := by
  have hempty : ∀ cs : List Char, cs.isEmpty = true ↔ String.ofList cs = "" := by
    intro cs
    rw [List.isEmpty_iff, ← String.toList_inj, String.toList_ofList, String.toList_empty]
  constructor
  · intro h
    unfold cookiePair? at h
    split at h
    · simp at h
    · next before after hsplit =>
      obtain ⟨rfl, hbefore⟩ := splitFirst?_eq_some_iff.mp hsplit
      dsimp only at h
      split at h
      · simp at h
      · next hname =>
        obtain ⟨rfl, rfl⟩ := Prod.mk.inj (Option.some.inj h)
        exact ⟨mt (hempty _).mpr hname, before, after, rfl, hbefore, rfl, rfl⟩
  · rintro ⟨hname, before, after, rfl, hbefore, rfl, rfl⟩
    have hsplit : splitFirst? '=' (before ++ '=' :: after) = some (before, after) :=
      splitFirst?_eq_some_iff.mpr ⟨rfl, hbefore⟩
    rw [cookiePair?, hsplit]
    dsimp only
    rw [if_neg (mt (hempty _).mp hname)]

/-- The cookies in headers, in order. -/
def cookiesOf (values : List (List UInt8)) : List (String × String) :=
  (cookieSegments values).filterMap cookiePair?

namespace Request

variable {r r' : Request}

theorem firstCookie?_eq_lookup (r : Request) (name : String) :
    r.firstCookie? name = (cookiesOf (r.values cookieHeader)).lookup name := by
  have hpairs : cookiePairs = fun text => (text.toList.splitOn ';').filterMap cookiePair? := by
    funext text
    rw [cookiePairs, splitAll_eq_splitOn]
  rw [firstCookie?, hpairs, cookiesOf, cookieSegments, List.filterMap_flatMap]

/-- The value that is found is that of the first cookie of the name. -/
theorem firstCookie?_iff {name value : String} :
    r.firstCookie? name = some value ↔
      ∃ earlier segment later,
        cookieSegments (r.values cookieHeader) = earlier ++ segment :: later ∧
        (∀ s ∈ earlier, ∀ v, ¬ IsCookie name v s) ∧ IsCookie name value segment := by
  rw [firstCookie?_eq_lookup, cookiesOf]
  generalize cookieSegments (r.values cookieHeader) = segments
  simp only [← cookiePair?_eq_some_iff, List.lookup_eq_some_iff, bne_iff_ne]
  constructor
  · rintro ⟨cookies, more, hsplit, hcookies⟩
    obtain ⟨front, rest, rfl, rfl, hrest⟩ := List.filterMap_eq_append_iff.mp hsplit
    obtain ⟨skipped, segment, later, rfl, hskipped, hsegment, -⟩ :=
      List.filterMap_eq_cons_iff.mp hrest
    refine ⟨front ++ skipped, segment, later, by simp, fun s hs v hv => ?_, hsegment⟩
    rcases List.mem_append.mp hs with hs | hs
    · exact hcookies (name, v) (List.mem_filterMap.mpr ⟨s, hs, hv⟩) rfl
    · exact absurd (hskipped s hs) (by simp [hv])
  · rintro ⟨earlier, segment, later, rfl, hearlier, hsegment⟩
    refine ⟨earlier.filterMap cookiePair?, later.filterMap cookiePair?, ?_, ?_⟩
    · rw [List.filterMap_append, List.filterMap_cons_some hsegment]
    · rintro ⟨other, v⟩ hcookie rfl
      obtain ⟨s, hs, hv⟩ := List.mem_filterMap.mp hcookie
      exact hearlier s hs v hv

end Request

/-! ### Headers -/

/-- Headers are joined or cut, or one is left out that has no cookies, such as one that cannot be
read. -/
inductive Regrouped : List (List UInt8) → List (List UInt8) → Prop where
  /-- Headers that can be read are joined with a semicolon and a blank between them. -/
  | join (before headers after : List (List UInt8)) (hsome : headers ≠ [])
    (h : ∀ value ∈ headers, IsReadable value) :
    Regrouped (before ++ headers ++ after)
      (before ++ [[0x3B, 0x20].intercalate headers] ++ after)
  /-- A header that can be read is cut at a semicolon. -/
  | cut (before : List (List UInt8)) (x y : List UInt8) (after : List (List UInt8))
    (h : IsReadable (x ++ 0x3B :: y)) :
    Regrouped (before ++ [x ++ 0x3B :: y] ++ after) (before ++ [x, y] ++ after)
  /-- A header without cookies is left out. -/
  | skip (before : List (List UInt8)) (value : List UInt8) (after : List (List UInt8))
    (h : ∀ s ∈ cookieSegments [value], ∀ name v, ¬ IsCookie name v s) :
    Regrouped (before ++ [value] ++ after) (before ++ after)

theorem cookiesOf_append (values more : List (List UInt8)) :
    cookiesOf (values ++ more) = cookiesOf values ++ cookiesOf more := by
  simp only [cookiesOf, cookieSegments, List.filterMap_append, List.flatMap_append]

theorem cookiesOf_pair (x y : List UInt8) : cookiesOf [x, y] = cookiesOf [x] ++ cookiesOf [y] :=
  cookiesOf_append [x] [y]

/-- The characters of a header. -/
def charsOf (value : List UInt8) : List Char :=
  value.map fun b => Char.ofNat b.toNat

theorem cookiesOf_singleton {value : List UInt8} (h : IsReadable value) :
    cookiesOf [value] = ((charsOf value).splitOn ';').filterMap cookiePair? := by
  have htext : visibleText? value = some (String.ofList (charsOf value)) :=
    if_pos (List.all_eq_true.mpr h)
  rw [cookiesOf, cookieSegments, List.filterMap_cons_some htext]
  simp

/-- A header with a semicolon has the cookies of both parts. -/
theorem cookiesOf_cut {x y : List UInt8} (h : IsReadable (x ++ 0x3B :: y)) :
    cookiesOf [x ++ 0x3B :: y] = cookiesOf [x, y] := by
  have hx : IsReadable x := fun b hb => h b (List.mem_append_left _ hb)
  have hy : IsReadable y := fun b hb => h b (List.mem_append_right _ (List.mem_cons_of_mem _ hb))
  have hchars : charsOf (x ++ 0x3B :: y) = charsOf x ++ ';' :: charsOf y := by
    rw [charsOf, List.map_append, List.map_cons]
    rfl
  rw [cookiesOf_pair, cookiesOf_singleton h, cookiesOf_singleton hx,
    cookiesOf_singleton hy, hchars, List.splitOn_append_cons_self, List.filterMap_append]

theorem cookiePair?_blank (segment : List Char) :
    cookiePair? (' ' :: segment) = cookiePair? segment := by
  cases hsplit : splitFirst? '=' segment with
  | none =>
    have hblank : splitFirst? '=' (' ' :: segment) = none := by
      rw [splitFirst?_eq_none_iff, List.mem_cons, not_or]
      exact ⟨by decide, splitFirst?_eq_none_iff.mp hsplit⟩
    rw [cookiePair?, cookiePair?, hblank, hsplit]
  | some halves =>
    obtain ⟨before, after⟩ := halves
    obtain ⟨rfl, hbefore⟩ := splitFirst?_eq_some_iff.mp hsplit
    have hblank : splitFirst? '=' (' ' :: (before ++ '=' :: after)) = some (' ' :: before, after) :=
      splitFirst?_eq_some_iff.mpr ⟨rfl, List.not_mem_cons_of_ne_of_not_mem (by decide) hbefore⟩
    have htrim : trimList (' ' :: before) = trimList before := rfl
    rw [cookiePair?, cookiePair?, hblank, hsplit]
    dsimp only
    rw [htrim]

/-- A blank before a header makes no difference. -/
theorem cookiesOf_blank {value : List UInt8} (h : IsReadable value) :
    cookiesOf [0x20 :: value] = cookiesOf [value] := by
  have hblank : IsReadable (0x20 :: value) := List.forall_mem_cons.mpr ⟨by decide, h⟩
  have hchars : charsOf (0x20 :: value) = ' ' :: charsOf value := rfl
  rw [cookiesOf_singleton hblank, cookiesOf_singleton h, hchars,
    List.splitOn_cons_eq_if_modifyHead, if_neg (by decide)]
  obtain ⟨first, others, hsegments⟩ :=
    List.exists_cons_of_ne_nil (List.splitOn_ne_nil ';' (charsOf value))
  rw [hsegments, List.modifyHead_cons, List.filterMap_cons, List.filterMap_cons,
    cookiePair?_blank]

/-- Joined headers have the cookies of all of them. -/
theorem cookiesOf_join {headers : List (List UInt8)} (hsome : headers ≠ [])
    (h : ∀ value ∈ headers, IsReadable value) :
    IsReadable ([0x3B, 0x20].intercalate headers) ∧
      cookiesOf [[0x3B, 0x20].intercalate headers] = cookiesOf headers := by
  induction headers with
  | nil => exact absurd rfl hsome
  | cons first rest ih =>
    obtain ⟨hfirst, hrest⟩ := List.forall_mem_cons.mp h
    cases rest with
    | nil => rw [List.intercalate_singleton]; exact ⟨hfirst, rfl⟩
    | cons second others =>
      obtain ⟨hreadable, hcookies⟩ := ih (List.cons_ne_nil _ _) hrest
      have hjoined : [0x3B, 0x20].intercalate (first :: second :: others)
          = first ++ 0x3B :: 0x20 :: [0x3B, 0x20].intercalate (second :: others) := by
        rw [List.intercalate_cons_cons, List.append_assoc]
        rfl
      rw [hjoined]
      have hall : IsReadable
          (first ++ 0x3B :: 0x20 :: [0x3B, 0x20].intercalate (second :: others)) := by
        intro b hb
        simp only [List.mem_append, List.mem_cons] at hb
        rcases hb with hb | rfl | rfl | hb
        · exact hfirst b hb
        · decide
        · decide
        · exact hreadable b hb
      -- Cut after the first header; the blank before the others makes no difference.
      refine ⟨hall, ?_⟩
      rw [cookiesOf_cut hall, cookiesOf_pair, cookiesOf_blank hreadable, hcookies,
        ← cookiesOf_append]
      rfl

/-- Regrouping headers keeps all cookies in their order. -/
theorem cookiesOf_regrouped {values values' : List (List UInt8)} (h : Regrouped values values') :
    cookiesOf values = cookiesOf values' := by
  cases h with
  | join before headers after hsome h =>
    rw [cookiesOf_append, cookiesOf_append, cookiesOf_append, cookiesOf_append,
      (cookiesOf_join hsome h).2]
  | cut before x y after h =>
    rw [cookiesOf_append, cookiesOf_append, cookiesOf_append, cookiesOf_append, cookiesOf_cut h]
  | skip before value after h =>
    have hnone : cookiesOf [value] = [] := by
      rw [cookiesOf, List.filterMap_eq_nil_iff]
      intro s hs
      rw [Option.eq_none_iff_forall_ne_some]
      rintro ⟨name, v⟩ hv
      exact h s hs name v (cookiePair?_eq_some_iff.mp hv)
    rw [cookiesOf_append, cookiesOf_append, cookiesOf_append, hnone, List.append_nil]

theorem cookiesOf_eqvGen {values values' : List (List UInt8)}
    (h : Relation.EqvGen Regrouped values values') : cookiesOf values = cookiesOf values' := by
  induction h with
  | rel _ _ h => exact cookiesOf_regrouped h
  | refl _ => rfl
  | symm _ _ _ ih => exact ih.symm
  | trans _ _ _ _ _ ih ih' => exact ih.trans ih'

namespace Request

/-- The value of a cookie is that of the first segment of that name, over all headers that can be
read.  So it does not change when headers are joined or cut, in any number of steps and back, or
when headers and segments come and go that are no cookies.  Neither does the check of the token, if
the header for the token is the same. -/
theorem cookies_survive_regrouping :
    (∀ (r : Request) (name value : String), r.firstCookie? name = some value ↔
      ∃ earlier segment later,
        cookieSegments (r.values "cookie") = earlier ++ segment :: later ∧
        (∀ s ∈ earlier, ∀ v, ¬ IsCookie name v s) ∧ IsCookie name value segment) ∧
    ∀ r r' : Request, Relation.EqvGen Regrouped (r.values "cookie") (r'.values "cookie") →
      (∀ name, r.firstCookie? name = r'.firstCookie? name) ∧
      (r.values "x-csrftoken" = r'.values "x-csrftoken" → r.tokenMatches = r'.tokenMatches) := by
  refine ⟨fun r name value => firstCookie?_iff, fun r r' h => ?_⟩
  have hcookies : ∀ name, r.firstCookie? name = r'.firstCookie? name := by
    intro name
    rw [firstCookie?_eq_lookup, firstCookie?_eq_lookup]
    exact congrArg (List.lookup name) (cookiesOf_eqvGen h)
  refine ⟨hcookies, fun hheader => ?_⟩
  have hheader : r.values csrfHeader = r'.values csrfHeader := hheader
  rw [tokenMatches, tokenMatches, hcookies, hheader]

end Request

end CookieAuth.Http

namespace CookieAuth.Sample

open Http Text

/-- A request with cookies in three headers: segments that are no cookies, a byte that is no text,
and the token with blanks around it. -/
def cutCookies : Request where
  method := "POST"
  target := "/"
  headers := [("cookie", bytesOf "theme; = dark"), ("Cookie", [0xFF]),
    ("cookie", bytesOf " csrftoken = tok=1 ;id=2"), ("X-CSRFToken", bytesOf "tok=1")]

/-- The same in one header. -/
def joinedCookies : Request where
  method := "POST"
  target := "/"
  headers := [("X-CSRFToken", bytesOf "tok=1"),
    ("Cookie", bytesOf "theme; = dark;  csrftoken = tok=1 ;id=2")]

end CookieAuth.Sample

namespace CookieAuth.Http.Request

open Sample Text

/-- The token is found before and after joining the headers. -/
theorem token_found_in_both : cutCookies.firstCookie? "csrftoken" = some "tok=1" ∧
    joinedCookies.firstCookie? "csrftoken" = some "tok=1" ∧ cutCookies.tokenMatches = true ∧
    joinedCookies.tokenMatches = true := by
  have hcut : cutCookies.values "cookie" = [bytesOf "theme; = dark"] ++ [[0xFF]]
      ++ [bytesOf " csrftoken = tok=1 ;id=2"] := by
    decide +kernel
  have hjoined : joinedCookies.values "cookie" = [] ++ [[0x3B, 0x20].intercalate
      ([bytesOf "theme; = dark"] ++ [bytesOf " csrftoken = tok=1 ;id=2"])] ++ [] := by
    decide +kernel
  have hnone : cookieSegments [[0xFF]] = [] := by decide +kernel
  have hregrouped : Relation.EqvGen Regrouped (cutCookies.values "cookie")
      (joinedCookies.values "cookie") := by
    rw [hcut, hjoined]
    have hreadable : ∀ value ∈ [bytesOf "theme; = dark", bytesOf " csrftoken = tok=1 ;id=2"],
        IsReadable value := by
      unfold IsReadable
      decide +kernel
    exact .trans _ _ _ (.rel _ _ (.skip _ _ _ (by simp [hnone])))
      (.rel _ _ (.join [] _ [] (by simp) hreadable))
  obtain ⟨hcookies, htoken⟩ := cookies_survive_regrouping.2 cutCookies joinedCookies hregrouped
  have hfirst : joinedCookies.firstCookie? "csrftoken" = some "tok=1" := by decide +kernel
  have hmatches : joinedCookies.tokenMatches = true := by decide +kernel
  exact ⟨(hcookies _).trans hfirst, hfirst, (htoken (by decide +kernel)).trans hmatches, hmatches⟩

end CookieAuth.Http.Request
