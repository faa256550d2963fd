import CookieAuth.Proofs.Account.Dispatches
import Mathlib.Data.List.Chain

/-!
# The subjects of mails

A subject is to be one line.  It is made from the name of the site, which is escaped for markup
first, and then the line ends are dropped: line feeds, and carriage returns right before them.  So
the subject is not always the text that it is meant to be.  A carriage return that stands alone is
not a line end here and stays, and what is escaped stays escaped although the subject is plain text.
This file has the exact condition on the name.

## Main definitions

* `Mail.isBreak`, `Mail.withoutBreaks`: the characters of line ends, and a text without them;
* `Mail.PairedReturns`: texts without a carriage return that stands alone.

## Main results

* `Mail.return_not_mem_dropLineEnds_iff`: when all carriage returns are dropped;
* `Mail.dropLineEnds_flatMap_escapeChar`: dropping line ends and escaping can be exchanged;
* `Mail.escaped_line_eq_filter_iff`: when a text is itself, without the characters of line ends;
* `World.subject_faithful_iff`: the subjects that are sent.
-/

namespace CookieAuth

namespace Mail

variable {b c : Char} {cs : List Char}

/-! ### Line ends -/

/-- A character of which line ends consist. -/
def isBreak (c : Char) : Bool := c = '\n' || c = '\r'

/-- A text without its line feeds and carriage returns. -/
def withoutBreaks (text : String) : String :=
  String.ofList (text.toList.filter fun c => !isBreak c)

/-- A character belongs to a line end, in view of the one after it. -/
def EndsLine (c : Char) (next : Option Char) : Prop :=
  c = '\n' ∨ c = '\r' ∧ next = some '\n'

/-- Every carriage return stands right before a line feed, or is the last character. -/
def PairedReturns (cs : List Char) : Prop :=
  cs.IsChain fun c next => c = '\r' → next = '\n'

instance (cs : List Char) : Decidable (PairedReturns cs) :=
  inferInstanceAs (Decidable (cs.IsChain _))

theorem EndsLine.isBreak {next : Option Char} (h : EndsLine c next) : isBreak c = true := by
  rcases h with rfl | ⟨rfl, -⟩
  · rfl
  · rfl

theorem not_endsLine (h : isBreak c = false) (next : Option Char) : ¬ EndsLine c next := by
  intro hends
  rw [hends.isBreak] at h
  exact Bool.noConfusion h

theorem dropLineEnds_of_endsLine (h : EndsLine c cs.head?) :
    dropLineEnds (c :: cs) = dropLineEnds cs := by
  rcases h with rfl | ⟨rfl, hnext⟩
  · rw [dropLineEnds]
  · obtain ⟨rest, rfl⟩ := List.head?_eq_some_iff.mp hnext
    rw [dropLineEnds, dropLineEnds]

theorem dropLineEnds_of_not_endsLine (h : ¬ EndsLine c cs.head?) :
    dropLineEnds (c :: cs) = c :: dropLineEnds cs := by
  rw [dropLineEnds]
  · rintro rest rfl rfl
    exact h (.inr ⟨rfl, rfl⟩)
  · rintro rfl
    exact h (.inl rfl)

/-- No line feed is left. -/
theorem lineFeed_not_mem_dropLineEnds (cs : List Char) : '\n' ∉ dropLineEnds cs := by
  induction cs with
  | nil => exact List.not_mem_nil
  | cons c rest ih =>
    by_cases hends : EndsLine c rest.head?
    · rwa [dropLineEnds_of_endsLine hends]
    · rw [dropLineEnds_of_not_endsLine hends, List.mem_cons, not_or]
      exact ⟨fun hc => hends (.inl hc.symm), ih⟩

/-- Nothing else is dropped. -/
theorem filter_dropLineEnds (cs : List Char) :
    (dropLineEnds cs).filter (fun c => !isBreak c) = cs.filter fun c => !isBreak c := by
  induction cs with
  | nil => rfl
  | cons c rest ih =>
    by_cases hends : EndsLine c rest.head?
    · rw [dropLineEnds_of_endsLine hends, ih, List.filter_cons_of_neg (by simp [hends.isBreak])]
    · rw [dropLineEnds_of_not_endsLine hends, List.filter_cons, List.filter_cons, ih]

theorem pairedReturns_cons :
    PairedReturns (c :: cs) ↔ (c = '\r' → ∀ next ∈ cs.head?, next = '\n') ∧ PairedReturns cs := by
  unfold PairedReturns
  rw [List.isChain_cons]
  exact and_congr_left fun _ =>
    ⟨fun h hreturn next hnext => h next hnext hreturn,
      fun h next hnext hreturn => h hreturn next hnext⟩

/-- A carriage return is left exactly if one stands before something else than a line feed.  The
text is followed by a line feed here, so that a carriage return at its end is dropped. -/
theorem return_not_mem_dropLineEnds_iff (cs : List Char) :
    '\r' ∉ dropLineEnds (cs ++ ['\n']) ↔ PairedReturns cs := by
  induction cs with
  | nil => exact iff_of_true List.not_mem_nil List.isChain_nil
  | cons c rest ih =>
    -- The character after the first one may be the line feed at the end.
    have hnext : (rest ++ ['\n']).head? = some '\n' ↔ ∀ next ∈ rest.head?, next = '\n' := by
      cases rest with
      | nil => simp
      | cons d ds => simp
    rw [List.cons_append, pairedReturns_cons, ← ih]
    by_cases hends : EndsLine c (rest ++ ['\n']).head?
    · rw [dropLineEnds_of_endsLine hends]
      refine (and_iff_right ?_).symm
      rintro rfl
      rcases hends with hfeed | ⟨-, hfeed⟩
      · simp at hfeed
      · exact hnext.mp hfeed
    · rw [dropLineEnds_of_not_endsLine hends, List.mem_cons, not_or]
      refine and_congr_left fun _ => ⟨fun hc hreturn => absurd hreturn.symm hc, ?_⟩
      rintro hpair rfl
      exact hends (.inr ⟨rfl, hnext.mpr (hpair rfl)⟩)

/-! ### Escaping and line ends -/

/-- A character that is escaped is not a part of a line end, and it becomes several characters of
which none is. -/
theorem escapeChar_cases (c : Char) :
    escapeChar c = [c] ∨ isBreak c = false ∧ 1 < (escapeChar c).length ∧
      ∀ d ∈ escapeChar c, isBreak d = false := by
  have hescaped : ∀ c ∈ markup, isBreak c = false ∧ 1 < (escapeChar c).length ∧
      ((escapeChar c).all fun d => decide (isBreak d = false)) = true :=
    Text.forall_mem_of_all (by decide)
  by_cases hmarkup : c ∈ markup
  · obtain ⟨hbreak, hlength, hnone⟩ := hescaped c hmarkup
    exact .inr ⟨hbreak, hlength, Text.forall_mem_of_all hnone⟩
  · exact .inl (escapeChar_eq_self_iff.mpr hmarkup)

theorem escapeChar_of_isBreak (h : isBreak c = true) : escapeChar c = [c] := by
  rcases escapeChar_cases c with hself | ⟨hbreak, -⟩
  · exact hself
  · simp [h] at hbreak

/-- Escaping keeps line feeds and carriage returns, and makes no others. -/
theorem mem_flatMap_escapeChar_iff (hbreak : isBreak b = true) :
    b ∈ cs.flatMap escapeChar ↔ b ∈ cs := by
  rw [List.mem_flatMap]
  constructor
  · rintro ⟨c, hc, hb⟩
    rcases escapeChar_cases c with hself | ⟨-, -, hnone⟩
    · rw [hself, List.mem_singleton] at hb
      exact hb ▸ hc
    · simp [hnone b hb] at hbreak
  · intro hb
    exact ⟨b, hb, by rw [escapeChar_of_isBreak hbreak]; exact List.mem_singleton_self b⟩

theorem head?_flatMap_escapeChar_iff (hbreak : isBreak b = true) :
    (cs.flatMap escapeChar).head? = some b ↔ cs.head? = some b := by
  cases cs with
  | nil => rfl
  | cons c rest =>
    rcases escapeChar_cases c with hself | ⟨hc, hlength, hnone⟩
    · rw [List.flatMap_cons, hself]
      rfl
    · obtain ⟨d, ds, hds⟩ := List.exists_cons_of_length_pos (Nat.lt_of_succ_lt hlength)
      have hd : isBreak d = false := hnone d (hds ▸ List.mem_cons_self)
      rw [List.flatMap_cons, hds]
      refine iff_of_false ?_ ?_
      · rintro ⟨⟩
        simp [hbreak] at hd
      · rintro ⟨⟩
        simp [hbreak] at hc

/-- Characters that are not parts of line ends stay. -/
theorem dropLineEnds_append {front : List Char} (h : ∀ c ∈ front, isBreak c = false)
    (cs : List Char) : dropLineEnds (front ++ cs) = front ++ dropLineEnds cs := by
  induction front with
  | nil => rfl
  | cons c rest ih =>
    rw [List.cons_append, dropLineEnds_of_not_endsLine (not_endsLine (h c List.mem_cons_self) _),
      ih fun d hd => h d (List.mem_cons_of_mem _ hd), List.cons_append]

/-- It does not matter whether line ends are dropped before or after escaping. -/
theorem dropLineEnds_flatMap_escapeChar (cs : List Char) :
    dropLineEnds (cs.flatMap escapeChar) = (dropLineEnds cs).flatMap escapeChar := by
  induction cs with
  | nil => rfl
  | cons c rest ih =>
    rw [List.flatMap_cons]
    rcases escapeChar_cases c with hself | ⟨hbreak, -, hnone⟩
    · -- Whether a carriage return is dropped hangs on what follows it, which may be escaped.
      have hsame : EndsLine c (rest.flatMap escapeChar).head? ↔ EndsLine c rest.head? :=
        or_congr_right (and_congr_right fun _ => head?_flatMap_escapeChar_iff rfl)
      rw [hself, List.singleton_append]
      by_cases hends : EndsLine c rest.head?
      · rw [dropLineEnds_of_endsLine hends, dropLineEnds_of_endsLine (hsame.mpr hends), ih]
      · rw [dropLineEnds_of_not_endsLine hends, dropLineEnds_of_not_endsLine (mt hsame.mp hends),
          ih, List.flatMap_cons, hself, List.singleton_append]
    · rw [dropLineEnds_append hnone, ih, dropLineEnds_of_not_endsLine (not_endsLine hbreak _),
        List.flatMap_cons]

theorem length_le_length_flatMap_escapeChar (cs : List Char) :
    cs.length ≤ (cs.flatMap escapeChar).length := by
  induction cs with
  | nil => exact Nat.le_refl _
  | cons c rest ih =>
    rw [List.flatMap_cons, List.length_append, List.length_cons]
    rcases escapeChar_cases c with hself | ⟨-, hlength, -⟩
    · rw [hself, List.length_singleton]
      omega
    · omega

/-- Only texts in which nothing is escaped stay as they are. -/
theorem flatMap_escapeChar_eq_self_iff (cs : List Char) :
    cs.flatMap escapeChar = cs ↔ ∀ c ∈ cs, escapeChar c = [c] := by
  refine ⟨fun h => ?_, flatMap_escapeChar_of_plain⟩
  induction cs with
  | nil => exact fun _ hc => absurd hc List.not_mem_nil
  | cons c rest ih =>
    rw [List.flatMap_cons] at h
    rcases escapeChar_cases c with hself | ⟨-, hlength, -⟩
    · rw [hself, List.singleton_append] at h
      exact List.forall_mem_cons.mpr ⟨hself, ih (List.cons.inj h).2⟩
    · -- The escaped form is longer than the text.
      have hsame := congrArg List.length h
      have hlonger := length_le_length_flatMap_escapeChar rest
      rw [List.length_append, List.length_cons] at hsame
      omega

/-- A text in one line is faithful exactly if nothing in it is escaped and no carriage return stands
alone. -/
theorem escaped_line_eq_filter_iff (cs : List Char) :
    (dropLineEnds (cs ++ ['\n'])).flatMap escapeChar = cs.filter (fun c => !isBreak c) ↔
      (∀ c ∈ cs, escapeChar c = [c]) ∧ PairedReturns cs := by
  have hfilter : (dropLineEnds (cs ++ ['\n'])).filter (fun c => !isBreak c)
      = cs.filter fun c => !isBreak c := by
    rw [filter_dropLineEnds, List.filter_append]
    exact List.append_nil _
  -- Without a carriage return the line has nothing of which line ends consist.
  have hline : '\r' ∉ dropLineEnds (cs ++ ['\n']) →
      dropLineEnds (cs ++ ['\n']) = cs.filter fun c => !isBreak c := by
    intro hreturn
    rw [← hfilter, eq_comm, List.filter_eq_self]
    intro c hc
    rw [isBreak, Bool.not_or, Bool.and_eq_true, Bool.not_eq_true', Bool.not_eq_true',
      decide_eq_false_iff_not, decide_eq_false_iff_not]
    constructor
    · rintro rfl
      exact lineFeed_not_mem_dropLineEnds _ hc
    · rintro rfl
      exact hreturn hc
  constructor
  · intro h
    have hreturn : '\r' ∉ dropLineEnds (cs ++ ['\n']) := by
      rw [← mem_flatMap_escapeChar_iff rfl, h, List.mem_filter]
      exact fun hmem => Bool.noConfusion hmem.2
    rw [hline hreturn, flatMap_escapeChar_eq_self_iff] at h
    refine ⟨fun c hc => ?_, (return_not_mem_dropLineEnds_iff cs).mp hreturn⟩
    cases hbreak : isBreak c with
    | true => exact escapeChar_of_isBreak hbreak
    | false => exact h c (List.mem_filter.mpr ⟨hc, by rw [hbreak]; rfl⟩)
  · rintro ⟨hplain, hpaired⟩
    rw [hline ((return_not_mem_dropLineEnds_iff cs).mpr hpaired), flatMap_escapeChar_eq_self_iff]
    exact fun c hc => hplain c (List.mem_filter.mp hc).1

end Mail

open Mail Time

namespace ResetMail

variable {m : ResetMail} {config : Config} {user : User} {token : String} {message : Message}

/-- The subject of a mail with the name of the site. -/
theorem toList_subject (hsubject : m.subject = resetSubject.name)
    (h : m.message config user token = .ok message) :
    message.subject.toList = "Password reset on ".toList
      ++ (dropLineEnds (m.siteName.toList ++ ['\n'])).flatMap escapeChar := by
  have hrender := render_of_covered (show template? resetSubject.name = some resetSubject from rfl)
    (m.covers_templates config user token (t := resetSubject) (by decide))
  have hline : renderLine m.subject (m.context config user token)
      = .ok (oneLine ("Password reset on " ++ escape m.siteName ++ "\n")) := by
    rw [hsubject, renderLine, show m.context config user token = .obj (m.fields config user token)
      from rfl, hrender, filled_resetSubject]
    rfl
  unfold ResetMail.message at h
  rw [hline] at h
  dsimp only at h
  split at h
  · simp at h
  · obtain rfl := Except.ok.inj h
    -- The line feed of the template counts as the last character of the name.
    have hplain : ∀ c ∈ "Password reset on ".toList, isBreak c = false :=
      Text.forall_mem_of_all (by decide)
    have hescape : (escape m.siteName ++ "\n").toList
        = (m.siteName.toList ++ ['\n']).flatMap escapeChar := by
      rw [escape, String.toList_append, String.toList_ofList, List.flatMap_append]
      rfl
    rw [oneLine, String.toList_ofList, String.append_assoc, String.toList_append, hescape,
      dropLineEnds_append hplain, dropLineEnds_flatMap_escapeChar]

end ResetMail

/-! ### The subjects that are sent -/

namespace World

/-- The subject of every mail that is sent starts with a fixed text, which the escaped name of the
site follows without its line ends.  So it never has a line feed.  It has no carriage return exactly
if the name has none but before a line feed or at its end.  And it is the fixed text with the bare
name, without line feeds and carriage returns, exactly if moreover nothing in the name is
escaped. -/
theorem subject_faithful_iff (s : Service) (now : Instant) (m : ResetMail)
    (hsubject : m.subject = resetSubject.name) (users : List User) (w : World) :
    ∃ sent, w.Dispatched s m users (w.sendResets s now m users) sent ∧ ∀ d ∈ sent,
      d.message.subject = "Password reset on " ++ escape (oneLine (m.siteName ++ "\n")) ∧
      '\n' ∉ d.message.subject.toList ∧
      ('\r' ∉ d.message.subject.toList ↔ PairedReturns m.siteName.toList) ∧
      (d.message.subject = "Password reset on " ++ withoutBreaks m.siteName ↔
        (∀ c ∈ m.siteName.toList, c ∉ markup) ∧ PairedReturns m.siteName.toList) := by
  obtain ⟨sent, hsent⟩ := dispatched_sendResets s now m users w
  refine ⟨sent, hsent, fun d hd => ?_⟩
  have hlist := ResetMail.toList_subject hsubject (hsent.writtenBy d hd).written
  refine ⟨?_, ?_, ?_, ?_⟩
  · rw [← String.toList_inj, hlist]
    simp [escape, oneLine]
  · rw [hlist, List.mem_append, not_or, mem_flatMap_escapeChar_iff rfl]
    exact ⟨by decide, lineFeed_not_mem_dropLineEnds _⟩
  · rw [hlist, List.mem_append, not_or, mem_flatMap_escapeChar_iff rfl,
      return_not_mem_dropLineEnds_iff]
    exact and_iff_right (by decide)
  · rw [← String.toList_inj, hlist, String.toList_append, List.append_right_inj, withoutBreaks,
      String.toList_ofList, escaped_line_eq_filter_iff]
    exact and_congr_left fun _ => plain_iff

end World

namespace Sample

/-- One user, with a mailer that keeps all mails. -/
def oneOwner : World where
  db := { users := [owner "u" "ann" "ann@example.com"] }

end Sample

namespace World

open Sample Text

/-- A name in two lines becomes a subject in one. -/
theorem broken_name_in_one_line :
    (oneOwner.sendResets service ⟨0⟩ (.standard "Blue\r\nHouse\r" "example.com")
      oneOwner.db.users).2.1.mailer.outbox.map (·.subject) = ["Password reset on BlueHouse"] := by
  obtain ⟨sent, hsent, hsubjects⟩ := subject_faithful_iff service ⟨0⟩
    (.standard "Blue\r\nHouse\r" "example.com") rfl oneOwner.db.users oneOwner
  have husers := hsent.complete (eq_ok_of_toOption (by decide +kernel))
  obtain ⟨d, rest, rfl, -, hrest⟩ := List.map_eq_cons_iff.mp husers
  obtain rfl := List.map_eq_nil_iff.mp hrest
  obtain ⟨attempts, hmailer⟩ := hsent.mailer
  have hsubject := (hsubjects d List.mem_cons_self).2.2.2.mpr
    ⟨forall_mem_of_all (by decide), by decide⟩
  have houtbox : (oneOwner.mailer.handed attempts [d.message]).outbox = [d.message] := rfl
  rw [hmailer, List.map_singleton, houtbox, List.map_singleton, hsubject]
  rfl

/-- A subject that is neither in one line nor faithful: an ampersand is escaped, and a carriage
return stays. -/
theorem escaped_and_broken_subject :
    (oneOwner.sendResets service ⟨0⟩ (.standard "R&D\rlab" "example.com")
      oneOwner.db.users).2.1.mailer.outbox.map (·.subject) = ["Password reset on R&amp;D\rlab"] ∧
      "Password reset on " ++ withoutBreaks "R&D\rlab" = "Password reset on R&Dlab" := by
  decide +kernel

end World

end CookieAuth
