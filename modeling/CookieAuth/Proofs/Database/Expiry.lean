import CookieAuth.Database.Basic
import CookieAuth.Proofs.Text.ByteOrder
import CookieAuth.Proofs.Time.TextOrder

/-!
# A cleanup deletes what has ended

Tokens are stored with the text of the point in time at which they end, and a cleanup compares this
text with that of the present, byte by byte.  In years of four digits that is the order of time, so a
cleanup deletes the tokens that ended before the present, and nothing else.

## Main results

* `Instant.bytesOf_text_lt_iff`, `Instant.bytesOf_text_eq_iff`: the bytes of points in time are in
  the order of time, and determine them;
* `Database.isExpired_iff_past`: what counts as expired is what has ended;
* `Database.deletes_exactly_past`: a cleanup deletes exactly the tokens that have ended.
-/

namespace CookieAuth

open Text Time

namespace Time.Instant

variable {a b : Instant}

/-- In years of four digits, texts are in the order of time. -/
theorem text_lt_text_iff (ha : a.InFourDigits) (hb : b.InFourDigits) : a.text < b.text ↔ a < b := by
  rw [text_lt_iff hb]
  exact or_iff_left (Int.not_lt.mpr ha.2)

theorem bytesOf_text_lt_iff (ha : a.InFourDigits) (hb : b.InFourDigits) :
    bytesOf a.text < bytesOf b.text ↔ a < b :=
  bytesOf_lt_iff.trans (text_lt_text_iff ha hb)

/-- If one point in time were earlier, then its bytes would come first. -/
theorem le_of_bytesOf_text_eq (ha : a.InFourDigits) (hb : b.InFourDigits)
    (hsame : bytesOf a.text = bytesOf b.text) : b.nanos ≤ a.nanos := by
  rw [← Int.not_lt]
  intro hless
  have hbytes := (bytesOf_text_lt_iff ha hb).mpr hless
  rw [hsame] at hbytes
  exact List.lt_irrefl _ hbytes

theorem bytesOf_text_eq_iff (ha : a.InFourDigits) (hb : b.InFourDigits) :
    bytesOf a.text = bytesOf b.text ↔ a = b := by
  refine ⟨fun hsame => ?_, fun h => by rw [h]⟩
  have hnanos : a.nanos = b.nanos :=
    Int.le_antisymm (le_of_bytesOf_text_eq hb ha hsame.symm) (le_of_bytesOf_text_eq ha hb hsame)
  cases a
  cases b
  exact congrArg Instant.mk hnanos

end Time.Instant

namespace Database

variable {db : Database} {now : Instant}

/-- In years of four digits, the expired tokens are those that have ended. -/
theorem isExpired_iff_past {token : ResetToken} (hnow : now.InFourDigits)
    (hends : token.expires.InFourDigits) : isExpired now token = true ↔ token.expires < now := by
  rw [isExpired, decide_eq_true_iff]
  exact Instant.text_lt_text_iff hends hnow

/-- A cleanup deletes exactly the tokens that ended before the present, counts them and leaves all
else as it is.  For the bytes of the texts are in the order of time. -/
theorem deletes_exactly_past (db : Database) (now : Instant)
    (haccess : db.access .resetTokens = .ok ()) (hnow : now.InFourDigits)
    (htokens : ∀ t ∈ db.tokens, t.expires.InFourDigits) :
    (∃ n db', db.deleteExpired now = .ok (n, db') ∧
      db' = { db with tokens := db.tokens.filter fun t => ¬ t.expires < now } ∧
      n = db.tokens.countP (·.expires < now) ∧ n + db'.tokens.length = db.tokens.length) ∧
    ∀ a b : Instant, a.InFourDigits → b.InFourDigits →
      (bytesOf a.text < bytesOf b.text ↔ a < b) ∧ (bytesOf a.text = bytesOf b.text ↔ a = b) := by
  have hpast : ∀ t ∈ db.tokens, isExpired now t = decide (t.expires < now) := by
    intro t ht
    rw [Bool.eq_iff_iff, decide_eq_true_iff]
    exact isExpired_iff_past hnow (htokens t ht)
  have hcount : db.tokens.countP (isExpired now) = db.tokens.countP (·.expires < now) := by
    apply List.countP_congr
    intro t ht
    rw [hpast t ht]
  have hkept : db.tokens.filter (!isExpired now ·)
      = db.tokens.filter fun t => ¬ t.expires < now := by
    apply List.filter_congr
    intro t ht
    rw [hpast t ht, decide_not]
  refine ⟨⟨_, _, ?_, rfl, rfl, ?_⟩, ?_⟩
  · rw [deleteExpired, on, haccess, hcount, hkept]
  · -- Every token is counted or kept.
    rw [← List.countP_eq_length_filter]
    have hsplit := List.length_eq_countP_add_countP (l := db.tokens) (decide <| ·.expires < now)
    simpa using hsplit.symm
  · intro a b ha hb
    exact ⟨Instant.bytesOf_text_lt_iff ha hb, Instant.bytesOf_text_eq_iff ha hb⟩

/-- Three tokens that end within one second. -/
def withinSecond : Database :=
  { empty with
    tokens := [1000000000, 1500000000, 1500000001].map fun nanos =>
      { userId := "u", token := "t", created := ⟨0⟩, expires := ⟨nanos⟩ } }

/-- Half a second past the second, the token is deleted that ends at the second, although its text is
the shortest; the others stay, with three and nine digits of a fraction. -/
theorem half_past_second :
    ∃ db', withinSecond.deleteExpired ⟨1500000000⟩ = .ok (1, db') ∧
      db'.tokens.map (·.expires.text)
        = ["1970-01-01T00:00:01.500+00:00", "1970-01-01T00:00:01.500000001+00:00"] := by
  obtain ⟨⟨n, db', hdelete, hrest, hcount, -⟩, -⟩ :=
    deletes_exactly_past withinSecond ⟨1500000000⟩ rfl (by decide +kernel) (by decide +kernel)
  refine ⟨db', ?_, ?_⟩
  · rw [hdelete, hcount]
    rfl
  · rw [hrest]
    decide +kernel

end Database

end CookieAuth
