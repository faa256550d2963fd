import CookieAuth.Proofs.Account.Resets

/-!
# The mails that are sent

Tokens are issued and mails are sent for users in order, until something fails: a token cannot be
stored, a mail cannot be written, or it is refused.  This file says what was sent by then, for every
mail that the service may be asked to write and in every world.

## Main definitions

* `Dispatch.WrittenBy`: a mail is the one to a user about a token of theirs;
* `World.Dispatched`: the mails that were sent, as the mailer and the log have them.

## Main results

* `World.dispatched_sendReset`, `World.dispatched_sendResets`: the mails for one user, and for many.
-/

namespace CookieAuth

open Time Mail

/-- A user's token with a secret of the service, and the mail that is written about it. -/
structure Dispatch.WrittenBy (s : Service) (m : ResetMail) (d : Dispatch) : Prop where
  /-- The token belongs to the user. -/
  owner : d.token.userId = d.user.id
  /-- The secret is one that the service draws. -/
  drawn : ∃ n, d.token.token = s.supply.token n
  /-- The mail is the one to the user about the token. -/
  written : m.message s.config d.user d.token.token = .ok d.message

namespace World

variable {s : Service} {m : ResetMail} {w : World}

/-- What was sent out when mails to users were to be sent, whether or not there was a failure. -/
structure Dispatched (s : Service) (m : ResetMail) (w : World) (users : List User)
    (outcome : Except Failure Unit × World × List Event) (sent : List Dispatch) : Prop where
  /-- Each mail was written about a token of a user. -/
  writtenBy : ∀ d ∈ sent, d.WrittenBy s m
  /-- The mails were handed over and accepted, and no others were. -/
  mailer : ∃ attempts, outcome.2.1.mailer = w.mailer.handed attempts (sent.map (·.message))
  /-- The log tells of them, and of no others. -/
  log : outcome.2.2 = w.reports sent
  /-- The tokens were added to those that were there. -/
  tokens : (w.db.tokens ++ sent.map (·.token)).Sublist outcome.2.1.db.tokens
  /-- The users are served in order. -/
  inOrder : sent.map (·.user) <+: users
  /-- No user is left out if there is no failure. -/
  complete : outcome.1 = .ok () → sent.map (·.user) = users

/-- Sending to some users without a failure, and then to others. -/
theorem Dispatched.trans {first second : List User} {w₁ : World} {log : List Event}
    {outcome : Except Failure Unit × World × List Event} {sent sent₂ : List Dispatch}
    (h : w.Dispatched s m first (.ok (), w₁, log) sent)
    (h' : w₁.Dispatched s m second outcome sent₂) :
    w.Dispatched s m (first ++ second) (outcome.1, outcome.2.1, log ++ outcome.2.2)
      (sent ++ sent₂) := by
  obtain ⟨attempts, hmailer⟩ := h.mailer
  obtain ⟨attempts', hmailer'⟩ := h'.mailer
  have hmailer : w₁.mailer = _ := hmailer
  have hlog : log = w.reports sent := h.log
  have husers := h.complete rfl
  refine ⟨?_, ⟨attempts + attempts', ?_⟩, ?_, ?_, ?_, ?_⟩
  · intro d hd
    rcases List.mem_append.mp hd with hd | hd
    · exact h.writtenBy d hd
    · exact h'.writtenBy d hd
  · rw [hmailer', hmailer, Mailer.handed_handed, List.map_append]
  · -- The mailer counts more attempts by now, but it reports a mail in the same way.
    have hreports : w₁.reports sent₂ = w.reports sent₂ := by
      unfold reports
      rw [hmailer]
      rfl
    rw [h'.log, hreports, hlog]
    exact List.flatMap_append.symm
  · rw [List.map_append, ← List.append_assoc]
    exact (h.tokens.append_right _).trans h'.tokens
  · rw [List.map_append, husers]
    exact (List.prefix_append_right_inj first).mpr h'.inOrder
  · intro hok
    rw [List.map_append, husers, h'.complete hok]

/-- The other users do not matter after a failure. -/
theorem Dispatched.of_error {users rest : List User} {e : Failure} {w' : World} {log : List Event}
    {sent : List Dispatch} (h : w.Dispatched s m users (.error e, w', log) sent) :
    w.Dispatched s m (users ++ rest) (.error e, w', log) sent :=
  { h with
    inOrder := h.inOrder.trans (List.prefix_append users rest)
    complete := by simp }

/-- Nothing is sent out if a mail is not written or not accepted. -/
theorem dispatched_nil {users : List User} {e : Failure} {w' : World} {attempts : Nat}
    (hmailer : w'.mailer = w.mailer.handed attempts [])
    (htokens : w.db.tokens.Sublist w'.db.tokens) :
    w.Dispatched s m users (.error e, w', []) [] where
  writtenBy := by simp
  mailer := ⟨attempts, hmailer⟩
  log := rfl
  tokens := by simpa using htokens
  inOrder := List.nil_prefix
  complete := by simp

/-- What is sent out for one user. -/
theorem dispatched_sendReset (s : Service) (now : Instant) (m : ResetMail) (user : User)
    (w : World) :
    ∃ sent, w.Dispatched s m [user] (w.sendReset s now m user) sent := by
  unfold sendReset
  split
  · exact ⟨[], dispatched_nil (w.mailer.handed_zero).symm (List.Sublist.refl _)⟩
  · next token w₁ htoken =>
    obtain ⟨hissue, rfl⟩ := of_issueToken_ok htoken
    have hkept := List.sublist_append_left w.db.tokens [token]
    split
    · exact ⟨[], dispatched_nil (w.mailer.handed_zero).symm hkept⟩
    · next message hmessage =>
      -- The token is stored by now, whether or not its mail is accepted.
      cases hrefusal : w.mailer.refusal? 0 with
      | some reason =>
        simp only [Mailer.send_of_refused hrefusal]
        exact ⟨[], dispatched_nil rfl hkept⟩
      | none =>
        simp only [Mailer.send_of_accepted hrefusal]
        refine ⟨[⟨user, token, message⟩], ?_, ⟨1, rfl⟩, ?_, List.Sublist.refl _, List.prefix_rfl,
          fun _ => rfl⟩
        · intro d hd
          obtain rfl := List.mem_singleton.mp hd
          obtain ⟨expires, -, rfl⟩ := ResetToken.of_issue_ok hissue
          exact ⟨rfl, ⟨_, rfl⟩, hmessage⟩
        · simp [reports]

/-- Whatever happens, mails are sent out for users in order. -/
theorem dispatched_sendResets (s : Service) (now : Instant) (m : ResetMail) (users : List User)
    (w : World) :
    ∃ sent, w.Dispatched s m users (w.sendResets s now m users) sent := by
  -- Each user is served in the world that the one before left, so the world is general.
  induction users generalizing w with
  | nil =>
    refine ⟨[], by simp, ⟨0, (w.mailer.handed_zero).symm⟩, rfl, ?_, List.prefix_rfl, fun _ => rfl⟩
    rw [List.map_nil, List.append_nil]
    exact List.Sublist.refl _
  | cons user rest ih =>
    obtain ⟨sent, hfirst⟩ := dispatched_sendReset s now m user w
    unfold sendResets
    split
    · next hsend =>
      rw [hsend] at hfirst
      exact ⟨sent, hfirst.of_error⟩
    · next w₁ log hsend =>
      rw [hsend] at hfirst
      obtain ⟨sent₂, hrest⟩ := ih w₁
      exact ⟨sent ++ sent₂, hfirst.trans hrest⟩

end World

end CookieAuth
