import CookieAuth.Config.Basic
import CookieAuth.Proofs.Account.Resets
import CookieAuth.Proofs.Service.Run
import CookieAuth.Proofs.Service.Sample
import CookieAuth.Proofs.Time.TextOrder

/-!
# The life of a token

A token is to be there until its timeout is over and to be removed by the first cleanup after that.
A timeout is any number of 64 bits.  If the end of a token is not in the calendar, no token is
issued and the request breaks off.  The end is compared by its text; if its year has more than four
digits, already the next cleanup removes the token.  In all other cases a token lives as long as it
is to live, whatever else happens.

## Main definitions

* `World.Issued`: nothing happened to the tokens, except that some were issued;
* `World.Spends`: the secret of a token is not going to be drawn again;
* `Instant.Spares`: what a cleanup leaves.

## Main results

* `Service.issued_handle`: requests do nothing else to the tokens;
* `Service.mem_tokens_perform`, `Service.mem_tokens_run`: a token goes only because of a cleanup
  at which it has expired, or together with its owner, and it does not come back;
* `Database.isExpired_eq_false_iff`: which tokens a cleanup spares;
* `Service.present_iff_spared`: when a token is issued, and how long it lives.
-/

namespace CookieAuth

open Http Text Time Mail

/-! ### Tokens that are issued -/

theorem ResetToken.token_of_issue_ok {userId secret : String} {minutes : Int} {now : Instant}
    {token : ResetToken} (h : issue userId secret minutes now = .ok token) :
    token.token = secret := by
  obtain ⟨_, -, rfl⟩ := of_issue_ok h
  rfl

namespace World

/-- The tokens are those of an earlier world and then some with secrets that were drawn since. -/
structure Issued (s : Service) (w w' : World) : Prop where
  /-- The old tokens come first, and the others have later secrets. -/
  tokens : ∃ issued, w'.db.tokens = w.db.tokens ++ issued ∧
    ∀ t ∈ issued, ∃ n, w.draws.tokens ≤ n ∧ n < w'.draws.tokens ∧ t.token = s.supply.token n
  /-- Secrets are drawn one after the other. -/
  draws : w.draws.tokens ≤ w'.draws.tokens

/-- The secret of a token is not going to be drawn. -/
def Spends (s : Service) (w : World) (token : ResetToken) : Prop :=
  ∀ n, w.draws.tokens ≤ n → s.supply.token n ≠ token.token

variable {s : Service} {now : Instant} {w w' w₁ : World} {token : ResetToken}

theorem Issued.of_eq (htokens : w'.db.tokens = w.db.tokens)
    (hdraws : w'.draws.tokens = w.draws.tokens) : Issued s w w' :=
  ⟨⟨[], by simp [htokens]⟩, Nat.le_of_eq hdraws.symm⟩

theorem Issued.refl (s : Service) (w : World) : Issued s w w := .of_eq rfl rfl

theorem Issued.trans (h : Issued s w w₁) (h' : Issued s w₁ w') : Issued s w w' := by
  obtain ⟨first, hfirst, hsecrets⟩ := h.tokens
  obtain ⟨second, hsecond, hsecrets'⟩ := h'.tokens
  refine ⟨⟨first ++ second, by rw [hsecond, hfirst, List.append_assoc], ?_⟩,
    Nat.le_trans h.draws h'.draws⟩
  intro t ht
  rcases List.mem_append.mp ht with ht | ht
  · obtain ⟨n, hn, hlt, hsecret⟩ := hsecrets t ht
    exact ⟨n, hn, Nat.lt_of_lt_of_le hlt h'.draws, hsecret⟩
  · obtain ⟨n, hn, hlt, hsecret⟩ := hsecrets' t ht
    exact ⟨n, Nat.le_trans h.draws hn, hlt, hsecret⟩

/-- Sessions do not matter to the tokens. -/
theorem Issued.of_base (h : Issued s w w₁) (hbase : w'.base = w₁.base) : Issued s w w' :=
  h.trans (.of_eq (congrArg (·.db.tokens) hbase) (congrArg (·.draws.tokens) hbase))

theorem issued_issueToken {userId : String} {minutes : Int}
    (h : w.issueToken s now userId minutes = .ok (token, w')) : Issued s w w' := by
  obtain ⟨hissue, rfl⟩ := of_issueToken_ok h
  refine ⟨⟨[token], rfl, ?_⟩, Nat.le_succ _⟩
  intro t ht
  obtain rfl := List.mem_singleton.mp ht
  exact ⟨w.draws.tokens, Nat.le_refl _, Nat.lt_succ_self _, ResetToken.token_of_issue_ok hissue⟩

/-- The secret of a token is spent once the token is issued. -/
theorem spends_issueToken (honce : ∀ m n, s.supply.token m = s.supply.token n → m = n)
    {userId : String} {minutes : Int}
    (h : w.issueToken s now userId minutes = .ok (token, w')) : w'.Spends s token := by
  obtain ⟨hissue, rfl⟩ := of_issueToken_ok h
  intro n hn hsame
  rw [ResetToken.token_of_issue_ok hissue] at hsame
  have hdrawn : w.draws.tokens + 1 ≤ n := hn
  have := honce _ _ hsame
  omega

theorem issued_sendReset (s : Service) (now : Instant) (mail : ResetMail) (user : User)
    (w : World) : Issued s w (w.sendReset s now mail user).2.1 := by
  unfold sendReset
  split
  · exact .refl s w
  · next htoken =>
    have hissued := issued_issueToken htoken
    split
    · exact hissued
    · split <;> exact ⟨hissued.tokens, hissued.draws⟩

theorem issued_sendResets (s : Service) (now : Instant) (mail : ResetMail) (users : List User)
    (w : World) : Issued s w (w.sendResets s now mail users).2.1 := by
  refine sendResets_induction (P := Issued s w) ?_ users (.refl s w)
  intro user w' h
  exact h.trans (issued_sendReset s now mail user w')

/-- A token whose secret is spent is not issued again. -/
theorem Issued.mem_iff (h : Issued s w w') (hspent : w.Spends s token) :
    token ∈ w'.db.tokens ↔ token ∈ w.db.tokens := by
  obtain ⟨issued, htokens, hsecrets⟩ := h.tokens
  rw [htokens, List.mem_append]
  constructor
  · rintro (hold | hnew)
    · exact hold
    · obtain ⟨n, hn, -, hsecret⟩ := hsecrets token hnew
      exact absurd hsecret.symm (hspent n hn)
  · exact .inl

theorem Spends.mono (h : w.Spends s token) (hdraws : w.draws.tokens ≤ w'.draws.tokens) :
    w'.Spends s token := by
  intro n hn
  exact h n (Nat.le_trans hdraws hn)

end World

/-! ### Runs -/

namespace Service

variable {s : Service} {now : Instant} {w : World} {token : ResetToken}

/-- A request does nothing to the tokens but issue some. -/
theorem issued_handle (s : Service) (now : Instant) (r : Request) (w : World) :
    World.Issued s w (s.handle now r w).world := by
  cases s.effect_handle now r w with
  | nothing hbase => exact (World.Issued.refl s w).of_base hbase
  | registered _ _ hmade hbase =>
    obtain ⟨-, -, -, rfl⟩ := World.of_register_ok hmade
    exact .of_eq (congrArg (·.db.tokens) hbase) (congrArg (·.draws.tokens) hbase)
  | checked _ _ hnoted hbase =>
    obtain ⟨-, rfl⟩ := Database.of_insertEntry_ok hnoted
    exact .of_eq (congrArg (·.db.tokens) hbase) (congrArg (·.draws.tokens) hbase)
  | mailed _ _ hbase => exact (World.issued_sendResets s now _ _ w).of_base hbase

/-- An act leaves a token alone unless it is a cleanup at which the token has expired, or it deletes
its owner.  A token that is gone does not come back. -/
theorem mem_tokens_perform (hspent : w.Spends s token)
    (haccess : w.db.access .resetTokens = .ok ()) (now : Instant) {act : Act}
    (hact : act ≠ .deleteUser token.userId) :
    token ∈ (s.perform now w act).db.tokens ↔
      token ∈ w.db.tokens ∧ (act = .cleanUp → Database.isExpired now token = false) := by
  cases act with
  | request r =>
    simp only [perform, reduceCtorEq, false_implies, and_true]
    exact (s.issued_handle now r w).mem_iff hspent
  | createUser username email passwordHash =>
    simp only [perform, reduceCtorEq, false_implies, and_true]
    split
    · next hmade =>
      obtain ⟨-, -, -, rfl⟩ := World.of_createUser_ok hmade
      rfl
    · rfl
  | deleteUser id =>
    simp only [perform, reduceCtorEq, false_implies, and_true]
    split
    · next hdelete =>
      obtain rfl := Database.of_deleteUser_ok hdelete
      have hne : token.userId ≠ id := by
        rintro rfl
        exact hact rfl
      simp [List.mem_filter, hne]
    · rfl
  | cleanUp =>
    have hdelete : ∃ n db, w.db.deleteExpired now = .ok (n, db) := by
      simp [Database.deleteExpired, Database.on, haccess]
    obtain ⟨n, db, hdelete⟩ := hdelete
    simp only [perform, hdelete]
    obtain rfl := Database.of_deleteExpired_ok hdelete
    simp [List.mem_filter]

/-- No act gives secrets back. -/
theorem draws_tokens_perform (s : Service) (now : Instant) (w : World) (act : Act) :
    w.draws.tokens ≤ (s.perform now w act).draws.tokens := by
  cases act with
  | request r => exact (s.issued_handle now r w).draws
  | createUser username email passwordHash =>
    simp only [perform]
    split
    · next hmade =>
      obtain ⟨-, -, -, rfl⟩ := World.of_createUser_ok hmade
      exact Nat.le_refl _
    · exact Nat.le_refl _
  | deleteUser id => simp only [perform]; split <;> exact Nat.le_refl _
  | cleanUp => simp only [perform]; split <;> exact Nat.le_refl _

/-- A token whose owner is not deleted is there after a run, if it was there before and had not
expired at any cleanup. -/
theorem mem_tokens_run (hspent : w.Spends s token) (haccess : w.db.access .resetTokens = .ok ())
    {deeds : List Deed} (howner : ∀ d ∈ deeds, d.act ≠ .deleteUser token.userId) :
    token ∈ (s.run w deeds).world.db.tokens ↔
      token ∈ w.db.tokens ∧
        ∀ d ∈ deeds, d.act = .cleanUp → Database.isExpired d.now token = false := by
  rw [world_run]
  induction deeds generalizing w with
  | nil => simp
  | cons d rest ih =>
    have hstep := mem_tokens_perform hspent haccess d.now (howner d List.mem_cons_self)
    have hrest := ih (hspent.mono (s.draws_tokens_perform d.now w d.act))
      ((s.access_perform d.now w d.act .resetTokens).trans haccess)
      (fun e he => howner e (List.mem_cons_of_mem _ he))
    rw [List.foldl_cons, hrest, hstep, List.forall_mem_cons, and_assoc]

end Service

/-! ### The end of a token -/

/-- When a cleanup spares what ends at some point in time.  In a year of four digits it does so
until the end is over, but a longer year counts as over.  In a longer year it spares whatever ends
in a year of four digits; where both years have signs, the texts decide. -/
def Time.Instant.Spares (now ends : Instant) : Prop :=
  if now.InFourDigits then now ≤ ends ∧ ends.date.year ≤ 9999
  else ends.InFourDigits ∨ ¬ ends.text < now.text

instance (now ends : Instant) : Decidable (now.Spares ends) :=
  inferInstanceAs (Decidable (if now.InFourDigits then _ else _))

theorem Database.isExpired_eq_false_iff (now : Instant) (token : ResetToken) :
    isExpired now token = false ↔ now.Spares token.expires := by
  unfold isExpired Instant.Spares
  rw [decide_eq_false_iff_not]
  split
  · next hnow =>
    rw [Instant.text_lt_iff hnow, not_or]
    exact and_congr Int.not_lt Int.not_lt
  · next hnow =>
    constructor
    · exact .inr
    · rintro (hends | htext)
      · exact String.lt_asymm (Instant.text_lt_of_signed hnow hends)
      · exact htext

namespace Service

/-- For every timeout: if the end of a token cannot be computed, the attempt to issue one breaks
off.  Otherwise a token is issued that ends when the timeout is over.  After a run that does not
delete its owner it is there exactly if all cleanups spared it. -/
theorem present_iff_spared (s : Service) (now : Instant) (w : World) (user : User)
    (huser : user ∈ w.db.users) (haccess : w.db.access .resetTokens = .ok ())
    (honce : ∀ m n, s.supply.token m = s.supply.token n → m = n)
    (hfresh : ∀ n, w.draws.tokens ≤ n → ∀ t ∈ w.db.tokens, t.token ≠ s.supply.token n) :
    (¬ now.Reaches s.config.passwordResetTimeoutMinutes.toInt →
      ∃ cause, w.issueToken s now user.id s.config.passwordResetTimeoutMinutes.toInt
        = .error (.crash cause)) ∧
    (now.Reaches s.config.passwordResetTimeoutMinutes.toInt →
      ∃ token issued, w.issueToken s now user.id s.config.passwordResetTimeoutMinutes.toInt
          = .ok (token, issued) ∧
        token.userId = user.id ∧
        token.expires = now.addSeconds (60 * s.config.passwordResetTimeoutMinutes.toInt) ∧
        ∀ deeds : List Deed, (∀ d ∈ deeds, d.act ≠ .deleteUser user.id) →
          (token ∈ (s.run issued deeds).world.db.tokens ↔
            ∀ d ∈ deeds, d.act = .cleanUp → d.now.Spares token.expires)) := by
  constructor
  · intro hreaches
    obtain ⟨cause, hoverflow⟩ := Instant.addMinutes_of_not_reaches hreaches
    refine ⟨cause, ?_⟩
    unfold World.issueToken ResetToken.issue
    rw [hoverflow]
    rfl
  · intro hreaches
    have hcan : w.CanIssue s now _ :=
      ⟨haccess, Instant.addMinutes_of_reaches hreaches, hfresh, honce⟩
    have hissue := World.issueToken_of_canIssue hcan (Database.hasUser_iff.mpr ⟨user, huser, rfl⟩)
    refine ⟨_, _, hissue, rfl, rfl, ?_⟩
    intro deeds howner
    rw [mem_tokens_run (World.spends_issueToken honce hissue) haccess howner]
    simp only [Database.isExpired_eq_false_iff]
    exact and_iff_right (List.mem_append_right _ (List.mem_singleton_self _))

end Service

namespace Sample

/-- Bob forgets the password again, just before the first token ends. -/
def forgottenAgain : Deed :=
  ⟨⟨259199999999999⟩, .request bobForgot⟩

/-- An environment with a timeout for tokens. -/
def timeout (minutes : String) : Config.Environment :=
  ⟨[("PASSWORD_RESET_TIMEOUT_MINUTES", minutes)]⟩

/-- A cleanup at a point in time. -/
def cleanUpAt (nanos : Int) : Deed :=
  ⟨⟨nanos⟩, .cleanUp⟩

end Sample

namespace Service

open Sample

/-- With the default timeout of three days a token survives a cleanup when the days are over, and
not one that is later by a nanosecond. -/
theorem present_for_three_days :
    ∃ token issued, twoOwners.issueToken service ⟨0⟩ "u" 4320 = .ok (token, issued) ∧
      token ∈ (service.run issued [forgottenAgain, cleanUpAt 259200000000000]).world.db.tokens ∧
      token ∉ (service.run issued [forgottenAgain, cleanUpAt 259200000000001]).world.db.tokens := by
  have hreaches : Instant.Reaches ⟨0⟩ service.config.passwordResetTimeoutMinutes.toInt :=
    ⟨by decide +kernel, by decide +kernel⟩
  obtain ⟨token, issued, hissue, -, hends, hlives⟩ := (present_iff_spared service ⟨0⟩ twoOwners
    (owner "u" "bob" "Bob@example.com") (by simp [twoOwners]) rfl token_injective
    (by simp [twoOwners])).2 hreaches
  have hends : token.expires = ⟨259200000000000⟩ := hends
  refine ⟨token, issued, hissue, ?_, ?_⟩
  · rw [hlives _ (by simp [forgottenAgain, cleanUpAt]), hends]
    simp only [List.forall_mem_cons, forgottenAgain, cleanUpAt, reduceCtorEq, false_implies,
      true_implies, true_and]
    exact ⟨by decide +kernel, by simp⟩
  · rw [hlives _ (by simp [forgottenAgain, cleanUpAt]), hends]
    intro hspared
    have hlater : Instant.Spares ⟨259200000000001⟩ ⟨259200000000000⟩ :=
      hspared (cleanUpAt 259200000000001) (by simp) rfl
    exact absurd hlater (by decide +kernel)

/-- A timeout of ten thousand years is accepted, and a token that is issued with it is removed by a
cleanup at the same time.  With the longest timeout that is accepted, issuing a token breaks off. -/
theorem long_timeouts_fail :
    (∃ config, Config.fromEnvironment (timeout "5256000000") none = .ok config ∧
      ∃ token issued, twoOwners.issueToken { service with config } ⟨0⟩ "u"
          config.passwordResetTimeoutMinutes.toInt = .ok (token, issued) ∧
        (⟨0⟩ : Instant) < token.expires ∧
        token ∉ (Service.run { service with config } issued [cleanUpAt 0]).world.db.tokens) ∧
    (∃ config, Config.fromEnvironment (timeout "9223372036854775807") none = .ok config ∧
      twoOwners.issueToken { service with config } ⟨0⟩ "u"
        config.passwordResetTimeoutMinutes.toInt = .error (.crash .distance)) := by
  constructor
  · have hread : Config.fromEnvironment (timeout "5256000000") none
        = .ok { passwordResetTimeoutMinutes := 5256000000 } :=
      eq_ok_of_toOption (by decide +kernel)
    have hcan : twoOwners.CanIssue
        { service with config := { passwordResetTimeoutMinutes := 5256000000 } } ⟨0⟩
        ⟨315360000000000000000⟩ :=
      ⟨rfl, eq_ok_of_toOption (by decide +kernel), by simp [twoOwners], token_injective⟩
    have hbob : twoOwners.db.hasUser (owner "u" "bob" "Bob@example.com").id = true := rfl
    have hissue := World.issueToken_of_canIssue hcan hbob
    refine ⟨_, hread, _, _, hissue, by decide +kernel, ?_⟩
    rw [mem_tokens_run (World.spends_issueToken token_injective hissue) rfl (by simp [cleanUpAt])]
    intro hkept
    have hspared := hkept.2 (cleanUpAt 0) (by simp) rfl
    exact absurd ((Database.isExpired_eq_false_iff _ _).mp hspared) (by decide +kernel)
  · exact ⟨{ passwordResetTimeoutMinutes := 9223372036854775807 },
      eq_ok_of_toOption (by decide +kernel), rfl⟩

end Service

end CookieAuth
