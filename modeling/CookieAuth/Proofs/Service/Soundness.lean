import CookieAuth.Proofs.Account.Resets
import CookieAuth.Proofs.Password.Storage
import CookieAuth.Proofs.Service.Run
import CookieAuth.Proofs.Session.Reliability

/-!
# Worlds that stay sound

A request can fail because of what earlier requests left behind: a stored hash that cannot be read,
a session that does not name its user, a value that is there already, a reference to nobody.  This
file has the invariant that rules all of that out, for accounts that are made by registrations, and
proves that no act breaks it.

A session may outlive its user.  The invariant therefore speaks of those who are gone, too: their
identifiers do not come back.

## Main definitions

* `Service.Dependable`, `Deed.Regular`: what is asked of a service and of what happens to it;
* `World.Orderly`, `World.Sound`: the invariant, without the sessions and with them;
* `Service.Deleted`: a user was deleted in the course of a run.

## Main results

* `Service.sound_perform`: every act keeps a world sound;
* `Service.sound_run`: so does every run.
-/

namespace CookieAuth

open Http Time Mail

/-- A service with sessions, whose salts have their length and whose users and tokens get values of
their own. -/
structure Service.Dependable (s : Service) : Prop where
  /-- There are sessions. -/
  sessions : s.lifetime ≠ none
  /-- Salts have sixteen bytes. -/
  salts : ∀ n, (s.supply.salt n).length = 16
  /-- No identifier of a user is drawn twice. -/
  userIds : ∀ m n, s.supply.userId m = s.supply.userId n → m = n
  /-- No secret of a token is drawn twice. -/
  tokens : ∀ m n, s.supply.token m = s.supply.token n → m = n

/-- A deed that makes no user except by a registration, at a time when the end of a token can be
computed if one may be issued. -/
structure Deed.Regular (s : Service) (d : Deed) : Prop where
  /-- Users are made by registrations only. -/
  registered : ∀ username email passwordHash, d.act ≠ .createUser username email passwordHash
  /-- The end of a token can be computed. -/
  ends : ∀ r, d.act = .request r →
    ∃ expires, d.now.addMinutes s.config.passwordResetTimeoutMinutes.toInt = .ok expires

/-- Somebody has this identifier, or had it and is gone. -/
def World.Knows (w : World) (gone : String → Prop) (id : String) : Prop :=
  w.db.hasUser id = true ∨ gone id

/-- Whatever may be read from the database is readable, whatever is going to be drawn is new, and
mails are accepted. -/
structure World.Orderly (s : Service) (gone : String → Prop) (w : World) : Prop where
  /-- All tables can be reached. -/
  access : ∀ table, w.db.access table = .ok ()
  /-- Every stored hash can be read. -/
  hashes : ∀ u ∈ w.db.users, ∃ stored, Password.StoredHash.parse u.passwordHash = .ok stored
  /-- No identifier is drawn that somebody has or had. -/
  spent : ∀ id, w.Knows gone id → ∀ n, w.draws.users ≤ n → s.supply.userId n ≠ id
  /-- Nobody has the identifier of somebody who is gone. -/
  departed : ∀ id, gone id → w.db.hasUser id = false
  /-- No secret is drawn that is there already. -/
  fresh : ∀ n, w.draws.tokens ≤ n → ∀ t ∈ w.db.tokens, t.token ≠ s.supply.token n
  /-- No mail is refused. -/
  mails : ∀ k, w.mailer.refusal? k = none

/-- Beside that, every session is bound to a user, who may be gone. -/
structure World.Sound (s : Service) (gone : String → Prop) (w : World) : Prop
    extends World.Orderly s gone w where
  /-- The sessions do not fail. -/
  sessions : w.sessions.Reliable (w.Knows gone)

/-- An act that deletes a user who has this identifier. -/
def Act.Removes (w : World) (act : Act) (id : String) : Prop :=
  act = .deleteUser id ∧ w.db.hasUser id = true

/-! ### Statements -/

namespace World

variable {s : Service} {gone : String → Prop} {now expires : Instant} {w w' : World} {db : Database}

/-- A world without users and sessions is sound. -/
theorem sound_of_empty (s : Service) (hdb : w.db = .empty) (hsessions : w.sessions = {})
    (hmails : ∀ k, w.mailer.refusal? k = none) : w.Sound s fun _ => False where
  access table := by rw [hdb]; rfl
  hashes u hu := by rw [hdb] at hu; simp [Database.empty] at hu
  spent id hknown := by simp [Knows, hdb, Database.empty, Database.hasUser] at hknown
  departed id hgone := hgone.elim
  fresh n hn t ht := by rw [hdb] at ht; simp [Database.empty] at ht
  mails := hmails
  sessions := by rw [hsessions]; exact SessionStore.reliable_empty _

/-- Sessions do not matter to the rest of the world. -/
theorem Orderly.of_base (h : w.Orderly s gone) (hbase : w'.base = w.base) :
    w'.Orderly s gone := by
  have hsame : w.base.Orderly s gone :=
    ⟨h.access, h.hashes, h.spent, h.departed, h.fresh, h.mails⟩
  rw [← hbase] at hsame
  exact ⟨hsame.access, hsame.hashes, hsame.spent, hsame.departed, hsame.fresh, hsame.mails⟩

/-- A registration stores a hash that can be read, under an identifier that nobody had. -/
theorem Orderly.register (h : w.Orderly s gone) (hs : s.Dependable) {account : NewAccount}
    {user : User} (hmade : w.register s now account = .ok (user, w')) : w'.Orderly s gone := by
  obtain ⟨huser, -, -, rfl⟩ := of_register_ok hmade
  have hid : user.id = s.supply.userId w.draws.users := by rw [huser]; rfl
  have hhas : ∀ id, Database.hasUser { w.db with users := w.db.users ++ [user] } id = true ↔
      w.db.hasUser id = true ∨ user.id = id := by
    intro id
    simp [Database.hasUser, List.any_append]
  refine ⟨h.access, ?_, ?_, ?_, h.fresh, h.mails⟩
  · intro u hu
    rcases List.mem_append.mp hu with hold | hnew
    · exact h.hashes u hold
    · obtain rfl := List.mem_singleton.mp hnew
      rw [huser]
      have hsalt := hs.salts w.draws.users
      exact ⟨_, Password.parse_hashPassword s.kdf account.password (by omega) (by omega)⟩
  · intro id hknown n hn hsame
    have hn : w.draws.users + 1 ≤ n := hn
    rcases hknown with hpresent | hgone
    · rcases (hhas id).mp hpresent with hold | hnew
      · exact h.spent id (.inl hold) n (by omega) hsame
      · have := hs.userIds n w.draws.users (hsame.trans (hnew.symm.trans hid))
        omega
    · exact h.spent id (.inr hgone) n (by omega) hsame
  · intro id hgone
    rw [Bool.eq_false_iff]
    intro hpresent
    rcases (hhas id).mp hpresent with hold | hnew
    · rw [h.departed id hgone] at hold
      simp at hold
    · exact h.spent id (.inr hgone) _ (Nat.le_refl _) (hid.symm.trans hnew)

/-- An audit entry changes nothing that matters. -/
theorem Orderly.insertEntry (h : w.Orderly s gone) {userId : Option String} {n : Nat}
    (hinsert : w.db.insertEntry userId now = .ok (n, db)) : World.Orderly s gone { w with db } := by
  obtain ⟨-, rfl⟩ := Database.of_insertEntry_ok hinsert
  exact ⟨h.access, h.hashes, h.spent, h.departed, h.fresh, h.mails⟩

theorem Orderly.canIssue (h : w.Orderly s gone) (hs : s.Dependable)
    (hends : now.addMinutes s.config.passwordResetTimeoutMinutes.toInt = .ok expires) :
    w.CanIssue s now expires :=
  ⟨h.access .resetTokens, hends, h.fresh, hs.tokens⟩

/-- Tokens that are issued are new, and those still to be issued will be. -/
theorem Orderly.sendResets (h : w.Orderly s gone) (hs : s.Dependable)
    (hends : now.addMinutes s.config.passwordResetTimeoutMinutes.toInt = .ok expires)
    {users : List User} (husers : ∀ u ∈ users, w.db.hasUser u.id = true) :
    (w.sendResets s now (.standard s.config.siteName s.config.siteDomain)
      users).2.1.Orderly s gone := by
  have hissued := canIssue_sendResets (h.canIssue hs hends) husers fun k _ => h.mails k
  rw [sendResets_of_accepted (h.canIssue hs hends) husers fun k _ => h.mails k] at hissued ⊢
  refine ⟨h.access, h.hashes, h.spent, h.departed, hissued.fresh, ?_⟩
  intro k
  exact (Mailer.refusal?_handed _ _ _ _).trans (h.mails _)

/-- Whoever is known stays known after somebody is deleted, and nobody else becomes known. -/
theorem knows_deleteUser {id other : String} (hdelete : w.db.deleteUser id = .ok db) :
    World.Knows { w with db } (fun other => gone other ∨ Act.Removes w (.deleteUser id) other) other
      ↔ w.Knows gone other := by
  unfold Knows Act.Removes
  rw [Database.hasUser_deleteUser_iff hdelete]
  constructor
  · rintro (⟨hpresent, -⟩ | hgone | ⟨-, hhad⟩)
    · exact .inl hpresent
    · exact .inr hgone
    · exact .inl hhad
  · rintro (hpresent | hgone)
    · by_cases hother : other = id
      · exact .inr (.inr ⟨by rw [hother], hpresent⟩)
      · exact .inl ⟨hpresent, hother⟩
    · exact .inr (.inl hgone)

/-- Whoever is deleted is gone. -/
theorem Orderly.deleteUser (h : w.Orderly s gone) {id : String}
    (hdelete : w.db.deleteUser id = .ok db) :
    World.Orderly s (fun other => gone other ∨ Act.Removes w (.deleteUser id) other)
      { w with db } := by
  have hdb := Database.of_deleteUser_ok hdelete
  refine ⟨?_, ?_, ?_, ?_, ?_, h.mails⟩
  · intro table
    rw [hdb]
    exact h.access table
  · intro u hu
    rw [hdb] at hu
    exact h.hashes u (List.mem_filter.mp hu).1
  · intro other hknown
    exact h.spent other ((knows_deleteUser hdelete).mp hknown)
  · intro other hgone
    rw [Bool.eq_false_iff]
    intro hpresent
    obtain ⟨hold, hne⟩ := (Database.hasUser_deleteUser_iff hdelete).mp hpresent
    rcases hgone with hgone | ⟨hact, -⟩
    · rw [h.departed other hgone] at hold
      simp at hold
    · exact hne (Act.deleteUser.inj hact).symm
  · intro n hn t ht
    rw [hdb] at ht
    exact h.fresh n hn t (List.mem_filter.mp ht).1

/-- Deleting expired tokens leaves fewer of them. -/
theorem Orderly.deleteExpired (h : w.Orderly s gone) {n : Nat}
    (hdelete : w.db.deleteExpired now = .ok (n, db)) : World.Orderly s gone { w with db } := by
  obtain rfl := Database.of_deleteExpired_ok hdelete
  refine ⟨h.access, h.hashes, h.spent, h.departed, ?_, h.mails⟩
  intro n hn t ht
  exact h.fresh n hn t (List.mem_filter.mp ht).1

end World

/-! ### Acts -/

namespace Service

variable {s : Service} {gone : String → Prop} {now expires : Instant} {r : Request} {w : World}

theorem orderly_handle (hs : s.Dependable) (h : w.Orderly s gone)
    (hends : now.addMinutes s.config.passwordResetTimeoutMinutes.toInt = .ok expires) :
    (s.handle now r w).world.Orderly s gone := by
  cases s.effect_handle now r w with
  | nothing hbase => exact h.of_base hbase
  | registered hroute hvalid hmade hbase => exact (h.register hs hmade).of_base hbase
  | checked hroute hok hnoted hbase => exact (h.insertEntry hnoted).of_base hbase
  | mailed hroute hvalid hbase =>
    have husers := ResetForm.hasUser_of_validate_ok (h.access .users) hvalid
    exact (h.sendResets hs hends husers).of_base hbase

/-- Nobody is forgotten because of a request. -/
theorem knows_handle (s : Service) (now : Instant) (r : Request) {id : String}
    (h : w.Knows gone id) : (s.handle now r w).world.Knows gone id := by
  refine h.imp_left fun hpresent => ?_
  obtain ⟨u, hu, rfl⟩ := Database.hasUser_iff.mp hpresent
  refine Database.hasUser_iff.mpr ⟨u, ?_, rfl⟩
  rcases s.users_handle now r w with hsame | ⟨user, hjoined⟩
  · rw [hsame.users]
    exact hu
  · rw [hjoined.users]
    exact List.mem_append_left _ hu

/-- A request leaves sessions that bind users who are known: the one that it may add binds the user
whom it admits. -/
theorem reliable_handle (h : w.sessions.Reliable (w.Knows gone)) :
    (s.handle now r w).world.sessions.Reliable ((s.handle now r w).world.Knows gone) := by
  have hkept := h.mono fun id hknown => knows_handle s now r hknown
  cases sessionEffect_handle s now r w with
  | idle hstore => rw [hstore]; exact hkept
  | cleared hroute hissue hstore =>
    rcases hstore with ⟨id, data, -, -, hstore⟩ | ⟨-, hstore⟩
    · rw [hstore]; exact hkept.erase id
    · rw [hstore]; exact hkept
  | @bound lifetime user w₁ l l' id hlifetime hadmitted hbound hsave hid hanswer hworld =>
    have hmem := mem_of_admits hadmitted
    have hknown : (s.handle now r w).world.Knows gone user.id := by
      rw [hworld]
      exact .inl (Database.hasUser_iff.mpr ⟨user, hmem, rfl⟩)
    obtain ⟨id', data, -, hstored, hbinds⟩ := hbound.stored hsave
    obtain ⟨_, _, erased, _, rfl⟩ := hbound.shape
    rw [show (s.handle now r w).world.sessions = l'.store by rw [hworld], hstored]
    exact (hkept.erase erased).insert hbinds hknown id'
  | lost hstore =>
    obtain ⟨id, hstore⟩ := hstore
    rw [hstore]
    exact hkept.erase id

/-- Every act keeps a world sound. -/
theorem sound_perform (hs : s.Dependable) (h : w.Sound s gone) {d : Deed} (hregular : d.Regular s) :
    (s.perform d.now w d.act).Sound s fun id => gone id ∨ d.act.Removes w id := by
  obtain ⟨now, act⟩ := d
  -- Nobody goes unless somebody is deleted.
  have hstay : (∀ id, act ≠ .deleteUser id) → (fun id => gone id ∨ act.Removes w id) = gone := by
    intro hact
    funext id
    simp [Act.Removes, hact id]
  cases act with
  | request r =>
    obtain ⟨expires, hends⟩ := hregular.ends r rfl
    rw [hstay (by simp)]
    exact ⟨orderly_handle hs h.toOrderly hends, reliable_handle h.sessions⟩
  | createUser username email passwordHash =>
    exact absurd rfl (hregular.registered username email passwordHash)
  | deleteUser id =>
    have hdelete : ∃ db, w.db.deleteUser id = .ok db := by
      simp [Database.deleteUser, Database.on, h.access .users]
    obtain ⟨db, hdelete⟩ := hdelete
    simp only [perform, hdelete]
    exact ⟨h.toOrderly.deleteUser hdelete,
      h.sessions.mono fun other hknown => (World.knows_deleteUser hdelete).mpr hknown⟩
  | cleanUp =>
    have hdelete : ∃ n db, w.db.deleteExpired now = .ok (n, db) := by
      simp [Database.deleteExpired, Database.on, h.access .resetTokens]
    obtain ⟨n, db, hdelete⟩ := hdelete
    rw [hstay (by simp)]
    simp only [perform, hdelete]
    refine ⟨h.toOrderly.deleteExpired hdelete, ?_⟩
    obtain rfl := Database.of_deleteExpired_ok hdelete
    exact h.sessions

/-! ### Runs -/

/-- Among the deeds is the deletion of a user who had this identifier. -/
def Deleted (s : Service) (w : World) (deeds : List Deed) (id : String) : Prop :=
  ∃ before now after, deeds = before ++ ⟨now, .deleteUser id⟩ :: after ∧
    (s.run w before).world.db.hasUser id = true

/-- A user was deleted by the last deed or by one before. -/
theorem deleted_concat (s : Service) (w : World) (deeds : List Deed) (d : Deed) :
    s.Deleted w (deeds ++ [d])
      = fun id => s.Deleted w deeds id ∨ d.act.Removes (s.run w deeds).world id := by
  funext id
  apply propext
  constructor
  · rintro ⟨before, now, after, hdeeds, hhad⟩
    rcases List.eq_nil_or_concat after with rfl | ⟨after, last, rfl⟩
    · obtain ⟨rfl, hlast⟩ := List.append_inj' hdeeds rfl
      obtain rfl := List.singleton_inj.mp hlast
      exact .inr ⟨rfl, hhad⟩
    · refine .inl ⟨before, now, after, ?_, hhad⟩
      rw [List.concat_eq_append, ← List.cons_append, ← List.append_assoc] at hdeeds
      exact (List.append_inj' hdeeds rfl).1
  · rintro (⟨before, now, after, rfl, hhad⟩ | ⟨hact, hhad⟩)
    · exact ⟨before, now, after ++ [d], by simp, hhad⟩
    · refine ⟨deeds, d.now, [], ?_, hhad⟩
      rw [← hact]

/-- Every run keeps a world sound. -/
theorem sound_run (hs : s.Dependable) (h : w.Sound s fun _ => False) {deeds : List Deed}
    (hregular : ∀ d ∈ deeds, d.Regular s) : (s.run w deeds).world.Sound s (s.Deleted w deeds) := by
  induction deeds using List.reverseRecOn with
  | nil =>
    have hnobody : s.Deleted w [] = fun _ => False := by
      funext id
      simp [Deleted]
    rw [hnobody]
    exact h
  | append_singleton deeds d ih =>
    have hbefore := ih fun e he => hregular e (List.mem_append_left _ he)
    rw [run_concat, deleted_concat]
    exact sound_perform hs hbefore (hregular d (by simp))

end Service

end CookieAuth
