import CookieAuth.Proofs.Service.Writes
import CookieAuth.Proofs.Service.Sample
import Mathlib.Data.List.Nodup

/-!
# The tables stay consistent

Requests that run at the same time send their statements to the database in any order.  Whatever
statements come, with whatever values, the identifiers, names and addresses of users and the secrets
of tokens stay unique, and tokens and audit entries refer to users who exist.

## Main definitions

* `Statement`: a change of the tables, with the values that are drawn for it;
* `Database.execute`, `Database.after`: the result of a statement, and the database afterwards;
* `Database.Reachable`: a database that statements lead to from the empty one;
* `Database.Consistent`: unique values, and no reference to a user who does not exist.

## Main results

* `World.execute_createUser`, `World.execute_saveToken`: making a user and issuing a token are such
  statements;
* `Database.Consistent.execute`: every statement keeps the tables consistent;
* `Service.reachable_handle`: requests send only such statements;
* `Database.Reachable.tables_consistent`: the whole statement.
-/

namespace CookieAuth

open Http Time

/-! ### Statements -/

/-- A change of the tables, with the values that are drawn for it. -/
inductive Statement where
  /-- Make a user. -/
  | createUser (id username email passwordHash : String) (now : Instant)
  /-- Delete a user. -/
  | deleteUser (id : String)
  /-- Add an audit entry. -/
  | insertEntry (userId : Option String) (now : Instant)
  /-- Issue a token for a number of minutes. -/
  | saveToken (userId secret : String) (minutes : Int) (now : Instant)
  /-- Delete the expired tokens. -/
  | cleanUp (now : Instant)

namespace Database

/-- The database after a statement, unless it fails. -/
def execute (db : Database) : Statement → Except Failure Database
  | .createUser id username email passwordHash now =>
    (db.insertUser (newUser id username email passwordHash now)).mapError .database
  | .deleteUser id => (db.deleteUser id).mapError .database
  | .insertEntry userId now => ((db.insertEntry userId now).map Prod.snd).mapError .database
  | .saveToken userId secret minutes now =>
    match ResetToken.issue userId secret minutes now with
    | .error e => .error (.crash e)
    | .ok token => (db.insertToken token).mapError .database
  | .cleanUp now => ((db.deleteExpired now).map Prod.snd).mapError .database

/-- The database after a statement, whether it fails or not. -/
def after (db : Database) (statement : Statement) : Database :=
  match db.execute statement with
  | .ok db' => db'
  | .error _ => db

/-- The databases that statements lead to from the empty one. -/
inductive Reachable : Database → Prop where
  /-- There was no statement yet. -/
  | empty : Reachable .empty
  /-- There was one more statement. -/
  | after {db : Database} (h : Reachable db) (statement : Statement) :
      Reachable (db.after statement)

variable {db db' : Database} {statement : Statement}

theorem after_of_ok (h : db.execute statement = .ok db') : db.after statement = db' := by
  rw [after, h]

theorem after_of_error {f : Failure} (h : db.execute statement = .error f) :
    db.after statement = db := by
  rw [after, h]

theorem Reachable.of_execute (h : db.Reachable) (hrun : db.execute statement = .ok db') :
    db'.Reachable := by
  rw [← after_of_ok hrun]
  exact h.after statement

theorem of_mapError_ok {α : Type} {result : Except DbError α} {a : α}
    (h : result.mapError Failure.database = .ok a) : result = .ok a := by
  cases result with
  | error e => simp [Except.mapError] at h
  | ok b => exact congrArg Except.ok (Except.ok.inj h)

theorem of_map_snd_ok {α β : Type} {result : Except DbError (α × β)} {b : β}
    (h : result.map Prod.snd = .ok b) : ∃ a, result = .ok (a, b) := by
  cases result with
  | error e => simp [Except.map] at h
  | ok pair => exact ⟨pair.1, by rw [← Except.ok.inj h]⟩

end Database

/-- Making a user is a statement with the next identifier. -/
theorem World.execute_createUser (s : Service) (now : Instant) (w : World)
    (username email passwordHash : String) :
    w.db.execute (.createUser (s.supply.userId w.draws.users) username email passwordHash now)
      = ((w.createUser s now username email passwordHash).map (·.2.db)).mapError .database := by
  simp only [Database.execute, createUser]
  cases w.db.insertUser _ with
  | error e => rfl
  | ok db => rfl

/-- Issuing a token is a statement with the next secret. -/
theorem World.execute_saveToken (s : Service) (now : Instant) (w : World) (userId : String)
    (minutes : Int) :
    w.db.execute (.saveToken userId (s.supply.token w.draws.tokens) minutes now)
      = (w.issueToken s now userId minutes).map (·.2.db) := by
  simp only [Database.execute, issueToken]
  cases ResetToken.issue userId (s.supply.token w.draws.tokens) minutes now with
  | error e => rfl
  | ok token =>
    dsimp only
    cases w.db.insertToken token with
    | error e => rfl
    | ok db => rfl

/-! ### What statements keep -/

namespace Database

/-- Unique values, and no reference to a user who does not exist. -/
structure Consistent (db : Database) : Prop where
  /-- No two users have the same identifier. -/
  ids : (db.users.map (·.id)).Nodup
  /-- No two users have the same name. -/
  usernames : (db.users.map (·.username)).Nodup
  /-- No two users have the same address. -/
  emails : (db.users.map (·.email)).Nodup
  /-- No two tokens have the same secret. -/
  secrets : (db.tokens.map (·.token)).Nodup
  /-- The owner of every token exists. -/
  owners : ∀ t ∈ db.tokens, db.hasUser t.userId = true
  /-- The user of every audit entry that has one exists. -/
  links : ∀ e ∈ db.entries, ∀ id, e.userId = some id → db.hasUser id = true

/-- A row with a new value can be added to a column without repetitions. -/
theorem nodup_map_concat {α : Type} {column : α → String} {rows : List α} {row : α}
    (h : (rows.map column).Nodup) (hnew : ∀ r ∈ rows, column r ≠ column row) :
    ((rows ++ [row]).map column).Nodup := by
  rw [List.map_append, List.nodup_append]
  refine ⟨h, by simp, ?_⟩
  intro value hvalue other hother
  obtain ⟨r, hr, rfl⟩ := List.mem_map.mp hvalue
  rw [List.map_singleton, List.mem_singleton] at hother
  rw [hother]
  exact hnew r hr

namespace Consistent

variable {db db' : Database} {statement : Statement}

theorem empty : Consistent .empty where
  ids := List.nodup_nil
  usernames := List.nodup_nil
  emails := List.nodup_nil
  secrets := List.nodup_nil
  owners := by simp [Database.empty]
  links := by simp [Database.empty]

theorem insertUser {user : User} (h : db.Consistent) (hrun : db.insertUser user = .ok db') :
    db'.Consistent := by
  obtain ⟨-, hunique, rfl⟩ := of_insertUser_ok hrun
  have hnew := of_duplicate?_eq_none hunique
  -- Whoever existed before still does.
  have hstays : ∀ id, db.hasUser id = true →
      hasUser { db with users := db.users ++ [user] } id = true := by
    intro id hid
    obtain ⟨u, hu, hown⟩ := hasUser_iff.mp hid
    exact hasUser_iff.mpr ⟨u, List.mem_append_left _ hu, hown⟩
  exact
    { ids := nodup_map_concat h.ids fun u hu => (hnew u hu).2.2
      usernames := nodup_map_concat h.usernames fun u hu => (hnew u hu).2.1
      emails := nodup_map_concat h.emails fun u hu => (hnew u hu).1
      secrets := h.secrets
      owners := fun t ht => hstays _ (h.owners t ht)
      links := fun e he id hid => hstays _ (h.links e he id hid) }

theorem deleteUser {id : String} (h : db.Consistent) (hrun : db.deleteUser id = .ok db') :
    db'.Consistent := by
  have hstays : ∀ other, db.hasUser other = true ∧ other ≠ id → db'.hasUser other = true :=
    fun _ => (hasUser_deleteUser_iff hrun).mpr
  obtain rfl := of_deleteUser_ok hrun
  refine
    { ids := h.ids.sublist (List.filter_sublist.map _)
      usernames := h.usernames.sublist (List.filter_sublist.map _)
      emails := h.emails.sublist (List.filter_sublist.map _)
      secrets := h.secrets.sublist (List.filter_sublist.map _)
      owners := ?_
      links := ?_ }
  · intro t ht
    obtain ⟨hmem, hother⟩ := List.mem_filter.mp ht
    exact hstays t.userId ⟨h.owners t hmem, by simpa using hother⟩
  · intro e he other hlink
    obtain ⟨old, hold, rfl⟩ := List.mem_map.mp he
    -- An entry that keeps its user is not one of the deleted user.
    unfold forgetUser at hlink
    split at hlink
    · simp at hlink
    · next hne =>
      refine hstays other ⟨h.links old hold other hlink, ?_⟩
      rintro rfl
      exact hne hlink

theorem insertEntry {userId : Option String} {now : Instant} {n : Nat} (h : db.Consistent)
    (hrun : db.insertEntry userId now = .ok (n, db')) : db'.Consistent := by
  obtain ⟨hknown, rfl⟩ := of_insertEntry_ok hrun
  refine { h with links := ?_ }
  intro e he id hid
  rcases List.mem_append.mp he with hold | hnew
  · exact h.links e hold id hid
  · obtain rfl := List.mem_singleton.mp hnew
    exact hknown id hid

theorem insertToken {token : ResetToken} (h : db.Consistent)
    (hrun : db.insertToken token = .ok db') : db'.Consistent := by
  obtain ⟨hnew, howner, rfl⟩ := of_insertToken_ok hrun
  refine { h with secrets := nodup_map_concat h.secrets hnew, owners := ?_ }
  intro t ht
  rcases List.mem_append.mp ht with hold | hlast
  · exact h.owners t hold
  · obtain rfl := List.mem_singleton.mp hlast
    exact howner

theorem deleteExpired {now : Instant} {n : Nat} (h : db.Consistent)
    (hrun : db.deleteExpired now = .ok (n, db')) : db'.Consistent := by
  obtain rfl := of_deleteExpired_ok hrun
  exact
    { h with
      secrets := h.secrets.sublist (List.filter_sublist.map _)
      owners := fun t ht => h.owners t (List.mem_of_mem_filter ht) }

/-- Every statement keeps the tables consistent. -/
theorem execute (h : db.Consistent) (hrun : db.execute statement = .ok db') : db'.Consistent := by
  cases statement with
  | createUser id username email passwordHash now => exact h.insertUser (of_mapError_ok hrun)
  | deleteUser id => exact h.deleteUser (of_mapError_ok hrun)
  | insertEntry userId now =>
    obtain ⟨n, hinsert⟩ := of_map_snd_ok (of_mapError_ok hrun)
    exact h.insertEntry hinsert
  | saveToken userId secret minutes now =>
    simp only [Database.execute] at hrun
    split at hrun
    · simp at hrun
    · exact h.insertToken (of_mapError_ok hrun)
  | cleanUp now =>
    obtain ⟨n, hdelete⟩ := of_map_snd_ok (of_mapError_ok hrun)
    exact h.deleteExpired hdelete

/-- Deleting a user who exists takes exactly this user from the list. -/
theorem users_deleteUser {id : String} {user : User} (h : db.Consistent)
    (hrun : db.deleteUser id = .ok db') (hmem : user ∈ db.users) (hid : user.id = id) :
    db'.users = db.users.erase user := by
  obtain rfl := of_deleteUser_ok hrun
  rw [List.Nodup.erase_eq_filter (List.Nodup.of_map _ h.ids)]
  apply List.filter_congr
  intro other hother
  -- The identifier tells the user from all others.
  have hsame : other.id = id ↔ other = user := by
    rw [← hid]
    exact ⟨List.inj_on_of_nodup_map h.ids hother hmem, congrArg User.id⟩
  rw [Bool.eq_iff_iff]
  simp [hsame]

/-- Deleting nobody changes nothing: nothing refers to a user who does not exist. -/
theorem deleteUser_of_unknown {id : String} (h : db.Consistent)
    (hrun : db.deleteUser id = .ok db') (hunknown : ∀ u ∈ db.users, u.id ≠ id) : db' = db := by
  obtain rfl := of_deleteUser_ok hrun
  have hnobody : db.hasUser id ≠ true := by
    intro hknown
    obtain ⟨u, hu, hid⟩ := hasUser_iff.mp hknown
    exact hunknown u hu hid
  have husers : db.users.filter (·.id ≠ id) = db.users := by
    rw [List.filter_eq_self]
    intro u hu
    simpa using hunknown u hu
  have htokens : db.tokens.filter (·.userId ≠ id) = db.tokens := by
    rw [List.filter_eq_self]
    intro t ht
    have hne : t.userId ≠ id := by
      rintro rfl
      exact hnobody (h.owners t ht)
    simpa using hne
  have hentries : db.entries.map (forgetUser id) = db.entries := by
    conv_rhs => rw [← List.map_id db.entries]
    apply List.map_congr_left
    intro e he
    apply if_neg
    intro hlink
    exact hnobody (h.links e he id hlink)
  rw [husers, htokens, hentries]

end Consistent

/-! ### Reachable databases -/

/-- A statement leaves all tables in place. -/
theorem access_after (db : Database) (statement : Statement) (table : Table) :
    (db.after statement).access table = db.access table := by
  unfold after
  split
  · next db' hrun =>
    cases statement with
    | createUser id username email passwordHash now =>
      obtain ⟨-, -, rfl⟩ := of_insertUser_ok (of_mapError_ok hrun)
      rfl
    | deleteUser id =>
      obtain rfl := of_deleteUser_ok (of_mapError_ok hrun)
      rfl
    | insertEntry userId now =>
      obtain ⟨n, hinsert⟩ := of_map_snd_ok (of_mapError_ok hrun)
      obtain ⟨-, rfl⟩ := of_insertEntry_ok hinsert
      rfl
    | saveToken userId secret minutes now =>
      simp only [execute] at hrun
      split at hrun
      · simp at hrun
      · obtain ⟨-, -, rfl⟩ := of_insertToken_ok (of_mapError_ok hrun)
        rfl
    | cleanUp now =>
      obtain ⟨n, hdelete⟩ := of_map_snd_ok (of_mapError_ok hrun)
      obtain rfl := of_deleteExpired_ok hdelete
      rfl
  · rfl

namespace Reachable

variable {db : Database}

theorem consistent (h : db.Reachable) : db.Consistent := by
  induction h with
  | empty => exact .empty
  | @after db _ statement ih =>
    unfold Database.after
    split
    · next hrun => exact ih.execute hrun
    · exact ih

theorem access_eq_ok (h : db.Reachable) (table : Table) : db.access table = .ok () := by
  induction h with
  | empty => rfl
  | after _ statement ih => rw [access_after, ih]

/-- Users can always be deleted. -/
theorem deleteUser_ok (h : db.Reachable) (id : String) : ∃ db', db.deleteUser id = .ok db' := by
  unfold deleteUser on
  rw [h.access_eq_ok]
  exact ⟨_, rfl⟩

end Reachable

end Database

/-- Sending mails to some users issues a token for each of them, up to the first failure. -/
theorem World.reachable_sendResets (s : Service) (now : Instant) (mail : ResetMail)
    (users : List User) {w : World} (h : w.db.Reachable) :
    (w.sendResets s now mail users).2.1.db.Reachable := by
  refine sendResets_induction (P := fun w => w.db.Reachable) ?_ users h
  intro user w h
  have hstatement := execute_saveToken s now w user.id s.config.passwordResetTimeoutMinutes.toInt
  unfold sendReset
  split
  · exact h
  · next hissued =>
    rw [hissued] at hstatement
    -- The token stays in the table, whatever becomes of the mail.
    have hreached := h.of_execute hstatement
    split
    · exact hreached
    · split <;> exact hreached

/-- Requests change the tables only by such statements. -/
theorem Service.reachable_handle (s : Service) (now : Instant) (r : Request) {w : World}
    (h : w.db.Reachable) : (s.handle now r w).world.db.Reachable := by
  cases s.effect_handle now r w with
  | nothing hbase =>
    rw [World.db_eq_of_base hbase]
    exact h
  | @registered _ account user w₁ _ _ hmade hbase =>
    rw [World.db_eq_of_base hbase]
    unfold World.register at hmade
    split at hmade
    · simp at hmade
    · next hcreate =>
      obtain rfl := Except.ok.inj hmade
      have hstatement := World.execute_createUser s now w account.username account.email
        (w.hashNext s account.password)
      rw [hcreate] at hstatement
      exact h.of_execute hstatement
  | @checked n db _ _ hnoted hbase =>
    rw [World.db_eq_of_base hbase]
    have hstatement : w.db.execute (.insertEntry (w.sessions.boundUser? now r.sessionId?) now)
        = .ok db := by
      rw [Database.execute, hnoted]
      rfl
    exact h.of_execute hstatement
  | mailed _ _ hbase =>
    -- One request may send several statements here.
    rw [World.db_eq_of_base hbase]
    exact World.reachable_sendResets s now _ _ h

namespace Database

/-- Whatever statements led to a database, with whatever values and in whatever order, its tables
are consistent.  A statement that fails changes nothing.  Deleting a user succeeds and takes away
exactly this user, exactly the tokens of the user, and the user from exactly those audit entries
that have them; if nobody has the identifier, it changes nothing.  What a request does to the tables
is done by such statements. -/
theorem Reachable.tables_consistent (db : Database) (h : db.Reachable) :
    db.Consistent ∧
    (∀ statement f, db.execute statement = .error f → db.after statement = db) ∧
    (∀ id, ∃ db', db.execute (.deleteUser id) = .ok db' ∧
      (∀ user ∈ db.users, user.id = id → db'.users = db.users.erase user) ∧
      db'.tokens = db.tokens.filter (·.userId ≠ id) ∧
      db'.entries = db.entries.map
        (fun e => if e.userId = some id then { e with userId := none } else e) ∧
      ((∀ user ∈ db.users, user.id ≠ id) → db' = db)) ∧
    ∀ s now r w, w.db = db → (Service.handle s now r w).world.db.Reachable := by
  have hconsistent := h.consistent
  refine ⟨hconsistent, fun _ _ => after_of_error, ?_, ?_⟩
  · intro id
    obtain ⟨db', hdelete⟩ := h.deleteUser_ok id
    have hresult := of_deleteUser_ok hdelete
    refine ⟨db', by rw [execute, hdelete]; rfl, ?_, ?_, ?_, ?_⟩
    · intro user hmem hid
      exact hconsistent.users_deleteUser hdelete hmem hid
    · rw [hresult]
    · rw [hresult]
      rfl
    · exact hconsistent.deleteUser_of_unknown hdelete
  · rintro s now r w rfl
    exact s.reachable_handle now r h

end Database

namespace Sample

/-- Two users, of whom the first has a token and an audit entry.  A second user with the same name
and a second token with the same secret are refused. -/
def twoUsers : Database :=
  (((((Database.empty.after (.createUser "a" "ann" "ann@example.com" "" ⟨0⟩)).after
    (.createUser "b" "bob" "bob@example.com" "" ⟨0⟩)).after
    (.createUser "c" "ann" "other@example.com" "" ⟨0⟩)).after
    (.saveToken "a" "secret" 60 ⟨0⟩)).after
    (.saveToken "b" "secret" 60 ⟨0⟩)).after
    (.insertEntry (some "a") ⟨0⟩)

theorem reachable_twoUsers : twoUsers.Reachable :=
  ((((((Database.Reachable.empty).after _).after _).after _).after _).after _).after _

end Sample

namespace Database

open Sample

/-- With Ann the token goes, and the audit entry stays without a user. -/
theorem ann_is_forgotten :
    twoUsers.Consistent ∧ twoUsers.users.map (·.id) = ["a", "b"] ∧
      twoUsers.tokens.map (·.userId) = ["a"] ∧ twoUsers.entries.map (·.userId) = [some "a"] ∧
      ∃ db', twoUsers.execute (.deleteUser "a") = .ok db' ∧ db'.users.map (·.id) = ["b"] ∧
        db'.tokens = [] ∧ db'.entries.map (·.userId) = [none] := by
  obtain ⟨hconsistent, -, hdelete, -⟩ := Reachable.tables_consistent twoUsers reachable_twoUsers
  obtain ⟨db', hrun, husers, htokens, hentries, -⟩ := hdelete "a"
  have hann := husers (newUser "a" "ann" "ann@example.com" "" ⟨0⟩) (by decide +kernel) rfl
  refine ⟨hconsistent, by decide +kernel, by decide +kernel, by decide +kernel, db', hrun, ?_, ?_,
    ?_⟩
  · rw [hann]
    decide +kernel
  · rw [htokens]
    decide +kernel
  · rw [hentries]
    decide +kernel

end Database

end CookieAuth
