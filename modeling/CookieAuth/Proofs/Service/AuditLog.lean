import CookieAuth.Proofs.Service.Run
import CookieAuth.Proofs.Service.Sample

/-!
# The audit log

The database keeps an audit entry for every request for the status that succeeds.  This file has the
log that a run of the service should leave, as a list of such requests, and proves that the database
holds exactly this log.

Deleting a user changes entries that were made long ago, and sessions outlive their users.  What
keeps the two logs together is that no entry names a user who does not exist.

## Main definitions

* `StatusCheck`: a request for the status that succeeded;
* `Service.noted`, `Service.auditLog`: the log after one act, and after a run;
* `Database.Holds`: a database holds a log.

## Main results

* `Service.holds_noted`: one act changes the database as it changes the log;
* `Service.listEntries_eq_auditLog`: after every run the database holds the log of the run.
-/

namespace CookieAuth

open Http Time

/-- A request for the status that succeeded. -/
structure StatusCheck where
  /-- The identifier of the user whom the session was bound to. -/
  user : Option String
  /-- When the request was handled. -/
  now : Instant
  deriving DecidableEq, Repr

namespace StatusCheck

/-- A check after a user is gone. -/
def forget (id : String) (c : StatusCheck) : StatusCheck :=
  if c.user = some id then { c with user := none } else c

/-- The audit entry of a check, which is numbered by its place in the log. -/
def entry (place : Nat) (c : StatusCheck) : AuditEntry where
  id := ↑(place + 1)
  userId := c.user
  createdAt := c.now.text

/-- Forgetting a user in the log is forgetting the user in the database. -/
theorem entry_forget (place : Nat) (id : String) (c : StatusCheck) :
    (c.forget id).entry place = Database.forgetUser id (c.entry place) := by
  unfold forget Database.forgetUser
  by_cases h : c.user = some id
  · simp [entry, h]
  · simp [entry, h]

theorem forget_of_ne {id : String} {c : StatusCheck} (h : c.user ≠ some id) : c.forget id = c :=
  if_neg h

theorem user_of_forget {id other : String} {c : StatusCheck} (h : (c.forget id).user = some other) :
    c.user = some other ∧ other ≠ id := by
  unfold forget at h
  split at h
  · simp at h
  · next hne =>
    refine ⟨h, ?_⟩
    rintro rfl
    exact hne h

end StatusCheck

namespace Service

variable (s : Service)

/-- The log after an act.  A request for the status that succeeds is noted, with the user whom its
session is bound to.  A user who is deleted is forgotten. -/
def noted (now : Instant) (w : World) (log : List StatusCheck) : Act → List StatusCheck
  | .request r =>
    if Route.ofPath? r.path = some .status ∧ (s.handle now r w).Succeeds then
      log ++ [⟨w.sessions.boundUser? now r.sessionId?, now⟩]
    else log
  | .deleteUser id => if w.db.hasUser id then log.map (StatusCheck.forget id) else log
  | .createUser .. => log
  | .cleanUp => log

/-- The log after some deeds. -/
def logAfter : World → List StatusCheck → List Deed → List StatusCheck
  | _, log, [] => log
  | w, log, d :: rest => logAfter (s.perform d.now w d.act) (s.noted d.now w log d.act) rest

/-- The log of a run. -/
def auditLog (w : World) (deeds : List Deed) : List StatusCheck :=
  s.logAfter w [] deeds

end Service

/-! ### Databases that hold a log -/

/-- A database holds a log: its entries are those of the log, the next entry gets the next number,
and no entry names somebody who does not exist. -/
structure Database.Holds (db : Database) (log : List StatusCheck) : Prop where
  /-- The entries are those of the log, in order. -/
  entries : db.entries = log.mapIdx StatusCheck.entry
  /-- The greatest number is that of the last entry. -/
  last : db.lastEntry = log.length
  /-- Every user who is named exists. -/
  known : ∀ c ∈ log, ∀ id, c.user = some id → db.hasUser id = true
  /-- The database is open. -/
  isOpen : db.closed = false
  /-- No table was taken away. -/
  complete : db.hidden = []

namespace Database

variable {db db' : Database} {log : List StatusCheck}

theorem Holds.access (h : db.Holds log) (table : Table) : db.access table = .ok () := by
  simp [Database.access, h.isOpen, h.complete]

theorem holds_empty : empty.Holds [] := ⟨rfl, rfl, by simp, rfl, rfl⟩

/-- More users and other tokens do not matter to the log. -/
theorem Holds.mono (h : db.Holds log) {users : List User} {tokens : List ResetToken}
    (husers : ∀ u ∈ db.users, u ∈ users) : { db with users, tokens }.Holds log where
  entries := h.entries
  last := h.last
  known c hc id hid := by
    obtain ⟨u, hu, rfl⟩ := hasUser_iff.mp (h.known c hc id hid)
    exact hasUser_iff.mpr ⟨u, husers u hu, rfl⟩
  isOpen := h.isOpen
  complete := h.complete

/-- An entry that is added is noted at the end of the log. -/
theorem Holds.insertEntry (h : db.Holds log) {userId : Option String} {now : Instant} {n : Nat}
    (hinsert : db.insertEntry userId now = .ok (n, db')) : db'.Holds (log ++ [⟨userId, now⟩]) := by
  obtain ⟨hknown, rfl⟩ := of_insertEntry_ok hinsert
  refine ⟨?_, ?_, ?_, h.isOpen, h.complete⟩
  · rw [List.mapIdx_concat, ← h.entries, h.last]
    rfl
  · rw [List.length_append, ← h.last]
    rfl
  · intro c hc id hid
    rw [List.mem_append, List.mem_singleton] at hc
    rcases hc with hold | rfl
    · exact h.known c hold id hid
    · exact hknown id hid

/-- The entries of a log lose a user who is forgotten. -/
theorem Holds.entries_map_forgetUser (h : db.Holds log) (id : String) :
    db.entries.map (forgetUser id)
      = (log.map (StatusCheck.forget id)).mapIdx StatusCheck.entry := by
  rw [h.entries]
  apply List.ext_getElem
  · simp
  · intro place hplace hplace'
    simp [StatusCheck.entry_forget]

/-- A user who is deleted is forgotten.  Deleting nobody leaves the log alone, since no entry names
somebody who does not exist. -/
theorem Holds.deleteUser (h : db.Holds log) {id : String} (hdelete : db.deleteUser id = .ok db') :
    db'.Holds (if db.hasUser id then log.map (StatusCheck.forget id) else log) := by
  have hsame : db.hasUser id = false → log.map (StatusCheck.forget id) = log := by
    intro hnobody
    conv_rhs => rw [← List.map_id log]
    apply List.map_congr_left
    intro c hc
    apply StatusCheck.forget_of_ne
    intro hid
    rw [h.known c hc id hid] at hnobody
    simp at hnobody
  have hlog : (if db.hasUser id then log.map (StatusCheck.forget id) else log)
      = log.map (StatusCheck.forget id) := by
    split
    · rfl
    · next hnobody => exact (hsame (by simpa using hnobody)).symm
  have hknown : ∀ c ∈ log.map (StatusCheck.forget id), ∀ other, c.user = some other →
      db'.hasUser other = true := by
    intro c' hc' other hother
    obtain ⟨c, hc, rfl⟩ := List.mem_map.mp hc'
    -- Whoever is still named is somebody else, who is not deleted.
    obtain ⟨huser, hne⟩ := StatusCheck.user_of_forget hother
    exact (hasUser_deleteUser_iff hdelete).mpr ⟨h.known c hc other huser, hne⟩
  rw [hlog]
  obtain rfl := of_deleteUser_ok hdelete
  refine ⟨h.entries_map_forgetUser id, ?_, hknown, h.isOpen, h.complete⟩
  rw [List.length_map]
  exact h.last

/-! ### The numbers of the entries -/

/-- The numbers of entries that are those of a log increase. -/
theorem pairwise_mapIdx_entry (log : List StatusCheck) :
    (log.mapIdx StatusCheck.entry).Pairwise (·.id < ·.id) := by
  rw [List.pairwise_iff_getElem]
  intro i j hi hj hlt
  simp only [List.getElem_mapIdx, StatusCheck.entry]
  omega

/-- The numbers of the entries of a log that has grown begin with those that it had. -/
theorem ids_mapIdx_entry_prefix {log later : List StatusCheck} (h : log.length ≤ later.length) :
    (log.mapIdx StatusCheck.entry).map (·.id) <+: (later.mapIdx StatusCheck.entry).map (·.id) := by
  rw [List.prefix_iff_eq_take]
  apply List.ext_getElem
  · simp [h]
  · intro i hi hi'
    simp [StatusCheck.entry]

end Database

/-! ### Runs -/

namespace Service

variable {s : Service} {w : World} {log : List StatusCheck}

theorem noted_of_check {now : Instant} {r : Request} (hroute : Route.ofPath? r.path = some .status)
    (hok : (s.handle now r w).Succeeds) :
    s.noted now w log (.request r) = log ++ [⟨w.sessions.boundUser? now r.sessionId?, now⟩] :=
  if_pos ⟨hroute, hok⟩

theorem noted_of_not_check {now : Instant} {r : Request}
    (h : Route.ofPath? r.path = some .status → ¬ (s.handle now r w).Succeeds) :
    s.noted now w log (.request r) = log :=
  if_neg fun hcheck => h hcheck.1 hcheck.2

/-- A request changes the database as it changes the log. -/
theorem holds_noted_request (h : w.db.Holds log) (now : Instant) (r : Request) :
    (s.handle now r w).world.db.Holds (s.noted now w log (.request r)) := by
  cases s.effect_handle now r w with
  | nothing hbase hfailed =>
    rw [noted_of_not_check hfailed, World.db_eq_of_base hbase]
    exact h
  | registered hroute _ hmade hbase =>
    rw [noted_of_not_check (by simp [hroute]), World.db_eq_of_base hbase]
    obtain ⟨-, -, -, rfl⟩ := World.of_register_ok hmade
    exact h.mono fun u hu => List.mem_append_left _ hu
  | checked hroute hok hnoted hbase =>
    rw [noted_of_check hroute hok, World.db_eq_of_base hbase]
    exact h.insertEntry hnoted
  | @mailed _ request hroute _ hbase =>
    rw [noted_of_not_check (by simp [hroute]), World.db_eq_of_base hbase]
    obtain ⟨tokens, _, _, hsame⟩ := World.sameAccounts_sendResets s now
      (.standard s.config.siteName s.config.siteDomain) request.users w
    rw [hsame]
    exact h.mono fun u hu => hu

/-- An act changes the database as it changes the log. -/
theorem holds_noted (h : w.db.Holds log) (now : Instant) (act : Act) :
    (s.perform now w act).db.Holds (s.noted now w log act) := by
  cases act with
  | request r => exact holds_noted_request h now r
  | createUser username email passwordHash =>
    simp only [perform, noted]
    split
    · next hmade =>
      obtain ⟨-, -, -, rfl⟩ := World.of_createUser_ok hmade
      exact h.mono fun u hu => List.mem_append_left _ hu
    · exact h
  | deleteUser id =>
    have hdelete : ∃ db, w.db.deleteUser id = .ok db := by
      simp [Database.deleteUser, Database.on, h.access]
    obtain ⟨db, hdelete⟩ := hdelete
    simp only [perform, noted, hdelete]
    exact h.deleteUser hdelete
  | cleanUp =>
    simp only [perform, noted]
    split
    · next hdelete =>
      obtain rfl := Database.of_deleteExpired_ok hdelete
      exact h.mono fun u hu => hu
    · exact h

/-- After some deeds the database holds the log of these deeds. -/
theorem holds_logAfter (h : w.db.Holds log) (deeds : List Deed) :
    (s.run w deeds).world.db.Holds (s.logAfter w log deeds) := by
  rw [world_run]
  induction deeds generalizing w log with
  | nil => exact h
  | cons d rest ih => exact ih (holds_noted h d.now d.act)

/-- More deeds go on with the log. -/
theorem logAfter_append (w : World) (log : List StatusCheck) (deeds more : List Deed) :
    s.logAfter w log (deeds ++ more)
      = s.logAfter (s.run w deeds).world (s.logAfter w log deeds) more := by
  rw [world_run]
  induction deeds generalizing w log with
  | nil => rfl
  | cons d rest ih => exact ih _ _

theorem length_noted (now : Instant) (w : World) (log : List StatusCheck) (act : Act) :
    log.length ≤ (s.noted now w log act).length := by
  unfold noted
  split
  · split <;> simp
  · split <;> simp
  · exact Nat.le_refl _
  · exact Nat.le_refl _

/-- No deed makes the log shorter. -/
theorem length_logAfter (w : World) (log : List StatusCheck) (deeds : List Deed) :
    log.length ≤ (s.logAfter w log deeds).length := by
  induction deeds generalizing w log with
  | nil => exact Nat.le_refl _
  | cons d rest ih => exact Nat.le_trans (length_noted d.now w log d.act) (ih _ _)

/-- From an empty database on, the audit entries that can be read are those of the log of the run.
Their numbers increase, and whatever happens afterwards, the numbers that were given stay with their
entries and are not given again. -/
theorem listEntries_eq_auditLog (s : Service) (w : World) (hempty : w.db = .empty)
    (deeds : List Deed) :
    ∃ entries, (s.run w deeds).world.db.listEntries = .ok entries ∧
      entries = (s.auditLog w deeds).mapIdx StatusCheck.entry ∧
      entries.Pairwise (·.id < ·.id) ∧
      ∀ more, ∃ later, (s.run w (deeds ++ more)).world.db.listEntries = .ok later ∧
        entries.map (·.id) <+: later.map (·.id) := by
  have hstart : w.db.Holds [] := by
    rw [hempty]
    exact Database.holds_empty
  -- Whatever the run, its entries can be read and are those of its log.
  have hread : ∀ deeds, (s.run w deeds).world.db.listEntries
      = .ok ((s.auditLog w deeds).mapIdx StatusCheck.entry) := by
    intro deeds
    have hholds : (s.run w deeds).world.db.Holds (s.auditLog w deeds) := holds_logAfter hstart deeds
    rw [Database.listEntries, Database.on, hholds.access, ← hholds.entries]
  refine ⟨_, hread deeds, rfl, Database.pairwise_mapIdx_entry _, ?_⟩
  intro more
  refine ⟨_, hread (deeds ++ more), Database.ids_mapIdx_entry_prefix ?_⟩
  unfold auditLog
  rw [logAfter_append]
  exact length_logAfter _ _ _

end Service

namespace Sample

/-- A world without users, where a session is bound to the first user who is going to be made. -/
def expecting : World where
  sessions := { records := [(oldId, ⟨[(userIdKey, .str "u")], ⟨1000⟩⟩)] }

/-- Bob is made, and the status is asked for with the session and without. -/
def checks : List Deed :=
  [⟨⟨0⟩, .createUser "bob" "bob@example.com" ""⟩, ⟨⟨1⟩, .request (askStatus oldId.text)⟩,
    ⟨⟨2⟩, .request (askStatus "")⟩]

/-- Bob is deleted, and the status is asked for with the session again. -/
def moreChecks : List Deed :=
  [⟨⟨3⟩, .deleteUser "u"⟩, ⟨⟨4⟩, .request (askStatus oldId.text)⟩]

end Sample

namespace Service

open Sample

/-- The check with Bob's session names Bob until the account is deleted.  Afterwards the session is
of no use, and asking with it again is not noted. -/
theorem listEntries_before_and_after_deletion :
    (∃ entries, (service.run expecting checks).world.db.listEntries = .ok entries ∧
      entries.map (·.userId) = [some "u", none]) ∧
    ∃ entries, (service.run expecting (checks ++ moreChecks)).world.db.listEntries = .ok entries ∧
      entries.map (·.userId) = [none, none] := by
  refine ⟨?_, ?_⟩
  · obtain ⟨entries, hread, hlog, -⟩ := listEntries_eq_auditLog service expecting rfl checks
    refine ⟨entries, hread, ?_⟩
    rw [hlog]
    decide +kernel
  · obtain ⟨entries, hread, hlog, -⟩ :=
      listEntries_eq_auditLog service expecting rfl (checks ++ moreChecks)
    refine ⟨entries, hread, ?_⟩
    rw [hlog]
    decide +kernel

end Service

end CookieAuth
