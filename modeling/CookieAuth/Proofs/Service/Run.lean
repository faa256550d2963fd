import CookieAuth.Proofs.Service.Writes
import Mathlib.Data.List.Induction

/-!
# Runs of the service

Clients send requests, and beside that users are made and deleted and expired tokens are cleaned up.
A run is a list of such deeds, each at its point in time.  It leaves a world and the list of all
exchanges with clients.

A run never gives an identifier to two users, provided that none is drawn twice.  It makes no table
and no operation of the session store fail, and only a deletion removes a user.

## Main definitions

* `Act`, `Deed`, `InOrder`: what happens to the service from outside, and when;
* `Exchange`: a request and the world in which it was handled;
* `Service.run`: the world after some deeds, with the exchanges on the way;
* `World.Identifies`: the identifier of a user belongs to nobody else, now or later.

## Main results

* `Service.run_induction`: what holds at the start and is kept by every deed holds after every run
  whose deeds are in the order of time;
* `Service.world_run_induction`: the same for what does not depend on time;
* `Service.mem_perform`, `Service.access_perform`, `Service.faults_perform`: a user who is not
  deleted stays, and what can be reached and done stays the same;
* `Service.identifies_perform`, `Service.identifies_users_perform`: identifiers keep belonging to
  their users.
-/

namespace CookieAuth

open Http Time

/-- What happens to the service from outside. -/
inductive Act where
  /-- A client sends a request. -/
  | request (r : Request)
  /-- A user is made, with a stored hash. -/
  | createUser (username email passwordHash : String)
  /-- A user is deleted. -/
  | deleteUser (id : String)
  /-- Expired tokens are deleted. -/
  | cleanUp

/-- An act at a point in time. -/
structure Deed where
  /-- When it happens. -/
  now : Instant
  /-- What happens. -/
  act : Act

/-- The deeds happen in the order of time. -/
def InOrder (deeds : List Deed) : Prop :=
  deeds.Pairwise fun d e => d.now ≤ e.now

instance (deeds : List Deed) : Decidable (InOrder deeds) :=
  inferInstanceAs (Decidable (deeds.Pairwise fun d e => d.now ≤ e.now))

/-- A request and the world in which it was handled. -/
structure Exchange where
  /-- When the request was handled. -/
  now : Instant
  /-- The request. -/
  request : Request
  /-- The world before it was handled. -/
  before : World

/-- How the request of an exchange was handled. -/
def Exchange.handled (s : Service) (x : Exchange) : Handled :=
  s.handle x.now x.request x.before

/-- A world and the exchanges that led to it, the earliest first. -/
structure Trace where
  /-- The world. -/
  world : World
  /-- The exchanges. -/
  exchanges : List Exchange := []

/-- The exchange that a deed is, if it is one. -/
def Deed.exchange? (d : Deed) (w : World) : Option Exchange :=
  match d.act with
  | .request r => some ⟨d.now, r, w⟩
  | _ => none

namespace Service

variable (s : Service)

/-- The world after an act.  A statement that fails changes nothing. -/
def perform (now : Instant) (w : World) : Act → World
  | .request r => (s.handle now r w).world
  | .createUser username email passwordHash =>
    match w.createUser s now username email passwordHash with
    | .ok (_, w') => w'
    | .error _ => w
  | .deleteUser id =>
    match w.db.deleteUser id with
    | .ok db => { w with db }
    | .error _ => w
  | .cleanUp =>
    match w.db.deleteExpired now with
    | .ok (_, db) => { w with db }
    | .error _ => w

/-- The trace after one more deed. -/
def after (t : Trace) (d : Deed) : Trace where
  world := s.perform d.now t.world d.act
  exchanges := t.exchanges ++ (d.exchange? t.world).toList

/-- The trace of some deeds. -/
def run (w : World) (deeds : List Deed) : Trace :=
  deeds.foldl s.after { world := w }

theorem world_after (t : Trace) (d : Deed) :
    (s.after t d).world = s.perform d.now t.world d.act := rfl

theorem run_concat (w : World) (deeds : List Deed) (d : Deed) :
    s.run w (deeds ++ [d]) = s.after (s.run w deeds) d := by
  simp [run, List.foldl_append]

/-- The world after some deeds, one act after the other. -/
theorem world_run (w : World) (deeds : List Deed) :
    (s.run w deeds).world = deeds.foldl (fun w d => s.perform d.now w d.act) w := by
  suffices hfold : ∀ t : Trace, (deeds.foldl s.after t).world
      = deeds.foldl (fun w d => s.perform d.now w d.act) t.world from hfold _
  induction deeds with
  | nil => exact fun t => rfl
  | cons d rest ih => exact fun t => ih (s.after t d)

variable {s} {w : World}

/-- What holds at the start of a run, is kept by every deed and does not get lost with time holds
after all deeds that happen in the order of time. -/
theorem run_induction {P : Trace → Instant → Prop} (hstart : ∀ now, P { world := w } now)
    (hlater : ∀ t now later, now ≤ later → P t now → P t later)
    (hafter : ∀ t d, P t d.now → P (s.after t d) d.now) {deeds : List Deed}
    (hordered : InOrder deeds) {now : Instant}
    (hnow : ∀ d ∈ deeds, d.now ≤ now) : P (s.run w deeds) now := by
  -- The induction takes deeds off the end: every deed happens no earlier than all before it.
  induction deeds using List.reverseRecOn generalizing now with
  | nil => exact hstart now
  | append_singleton deeds d ih =>
    obtain ⟨hdeeds, -, hbefore⟩ := List.pairwise_append.mp hordered
    have hlast : P (s.run w deeds) d.now := by
      apply ih hdeeds
      intro e he
      exact hbefore e he d (List.mem_singleton_self d)
    rw [run_concat]
    apply hlater _ d.now now (hnow d (by simp))
    exact hafter _ d hlast

/-- What holds of the world at the start of a run and is kept by each of its deeds holds at its
end. -/
theorem world_run_induction {P : World → Prop} {deeds : List Deed} (hstart : P w)
    (hkept : ∀ w, ∀ d ∈ deeds, P w → P (s.perform d.now w d.act)) : P (s.run w deeds).world := by
  rw [world_run]
  induction deeds generalizing w with
  | nil => exact hstart
  | cons d rest ih =>
    apply ih
    · exact hkept w d List.mem_cons_self hstart
    · intro w d hd
      exact hkept w d (List.mem_cons_of_mem _ hd)

/-! ### What a run leaves alone -/

/-- A request leaves the tables in place. -/
theorem access_handle (s : Service) (now : Instant) (r : Request) (w : World) (table : Table) :
    (s.handle now r w).world.db.access table = w.db.access table := by
  cases s.effect_handle now r w with
  | nothing hbase => rw [World.db_eq_of_base hbase]
  | registered _ _ hmade hbase =>
    obtain ⟨-, -, -, rfl⟩ := World.of_register_ok hmade
    rw [World.db_eq_of_base hbase]
    rfl
  | checked _ _ hnoted hbase =>
    obtain ⟨-, rfl⟩ := Database.of_insertEntry_ok hnoted
    rw [World.db_eq_of_base hbase]
    rfl
  | @mailed _ request _ _ hbase =>
    obtain ⟨_, _, _, hsame⟩ := World.sameAccounts_sendResets s now
      (.standard s.config.siteName s.config.siteDomain) request.users w
    rw [World.db_eq_of_base hbase, hsame]
    rfl

/-- An act leaves the tables in place. -/
theorem access_perform (s : Service) (now : Instant) (w : World) (act : Act) (table : Table) :
    (s.perform now w act).db.access table = w.db.access table := by
  cases act with
  | request r => exact s.access_handle now r w table
  | createUser username email passwordHash =>
    simp only [perform]
    split
    · next hmade =>
      obtain ⟨-, -, -, rfl⟩ := World.of_createUser_ok hmade
      rfl
    · rfl
  | deleteUser id =>
    simp only [perform]
    split
    · next hdelete =>
      obtain rfl := Database.of_deleteUser_ok hdelete
      rfl
    · rfl
  | cleanUp =>
    simp only [perform]
    split
    · next hdelete =>
      obtain rfl := Database.of_deleteExpired_ok hdelete
      rfl
    · rfl

/-- A request does not change which operations of the session store fail. -/
theorem faults_handle (s : Service) (now : Instant) (r : Request) (w : World) :
    (s.handle now r w).world.sessions.faults = w.sessions.faults := by
  cases s.sessionEffect_handle now r w with
  | idle hstore => rw [hstore]
  | cleared _ _ hstore =>
    rcases hstore with ⟨_, _, -, -, hstore⟩ | ⟨-, hstore⟩
    · rw [hstore]
      rfl
    · rw [hstore]
  | bound _ _ hbound hsave _ _ hworld =>
    obtain ⟨_, _, _, _, rfl⟩ := hbound.shape
    obtain ⟨_, _, -, rfl⟩ := Live.save_of_ok hsave
    rw [hworld]
    rfl
  | lost hstore =>
    obtain ⟨_, hstore⟩ := hstore
    rw [hstore]
    rfl

end Service

/-! ### The identifiers of users -/

namespace World

/-- The identifier of a user belongs to nobody else, and will not be drawn for anybody. -/
structure Identifies (s : Service) (w : World) (user : User) : Prop where
  /-- The identifier is not going to be drawn. -/
  spent : ∀ n, w.draws.users ≤ n → s.supply.userId n ≠ user.id
  /-- Whoever has the identifier is the user. -/
  unique : ∀ u ∈ w.db.users, u.id = user.id → u = user

/-- The users of a world are among those of an earlier one, and none was made. -/
structure FewerUsers (w w' : World) : Prop where
  /-- Every user was there before. -/
  users : ∀ u ∈ w'.db.users, u ∈ w.db.users
  /-- No identifier was drawn. -/
  draws : w'.draws.users = w.draws.users

variable {s : Service} {w w' : World} {user joined : User}

theorem SameUsers.fewer (h : SameUsers w w') : FewerUsers w w' where
  users u hu := by
    rw [h.users] at hu
    exact hu
  draws := h.draws

theorem Identifies.of_fewer (h : w.Identifies s user) (hfewer : FewerUsers w w') :
    w'.Identifies s user where
  spent n hn := by
    rw [hfewer.draws] at hn
    exact h.spent n hn
  unique u hu := h.unique u (hfewer.users u hu)

/-- A user who is made does not get the identifier of another user. -/
theorem Identifies.of_joined (h : w.Identifies s user) (hjoined : Joined s joined w w') :
    w'.Identifies s user where
  spent n hn := by
    rw [hjoined.draws] at hn
    exact h.spent n (by omega)
  unique u hu hid := by
    rw [hjoined.users, List.mem_append, List.mem_singleton] at hu
    rcases hu with hold | rfl
    · exact h.unique u hold hid
    · -- The new identifier was still to be drawn, unlike that of the user.
      rw [hjoined.id] at hid
      exact absurd hid (h.spent _ (Nat.le_refl _))

/-- A user who is made has an identifier of their own. -/
theorem identifies_joined (honce : ∀ m n, s.supply.userId m = s.supply.userId n → m = n)
    (hall : ∀ u ∈ w.db.users, w.Identifies s u) (hjoined : Joined s joined w w') :
    w'.Identifies s joined where
  spent n hn hid := by
    rw [hjoined.draws] at hn
    rw [hjoined.id] at hid
    have := honce _ _ hid
    omega
  unique u hu hid := by
    rw [hjoined.users, List.mem_append, List.mem_singleton] at hu
    rcases hu with hold | rfl
    · -- Every user who was there has an identifier that is not drawn any more.
      rw [hjoined.id] at hid
      exact absurd hid.symm ((hall u hold).spent _ (Nat.le_refl _))
    · rfl

end World

namespace Service

variable {s : Service} {w : World} {user : User}

/-- An act makes at most one user. -/
theorem users_perform (s : Service) (now : Instant) (w : World) (act : Act) :
    World.FewerUsers w (s.perform now w act) ∨
      ∃ user, World.Joined s user w (s.perform now w act) := by
  cases act with
  | request r =>
    rcases s.users_handle now r w with hsame | hjoined
    · exact .inl hsame.fewer
    · exact .inr hjoined
  | createUser username email passwordHash =>
    simp only [perform]
    split
    · next user w' hmade => exact .inr ⟨user, World.joined_createUser hmade⟩
    · exact .inl (World.SameUsers.refl w).fewer
  | deleteUser id =>
    simp only [perform]
    split
    · next db hdelete =>
      obtain ⟨-, hresult⟩ := Database.of_on_ok hdelete
      obtain rfl := Except.ok.inj hresult
      exact .inl ⟨fun u hu => (List.mem_filter.mp hu).1, rfl⟩
    · exact .inl (World.SameUsers.refl w).fewer
  | cleanUp =>
    simp only [perform]
    split
    · next count db hdelete =>
      obtain ⟨-, hresult⟩ := Database.of_on_ok hdelete
      obtain ⟨-, rfl⟩ := Prod.mk.inj (Except.ok.inj hresult)
      exact .inl ⟨fun u hu => hu, rfl⟩
    · exact .inl (World.SameUsers.refl w).fewer

/-- Acts other than requests leave the sessions alone. -/
theorem sessions_perform (s : Service) (now : Instant) (w : World) {act : Act}
    (h : ∀ r, act ≠ .request r) : (s.perform now w act).sessions = w.sessions := by
  cases act with
  | request r => exact absurd rfl (h r)
  | createUser username email passwordHash =>
    simp only [perform]
    split
    · next hmade =>
      obtain ⟨-, -, -, rfl⟩ := World.of_createUser_ok hmade
      rfl
    · rfl
  | deleteUser id => simp only [perform]; split <;> rfl
  | cleanUp => simp only [perform]; split <;> rfl

/-- An act does not change which operations of the session store fail. -/
theorem faults_perform (s : Service) (now : Instant) (w : World) (act : Act) :
    (s.perform now w act).sessions.faults = w.sessions.faults := by
  cases act with
  | request r => exact s.faults_handle now r w
  | _ => rw [sessions_perform s now w (by simp)]

/-- A user stays, unless it is this one who is deleted. -/
theorem mem_perform (hmem : user ∈ w.db.users) (now : Instant) {act : Act}
    (hact : act ≠ .deleteUser user.id) : user ∈ (s.perform now w act).db.users := by
  cases act with
  | request r =>
    rcases s.users_handle now r w with hsame | ⟨joined, hjoined⟩
    · simpa only [perform, hsame.users] using hmem
    · simp only [perform, hjoined.users]
      exact List.mem_append_left _ hmem
  | createUser username email passwordHash =>
    simp only [perform]
    split
    · next hmade =>
      rw [(World.joined_createUser hmade).users]
      exact List.mem_append_left _ hmem
    · exact hmem
  | deleteUser id =>
    simp only [perform]
    split
    · next hdelete =>
      obtain rfl := Database.of_deleteUser_ok hdelete
      have hne : user.id ≠ id := by
        rintro rfl
        exact hact rfl
      exact List.mem_filter.mpr ⟨hmem, by simpa using hne⟩
    · exact hmem
  | cleanUp =>
    simp only [perform]
    split
    · next hdelete =>
      obtain rfl := Database.of_deleteExpired_ok hdelete
      exact hmem
    · exact hmem

/-- An identifier keeps belonging to its user, also after the user was deleted. -/
theorem identifies_perform (h : w.Identifies s user) (now : Instant) (act : Act) :
    (s.perform now w act).Identifies s user := by
  rcases s.users_perform now w act with hfewer | ⟨joined, hjoined⟩
  · exact h.of_fewer hfewer
  · exact h.of_joined hjoined

/-- Every user keeps having an identifier of their own. -/
theorem identifies_users_perform (honce : ∀ m n, s.supply.userId m = s.supply.userId n → m = n)
    (hall : ∀ u ∈ w.db.users, w.Identifies s u) (now : Instant) (act : Act) :
    ∀ u ∈ (s.perform now w act).db.users, (s.perform now w act).Identifies s u := by
  intro u hu
  rcases s.users_perform now w act with hfewer | ⟨joined, hjoined⟩
  · exact (hall u (hfewer.users u hu)).of_fewer hfewer
  · have hmem := hu
    rw [hjoined.users, List.mem_append, List.mem_singleton] at hmem
    rcases hmem with hold | rfl
    · exact (hall u hold).of_joined hjoined
    · exact World.identifies_joined honce hall hjoined

end Service

end CookieAuth
