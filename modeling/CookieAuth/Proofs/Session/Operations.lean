import CookieAuth.Session.Login

/-!
# What the operations on a session do

A request starts with a session that was not read yet.  This file says once what reading, binding,
clearing and saving such a session do, to the session and to the store, so that later files need not
look into the operations again.

## Main definitions

* `SessionStore.seen?`, `SessionStore.boundUser?`: the data that a request with an identifier finds,
  and the user whom it is bound to;
* `SessionData.Binds`: session data that binds a session to a user;
* `Live.Opened`: the two ways of reading a session, which finds a record or starts afresh;
* `Live.LoggedIn`: the three ways of binding a session to a user.

## Main results

* `Live.opened_of_load`, `Live.loggedIn_of_logIn`: reading and binding go in one of these ways;
* `Live.logOut_of_opened`: clearing erases the record that was found, and nothing else;
* `Live.save_of_bound`: saving a session that was bound makes one record, which binds the user.
-/

namespace CookieAuth

open Time

/-! ### Session data -/

namespace SessionData

/-- The data after a value was set.  A value that is there already stays as it is. -/
def put (key : String) (value : Json) (data : SessionData) : SessionData :=
  if (data.lookup key).any value.same then data else Json.insertField key value data

/-- Session data that binds a session to a user, checked by a backend. -/
structure Binds (data : SessionData) (userId backend : String) : Prop where
  /-- The data holds the identifier of the user. -/
  user : data.lookup userIdKey = some (.str userId)
  /-- The data holds what checked the user. -/
  backend : data.lookup backendKey = some (.str backend)

/-- Session data that binds a session to somebody else than a user. -/
def HeldByOther (data : SessionData) (userId : String) : Prop :=
  ∃ other, data.lookup userIdKey = some (.str other) ∧ other ≠ userId

/-- The identifier of the user whom session data binds a session to. -/
def userId? (data : SessionData) : Option String :=
  match data.lookup userIdKey with
  | some (.str id) => some id
  | _ => none

theorem userId?_of_lookup {data : SessionData} {bound : Option String}
    (h : data.lookup userIdKey = bound.map .str) : data.userId? = bound := by
  unfold userId?
  rw [h]
  cases bound <;> rfl

variable {key other : String}

theorem lookup_put_str (key s : String) (data : SessionData) :
    (put key (.str s) data).lookup key = some (.str s) := by
  unfold put
  split
  · next h =>
    -- The value is not written again only where the very same text is there.
    obtain ⟨j, hj, hsame⟩ := (Option.any_eq_true _ _).mp h
    rw [hj, Json.same_str hsame]
  · rw [Json.lookup_insertField, if_pos rfl]

theorem lookup_put_of_ne (value : Json) (data : SessionData) (h : other ≠ key) :
    (put key value data).lookup other = data.lookup other := by
  unfold put
  split
  · rfl
  · rw [Json.lookup_insertField, if_neg h]

/-- Setting both values binds the session, whatever it held before. -/
theorem binds_put_put (data : SessionData) (userId backend : String) :
    Binds (put backendKey (.str backend) (put userIdKey (.str userId) data)) userId backend where
  user := by
    rw [lookup_put_of_ne _ _ (by decide : userIdKey ≠ backendKey), lookup_put_str]
  backend := lookup_put_str _ _ _

end SessionData

/-! ### Reading a session -/

/-- The data that a request finds under the identifier that it presents, if it presents one. -/
def SessionStore.seen? (store : SessionStore) (now : Instant) (id : Option SessionId) :
    Option SessionData :=
  id.bind (store.find? · now)

/-- The user whom the session is bound to that a request presents. -/
def SessionStore.boundUser? (store : SessionStore) (now : Instant) (id : Option SessionId) :
    Option String :=
  (store.seen? now id).bind SessionData.userId?

namespace SessionStore

variable {store store' : SessionStore} {id other : SessionId} {record : Record}
  {now later : Instant} {data : SessionData}

theorem find?_eq_some_iff :
    store.find? id now = some data ↔
      ∃ record, store.get? id = some record ∧ now < record.expires ∧ record.data = data := by
  unfold find?
  cases store.get? id with
  | none => simp
  | some record =>
    by_cases hlive : now < record.expires
    · rw [Option.filter_some_pos (by simpa using hlive)]
      constructor
      · intro h
        exact ⟨record, rfl, hlive, Option.some.inj h⟩
      · rintro ⟨record', hrecord, -, rfl⟩
        rw [Option.some.inj hrecord]
        rfl
    · rw [Option.filter_some_neg (by simpa using hlive)]
      constructor
      · intro h
        simp at h
      · rintro ⟨record', hrecord, hlive', -⟩
        rw [Option.some.inj hrecord] at hlive
        exact absurd hlive' hlive

/-- A record that is found later is found now. -/
theorem find?_of_le (hle : now ≤ later) (h : store.find? id later = some data) :
    store.find? id now = some data := by
  obtain ⟨record, hget, hlive, hdata⟩ := find?_eq_some_iff.mp h
  exact find?_eq_some_iff.mpr ⟨record, hget, Instant.lt_of_le_of_lt hle hlive, hdata⟩

/-- What is found after a record was erased was found before, under another identifier. -/
theorem find?_of_erase (h : (store.erase id).find? other now = some data) :
    other ≠ id ∧ store.find? other now = some data := by
  obtain ⟨record, hget, hlive, hdata⟩ := find?_eq_some_iff.mp h
  rw [get?_erase] at hget
  split at hget
  · simp at hget
  · next hne => exact ⟨hne, find?_eq_some_iff.mpr ⟨record, hget, hlive, hdata⟩⟩

/-- What is found after a record was put in is this record, or was found before. -/
theorem find?_of_insert (h : (store.insert id record).find? other now = some data) :
    (other = id ∧ record.data = data) ∨ (other ≠ id ∧ store.find? other now = some data) := by
  obtain ⟨record', hget, hlive, hdata⟩ := find?_eq_some_iff.mp h
  rw [get?_insert] at hget
  split at hget
  · next heq =>
    rw [Option.some.inj hget]
    exact .inl ⟨heq, hdata⟩
  · next hne => exact .inr ⟨hne, find?_eq_some_iff.mpr ⟨record', hget, hlive, hdata⟩⟩

/-- A request that does not find a session does not present one that can be found later. -/
theorem ne_of_seen?_eq_none {presented : Option SessionId} (hle : now ≤ later)
    (hnone : store.seen? now presented = none) (h : store.find? id later = some data) :
    presented ≠ some id := by
  rintro rfl
  have hnow := find?_of_le hle h
  rw [show store.find? id now = none from hnone] at hnow
  simp at hnow

theorem contains_eq_false_iff : store.contains id = false ↔ store.get? id = none := by
  unfold contains
  cases store.get? id <;> simp

theorem eq_erase_of_delete (h : store.delete id = .ok store') : store' = store.erase id := by
  unfold delete at h
  split at h
  · simp at h
  · exact (Except.ok.inj h).symm

theorem eq_insert_of_create (h : store.create id record = .ok store') :
    store' = store.insert id record := by
  unfold create at h
  split at h
  · simp at h
  · exact (Except.ok.inj h).symm

end SessionStore

namespace Live

variable {σ : Setting} {l l' : Live} {loaded : Loaded} {user : User} {backend : String}
  {e : SessionError}

/-- The ways of reading a session that was not read yet. -/
inductive Opened (σ : Setting) (l : Live) : Loaded → Live → Prop where
  /-- The store has a record, and it has not ended. -/
  | found {id : SessionId} {data : SessionData} (hid : l.session.id = some id)
      (hfind : l.store.find? id σ.now = some data) :
      Opened σ l ⟨id, data⟩ { l with session := ⟨some id, some ⟨id, data⟩, l.session.modified⟩ }
  /-- There is no such record, and the session starts afresh. -/
  | fresh (hnone : l.store.seen? σ.now l.session.id = none) :
      Opened σ l (l.start σ).1 (l.start σ).2

theorem load_of_loaded (h : l.session.loaded = some loaded) : l.load σ = (.ok loaded, l) := by
  unfold load
  rw [h]

/-- A session that was not read yet is read in one of the two ways. -/
theorem opened_of_load (hunread : l.session.loaded = none)
    (h : l.load σ = (.ok loaded, l')) : Opened σ l loaded l' := by
  unfold load at h
  rw [hunread] at h
  -- A session without identifier starts afresh, as does one that the store does not find.
  cases hid : l.session.id with
  | none =>
    simp only [hid, Prod.mk.injEq, Except.ok.injEq] at h
    obtain ⟨rfl, rfl⟩ := h
    exact .fresh (by rw [hid]; rfl)
  | some id =>
    simp only [hid, SessionStore.load] at h
    split at h
    · simp at h
    · next heq =>
      split at heq
      · simp at heq
      · simp only [Except.ok.injEq] at heq
        simp only [Prod.mk.injEq, Except.ok.injEq] at h
        obtain ⟨rfl, rfl⟩ := h
        exact .fresh (by rw [hid]; exact heq)
    · next heq =>
      split at heq
      · simp at heq
      · simp only [Except.ok.injEq] at heq
        simp only [Prod.mk.injEq, Except.ok.injEq] at h
        obtain ⟨rfl, rfl⟩ := h
        exact .found hid heq

/-- The data that was read is that of the record, or there is none. -/
theorem Opened.data_cases (h : Opened σ l loaded l') :
    (∃ id, l.session.id = some id ∧ l.store.find? id σ.now = some loaded.data) ∨
      (l.store.seen? σ.now l.session.id = none ∧ loaded.data = []) := by
  cases h with
  | found hid hfind => exact .inl ⟨_, hid, hfind⟩
  | fresh hnone => exact .inr ⟨hnone, rfl⟩

/-- The user of the data that was read is the one whom the session is bound to. -/
theorem Opened.userId?_data (h : Opened σ l loaded l') :
    loaded.data.userId? = l.store.boundUser? σ.now l.session.id := by
  unfold SessionStore.boundUser?
  rcases h.data_cases with ⟨id, hid, hfind⟩ | ⟨hnone, hempty⟩
  · rw [hid, show l.store.seen? σ.now (some id) = some loaded.data from hfind]
    rfl
  · rw [hnone, hempty]
    rfl

/-- Reading a session leaves the store alone. -/
@[simp] theorem store_load (σ : Setting) (l : Live) : (l.load σ).2.store = l.store := by
  unfold load
  split
  · rfl
  · split
    · rfl
    · split <;> rfl

/-- Reading a session does not call for saving it. -/
@[simp] theorem modified_load (σ : Setting) (l : Live) :
    (l.load σ).2.session.modified = l.session.modified := by
  unfold load
  split
  · rfl
  · split
    · rfl
    · split <;> rfl

theorem getText_of_ok {key : String} {value : Option String}
    (h : l.getText σ key = (.ok value, l')) :
    ∃ loaded, l.load σ = (.ok loaded, l') ∧ loaded.data.lookup key = value.map .str := by
  unfold getText get at h
  cases hload : l.load σ with
  | mk result l₁ =>
    rw [hload] at h
    cases result with
    | error e => simp at h
    | ok loaded =>
      simp only at h
      cases hlook : loaded.data.lookup key with
      | none =>
        simp only [hlook, Prod.mk.injEq, Except.ok.injEq] at h
        obtain ⟨rfl, rfl⟩ := h
        exact ⟨loaded, rfl, hlook⟩
      | some j =>
        cases j with
        | str s =>
          simp only [hlook, Prod.mk.injEq, Except.ok.injEq] at h
          obtain ⟨rfl, rfl⟩ := h
          exact ⟨loaded, rfl, hlook⟩
        | _ => simp [hlook] at h

/-- Asking for a text leaves the store alone. -/
@[simp] theorem store_getText (σ : Setting) (key : String) (l : Live) :
    (l.getText σ key).2.store = l.store := by
  have hstore := store_load σ l
  unfold getText get
  cases hload : l.load σ with
  | mk result l₁ =>
    rw [hload] at hstore
    cases result with
    | error e => exact hstore
    | ok loaded =>
      dsimp only
      split <;> simp_all

/-! ### Binding a session -/

/-- The session of a request after it was bound: it has no identifier yet, will be saved under `id`
and holds `data` beside the two values. -/
def boundSession (user : User) (backend : String) (id : SessionId) (data : SessionData) :
    Session where
  loaded := some ⟨id, .put backendKey (.str backend) (.put userIdKey (.str user.id) data)⟩
  modified := true

/-- The ways of binding a session that was not read yet to a user. -/
inductive LoggedIn (σ : Setting) (user : User) (backend : String) (l : Live) : Live → Prop where
  /-- The session of another user is emptied.  It will be saved under its old identifier. -/
  | replaced {id : SessionId} {data : SessionData} (hid : l.session.id = some id)
      (hfind : l.store.find? id σ.now = some data) (hother : data.HeldByOther user.id) :
      LoggedIn σ user backend l ⟨boundSession user backend id [], l.store.erase id, l.drawn⟩
  /-- The session of nobody, or of the same user, keeps its data and gets a fresh identifier. -/
  | cycled {id : SessionId} {data : SessionData} (hid : l.session.id = some id)
      (hfind : l.store.find? id σ.now = some data) (hown : ¬ data.HeldByOther user.id) :
      LoggedIn σ user backend l
        ⟨boundSession user backend (σ.draw l.drawn) data, l.store.erase id, l.drawn + 1⟩
  /-- A session that the store does not know starts afresh. -/
  | opened (hnone : l.store.seen? σ.now l.session.id = none) :
      LoggedIn σ user backend l ⟨boundSession user backend (σ.draw (l.drawn + 1)) [],
        l.store.erase (σ.draw l.drawn), l.drawn + 2⟩

/-- Setting a value of a session that was read and has to be saved changes only its data. -/
theorem insert_of_loaded {id : SessionId} {data : SessionData} {store : SessionStore} {drawn : Nat}
    (σ : Setting) (key : String) (value : Json) :
    insert σ key value ⟨⟨none, some ⟨id, data⟩, true⟩, store, drawn⟩
      = (.ok (), ⟨⟨none, some ⟨id, .put key value data⟩, true⟩, store, drawn⟩) := by
  unfold insert
  rw [load_of_loaded rfl]
  dsimp only
  unfold SessionData.put
  split <;> rfl

theorem any_ne_iff_heldByOther {data : SessionData} {bound : Option String}
    (hbound : data.lookup userIdKey = bound.map .str) (userId : String) :
    bound.any (· ≠ userId) = true ↔ data.HeldByOther userId := by
  cases bound with
  | none => simp [SessionData.HeldByOther, hbound]
  | some other => simp [SessionData.HeldByOther, hbound]

/-- Giving a session that was read a fresh identifier erases its record. -/
theorem cycleId_of_ok {id : Option SessionId} {modified : Bool} {store : SessionStore} {drawn : Nat}
    (h : cycleId σ ⟨⟨id, some loaded, modified⟩, store, drawn⟩ = (.ok (), l')) :
    l' = ⟨⟨none, some ⟨σ.draw drawn, loaded.data⟩, true⟩, store.erase loaded.id, drawn + 1⟩ := by
  unfold cycleId at h
  rw [load_of_loaded rfl] at h
  dsimp only at h
  cases hdelete : store.delete loaded.id with
  | error e => simp [hdelete] at h
  | ok store' =>
    simp only [hdelete, Prod.mk.injEq, true_and] at h
    rw [← h, SessionStore.eq_erase_of_delete hdelete]

/-- Clearing a session that was found erases its record. -/
theorem flush_found_of_ok {id : SessionId} {modified : Bool} {store : SessionStore} {drawn : Nat}
    (h : flush ⟨⟨some id, some loaded, modified⟩, store, drawn⟩ = (.ok (), l')) :
    l' = ⟨⟨none, some { loaded with data := [] }, true⟩, store.erase id, drawn⟩ := by
  simp only [flush, cleared] at h
  cases hdelete : store.delete id with
  | error e => simp [hdelete] at h
  | ok store' =>
    simp only [hdelete, Prod.mk.injEq, true_and] at h
    rw [← h, SessionStore.eq_erase_of_delete hdelete]

/-- Once the old state is left, the two values are set and nothing can fail. -/
theorem logIn_of_leave {l₁ : Live} {bound : Option String} {id : SessionId} {data : SessionData}
    {store : SessionStore} {drawn : Nat} (huser : l.userId σ = (.ok bound, l₁))
    (hleave : l₁.leave σ bound user
      = (.ok (), ⟨⟨none, some ⟨id, data⟩, true⟩, store, drawn⟩)) (backend : String) :
    l.logIn σ user backend = (.ok (), ⟨boundSession user backend id data, store, drawn⟩) := by
  unfold logIn
  rw [huser]
  dsimp only
  rw [hleave]
  dsimp only
  rw [insert_of_loaded]
  dsimp only
  rw [insert_of_loaded]
  rfl

/-- A session that was not read yet is bound in one of the three ways. -/
theorem loggedIn_of_logIn (hunread : l.session.loaded = none)
    (h : l.logIn σ user backend = (.ok (), l')) : LoggedIn σ user backend l l' := by
  have hlogIn := h
  -- First it is read off that the session was read and left; the rest of the login then computes.
  unfold logIn at h
  cases huser : l.userId σ with
  | mk result l₁ =>
    rw [huser] at h
    cases result with
    | error e => simp at h
    | ok bound =>
      dsimp only at h
      cases hleave : l₁.leave σ bound user with
      | mk result l₂ =>
        rw [hleave] at h
        cases result with
        | error e => simp at h
        | ok _ =>
          obtain ⟨loaded, hload, hlook⟩ := getText_of_ok huser
          cases opened_of_load hunread hload with
          | found hid hfind =>
            have hany := any_ne_iff_heldByOther hlook user.id
            by_cases hother : bound.any (· ≠ user.id) = true
            · -- Clearing keeps the identifier of the data for saving.
              have hflush := hleave
              rw [leave, if_pos hother] at hflush
              obtain rfl := flush_found_of_ok hflush
              rw [logIn_of_leave huser hleave] at hlogIn
              obtain rfl := (Prod.mk.inj hlogIn).2
              exact .replaced hid hfind (hany.mp hother)
            · have hcycle := hleave
              rw [leave, if_neg hother] at hcycle
              obtain rfl := cycleId_of_ok hcycle
              rw [logIn_of_leave huser hleave] at hlogIn
              obtain rfl := (Prod.mk.inj hlogIn).2
              exact .cycled hid hfind fun hheld => hother (hany.mpr hheld)
          | fresh hnone =>
            -- Fresh data is empty, so that the session is bound to nobody and is not cleared.
            have hbound : bound = none := by
              cases bound with
              | none => rfl
              | some other => simp [start] at hlook
            subst hbound
            obtain rfl := cycleId_of_ok hleave
            rw [logIn_of_leave huser hleave] at hlogIn
            obtain rfl := (Prod.mk.inj hlogIn).2
            exact .opened hnone

/-- A value of a session without identifier can always be set. -/
theorem insert_of_id_none (hid : l.session.id = none) (σ : Setting) (key : String) (value : Json) :
    ∃ l', l.insert σ key value = (.ok (), l') ∧ l'.session.id = none := by
  obtain ⟨loaded, l₁, hload, hid₁⟩ : ∃ loaded l₁, l.load σ = (.ok loaded, l₁) ∧
      l₁.session.id = none := by
    unfold load
    split
    · exact ⟨_, _, rfl, hid⟩
    · rw [hid]
      exact ⟨_, _, rfl, rfl⟩
  unfold insert
  rw [hload]
  dsimp only
  split
  · exact ⟨_, rfl, hid₁⟩
  · exact ⟨_, rfl, hid₁⟩

/-- Leaving a state forgets the identifier, or fails before the store is changed. -/
theorem leave_cases {bound : Option String} {result : Except SessionError Unit}
    (h : l.leave σ bound user = (result, l')) :
    (result = .ok () ∧ l'.session.id = none) ∨ ((∃ e, result = .error e) ∧ l'.store = l.store) := by
  unfold leave at h
  split at h
  · -- Clearing can fail only when the record is deleted.
    unfold flush at h
    dsimp only at h
    split at h
    · next hid =>
      simp only [Prod.mk.injEq] at h
      exact .inl ⟨h.1.symm, by rw [← h.2]; exact hid⟩
    · split at h <;> simp only [Prod.mk.injEq] at h
      · exact .inr ⟨⟨_, h.1.symm⟩, by rw [← h.2]⟩
      · exact .inl ⟨h.1.symm, by rw [← h.2]⟩
  · -- A fresh identifier can fail when the session is read or its record is deleted.
    have hread := store_load σ l
    unfold cycleId at h
    split at h
    · next hload =>
      rw [hload] at hread
      simp only [Prod.mk.injEq] at h
      exact .inr ⟨⟨_, h.1.symm⟩, by rw [← h.2]; exact hread⟩
    · next hload =>
      rw [hload] at hread
      dsimp only at h
      split at h <;> simp only [Prod.mk.injEq] at h
      · exact .inr ⟨⟨_, h.1.symm⟩, by rw [← h.2]; exact hread⟩
      · exact .inl ⟨h.1.symm, by rw [← h.2]⟩

/-- A login that fails leaves the store alone: only the steps before the record is erased fail. -/
theorem store_logIn_of_error (h : l.logIn σ user backend = (.error e, l')) :
    l'.store = l.store := by
  have hread := store_getText σ userIdKey l
  unfold logIn userId at h
  split at h
  · next huser =>
    rw [huser] at hread
    simp only [Prod.mk.injEq] at h
    rw [← h.2]
    exact hread
  · next bound l₁ huser =>
    rw [huser] at hread
    split at h
    · next hleave =>
      simp only [Prod.mk.injEq] at h
      obtain ⟨hok, -⟩ | ⟨-, hstore⟩ := leave_cases hleave
      · simp at hok
      · rw [← h.2, hstore]
        exact hread
    · next l₂ hleave =>
      obtain ⟨-, hid⟩ | ⟨⟨e, herror⟩, -⟩ := leave_cases hleave
      · -- Both values can be set, so that a login fails before the record is gone.
        obtain ⟨l₃, hinsert, hid₃⟩ := insert_of_id_none hid σ userIdKey (.str user.id)
        obtain ⟨l₄, hinsert', -⟩ := insert_of_id_none hid₃ σ backendKey (.str backend)
        rw [hinsert] at h
        dsimp only at h
        rw [hinsert'] at h
        simp at h
      · simp at herror

/-! ### Clearing a session -/

/-- A logout that fails leaves the store alone. -/
theorem store_logOut_of_error (h : l.logOut = (.error e, l')) : l'.store = l.store := by
  unfold logOut flush at h
  dsimp only at h
  split at h
  · simp at h
  · split at h
    · simp only [Prod.mk.injEq] at h
      rw [← h.2]
    · simp at h

/-- Logging out after the session was read erases the record that was found, if any, and leaves an
empty session. -/
theorem logOut_of_opened {l₁ : Live} (hopen : Opened σ l loaded l₁)
    (h : l₁.logOut = (.ok (), l')) :
    l'.session.isEmpty = true ∧
      ((∃ id data, l.session.id = some id ∧ l.store.find? id σ.now = some data ∧
        l'.store = l.store.erase id) ∨
      (l.store.seen? σ.now l.session.id = none ∧ l'.store = l.store)) := by
  cases hopen with
  | @found id data hid hfind =>
    obtain rfl := flush_found_of_ok h
    exact ⟨rfl, .inl ⟨id, data, hid, hfind, rfl⟩⟩
  | fresh hnone =>
    simp only [logOut, flush, cleared, start, Prod.mk.injEq, true_and] at h
    obtain rfl := h
    exact ⟨rfl, .inr ⟨hnone, rfl⟩⟩

/-! ### Saving a session -/

/-- A session without identifier is saved as one record, under the first identifier that is free. -/
theorem save_of_ok {id : SessionId} {data : SessionData} {store : SessionStore} {drawn : Nat}
    (h : save σ ⟨⟨none, some ⟨id, data⟩, true⟩, store, drawn⟩ = (.ok (), l')) :
    ∃ id' drawn', freeId σ store (store.records.length + 1) id drawn = (id', drawn') ∧
      l' = ⟨⟨some id', some ⟨id', data⟩, true⟩, store.insert id' ⟨data, σ.expires⟩, drawn'⟩ := by
  unfold save at h
  rw [load_of_loaded rfl] at h
  dsimp only at h
  cases hfree : freeId σ store (store.records.length + 1) id drawn with
  | mk id' drawn' =>
    rw [hfree] at h
    dsimp only at h
    cases hcreate : store.create id' ⟨data, σ.expires⟩ with
    | error e => simp [hcreate] at h
    | ok store' =>
      simp only [hcreate, Prod.mk.injEq, true_and] at h
      exact ⟨id', drawn', rfl, by rw [← h, SessionStore.eq_insert_of_create hcreate]⟩

/-- A session that was bound is saved as one record, which binds the user until it ends. -/
theorem save_of_bound {id : SessionId} {data : SessionData} {store : SessionStore} {drawn : Nat}
    (h : save σ ⟨boundSession user backend id data, store, drawn⟩ = (.ok (), l')) :
    ∃ id' bound, (freeId σ store (store.records.length + 1) id drawn).1 = id' ∧
      l'.session.id = some id' ∧ l'.store = store.insert id' ⟨bound, σ.expires⟩ ∧
      SessionData.Binds bound user.id backend := by
  obtain ⟨id', drawn', hfree, rfl⟩ := save_of_ok h
  refine ⟨id', _, congrArg Prod.fst hfree, rfl, rfl, ?_⟩
  exact SessionData.binds_put_put data user.id backend

/-- A session that cannot be saved leaves the store alone. -/
theorem store_save_of_error (h : l.save σ = (.error e, l')) : l'.store = l.store := by
  have hread := store_load σ l
  unfold save at h
  split at h
  · next hload =>
    rw [hload] at hread
    rw [← (Prod.mk.inj h).2]
    exact hread
  · next hload =>
    rw [hload] at hread
    dsimp only at h
    split at h
    · split at h
      · rw [← (Prod.mk.inj h).2]
        exact hread
      · simp at h
    · split at h
      · rw [← (Prod.mk.inj h).2]
        exact hread
      · simp at h

/-- A session that was just bound is not empty. -/
theorem isEmpty_boundSession (user : User) (backend : String) (id : SessionId)
    (data : SessionData) : (boundSession user backend id data).isEmpty = false := by
  -- Data that binds somebody has a value.
  have hbinds := SessionData.binds_put_put data user.id backend
  unfold boundSession Session.isEmpty
  cases hdata : SessionData.put backendKey (.str backend)
      (SessionData.put userIdKey (.str user.id) data) with
  | nil =>
    have huser := hbinds.user
    rw [hdata] at huser
    simp at huser
  | cons head rest => simp

/-- Whichever way a session is bound, it has no identifier, has to be saved and is not empty, and
one record was erased. -/
theorem LoggedIn.shape (h : LoggedIn σ user backend l l') :
    ∃ id data erased drawn,
      l' = ⟨boundSession user backend id data, l.store.erase erased, drawn⟩ := by
  cases h with
  | replaced => exact ⟨_, _, _, _, rfl⟩
  | cycled => exact ⟨_, _, _, _, rfl⟩
  | opened => exact ⟨_, _, _, _, rfl⟩

/-- A session that was bound, whichever way, is saved as one record, which binds the user until it
ends. -/
theorem LoggedIn.stored {l₁ : Live} (h : LoggedIn σ user backend l l₁)
    (hsave : l₁.save σ = (.ok (), l')) :
    ∃ id bound, l'.session.id = some id ∧ l'.store = l₁.store.insert id ⟨bound, σ.expires⟩ ∧
      SessionData.Binds bound user.id backend := by
  obtain ⟨id, data, erased, drawn, rfl⟩ := h.shape
  obtain ⟨id', bound, -, hid, hstore, hbinds⟩ := save_of_bound hsave
  exact ⟨id', bound, hid, hstore, hbinds⟩

/-- A session that is still found after another one was bound was found before, and it is not the
one that was presented. -/
theorem LoggedIn.find?_of_store {id : SessionId} {data : SessionData} {later : Instant}
    (h : LoggedIn σ user backend l l') (hle : σ.now ≤ later)
    (hfind : l'.store.find? id later = some data) :
    l.session.id ≠ some id ∧ l.store.find? id later = some data := by
  cases h with
  | @replaced old _ hid _ _ =>
    obtain ⟨hne, hfind⟩ := SessionStore.find?_of_erase hfind
    exact ⟨fun hsame => hne (Option.some.inj (hsame.symm.trans hid)), hfind⟩
  | @cycled old _ hid _ _ =>
    obtain ⟨hne, hfind⟩ := SessionStore.find?_of_erase hfind
    exact ⟨fun hsame => hne (Option.some.inj (hsame.symm.trans hid)), hfind⟩
  | opened hnone =>
    obtain ⟨-, hfind⟩ := SessionStore.find?_of_erase hfind
    exact ⟨SessionStore.ne_of_seen?_eq_none hle hnone hfind, hfind⟩

end Live

end CookieAuth
