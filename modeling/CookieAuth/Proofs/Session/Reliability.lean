import CookieAuth.Proofs.Session.Operations

/-!
# Session stores that do not fail

An operation on a session fails if the store refuses it, or if the session holds something else than
a text where the identifier of its user should be.  Where neither can happen, every operation
succeeds.

## Main definitions

* `SessionStore.Blocks`: what keeps the session of a request from being bound;
* `SessionStore.Reliable`: nothing is refused, and every record binds a user of some kind.

## Main results

* `Live.logIn_of_not_blocks`, `Live.not_blocks_of_logIn`: a session can be bound exactly if nothing
  keeps it from that;
* `Live.save_of_bound_iff`: a session that was bound can be saved exactly if the store makes
  records;
* `SessionStore.Reliable.erase`, `SessionStore.Reliable.insert`: stores stay reliable;
* `Live.userId_of_reliable`, `Live.logIn_of_reliable`: the user of a session can be read, and the
  session can be bound to another one;
* `Live.logOut_of_faultless`, `Live.save_of_faultless`: every session can be cleared and saved.
-/

namespace CookieAuth

open Time

/-- What keeps the session that a request presents, if it presents one, from being bound. -/
inductive SessionStore.Blocks (store : SessionStore) (now : Instant) (id : Option SessionId) :
    Prop where
  /-- Its record cannot be read. -/
  | unreadable (hid : id ≠ none) (hload : store.faults.load = true)
  /-- It holds something else than a text where the identifier of its user should be. -/
  | malformed {data : SessionData} {value : Json} (hseen : store.seen? now id = some data)
      (hlook : data.lookup userIdKey = some value) (htext : ∀ text, value ≠ .str text)
  /-- Its record cannot be deleted. -/
  | undeletable (hdelete : store.faults.delete = true)

/-- The store refuses nothing, and every record binds a user whose identifier is known. -/
structure SessionStore.Reliable (store : SessionStore) (known : String → Prop) : Prop where
  /-- No operation is refused. -/
  faultless : store.faults = {}
  /-- Every record binds a known user. -/
  bound : ∀ id record, store.get? id = some record →
    ∃ userId backend, record.data.Binds userId backend ∧ known userId

theorem SessionData.Binds.userId?_eq {data : SessionData} {userId backend : String}
    (h : data.Binds userId backend) : data.userId? = some userId := by
  have hlook : data.lookup userIdKey = (some userId).map .str := h.user
  exact userId?_of_lookup hlook

namespace SessionStore

variable {store : SessionStore} {known known' : String → Prop} {now : Instant} {data : SessionData}
  {id : SessionId}

theorem reliable_empty (known : String → Prop) : Reliable {} known where
  faultless := rfl
  bound id record h := by simp [get?] at h

theorem Reliable.mono (h : store.Reliable known) (hknown : ∀ id, known id → known' id) :
    store.Reliable known' where
  faultless := h.faultless
  bound id record hget := by
    obtain ⟨userId, backend, hbinds, huser⟩ := h.bound id record hget
    exact ⟨userId, backend, hbinds, hknown userId huser⟩

theorem Reliable.erase (h : store.Reliable known) (id : SessionId) :
    (store.erase id).Reliable known where
  faultless := h.faultless
  bound other record hget := by
    rw [get?_erase] at hget
    split at hget
    · simp at hget
    · exact h.bound other record hget

theorem Reliable.insert (h : store.Reliable known) {record : Record} {userId backend : String}
    (hbinds : record.data.Binds userId backend) (hknown : known userId) (id : SessionId) :
    (store.insert id record).Reliable known where
  faultless := h.faultless
  bound other record' hget := by
    rw [get?_insert] at hget
    split at hget
    · obtain rfl := Option.some.inj hget
      exact ⟨userId, backend, hbinds, hknown⟩
    · exact h.bound other record' hget

/-- Session data that is found binds a known user. -/
theorem Reliable.of_find? (h : store.Reliable known) (hfind : store.find? id now = some data) :
    ∃ userId backend, data.Binds userId backend ∧ known userId := by
  obtain ⟨record, hget, -, rfl⟩ := find?_eq_some_iff.mp hfind
  exact h.bound id record hget

/-- Nothing keeps a session from being bound. -/
theorem Reliable.not_blocks (h : store.Reliable known) {presented : Option SessionId} :
    ¬ store.Blocks now presented := by
  intro hblocks
  cases hblocks with
  | unreadable hid hload => simp [h.faultless] at hload
  | malformed hseen hlook htext =>
    obtain ⟨id, -, hfind⟩ := Option.bind_eq_some_iff.mp hseen
    obtain ⟨userId, backend, hbinds, -⟩ := h.of_find? hfind
    exact htext userId (Option.some.inj (hlook.symm.trans hbinds.user))
  | undeletable hdelete => simp [h.faultless] at hdelete

theorem delete_of_deletable (h : store.faults.delete = false) :
    store.delete id = .ok (store.erase id) := by
  simp [delete, h]

/-- The user whom a session is bound to is known. -/
theorem Reliable.of_boundUser? (h : store.Reliable known) {presented : Option SessionId}
    {userId : String} (hbound : store.boundUser? now presented = some userId) : known userId := by
  unfold boundUser? at hbound
  obtain ⟨data, hseen, huser⟩ := Option.bind_eq_some_iff.mp hbound
  obtain ⟨id, -, hfind⟩ := Option.bind_eq_some_iff.mp hseen
  obtain ⟨userId', backend, hbinds, hknown⟩ := h.of_find? hfind
  rw [hbinds.userId?_eq] at huser
  rwa [← Option.some.inj huser]

end SessionStore

namespace Live

variable {σ : Setting} {l l' : Live} {loaded : Loaded} {user : User} {known : String → Prop}

/-- A session can be read, which leaves the store alone, unless the store refuses to read the record
of the identifier that it has. -/
theorem load_of_readable (σ : Setting) (h : l.session.id ≠ none → l.store.faults.load = false) :
    ∃ loaded l', l.load σ = (.ok loaded, l') ∧ l'.store = l.store := by
  suffices hload : ∃ loaded l', l.load σ = (.ok loaded, l') by
    obtain ⟨loaded, l', hload⟩ := hload
    have hread := store_load σ l
    rw [hload] at hread
    exact ⟨loaded, l', hload, hread⟩
  unfold load
  split
  · exact ⟨_, _, rfl⟩
  · split
    · exact ⟨_, _, rfl⟩
    · next id hid =>
      have hreads : l.store.faults.load = false := h (by simp [hid])
      rw [show l.store.load id σ.now = .ok (l.store.find? id σ.now) by
        simp [SessionStore.load, hreads]]
      cases l.store.find? id σ.now with
      | none => exact ⟨_, _, rfl⟩
      | some data => exact ⟨_, _, rfl⟩

/-- Every session can be read, which leaves the store alone. -/
theorem load_of_faultless (σ : Setting) (h : l.store.faults = {}) :
    ∃ loaded l', l.load σ = (.ok loaded, l') ∧ l'.store = l.store :=
  load_of_readable σ fun _ => by rw [h]

/-- A session that was not read yet cannot be read if the store refuses to. -/
theorem readable_of_load (hunread : l.session.loaded = none) (h : l.load σ = (.ok loaded, l')) :
    l.session.id ≠ none → l.store.faults.load = false := by
  intro hid
  obtain ⟨id, hid⟩ := Option.ne_none_iff_exists'.mp hid
  cases hload : l.store.faults.load with
  | false => rfl
  | true => simp [load, hunread, hid, SessionStore.load, hload] at h

/-- Once a session was read, its data is kept. -/
theorem loaded_of_opened (h : Opened σ l loaded l') : l'.session.loaded = some loaded := by
  cases h with
  | found => rfl
  | fresh => rfl

/-- A text can be read, provided that there is no other value in its place. -/
theorem getText_of_lookup {key : String} {value : Option String}
    (hload : l.load σ = (.ok loaded, l')) (hlook : loaded.data.lookup key = value.map .str) :
    l.getText σ key = (.ok value, l') := by
  unfold getText get
  rw [hload]
  dsimp only
  rw [hlook]
  cases value with
  | none => rfl
  | some text => rfl

/-- The identifier of the user can be read from every session. -/
theorem userId_of_reliable (hunread : l.session.loaded = none) (h : l.store.Reliable known) :
    ∃ l', l.userId σ = (.ok (l.store.boundUser? σ.now l.session.id), l') ∧ l'.store = l.store := by
  obtain ⟨loaded, l', hload, hread⟩ := load_of_faultless σ h.faultless
  have hopened := opened_of_load hunread hload
  refine ⟨l', getText_of_lookup hload ?_, hread⟩
  rw [← hopened.userId?_data]
  -- What was found binds somebody, and what starts afresh is empty.
  rcases hopened.data_cases with ⟨id, -, hfind⟩ | ⟨-, hempty⟩
  · obtain ⟨userId, backend, hbinds, -⟩ := h.of_find? hfind
    rw [hbinds.userId?_eq, hbinds.user]
    rfl
  · rw [hempty]
    rfl

theorem flush_of_deletable (h : l.store.faults.delete = false) : ∃ l', l.flush = (.ok (), l') := by
  unfold flush
  dsimp only
  split
  · exact ⟨_, rfl⟩
  · rw [SessionStore.delete_of_deletable h]
    exact ⟨_, rfl⟩

theorem logOut_of_faultless (h : l.store.faults = {}) : ∃ l', l.logOut = (.ok (), l') :=
  flush_of_deletable (by rw [h])

/-- The state of a session that was read can be left, provided that its record can be deleted. -/
theorem leave_of_deletable (σ : Setting) (bound : Option String) (user : User)
    (hloaded : l.session.loaded = some loaded) (h : l.store.faults.delete = false) :
    ∃ l', l.leave σ bound user = (.ok (), l') := by
  unfold leave
  split
  · exact flush_of_deletable h
  · unfold cycleId
    rw [load_of_loaded hloaded]
    dsimp only
    rw [SessionStore.delete_of_deletable h]
    exact ⟨_, rfl⟩

/-- A session whose state was left had a record that could be deleted. -/
theorem deletable_of_leave {bound : Option String} {l₁ : Live} (hopened : Opened σ l loaded l₁)
    (hlook : loaded.data.lookup userIdKey = bound.map .str)
    (h : l₁.leave σ bound user = (.ok (), l')) : l.store.faults.delete = false := by
  cases hdelete : l.store.faults.delete with
  | false => rfl
  | true =>
    cases hopened with
    | found hid hfind =>
      unfold leave at h
      split at h
      · simp [flush, cleared, SessionStore.delete, hdelete] at h
      · simp [cycleId, load_of_loaded, SessionStore.delete, hdelete] at h
    | fresh =>
      -- Fresh data is empty, so that the session is bound to nobody and gets another identifier.
      have hbound : bound = none := by
        cases bound with
        | none => rfl
        | some other => simp [start] at hlook
      subst hbound
      simp [leave, start, cycleId, load_of_loaded, SessionStore.delete, hdelete] at h

/-- A session can be bound to a user if nothing keeps it from that. -/
theorem logIn_of_not_blocks (user : User) (backend : String) (hunread : l.session.loaded = none)
    (h : ¬ l.store.Blocks σ.now l.session.id) : ∃ l', l.logIn σ user backend = (.ok (), l') := by
  have hreadable : l.session.id ≠ none → l.store.faults.load = false := fun hid =>
    Bool.eq_false_iff.mpr fun hload => h (.unreadable hid hload)
  obtain ⟨loaded, l₁, hload, hstore⟩ := load_of_readable σ hreadable
  have hopened := opened_of_load hunread hload
  -- The session holds a text, or nothing, where the identifier of its user should be.
  obtain ⟨bound, hlook⟩ : ∃ bound : Option String,
      loaded.data.lookup userIdKey = bound.map .str := by
    rcases hopened.data_cases with ⟨id, hid, hfind⟩ | ⟨-, hempty⟩
    · have hseen : l.store.seen? σ.now l.session.id = some loaded.data := by
        rw [hid]
        exact hfind
      cases hvalue : loaded.data.lookup userIdKey with
      | none => exact ⟨none, rfl⟩
      | some value =>
        by_cases htext : ∃ text, value = .str text
        · obtain ⟨text, rfl⟩ := htext
          exact ⟨some text, rfl⟩
        · exact absurd (.malformed hseen hvalue fun text heq => htext ⟨text, heq⟩) h
    · exact ⟨none, by rw [hempty]; rfl⟩
  have huser : l.userId σ = (.ok bound, l₁) := getText_of_lookup hload hlook
  have hdeletable : l₁.store.faults.delete = false := by
    rw [hstore]
    exact Bool.eq_false_iff.mpr fun hdelete => h (.undeletable hdelete)
  obtain ⟨l₂, hleave⟩ := leave_of_deletable σ bound user (loaded_of_opened hopened) hdeletable
  obtain ⟨-, hid⟩ | ⟨⟨e, herror⟩, -⟩ := leave_cases hleave
  · obtain ⟨l₃, hinsert, hid₃⟩ := insert_of_id_none hid σ userIdKey (.str user.id)
    obtain ⟨l₄, hinsert', -⟩ := insert_of_id_none hid₃ σ backendKey (.str backend)
    refine ⟨l₄, ?_⟩
    unfold logIn
    rw [huser]
    dsimp only
    rw [hleave]
    dsimp only
    rw [hinsert]
    exact hinsert'
  · simp at herror

/-- A session that could be bound was not kept from that. -/
theorem not_blocks_of_logIn {backend : String} (hunread : l.session.loaded = none)
    (h : l.logIn σ user backend = (.ok (), l')) : ¬ l.store.Blocks σ.now l.session.id := by
  unfold logIn at h
  cases huser : l.userId σ with
  | mk result l₁ =>
    rw [huser] at h
    cases result with
    | error e => simp at h
    | ok bound =>
      obtain ⟨loaded, hload, hlook⟩ := getText_of_ok huser
      have hopened := opened_of_load hunread hload
      intro hblocks
      cases hblocks with
      | unreadable hid hrefused =>
        rw [readable_of_load hunread hload hid] at hrefused
        simp at hrefused
      | malformed hseen hvalue htext =>
        rcases hopened.data_cases with ⟨id, hid, hfind⟩ | ⟨hnone, -⟩
        · rw [hid, show l.store.seen? σ.now (some id) = _ from hfind] at hseen
          rw [Option.some.inj hseen, hvalue] at hlook
          cases bound with
          | none => simp at hlook
          | some text => exact htext text (Option.some.inj hlook)
        · rw [hnone] at hseen
          simp at hseen
      | undeletable hrefused =>
        dsimp only at h
        cases hleave : l₁.leave σ bound user with
        | mk result l₂ =>
          rw [hleave] at h
          cases result with
          | error e => simp at h
          | ok _ =>
            rw [deletable_of_leave hopened hlook hleave] at hrefused
            simp at hrefused

/-- Every session can be bound to a user. -/
theorem logIn_of_reliable (user : User) (backend : String) (hunread : l.session.loaded = none)
    (h : l.store.Reliable known) : ∃ l', l.logIn σ user backend = (.ok (), l') :=
  logIn_of_not_blocks user backend hunread h.not_blocks

/-- A session that was bound can be saved exactly if the store makes records. -/
theorem save_of_bound_iff {backend : String} {id : SessionId} {data : SessionData}
    {store : SessionStore} {drawn : Nat} :
    (∃ l', save σ ⟨boundSession user backend id data, store, drawn⟩ = (.ok (), l')) ↔
      store.faults.create = false := by
  unfold save boundSession
  rw [load_of_loaded rfl]
  cases hcreate : store.faults.create with
  | false => simp [SessionStore.create, hcreate]
  | true => simp [SessionStore.create, hcreate]

/-- Every session can be saved. -/
theorem save_of_faultless (σ : Setting) (h : l.store.faults = {}) :
    ∃ l', l.save σ = (.ok (), l') := by
  obtain ⟨loaded, l₁, hload, hread⟩ := load_of_faultless σ h
  unfold save
  rw [hload]
  dsimp only
  split
  · simp only [SessionStore.save, hread, h, Bool.false_eq_true, if_false]
    exact ⟨_, rfl⟩
  · simp only [SessionStore.create, hread, h, Bool.false_eq_true, if_false]
    exact ⟨_, rfl⟩

end Live

end CookieAuth
