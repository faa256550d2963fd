import CookieAuth.Proofs.Session.Draws
import CookieAuth.Proofs.Session.Rotation

/-!
# Requests leave the sessions of others alone

All clients share one session store.  A request may touch the record of the session that it presents
and the record that it makes for the identifier that it issues.  This file proves that it touches no
other record, and none at all if it fails or asks for something that does not concern sessions.

Identifiers are drawn at random.  One that happens to have a record is not issued, since another one
is drawn then.  A session that starts afresh is given an identifier as well, before it gets the one
that is issued, and a record under that first one is erased without being looked at.  What is said
about other sessions therefore needs that there is none.

## Main definitions

* `OpensUnused`: a session that starts afresh gets an identifier without a record;
* `World.DrawsApart`: the identifiers that a request may draw differ from one another.

## Main results

* `Live.LoggedIn.kept`: which records are left when a session is bound;
* `Live.LoggedIn.free`: a bound session is saved under an identifier without a record, or under the
  presented one;
* `Service.sessions_isolated`: what a request does to the store.
-/

namespace CookieAuth

open Http Time

/-- If the session of a request starts afresh, then the first identifier that is drawn for it has no
record. -/
def OpensUnused (s : Service) (now : Instant) (r : Request) (w : World) : Prop :=
  w.sessions.seen? now r.sessionId? = none →
    w.sessions.get? (s.supply.sessionId w.draws.sessions) = none

/-- The next session identifiers to be drawn differ from one another, two more than there are
records. -/
def World.DrawsApart (s : Service) (w : World) : Prop :=
  CookieAuth.DrawsApart s.supply.sessionId w.draws.sessions (w.sessions.records.length + 2)

/-! ### Binding a session -/

namespace Live

variable {σ : Setting} {l l₁ l' : Live} {user : User} {backend : String} {id other : SessionId}

/-- Before a bound session is saved, all records are as they were, except perhaps the presented
one. -/
theorem LoggedIn.kept (h : LoggedIn σ user backend l l')
    (hunused : l.store.seen? σ.now l.session.id = none → l.store.get? (σ.draw l.drawn) = none)
    (hother : l.session.id ≠ some other) : l'.store.get? other = l.store.get? other := by
  cases h with
  | @replaced old data hold hfind hheld =>
    apply SessionStore.get?_erase_of_ne
    rintro rfl
    exact hother hold
  | @cycled old data hold hfind hown =>
    apply SessionStore.get?_erase_of_ne
    rintro rfl
    exact hother hold
  | opened hnone =>
    -- What is erased was never stored.
    rw [SessionStore.get?_erase]
    split
    · next heq => rw [heq, hunused hnone]
    · rfl

/-- A bound session with a new identifier is saved under one that is drawn and has no record. -/
theorem save_of_drawn {store : SessionStore} {data : SessionData} {first : Nat}
    (hapart : DrawsApart σ.draw first (store.records.length + 1))
    (hsave : save σ ⟨boundSession user backend (σ.draw first) data, store, first + 1⟩
      = (.ok (), l')) (hid : l'.session.id = some id) :
    ∃ n, first ≤ n ∧ n < first + (store.records.length + 1) ∧ id = σ.draw n ∧
      store.get? id = none := by
  obtain ⟨id', bound, hfree, hid', -, -⟩ := save_of_bound hsave
  obtain rfl := Option.some.inj (hid'.symm.trans hid)
  obtain ⟨n, hn, hlt, hnone, htaken⟩ :=
    freeId_of_apart (fun _ _ _ => rfl) hapart (Nat.lt_succ_self _)
  have hdrawn : id' = σ.draw n := hfree.symm.trans htaken
  exact ⟨n, hn, hlt, hdrawn, hdrawn ▸ hnone⟩

/-- A bound session is saved under the presented identifier, or under one without a record. -/
theorem LoggedIn.free (h : LoggedIn σ user backend l l₁)
    (hapart : DrawsApart σ.draw l.drawn (l.store.records.length + 2))
    (hsave : l₁.save σ = (.ok (), l')) (hid : l'.session.id = some id)
    (hother : l.session.id ≠ some id) : l.store.get? id = none := by
  cases h with
  | @replaced old data hold hfind hheld =>
    obtain ⟨id', bound, hfree, hid', -, -⟩ := save_of_bound hsave
    rw [freeId_of_free (by rw [SessionStore.get?_erase, if_pos rfl])] at hfree
    obtain rfl := Option.some.inj (hid'.symm.trans hid)
    exact absurd (hold.trans (congrArg some hfree)) hother
  | @cycled old data hold hfind hown =>
    have hfewer := l.store.length_records_erase_le old
    obtain ⟨n, -, -, -, hnone⟩ :=
      save_of_drawn (hapart.mono (Nat.le_refl _) (by omega)) hsave hid
    rwa [SessionStore.get?_erase_of_ne] at hnone
    rintro rfl
    exact hother hold
  | opened hunseen =>
    have hfewer := l.store.length_records_erase_le (σ.draw l.drawn)
    obtain ⟨n, hn, hlt, rfl, hnone⟩ :=
      save_of_drawn (hapart.mono (Nat.le_succ _) (by omega)) hsave hid
    -- The identifier that was drawn first is another one.
    have hne : σ.draw l.drawn ≠ σ.draw n := hapart l.drawn n (Nat.le_refl _) hn (by omega)
    rwa [SessionStore.get?_erase_of_ne hne.symm] at hnone

end Live

/-! ### Requests -/

namespace Service

variable {s : Service} {now : Instant} {r : Request} {w : World}

/-- A request to a route that does not concern sessions leaves the store as it is. -/
theorem sessions_handle_of_unconcerned {route : Route} (hroute : Route.ofPath? r.path = some route)
    (hchanges : route.changesSession = false) :
    (s.handle now r w).world.sessions = w.sessions := by
  -- In all other cases the route is one of those that bind or clear sessions.
  have hadmits : ∀ {user w₁}, ¬ Admits s now r w user w₁ := by
    intro user w₁ hadmitted
    cases hadmitted with
    | logIn hpath =>
      obtain rfl := Option.some.inj (hroute.symm.trans hpath)
      simp [Route.changesSession] at hchanges
    | register hpath =>
      obtain rfl := Option.some.inj (hroute.symm.trans hpath)
      simp [Route.changesSession] at hchanges
  cases s.sessionEffect_handle now r w with
  | idle hstore => exact hstore
  | cleared hpath =>
    obtain rfl := Option.some.inj (hroute.symm.trans hpath)
    simp [Route.changesSession] at hchanges
  | bound _ hadmitted => exact absurd hadmitted hadmits
  | lost _ _ _ hadmitted => exact absurd hadmitted hadmits

/-- A request that is not answered with status 200 leaves the store as it is and issues no
identifier, provided that the store makes records. -/
theorem sessions_handle_of_not_succeeds (hcreate : w.sessions.faults.create = false)
    (h : ¬ (s.handle now r w).Succeeds) :
    (s.handle now r w).world.sessions = w.sessions ∧ ∀ id, ¬ (s.handle now r w).Issues id := by
  cases s.sessionEffect_handle now r w with
  | idle hstore hissue => exact ⟨hstore, hissue⟩
  | cleared _ _ _ hok => exact absurd hok h
  | bound _ _ _ _ _ hanswer => exact absurd ⟨_, hanswer, rfl⟩ h
  | lost _ _ _ _ hrefused =>
    rw [hcreate] at hrefused
    simp at hrefused

/-- A request touches only the presented record and the one that it issues an identifier for. -/
theorem get?_handle_of_ne (hcreate : w.sessions.faults.create = false)
    (hunused : OpensUnused s now r w) {id : SessionId} (hother : r.sessionId? ≠ some id)
    (hnot : ¬ (s.handle now r w).Issues id) :
    (s.handle now r w).world.sessions.get? id = w.sessions.get? id := by
  cases s.sessionEffect_handle now r w with
  | idle hstore => rw [hstore]
  | cleared _ _ hstore =>
    rcases hstore with ⟨old, _, hold, -, hstore⟩ | ⟨-, hstore⟩
    · rw [hstore]
      apply SessionStore.get?_erase_of_ne
      rintro rfl
      exact hother hold
    · rw [hstore]
  | @bound _ _ _ l l' issued _ _ hbound hsave hid hanswer hworld =>
    obtain ⟨saved, bound, hid', hstore, -⟩ := hbound.stored hsave
    obtain rfl := Option.some.inj (hid'.symm.trans hid)
    have hne : id ≠ saved := by
      rintro rfl
      exact hnot ⟨_, _, hanswer, rfl⟩
    have hsessions : (s.handle now r w).world.sessions = l'.store := by rw [hworld]
    -- The live session presents what the request presents, so what it keeps the request keeps.
    rw [hsessions, hstore, SessionStore.get?_insert, if_neg hne]
    exact hbound.kept hunused hother
  | lost _ _ _ _ hrefused =>
    rw [hcreate] at hrefused
    simp at hrefused

/-- An identifier that is issued had no record, unless it is the presented one. -/
theorem get?_of_issues (hapart : w.DrawsApart s) {id : SessionId}
    (hissues : (s.handle now r w).Issues id) (hother : r.sessionId? ≠ some id) :
    w.sessions.get? id = none := by
  cases s.sessionEffect_handle now r w with
  | idle _ hissue => exact absurd hissues (hissue id)
  | cleared _ hissue => exact absurd hissues (hissue id)
  | @bound _ _ _ l l' issued _ _ hbound hsave hid hanswer =>
    obtain rfl := Handled.issues_unique hissues ⟨_, _, hanswer, rfl⟩
    exact hbound.free hapart hsave hid hother
  | lost _ hissue => exact absurd hissues (hissue id)

/-- Whatever a request presents and asks for, the store changes at most under the presented
identifier and under the one that is issued, provided that a session that starts afresh does not
draw the identifier of a record at first.  If the identifiers that are drawn differ from one
another, the one that is issued had no record, unless it is the presented one.  A request that is
not answered with status 200 changes nothing in the store and issues nothing.  Asking for the
status, for a new password or for the health of the service changes nothing in it either. -/
theorem sessions_isolated (s : Service) (now : Instant) (r : Request) (w : World)
    (hcreate : w.sessions.faults.create = false) :
    (OpensUnused s now r w →
      ∀ id, (s.handle now r w).world.sessions.get? id ≠ w.sessions.get? id →
        r.sessionId? = some id ∨ (s.handle now r w).Issues id) ∧
    (w.DrawsApart s →
      ∀ id, (s.handle now r w).Issues id → r.sessionId? = some id ∨ w.sessions.get? id = none) ∧
    (¬ (s.handle now r w).Succeeds →
      (s.handle now r w).world.sessions = w.sessions ∧ ∀ id, ¬ (s.handle now r w).Issues id) ∧
    ∀ route ∈ [Route.status, .resetPassword, .health], Route.ofPath? r.path = some route →
      (s.handle now r w).world.sessions = w.sessions := by
  refine ⟨?_, ?_, sessions_handle_of_not_succeeds hcreate, ?_⟩
  · intro hunused id hchanged
    by_cases hpresented : r.sessionId? = some id
    · exact .inl hpresented
    · by_cases hissued : (s.handle now r w).Issues id
      · exact .inr hissued
      · exact absurd (get?_handle_of_ne hcreate hunused hpresented hissued) hchanged
  · intro hapart id hissued
    by_cases hpresented : r.sessionId? = some id
    · exact .inl hpresented
    · exact .inr (get?_of_issues hapart hissued hpresented)
  · intro route hmem hroute
    apply sessions_handle_of_unconcerned hroute
    simp only [List.mem_cons, List.not_mem_nil, or_false] at hmem
    rcases hmem with rfl | rfl | rfl <;> rfl

end Service

namespace Sample

/-- The session identifier of another client, which is drawn once more. -/
def otherId : SessionId := supply.sessionId 0

/-- An anonymous session under `oldId`, and the session of a client who is logged in as Alice. -/
def crowded : World :=
  { shared [] with
    sessions := { records := [(oldId, ⟨[], ⟨1⟩⟩),
      (otherId, ⟨[(backendKey, .str passwordBackend), (userIdKey, .str "a")], ⟨1⟩⟩)] } }

theorem drawsApart_crowded : crowded.DrawsApart service := by
  have hall : ∀ n < 4, ∀ m < n, supply.sessionId m ≠ supply.sessionId n := by decide
  intro m n _ hmn hn
  exact hall n hn m hmn

end Sample

namespace Service

open Sample

/-- Bob logs in over an anonymous session, and the identifier of Alice's session is drawn.  Alice's
session stays, and Bob gets another. -/
theorem alice_stays_logged_in :
    (service.handle ⟨0⟩ bobsLogin crowded).world.sessions.get? otherId
        = some ⟨[(backendKey, .str passwordBackend), (userIdKey, .str "a")], ⟨1⟩⟩ ∧
      ¬ (service.handle ⟨0⟩ bobsLogin crowded).Issues otherId ∧
      (service.handle ⟨0⟩ bobsLogin crowded).Issues (Sample.supply.sessionId 1) := by
  obtain ⟨hchanged, hfree, -, -⟩ := sessions_isolated service ⟨0⟩ bobsLogin crowded rfl
  have hunused : OpensUnused service ⟨0⟩ bobsLogin crowded := by
    intro hunseen
    rw [sessionId_bobsLogin] at hunseen
    exact absurd hunseen (by decide)
  have hpresented : bobsLogin.sessionId? ≠ some otherId := by
    rw [sessionId_bobsLogin]
    decide
  have hstored : crowded.sessions.get? otherId
      = some ⟨[(backendKey, .str passwordBackend), (userIdKey, .str "a")], ⟨1⟩⟩ := rfl
  have hissued : ¬ (service.handle ⟨0⟩ bobsLogin crowded).Issues otherId := by
    intro hissued
    rcases hfree drawsApart_crowded otherId hissued with hold | hnone
    · exact hpresented hold
    · rw [hstored] at hnone
      simp at hnone
  refine ⟨Classical.byContradiction fun hgone => ?_, hissued, by decide +kernel⟩
  rw [← hstored] at hgone
  rcases hchanged hunused otherId hgone with hold | hissues
  · exact hpresented hold
  · exact hissued hissues

end Service

end CookieAuth
