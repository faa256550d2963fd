import CookieAuth.Proofs.Service.Sample

/-!
# New identifiers for sessions that are bound

Whoever knows the identifier of a session before somebody logs in must not share the session
afterwards.  A login or registration therefore should save the session under a new identifier and
leave nothing under the old one.  This file proves when that happens and when it does not.

## Main definitions

* `Supply.FreshFor`: the identifiers still to be drawn are neither stored nor presented;
* `PresentsOther`: a request presents the session of somebody else than the user;
* `PresentsEnded`: a request presents a session that has ended but is still stored.

## Main results

* `Service.issues_new_iff_not_presentsOther`: the identifier is new exactly if the request does not
  present the session of another user;
* `Service.keeps_identifier_over_other`: a login over the session of another user keeps the
  identifier.
-/

namespace CookieAuth

open Http Time

/-- The identifiers still to be drawn have no record, and the request does not present them. -/
def Supply.FreshFor (supply : Supply) (r : Request) (w : World) : Prop :=
  ∀ n, w.draws.sessions ≤ n →
    w.sessions.get? (supply.sessionId n) = none ∧ r.sessionId? ≠ some (supply.sessionId n)

/-- The request presents a session that is bound to somebody else than the user. -/
def PresentsOther (now : Instant) (r : Request) (w : World) (userId : String) : Prop :=
  ∃ data, w.sessions.seen? now r.sessionId? = some data ∧ data.HeldByOther userId

/-- The request presents a session that has ended and whose record is still there. -/
def PresentsEnded (now : Instant) (r : Request) (w : World) : Prop :=
  ∃ id record, r.sessionId? = some id ∧ w.sessions.get? id = some record ∧ ¬ now < record.expires

/-! ### Identifiers that are free -/

namespace Live

variable {σ : Setting} {l : Live} {user : User} {backend : String} {store : SessionStore}
  {id : SessionId}

/-- The first identifier that is tried is taken if it has no record. -/
theorem freeId_of_free (h : store.get? id = none) (fuel drawn : Nat) :
    freeId σ store (fuel + 1) id drawn = (id, drawn) := by
  unfold freeId
  rw [SessionStore.contains_eq_false_iff.mpr h]
  rfl

/-- A session that was bound is saved under its own identifier if that one is free. -/
theorem save_of_bound_of_free {data : SessionData} {drawn : Nat}
    (hfree : store.get? id = none)
    (h : save σ ⟨boundSession user backend id data, store, drawn⟩ = (.ok (), l)) :
    ∃ record, l.session.id = some id ∧ l.store = store.insert id record ∧
      SessionData.Binds record.data user.id backend := by
  obtain ⟨id', bound, hid', hid, hstore, hbinds⟩ := save_of_bound h
  rw [freeId_of_free hfree] at hid'
  subst hid'
  exact ⟨⟨bound, σ.expires⟩, hid, hstore, hbinds⟩

end Live

/-! ### The identifier of a bound session -/

namespace Service

variable {s : Service} {now : Instant} {r : Request} {w : World} {user : User} {l l' : Live}
  {id : SessionId}

theorem fresh_draw (hfresh : s.supply.FreshFor r w) (now : Instant) {n : Nat}
    (hn : (opening r w).drawn ≤ n) :
    (opening r w).store.get? ((s.moment now).setting.draw n) = none ∧
      ∀ p, r.sessionId? = some p → p ≠ (s.moment now).setting.draw n := by
  obtain ⟨hnone, hne⟩ := hfresh n hn
  refine ⟨hnone, ?_⟩
  intro p hp heq
  exact hne (hp.trans (congrArg some heq))

/-- What is left of the presented record when a session is bound under a new identifier: nothing,
but for a record that had ended before. -/
def leftover (store : SessionStore) (now : Instant) (id : SessionId) : Option Record :=
  if (store.find? id now).isSome then none else store.get? id

/-- Saving a bound session stores a record that binds the user.  It stands under the presented
identifier if the session of another user was replaced, and under a new one otherwise. -/
theorem stored_of_loggedIn (hfresh : s.supply.FreshFor r w)
    (hbound : Live.LoggedIn (s.moment now).setting user passwordBackend (opening r w) l)
    (hsave : l.save (s.moment now).setting = (.ok (), l')) (hid : l'.session.id = some id) :
    (∃ record, l'.store.get? id = some record ∧
      SessionData.Binds record.data user.id passwordBackend) ∧
    ((PresentsOther now r w user.id ∧ r.sessionId? = some id) ∨
      (¬ PresentsOther now r w user.id ∧ r.sessionId? ≠ some id ∧ w.sessions.get? id = none ∧
        ∀ p, r.sessionId? = some p → l'.store.get? p = leftover w.sessions now p)) := by
  cases hbound with
  | @replaced old data hold hfind hother =>
    -- The record that was erased leaves its identifier free, so it is taken again.
    have hgone : ((opening r w).store.erase old).get? old = none := by
      rw [SessionStore.get?_erase, if_pos rfl]
    obtain ⟨record, hid', hstore, hbinds⟩ := Live.save_of_bound_of_free hgone hsave
    obtain rfl := Option.some.inj (hid'.symm.trans hid)
    have hpresented : r.sessionId? = some old := hold
    refine ⟨⟨record, by rw [hstore, SessionStore.get?_insert, if_pos rfl], hbinds⟩,
      .inl ⟨⟨data, ?_, hother⟩, hold⟩⟩
    rw [hpresented]
    exact hfind
  | @cycled old data hold hfind hown =>
    obtain ⟨hnone, hne⟩ := fresh_draw hfresh now (Nat.le_refl _)
    have hgone : ((opening r w).store.erase old).get?
        ((s.moment now).setting.draw (opening r w).drawn) = none := by
      rw [SessionStore.get?_erase]
      split
      · rfl
      · exact hnone
    obtain ⟨record, hid', hstore, hbinds⟩ := Live.save_of_bound_of_free hgone hsave
    obtain rfl := Option.some.inj (hid'.symm.trans hid)
    have hpresented : r.sessionId? = some old := hold
    have hfound : w.sessions.find? old now = some data := hfind
    refine ⟨⟨record, by rw [hstore, SessionStore.get?_insert, if_pos rfl], hbinds⟩,
      .inr ⟨?_, fun hp => hne _ hp rfl, hnone, ?_⟩⟩
    · rintro ⟨data', hseen, hother⟩
      rw [hpresented] at hseen
      obtain rfl := Option.some.inj (hfound.symm.trans hseen)
      exact hown hother
    · intro p hp
      obtain rfl := Option.some.inj (hpresented.symm.trans hp)
      rw [hstore, SessionStore.get?_insert, if_neg (hne _ hp), SessionStore.get?_erase, if_pos rfl,
        leftover, hfound]
      rfl
  | opened hnone =>
    -- Reading the session drew one identifier, and leaving it drew the one that is stored.
    obtain ⟨-, hne'⟩ := fresh_draw hfresh now (Nat.le_refl _)
    obtain ⟨hnew, hne⟩ := fresh_draw hfresh now (Nat.le_succ _)
    have hgone : ((opening r w).store.erase ((s.moment now).setting.draw (opening r w).drawn)).get?
        ((s.moment now).setting.draw ((opening r w).drawn + 1)) = none := by
      rw [SessionStore.get?_erase]
      split
      · rfl
      · exact hnew
    obtain ⟨record, hid', hstore, hbinds⟩ := Live.save_of_bound_of_free hgone hsave
    obtain rfl := Option.some.inj (hid'.symm.trans hid)
    have hunseen : w.sessions.seen? now r.sessionId? = none := hnone
    refine ⟨⟨record, by rw [hstore, SessionStore.get?_insert, if_pos rfl], hbinds⟩,
      .inr ⟨?_, fun hp => hne _ hp rfl, hnew, ?_⟩⟩
    · rintro ⟨data', hseen, -⟩
      rw [hunseen] at hseen
      simp at hseen
    · intro p hp
      rw [hp] at hunseen
      have hfound : w.sessions.find? p now = none := hunseen
      rw [hstore, SessionStore.get?_insert, if_neg (hne _ hp), SessionStore.get?_erase,
        if_neg (hne' _ hp), leftover, hfound]
      rfl

/-- What is left of a presented record is not found any more. -/
theorem find?_of_leftover {store store' : SessionStore} {later : Instant}
    (hleft : store'.get? id = leftover store now id) (hle : now ≤ later) :
    store'.find? id later = none := by
  rw [Option.eq_none_iff_forall_ne_some]
  intro data hdata
  -- A record that could be found later could be found now, and so would not be left over.
  have hnow := SessionStore.find?_of_le hle hdata
  obtain ⟨record, hget, hlive, hrecord⟩ := SessionStore.find?_eq_some_iff.mp hnow
  rw [hleft, leftover] at hget
  split at hget
  · simp at hget
  · next hunseen =>
    have hseen : store.find? id now = some data :=
      SessionStore.find?_eq_some_iff.mpr ⟨record, hget, hlive, hrecord⟩
    simp [hseen] at hunseen

/-- A presented record is left exactly if it had ended before. -/
theorem leftover_eq_none_iff (now : Instant) (r : Request) (w : World) :
    (∀ p, r.sessionId? = some p → leftover w.sessions now p = none) ↔ ¬ PresentsEnded now r w := by
  constructor
  · rintro hnone ⟨p, record, hp, hget, hended⟩
    have hleft := hnone p hp
    rw [leftover, if_neg, hget] at hleft
    · simp at hleft
    · intro hseen
      obtain ⟨data, hdata⟩ := Option.isSome_iff_exists.mp hseen
      obtain ⟨record', hget', hlive, -⟩ := SessionStore.find?_eq_some_iff.mp hdata
      rw [Option.some.inj (hget.symm.trans hget')] at hended
      exact hended hlive
  · intro hended p hp
    unfold leftover
    split
    · rfl
    · next hunseen =>
      cases hget : w.sessions.get? p with
      | none => rfl
      | some record =>
        refine absurd ⟨p, record, hp, hget, ?_⟩ hended
        intro hlive
        rw [SessionStore.find?_eq_some_iff.mpr ⟨record, hget, hlive, rfl⟩] at hunseen
        simp at hunseen

/-- A login or registration that is answered with status 200 bound a user, and the session was saved
under the identifier that is issued. -/
theorem bound_of_succeeds {route : Route} (hroute : Route.ofPath? r.path = some route)
    (hbinds : route = .logIn ∨ route = .register) (hok : (s.handle now r w).Succeeds) :
    ∃ user w₁ l l' id, Admits s now r w user w₁ ∧
      Live.LoggedIn (s.moment now).setting user passwordBackend (opening r w) l ∧
      l.save (s.moment now).setting = (.ok (), l') ∧ l'.session.id = some id ∧
      (s.handle now r w).Issues id ∧ (s.handle now r w).world.sessions = l'.store := by
  have hchanges : route.changesSession = true := by
    rcases hbinds with rfl | rfl <;> rfl
  cases sessionEffect_handle s now r w with
  | idle hstore hissue hfailed => exact absurd hok (hfailed route hroute hchanges)
  | cleared hlogOut hissue hstore =>
    rw [hroute] at hlogOut
    rcases hbinds with rfl | rfl <;> simp at hlogOut
  | bound hlifetime hadmitted hbound hsave hid hanswer hworld =>
    exact ⟨_, _, _, _, _, hadmitted, hbound, hsave, hid, ⟨_, _, hanswer, rfl⟩, by rw [hworld]⟩
  | lost hstore hissue hfailed => exact absurd hok hfailed

/-- A login or registration that is answered with status 200 issues an identifier under which the
store has the session of the user.  The identifier is new exactly if the request does not present
the session of another user: over such a session the presented identifier is issued again. -/
theorem issues_new_iff_not_presentsOther (s : Service) (now : Instant) (r : Request) (w : World)
    {route : Route} (hroute : Route.ofPath? r.path = some route)
    (hbinds : route = .logIn ∨ route = .register) (hfresh : s.supply.FreshFor r w)
    (hok : (s.handle now r w).Succeeds) :
    ∃ user w₁ id record, Admits s now r w user w₁ ∧ (s.handle now r w).Issues id ∧
      -- the session is stored under the identifier, bound to the user
      (s.handle now r w).world.sessions.get? id = some record ∧
      SessionData.Binds record.data user.id passwordBackend ∧
      -- the identifier was neither presented nor stored, or else it is the presented one
      ((r.sessionId? ≠ some id ∧ w.sessions.get? id = none) ↔ ¬ PresentsOther now r w user.id) ∧
      (PresentsOther now r w user.id → r.sessionId? = some id) ∧
      -- no record is left under the presented identifier, and none that could be found
      ((∀ p, r.sessionId? = some p → (s.handle now r w).world.sessions.get? p = none) ↔
        ¬ PresentsOther now r w user.id ∧ ¬ PresentsEnded now r w) ∧
      (¬ PresentsOther now r w user.id → ∀ p later, r.sessionId? = some p → now ≤ later →
        (s.handle now r w).world.sessions.find? p later = none) := by
  obtain ⟨user, w₁, l, l', id, hadmitted, hbound, hsave, hid, hissues, hstore⟩ :=
    bound_of_succeeds hroute hbinds hok
  obtain ⟨⟨record, hget, hrecord⟩, hcases⟩ := stored_of_loggedIn hfresh hbound hsave hid
  rw [hstore]
  refine ⟨user, w₁, id, record, hadmitted, hissues, hget, hrecord, ?_⟩
  rcases hcases with ⟨hother, hpresented⟩ | ⟨hother, hne, hnew, hleft⟩
  · -- Over the session of another user, the presented identifier is the one that is issued.
    refine ⟨⟨fun hnew => absurd hpresented hnew.1, fun hnot => absurd hother hnot⟩,
      fun _ => hpresented, ⟨?_, fun hnot => absurd hother hnot.1⟩, fun hnot => absurd hother hnot⟩
    intro hnone
    rw [hnone id hpresented] at hget
    simp at hget
  · refine ⟨⟨fun _ => hother, fun _ => ⟨hne, hnew⟩⟩, fun hyes => absurd hyes hother, ?_, ?_⟩
    · rw [← leftover_eq_none_iff]
      constructor
      · intro hnone
        exact ⟨hother, fun p hp => (hleft p hp).symm.trans (hnone p hp)⟩
      · rintro ⟨-, hnone⟩ p hp
        exact (hleft p hp).trans (hnone p hp)
    · intro _ p later hp hle
      exact find?_of_leftover (hleft p hp) hle

end Service

/-! ### An anonymous session and the session of another user -/

namespace Sample

/-- Two users, one of whom may hold the session under `oldId`. -/
def shared (data : SessionData) : World where
  db := { users := [newUser "a" "alice" "alice@example.com" (hash "alices-word") ⟨0⟩,
    newUser "b" "bob" "bob@example.com" (hash "bobs-word") ⟨0⟩] }
  sessions := { records := [(oldId, ⟨data, ⟨1⟩⟩)] }

/-- Bob logs in with the cookie of the session under `oldId`. -/
def bobsLogin : Request :=
  post "/api/auth/login" "username=bob&password=bobs-word" oldId.text

theorem sessionId_bobsLogin : bobsLogin.sessionId? = some oldId := by decide +kernel

theorem freshFor_shared (data : SessionData) : supply.FreshFor bobsLogin (shared data) := by
  intro n _
  have hne := sessionId_ne_oldId n
  have hbeq : (supply.sessionId n == oldId) = false := by simpa using hne
  refine ⟨?_, ?_⟩
  · simp [SessionStore.get?, shared, List.lookup_cons, hbeq]
  · rw [sessionId_bobsLogin]
    intro heq
    exact hne (Option.some.inj heq).symm

end Sample

namespace Service

open Sample

/-- Over an anonymous session a login issues another identifier, and the old record is gone. -/
theorem issues_new_over_anonymous :
    ∃ id, (service.handle ⟨0⟩ bobsLogin (shared [])).Issues id ∧ oldId ≠ id ∧
      (service.handle ⟨0⟩ bobsLogin (shared [])).world.sessions.get? oldId = none := by
  obtain ⟨user, w₁, id, record, -, hissues, -, -, hnew, -, hgone, -⟩ :=
    issues_new_iff_not_presentsOther service ⟨0⟩ bobsLogin (shared []) (by decide +kernel)
      (.inl rfl) (freshFor_shared []) (by decide +kernel)
  have hother : ¬ PresentsOther ⟨0⟩ bobsLogin (shared []) user.id := by
    rintro ⟨data, hseen, other, hlook, -⟩
    rw [sessionId_bobsLogin] at hseen
    obtain rfl : [] = data := Option.some.inj hseen
    simp at hlook
  have hended : ¬ PresentsEnded ⟨0⟩ bobsLogin (shared []) := by
    rintro ⟨p, record, hp, hget, hended⟩
    rw [sessionId_bobsLogin] at hp
    obtain rfl := Option.some.inj hp
    obtain rfl : (⟨[], ⟨1⟩⟩ : Record) = record := Option.some.inj hget
    exact hended (by decide)
  refine ⟨id, hissues, ?_, hgone.mpr ⟨hother, hended⟩ oldId sessionId_bobsLogin⟩
  intro heq
  exact (hnew.mpr hother).1 (sessionId_bobsLogin.trans (congrArg some heq))

/-- Over the session of another user a login succeeds and issues the presented identifier again. -/
theorem keeps_identifier_over_other :
    let w := shared [(backendKey, .str passwordBackend), (userIdKey, .str "a")]
    bobsLogin.sessionId? = some oldId ∧ (service.handle ⟨0⟩ bobsLogin w).Succeeds ∧
      (service.handle ⟨0⟩ bobsLogin w).Issues oldId := by
  decide +kernel

end Service

end CookieAuth
