import CookieAuth.Proofs.Service.Run

/-!
# Session identifiers are drawn one after the other

Operations on sessions draw identifiers from a numbered supply.  A number that was used does not
come back: every operation, every action and every act leaves the count of draws as it is or
increases it.  A session that is saved has the identifier that it presented, or one that was drawn
for it.

Identifiers are drawn until one has no record.  Since there are finitely many records, this comes to
an end if the identifiers differ from one another.

## Main definitions

* `DrawsApart`: some identifiers that are drawn one after the other differ from one another.

## Main results

* `Live.freeId_cases`: a session is saved under the identifier that is tried first, or under one
  that is drawn after it;
* `Live.freeId_of_apart`: of more identifiers than there are records, the first that is free is
  taken;
* `Live.LoggedIn.id_cases`: where the identifier of a bound session comes from;
* `Service.draws_sessions_perform`: no act gives identifiers back.
-/

namespace CookieAuth

open Http Time

/-- So many identifiers, drawn one after the other, differ from one another. -/
def DrawsApart (draw : Nat → SessionId) (start count : Nat) : Prop :=
  ∀ m n, start ≤ m → m < n → n < start + count → draw m ≠ draw n

theorem DrawsApart.mono {draw : Nat → SessionId} {start start' count count' : Nat}
    (h : DrawsApart draw start count) (hstart : start ≤ start')
    (hend : start' + count' ≤ start + count) : DrawsApart draw start' count' :=
  fun m n hm hmn hn => h m n (Nat.le_trans hstart hm) hmn (Nat.lt_of_lt_of_le hn hend)

namespace SessionStore

variable {store : SessionStore} {id other : SessionId}

theorem get?_erase_of_ne (h : other ≠ id) : (store.erase id).get? other = store.get? other := by
  rw [get?_erase, if_neg h]

theorem length_records_erase_le (store : SessionStore) (id : SessionId) :
    (store.erase id).records.length ≤ store.records.length :=
  List.length_filter_le ..

/-- Without a record that is there, a store has fewer records. -/
theorem length_records_erase_lt (h : store.contains id = true) :
    (store.erase id).records.length < store.records.length := by
  obtain ⟨record, hrecord⟩ := Option.isSome_iff_exists.mp h
  obtain ⟨before, after, hrecords, -⟩ := List.lookup_eq_some_iff.mp hrecord
  have hbefore := List.length_filter_le (fun entry => decide (entry.1 ≠ id)) before
  have hafter := List.length_filter_le (fun entry => decide (entry.1 ≠ id)) after
  rw [erase, hrecords, List.filter_append, List.filter_cons_of_neg (by simp), List.length_append,
    List.length_append, List.length_cons]
  omega

end SessionStore

/-! ### Operations -/

namespace Live

/-- A bound on the identifiers that are drawn, of the session that an operation leaves. -/
theorem le_drawn_of_eq {α : Type} {n : Nat} {step : α × Live} {result : α} {l : Live}
    (h : n ≤ step.2.drawn) (hstep : step = (result, l)) : n ≤ l.drawn := by
  subst hstep
  exact h

variable (σ : Setting)

/-- An identifier is drawn for a session that starts afresh. -/
theorem drawn_load (l : Live) : l.drawn ≤ (l.load σ).2.drawn := by
  unfold load
  split
  · exact Nat.le_refl _
  · split
    · exact Nat.le_succ _
    · split
      · exact Nat.le_refl _
      · exact Nat.le_succ _
      · exact Nat.le_refl _

theorem drawn_get (key : String) (l : Live) : l.drawn ≤ (l.get σ key).2.drawn := by
  unfold get
  split <;>
    next hload => exact le_drawn_of_eq (drawn_load σ l) hload

theorem drawn_getText (key : String) (l : Live) : l.drawn ≤ (l.getText σ key).2.drawn := by
  unfold getText
  split <;>
    next hget => exact le_drawn_of_eq (drawn_get σ key l) hget

theorem drawn_insert (key : String) (value : Json) (l : Live) :
    l.drawn ≤ (l.insert σ key value).2.drawn := by
  unfold insert
  split
  · next hload => exact le_drawn_of_eq (drawn_load σ l) hload
  · next hload =>
    have hread := le_drawn_of_eq (drawn_load σ l) hload
    split <;> exact hread

/-- The identifier that is taken is the first one, or one of those that are drawn after it. -/
theorem freeId_cases (store : SessionStore) (fuel : Nat) (id : SessionId) (drawn : Nat) :
    drawn ≤ (freeId σ store fuel id drawn).2 ∧
      ((freeId σ store fuel id drawn).1 = id ∨
        ∃ n, drawn ≤ n ∧ (freeId σ store fuel id drawn).1 = σ.draw n) := by
  induction fuel generalizing id drawn with
  | zero => exact ⟨Nat.le_refl _, .inl rfl⟩
  | succ fuel ih =>
    obtain ⟨hdrawn, hid⟩ := ih (σ.draw drawn) (drawn + 1)
    rw [freeId]
    by_cases htaken : store.contains id = true
    · rw [if_pos htaken]
      refine ⟨Nat.le_of_succ_le hdrawn, .inr ?_⟩
      rcases hid with hnext | ⟨n, hn, hlater⟩
      · exact ⟨drawn, Nat.le_refl _, hnext⟩
      · exact ⟨n, Nat.le_of_succ_le hn, hlater⟩
    · rw [if_neg htaken]
      exact ⟨Nat.le_refl _, .inl rfl⟩

variable {σ} in
/-- Of more identifiers than there are records, the first that is free is taken, if they differ from
one another.  Only the records of identifiers that are still to be tried have to be counted. -/
theorem freeId_of_apart {store rest : SessionStore} {first fuel : Nat}
    (hrest : ∀ n, first ≤ n → n < first + fuel → rest.get? (σ.draw n) = store.get? (σ.draw n))
    (hapart : DrawsApart σ.draw first fuel) (hfuel : rest.records.length < fuel) :
    ∃ n, first ≤ n ∧ n < first + fuel ∧ store.get? (σ.draw n) = none ∧
      (freeId σ store fuel (σ.draw first) (first + 1)).1 = σ.draw n := by
  induction fuel generalizing rest first with
  | zero => exact absurd hfuel (Nat.not_lt_zero _)
  | succ fuel ih =>
    rw [freeId]
    by_cases htaken : store.contains (σ.draw first) = true
    · rw [if_pos htaken]
      have hrecord : rest.contains (σ.draw first) = true := by
        rwa [SessionStore.contains, hrest first (Nat.le_refl _) (by omega)]
      have hfewer := SessionStore.length_records_erase_lt hrecord
      -- The record that was met need not be counted any more: what is tried later differs from it.
      have hlater : ∀ n, first + 1 ≤ n → n < first + 1 + fuel →
          (rest.erase (σ.draw first)).get? (σ.draw n) = store.get? (σ.draw n) := by
        intro n hn hlt
        have hne := hapart first n (Nat.le_refl _) (by omega) (by omega)
        rw [SessionStore.get?_erase_of_ne hne.symm]
        exact hrest n (by omega) (by omega)
      obtain ⟨n, hn, hlt, hfree, hid⟩ :=
        ih hlater (hapart.mono (Nat.le_succ _) (by omega)) (by omega)
      exact ⟨n, by omega, by omega, hfree, hid⟩
    · rw [if_neg htaken]
      refine ⟨first, Nat.le_refl _, by omega, ?_, rfl⟩
      exact SessionStore.contains_eq_false_iff.mp (Bool.not_eq_true _ ▸ htaken)

theorem drawn_save (l : Live) : l.drawn ≤ (l.save σ).2.drawn := by
  unfold save
  split
  · next hload => exact le_drawn_of_eq (drawn_load σ l) hload
  · next hload =>
    have hread := le_drawn_of_eq (drawn_load σ l) hload
    dsimp only
    split
    · split <;> exact hread
    · -- A session without an identifier is saved under one that is free.
      split
      · exact hread
      · exact Nat.le_trans hread (freeId_cases σ _ _ _ _).1

theorem drawn_flush (l : Live) : l.flush.2.drawn = l.drawn := by
  unfold flush
  dsimp only
  split
  · rfl
  · split <;> rfl

theorem drawn_cycleId (l : Live) : l.drawn ≤ (l.cycleId σ).2.drawn := by
  unfold cycleId
  split
  · next hload => exact le_drawn_of_eq (drawn_load σ l) hload
  · next hload =>
    have hread := le_drawn_of_eq (drawn_load σ l) hload
    dsimp only
    split <;> exact Nat.le_succ_of_le hread

theorem drawn_leave (bound : Option String) (user : User) (l : Live) :
    l.drawn ≤ (l.leave σ bound user).2.drawn := by
  unfold leave
  split
  · exact Nat.le_of_eq (drawn_flush l).symm
  · exact drawn_cycleId σ l

theorem drawn_logIn (user : User) (backend : String) (l : Live) :
    l.drawn ≤ (l.logIn σ user backend).2.drawn := by
  unfold logIn userId
  -- The operations are done one after the other, up to the first that fails.
  split
  · next hread => exact le_drawn_of_eq (drawn_getText σ userIdKey l) hread
  · next bound l₁ hread =>
    have hdrawn := le_drawn_of_eq (drawn_getText σ userIdKey l) hread
    split
    · next hleave => exact Nat.le_trans hdrawn (le_drawn_of_eq (drawn_leave σ bound user l₁) hleave)
    · next l₂ hleave =>
      replace hdrawn := Nat.le_trans hdrawn (le_drawn_of_eq (drawn_leave σ bound user l₁) hleave)
      have hinsert := drawn_insert σ userIdKey (.str user.id) l₂
      split
      · next hset => exact Nat.le_trans hdrawn (le_drawn_of_eq hinsert hset)
      · next l₃ hset =>
        replace hdrawn := Nat.le_trans hdrawn (le_drawn_of_eq hinsert hset)
        exact Nat.le_trans hdrawn (drawn_insert σ backendKey (.str backend) l₃)

variable {σ}
variable {l l₁ l' : Live} {user : User} {backend : String} {id : SessionId}

/-- A session is bound under the identifier that was presented, of a session that was found, or
under one that was drawn. -/
theorem LoggedIn.id_cases (h : LoggedIn σ user backend l l₁) (hsave : l₁.save σ = (.ok (), l'))
    (hid : l'.session.id = some id) :
    (∃ data, l.store.find? id σ.now = some data) ∨ ∃ n, l.drawn ≤ n ∧ id = σ.draw n := by
  -- The identifier is the one that is tried first, or else was drawn when the session was saved.
  have htried : ∀ {first : SessionId} {data : SessionData} {store : SessionStore} {drawn : Nat},
      l₁ = ⟨boundSession user backend first data, store, drawn⟩ → l.drawn ≤ drawn →
      id = first ∨ ∃ n, l.drawn ≤ n ∧ id = σ.draw n := by
    rintro first data store drawn rfl hle
    obtain ⟨id', -, hfree, hid', -, -⟩ := save_of_bound hsave
    obtain rfl := Option.some.inj (hid'.symm.trans hid)
    rcases (freeId_cases σ store (store.records.length + 1) first drawn).2 with
      hfirst | ⟨n, hn, hdrawn⟩
    · exact .inl (hfree.symm.trans hfirst)
    · exact .inr ⟨n, Nat.le_trans hle hn, hfree.symm.trans hdrawn⟩
  cases h with
  | replaced hpresented hfind =>
    refine (htried rfl (Nat.le_refl _)).imp_left ?_
    rintro rfl
    exact ⟨_, hfind⟩
  | cycled =>
    right
    rcases htried rfl (Nat.le_succ _) with hfirst | hlater
    · exact ⟨l.drawn, Nat.le_refl _, hfirst⟩
    · exact hlater
  | opened =>
    right
    rcases htried rfl (Nat.le_add_right _ _) with hfirst | hlater
    · exact ⟨l.drawn + 1, Nat.le_succ _, hfirst⟩
    · exact hlater

end Live

/-! ### Actions -/

namespace Visit

/-- A bound on the identifiers that are drawn, of the visit that an action leaves. -/
theorem le_drawn_of_eq {α : Type} {n : Nat} {step : α × Visit} {result : α} {v : Visit}
    (h : n ≤ step.2.live.drawn) (hstep : step = (result, v)) : n ≤ v.live.drawn := by
  subst hstep
  exact h

variable (m : Moment)

theorem drawn_userId (v : Visit) : v.live.drawn ≤ (v.userId m).2.live.drawn := by
  unfold userId Live.userId
  split <;>
    next hread => exact Live.le_drawn_of_eq (Live.drawn_getText m.setting userIdKey v.live) hread

theorem drawn_bindUser (user : User) (v : Visit) :
    v.live.drawn ≤ (v.bindUser m user).2.live.drawn := by
  unfold bindUser
  split <;>
    next hbound =>
      exact Live.le_drawn_of_eq (Live.drawn_logIn m.setting user passwordBackend v.live) hbound

theorem drawn_logOut (v : Visit) : v.live.drawn ≤ (v.logOut m).2.live.drawn := by
  unfold logOut
  split
  · next hread => exact le_drawn_of_eq (drawn_userId m v) hread
  · next v₁ hread =>
    -- A session is cleared without drawing an identifier.
    have hcleared : v.live.drawn ≤ v₁.live.flush.2.drawn := by
      rw [Live.drawn_flush]
      exact le_drawn_of_eq (drawn_userId m v) hread
    dsimp only
    rw [live_note, Live.logOut]
    split <;>
      next hflush => exact Live.le_drawn_of_eq hcleared hflush

theorem drawn_status (v : Visit) : v.live.drawn ≤ (v.status m).2.live.drawn := by
  have haudited : ∀ (v₁ : Visit) userId, v.live.drawn ≤ v₁.live.drawn →
      v.live.drawn ≤ (v₁.audit m userId).2.live.drawn := by
    intro v₁ userId h
    rwa [live_audit]
  unfold status
  split
  · next hread => exact le_drawn_of_eq (drawn_userId m v) hread
  · next v₁ hread =>
    have hnoted := haudited v₁ none (le_drawn_of_eq (drawn_userId m v) hread)
    split <;>
      next haudit => exact le_drawn_of_eq hnoted haudit
  · next v₁ hread =>
    have hkept := le_drawn_of_eq (drawn_userId m v) hread
    split
    · exact hkept
    · next user _ =>
      have hnoted := haudited v₁ (some user.id) hkept
      split <;>
        next haudit => exact le_drawn_of_eq hnoted haudit

theorem drawn_finish (sent : Bool) (reply : Reply) (v : Visit) :
    v.live.drawn ≤ (v.finish m sent reply).2.live.drawn := by
  unfold finish
  split
  · exact Nat.le_refl _
  · split
    · split <;>
        next hsave => exact Live.le_drawn_of_eq (Live.drawn_save m.setting v.live) hsave
    · exact Nat.le_refl _

end Visit

/-- An action draws identifiers one after the other. -/
theorem Route.drawn_run (m : Moment) (r : Request) (route : Route) (v : Visit) :
    v.live.drawn ≤ (route.run m r v).2.live.drawn := by
  cases route with
  | health => exact Nat.le_refl _
  | logIn =>
    simp only [run, withForm]
    split
    · exact Nat.le_refl _
    · unfold Visit.logIn
      split
      · exact Nat.le_refl _
      · next user _ =>
        have hbound := Visit.drawn_bindUser m user v
        split <;>
          next hbind =>
            have hkept := Visit.le_drawn_of_eq hbound hbind
            exact hkept
  | logOut => exact Visit.drawn_logOut m v
  | register =>
    simp only [run, withForm]
    split
    · exact Nat.le_refl _
    · unfold Visit.register
      split
      · exact Nat.le_refl _
      · split
        · exact Nat.le_refl _
        · next user w hmade =>
          -- Making the user draws no identifier of a session.
          have hlive : (v.withWorld w).live.drawn = v.live.drawn := by
            obtain ⟨-, -, -, rfl⟩ := World.of_register_ok hmade
            rfl
          have hbound := Visit.drawn_bindUser m user (v.withWorld w)
          rw [hlive] at hbound
          split <;>
            next hbind =>
              have hkept := Visit.le_drawn_of_eq hbound hbind
              exact hkept
  | status => exact Visit.drawn_status m v
  | resetPassword =>
    simp only [run, withForm]
    split
    · exact Nat.le_refl _
    · unfold Visit.resetPassword
      split
      · exact Nat.le_refl _
      · next request _ =>
        have hsame := World.sameAccounts_sendResets m.service m.now
          (.standard m.service.config.siteName m.service.config.siteDomain) request.users v.world
        dsimp only
        split <;>
          next hsend =>
            rw [hsend] at hsame
            obtain ⟨_, _, _, rfl⟩ := hsame
            exact Nat.le_refl _

/-! ### Requests and other acts -/

namespace Service

/-- A request draws session identifiers one after the other. -/
theorem draws_sessions_handle (s : Service) (now : Instant) (r : Request) (w : World) :
    w.draws.sessions ≤ (s.handle now r w).world.draws.sessions := by
  have hresponse : w.draws.sessions ≤ (respond (s.moment now) r (s.visit r w)).2.live.drawn := by
    rcases respond_cases (s.moment now) r (s.visit r w) with
      ⟨full, -, -, -, -, hworld, -⟩ | ⟨route, -, -, -, hrun⟩
    · exact Nat.le_of_eq (congrArg (·.draws.sessions) hworld).symm
    · have hacted := route.drawn_run (s.moment now) r (s.visit r w)
      rw [hrun]
      unfold Visit.conclude
      split <;>
        next houtcome =>
          have hkept := Visit.le_drawn_of_eq hacted houtcome
          exact hkept
  rw [handle_eq_settle]
  refine Nat.le_trans hresponse ?_
  generalize (respond (s.moment now) r (s.visit r w)).2 = v
  unfold settle
  split
  · exact Visit.drawn_finish (s.moment now) _ _ v
  · exact Nat.le_refl _

/-- An act draws session identifiers one after the other. -/
theorem draws_sessions_perform (s : Service) (now : Instant) (w : World) (act : Act) :
    w.draws.sessions ≤ (s.perform now w act).draws.sessions := by
  cases act with
  | request r => exact s.draws_sessions_handle now r w
  | createUser username email passwordHash =>
    simp only [perform]
    split
    · next hmade =>
      obtain ⟨-, -, -, rfl⟩ := World.of_createUser_ok hmade
      exact Nat.le_refl _
    · exact Nat.le_refl _
  | deleteUser id => simp only [perform]; split <;> exact Nat.le_refl _
  | cleanUp => simp only [perform]; split <;> exact Nat.le_refl _

end Service

end CookieAuth
