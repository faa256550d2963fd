import CookieAuth.Session.Store

/-!
# Sessions

The session of one request.  Its data is read from the store at the first access, and an identifier
that the store does not know is forgotten then.  Changes reach the store when the session is saved.

## Main definitions

* `Session`: the state of a session during a request;
* `Setting`: where fresh identifiers come from, how long records live and what time it is;
* `Live`: a session together with the store;
* `Live.load`, `Live.get`, `Live.insert`, `Live.save`, `Live.cycleId`, `Live.flush`: the operations.
-/

namespace CookieAuth

open Time

/-- What was read from the store, or a fresh start: the identifier under which it is going to be
saved, and the data. -/
structure Loaded where
  /-- The identifier. -/
  id : SessionId
  /-- The data. -/
  data : SessionData := []
  deriving Repr

/-- The state of a session during a request. -/
structure Session where
  /-- The identifier under which the store has the session. -/
  id : Option SessionId := none
  /-- The data, once it was read. -/
  loaded : Option Loaded := none
  /-- Whether the session has to be saved. -/
  modified : Bool := false
  deriving Repr

/-- Whether a session has neither an identifier nor data. -/
def Session.isEmpty (s : Session) : Bool :=
  s.id.isNone && s.loaded.all (·.data.isEmpty)

/-- How long a session lives without being saved. -/
inductive Lifetime where
  /-- The cookie ends with the browser, and the record after two weeks. -/
  | browser
  /-- Cookie and record end after some hours. -/
  | hours (n : Int)
  deriving DecidableEq, Repr

/-- The seconds after which a record ends. -/
def Lifetime.seconds : Lifetime → Int
  | .browser => 14 * 24 * 3600
  | .hours n => n * 3600

/-- What the operations on a session depend on. -/
structure Setting where
  /-- The identifiers that are drawn, in order. -/
  draw : Nat → SessionId
  /-- How long records live. -/
  lifetime : Lifetime
  /-- What time it is. -/
  now : Instant

/-- When a record that is saved now ends. -/
def Setting.expires (σ : Setting) : Instant :=
  σ.now.addSeconds σ.lifetime.seconds

/-- A session together with the store. -/
structure Live where
  /-- The session. -/
  session : Session
  /-- The store. -/
  store : SessionStore
  /-- How many identifiers were drawn. -/
  drawn : Nat
  deriving Repr

namespace Live

variable (σ : Setting)

/-- Start with empty data under a fresh identifier. -/
def start (l : Live) : Loaded × Live :=
  let fresh : Loaded := { id := σ.draw l.drawn }
  (fresh, { l with
    session := { l.session with id := none, loaded := some fresh }
    drawn := l.drawn + 1 })

/-- The data of the session, read from the store at the first access. -/
def load (l : Live) : Except SessionError Loaded × Live :=
  match l.session.loaded with
  | some loaded => (.ok loaded, l)
  | none =>
    match l.session.id with
    | none => let (fresh, l) := l.start σ; (.ok fresh, l)
    | some id =>
      match l.store.load id σ.now with
      | .error e => (.error e, l)
      -- an identifier without a live record is dropped, so that no client can choose its own
      | .ok none => let (fresh, l) := l.start σ; (.ok fresh, l)
      | .ok (some data) =>
        (.ok ⟨id, data⟩, { l with session := { l.session with loaded := some ⟨id, data⟩ } })

/-- A value of the session. -/
def get (key : String) (l : Live) : Except SessionError (Option Json) × Live :=
  match l.load σ with
  | (.error e, l) => (.error e, l)
  | (.ok loaded, l) => (.ok (loaded.data.lookup key), l)

/-- A text of the session; a value of another kind is an error. -/
def getText (key : String) (l : Live) : Except SessionError (Option String) × Live :=
  match l.get σ key with
  | (.error e, l) => (.error e, l)
  | (.ok none, l) => (.ok none, l)
  | (.ok (some (.str s)), l) => (.ok (some s), l)
  | (.ok (some j), l) => (.error (.value (.wrongKind j "a string")), l)

/-- Set a value of the session.  Setting the value that is there already changes nothing. -/
def insert (key : String) (value : Json) (l : Live) : Except SessionError Unit × Live :=
  match l.load σ with
  | (.error e, l) => (.error e, l)
  | (.ok loaded, l) =>
    if (loaded.data.lookup key).any value.same then (.ok (), l)
    else
      let loaded := { loaded with data := Json.insertField key value loaded.data }
      (.ok (), { l with session := { l.session with loaded := some loaded, modified := true } })

/-- The first identifier without a record: `id`, or else the next one that is drawn.  Also how many
identifiers were drawn then. -/
def freeId (store : SessionStore) : Nat → SessionId → Nat → SessionId × Nat
  | 0, id, drawn => (id, drawn)
  | fuel + 1, id, drawn =>
    if store.contains id then freeId store fuel (σ.draw drawn) (drawn + 1) else (id, drawn)

/-- Save the session: under a free identifier if it has none, and under its own otherwise. -/
def save (l : Live) : Except SessionError Unit × Live :=
  match l.load σ with
  | (.error e, l) => (.error e, l)
  | (.ok loaded, l) =>
    let record : Record := ⟨loaded.data, σ.expires⟩
    match l.session.id with
    | some _ =>
      match l.store.save loaded.id record with
      | .error e => (.error e, l)
      | .ok store => (.ok (), { l with store })
    | none =>
      -- more draws than there are records: with distinct draws one of them is free
      let (id, drawn) := freeId σ l.store (l.store.records.length + 1) loaded.id l.drawn
      match l.store.create id record with
      | .error e => (.error e, l)
      | .ok store =>
        (.ok (), {
          session := { l.session with id := some id, loaded := some { loaded with id } }
          store
          drawn })

/-- Give the session a fresh identifier and delete the record under the old one.  The data stays. -/
def cycleId (l : Live) : Except SessionError Unit × Live :=
  match l.load σ with
  | (.error e, l) => (.error e, l)
  | (.ok loaded, l) =>
    let l := { l with
      session := { l.session with
        id := none
        loaded := some { loaded with id := σ.draw l.drawn } }
      drawn := l.drawn + 1 }
    match l.store.delete loaded.id with
    -- the fresh identifier stays, but the session is not marked for saving
    | .error e => (.error e, l)
    | .ok store => (.ok (), { l with session := { l.session with modified := true }, store })

/-- A session without data.  One that was never read keeps its identifier for saving. -/
def cleared (s : Session) : Session :=
  { s with
    loaded := match s.loaded with
      | some loaded => some { loaded with data := [] }
      | none => s.id.map fun id => { id }
    modified := true }

/-- Clear the session and delete its record. -/
def flush (l : Live) : Except SessionError Unit × Live :=
  let session := cleared l.session
  match session.id with
  | none => (.ok (), { l with session })
  | some id =>
    match l.store.delete id with
    | .error e => (.error e, { l with session })
    | .ok store => (.ok (), { l with session := { session with id := none }, store })

end Live

end CookieAuth
