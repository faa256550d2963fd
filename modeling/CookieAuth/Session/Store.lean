import CookieAuth.Json.Shape
import CookieAuth.Session.Id
import CookieAuth.Time.Instant

/-!
# The session store

## Main definitions

* `SessionError`: why a session cannot be read or written;
* `Record`: the data of a session and when it ends;
* `SessionStore`: records by identifier, and which operations fail;
* `SessionStore.load`, `SessionStore.save`, `SessionStore.delete`: the operations.

## Main results

* `SessionStore.get?_erase`, `SessionStore.get?_insert`: which records a change leaves.
-/

namespace CookieAuth

open Time

/-- Why a session cannot be read or written. -/
inductive SessionError where
  /-- The store failed. -/
  | backend (text : String)
  /-- A record cannot be encoded. -/
  | encode (text : String)
  /-- A record cannot be decoded. -/
  | decode (text : String)
  /-- A value is not of the kind that was asked for. -/
  | value (cause : Json.ReadError)
  deriving Repr

/-- The text of an error. -/
def SessionError.message : SessionError → String
  | .backend text => text
  | .encode text => "Encoding failed with: " ++ text
  | .decode text => "Decoding failed with: " ++ text
  | .value cause => cause.message

/-- The data of a session: values by name, sorted by name. -/
abbrev SessionData := List (String × Json)

/-- The data of a session and when it ends. -/
structure Record where
  /-- Values by name. -/
  data : SessionData
  /-- When the session ends. -/
  expires : Instant
  deriving Repr

/-- Which operations of a store fail. -/
structure Faults where
  /-- Whether making a record fails. -/
  create : Bool := false
  /-- Whether changing a record fails. -/
  save : Bool := false
  /-- Whether reading a record fails. -/
  load : Bool := false
  /-- Whether deleting a record fails. -/
  delete : Bool := false
  deriving DecidableEq, Repr

/-- Records by identifier. -/
structure SessionStore where
  /-- The records. -/
  records : List (SessionId × Record) := []
  /-- Which operations fail. -/
  faults : Faults := {}
  deriving Repr

namespace SessionStore

/-- The record of an identifier, whether it has ended or not. -/
def get? (store : SessionStore) (id : SessionId) : Option Record :=
  store.records.lookup id

/-- Whether there is a record of an identifier. -/
def contains (store : SessionStore) (id : SessionId) : Bool :=
  (store.get? id).isSome

/-- The store without the record of an identifier. -/
def erase (store : SessionStore) (id : SessionId) : SessionStore :=
  { store with records := store.records.filter (·.1 ≠ id) }

/-- The store with a record under an identifier. -/
def insert (store : SessionStore) (id : SessionId) (record : Record) : SessionStore :=
  { store with records := (id, record) :: (store.erase id).records }

theorem get?_erase (store : SessionStore) (id other : SessionId) :
    (store.erase id).get? other = if other = id then none else store.get? other := by
  unfold get? erase
  induction store.records with
  | nil => simp
  | cons head rest ih =>
    obtain ⟨key, record⟩ := head
    by_cases hkey : key = id
    · subst hkey
      by_cases hother : other = key
      · subst hother
        simpa using ih
      · have : (other == key) = false := by simpa using hother
        simpa [List.lookup_cons, this, hother] using ih
    · by_cases hother : other = key
      · subst hother
        simp [hkey]
      · have : (other == key) = false := by simpa using hother
        simpa [List.lookup_cons, this, hkey] using ih

theorem get?_insert (store : SessionStore) (id other : SessionId) (record : Record) :
    (store.insert id record).get? other
      = if other = id then some record else store.get? other := by
  by_cases h : other = id
  · subst h
    simp [get?, insert]
  · have hne : (other == id) = false := by simpa using h
    have herase := get?_erase store id other
    simp only [h, if_false] at herase ⊢
    simpa [get?, insert, List.lookup_cons, hne] using herase

/-- The data of a session that has not ended. -/
def find? (store : SessionStore) (id : SessionId) (now : Instant) : Option SessionData :=
  ((store.get? id).filter (now < ·.expires)).map (·.data)

/-- The error of an operation that fails. -/
def refused (operation : String) : SessionError :=
  .backend (operation ++ " refused")

/-- Read the data of a session that has not ended. -/
def load (store : SessionStore) (id : SessionId) (now : Instant) :
    Except SessionError (Option SessionData) :=
  if store.faults.load then .error (refused "load") else .ok (store.find? id now)

/-- Make a record under an identifier that has none. -/
def create (store : SessionStore) (id : SessionId) (record : Record) :
    Except SessionError SessionStore :=
  if store.faults.create then .error (refused "create") else .ok (store.insert id record)

/-- Change a record. -/
def save (store : SessionStore) (id : SessionId) (record : Record) :
    Except SessionError SessionStore :=
  if store.faults.save then .error (refused "save") else .ok (store.insert id record)

/-- Delete a record. -/
def delete (store : SessionStore) (id : SessionId) : Except SessionError SessionStore :=
  if store.faults.delete then .error (refused "delete") else .ok (store.erase id)

end SessionStore

end CookieAuth
