import SessionKit.Event
import SessionKit.Session.Record

/-!
# Session storage

Where sessions are kept. A storage is known by how it answers the calls below; the one in memory is
a table with one session for each digest. Its sessions are their own keys: a creation is the only
way into the table, and it puts a session under the digest that the session has.
-/

namespace SessionKit

namespace Storage

inductive Error where
  /-- No session matches. -/
  | notFound
  | backend (reason : String)
  deriving DecidableEq, Repr

def Error.message : Error → String
  | notFound => "record not found"
  | backend reason => s!"storage backend error: {reason}"

inductive Call where
  | create (session : Session)
  | byHash (tokenHash : String)
  | byId (id : String)
  /-- All sessions of a user, expired ones included. -/
  | ofUser (userId : String)
  | deleteByHash (tokenHash : String)
  | deleteById (id : String)
  | deleteOfUser (userId : String)
  | deleteExpired
  deriving DecidableEq, Repr

/-- What a call that succeeds hands back; a deletion of many, how many there were. -/
abbrev Call.Value : Call → Type
  | .create _ => Unit
  | .byHash _ => Session
  | .byId _ => Session
  | .ofUser _ => List Session
  | .deleteByHash _ => Unit
  | .deleteById _ => Unit
  | .deleteOfUser _ => Nat
  | .deleteExpired => Nat

abbrev Answer (c : Call) : Type := Except Error c.Value

def event (level : Level) (message : String) (fields : List (String × Event.Value)) : Event :=
  { level, origin := .storage, message, fields }

end Storage

/-- Sessions with the newest first; those of one age stay in order. -/
def Session.newestFirst (sessions : List Session) : List Session :=
  sessions.mergeSort fun s t => t.createdAt ≤ s.createdAt

namespace Storage

/-- Sessions in memory, in the order in which they came. -/
structure Memory where
  sessions : List Session := []
  deriving DecidableEq, Repr

namespace Memory

def byHash? (m : Memory) (tokenHash : String) : Option Session :=
  m.sessions.find? fun s => s.tokenHash = tokenHash

def byId? (m : Memory) (id : String) : Option Session := m.sessions.find? fun s => s.id = id

/-- The memory without the sessions that a test picks. -/
def without (m : Memory) (picks : Session → Bool) : Memory :=
  { sessions := m.sessions.filter fun s => !picks s }

/-- Deletes what a test picks and counts it. -/
def deleteAll (m : Memory) (picks : Session → Bool) : Reply (Except Error Nat) Memory where
  answer := .ok (m.sessions.countP picks)
  state := m.without picks

def deleteByHash (m : Memory) (tokenHash : String) : Reply (Except Error Unit) Memory :=
  match m.byHash? tokenHash with
  | some _ => { answer := .ok (), state := m.without fun s => s.tokenHash = tokenHash }
  | none => { answer := .error .notFound, state := m }

def create (m : Memory) (s : Session) : Reply (Except Error Unit) Memory :=
  match m.byHash? s.tokenHash with
  | some _ =>
    { answer := .error (.backend "a session with this token digest already exists"), state := m }
  | none =>
    { answer := .ok (), state := { sessions := m.sessions ++ [s] }
      events := [event .trace "session stored" [("session_id", .plain s.id)]] }

/-- The answer to a call that is made at a given time. -/
def call (now : Timestamp) : (c : Call) → Memory → Reply (Answer c) Memory
  | .create s, m => m.create s
  | .byHash tokenHash, m =>
    { answer := match m.byHash? tokenHash with
        | some s => .ok s
        | none => .error .notFound
      state := m }
  | .byId id, m =>
    { answer := match m.byId? id with
        | some s => .ok s
        | none => .error .notFound
      state := m }
  | .ofUser userId, m =>
    { answer := .ok (Session.newestFirst (m.sessions.filter fun s => s.userId = userId))
      state := m }
  | .deleteByHash tokenHash, m => m.deleteByHash tokenHash
  | .deleteById id, m =>
    match m.byId? id with
    | some s => { answer := .ok (), state := m.without fun t => t.tokenHash = s.tokenHash }
    | none => { answer := .error .notFound, state := m }
  | .deleteOfUser userId, m => m.deleteAll fun s => s.userId = userId
  | .deleteExpired, m => m.deleteAll fun s => s.isExpiredAt now

end Memory
end Storage
end SessionKit
