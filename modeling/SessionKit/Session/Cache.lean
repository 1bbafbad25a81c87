import SessionKit.Event
import SessionKit.Session.Record
import SessionKit.Session.Settings

/-!
# Session cache

A fast lookup in front of the storage, by digest. A cache is known by how it answers the calls
below, any of which may fail. The one in memory serves an entry for a limited time and holds a
limited number of them.
-/

namespace SessionKit.Cache

inductive Error where
  | backend (reason : String)
  deriving DecidableEq, Repr

def Error.message : Error → String
  | backend reason => s!"cache backend error: {reason}"

inductive Call where
  | get (tokenHash : String)
  | set (tokenHash : String) (session : Session)
  | delete (tokenHash : String)
  | clear
  deriving DecidableEq, Repr

/-- What a call that succeeds hands back; a lookup that finds nothing succeeds. -/
abbrev Call.Value : Call → Type
  | .get _ => Option Session
  | .set _ _ => Unit
  | .delete _ => Unit
  | .clear => Unit

abbrev Answer (c : Call) : Type := Except Error c.Value

def event (level : Level) (message : String) (fields : List (String × Event.Value)) : Event :=
  { level, origin := .cache, message, fields }

/-- A reading of a clock that never goes back, in nanoseconds. -/
abbrev Instant := Nat

/-- A session as it was at its insertion. -/
structure Entry where
  session : Session
  insertedAt : Instant
  deriving DecidableEq, Repr

/-- An entry is good as long as it is no older than the time to live. -/
def Entry.isStale (e : Entry) (ttl : Duration) (now : Instant) : Bool :=
  ttl.nanoseconds < (now - e.insertedAt : Nat)

/-- What has happened so far; no count ever shrinks. -/
structure Counters where
  hits : Nat := 0
  misses : Nat := 0
  sets : Nat := 0
  deletes : Nat := 0
  evictions : Nat := 0
  deriving DecidableEq, Repr

/-- Entries in memory, one for each digest, in the order of their insertion. -/
structure Memory where
  settings : Settings
  entries : List (String × Entry) := []
  counters : Counters := {}
  deriving DecidableEq, Repr

namespace Memory

/-- An empty cache; zeros in the settings stand for the defaults. -/
def new (s : Settings) : Memory := { settings := s.effective }

def size (m : Memory) : Nat := m.entries.length

def entry? (m : Memory) (tokenHash : String) : Option Entry :=
  (m.entries.find? fun e => e.1 = tokenHash).map Prod.snd

/-- Whether there is an entry that is still good. -/
def contains (m : Memory) (now : Instant) (tokenHash : String) : Bool :=
  match m.entry? tokenHash with
  | some e => !e.isStale m.settings.ttl now
  | none => false

def withoutKey (m : Memory) (tokenHash : String) : List (String × Entry) :=
  m.entries.filter fun e => e.1 ≠ tokenHash

/-! ## Looking up -/

/-- What the first phase of a lookup comes to. -/
inductive Glance where
  | found (session : Session)
  | missing
  | stale
  deriving DecidableEq, Repr

/-- The first phase of a lookup, which changes no entry. -/
def glance (m : Memory) (now : Instant) (tokenHash : String) : Glance × Memory :=
  let missed := { m with counters := { m.counters with misses := m.counters.misses + 1 } }
  match m.entry? tokenHash with
  | none => (.missing, missed)
  | some e =>
    if e.isStale m.settings.ttl now then (.stale, missed)
    else (.found e.session, { m with counters := { m.counters with hits := m.counters.hits + 1 } })

/-- The second phase of a lookup that met a stale entry: drops the entry if it still is stale. -/
def dropStale (m : Memory) (now : Instant) (tokenHash : String) : Reply Unit Memory :=
  match m.entry? tokenHash with
  | none => { answer := (), state := m }
  | some e =>
    if e.isStale m.settings.ttl now then
      let entries := m.withoutKey tokenHash
      { answer := ()
        state := { m with
          entries
          counters := { m.counters with evictions := m.counters.evictions + 1 } }
        events := [event .trace "evicted stale cache entry"
          [("cache_size", .number entries.length)]] }
    else { answer := (), state := m }

/-- Both phases at once. -/
def get (m : Memory) (now : Instant) (tokenHash : String) :
    Reply (Except Error (Option Session)) Memory :=
  match m.glance now tokenHash with
  | (.found s, n) => { answer := .ok (some s), state := n }
  | (.missing, n) => { answer := .ok none, state := n }
  | (.stale, n) =>
    let dropped := n.dropStale now tokenHash
    { answer := .ok none, state := dropped.state, events := dropped.events }

/-! ## Changing -/

/-- Makes room for a new entry in a full cache: the entry at some place goes. -/
def makeRoom (m : Memory) (victim : Nat) (tokenHash : String) : Memory × List Event :=
  if (m.entry? tokenHash).isNone ∧ m.settings.maxSize ≤ m.size then
    ({ m with
       entries := m.entries.eraseIdx (victim % m.size)
       counters := { m.counters with evictions := m.counters.evictions + 1 } },
     [event .debug "cache full, evicted an entry to make room"
       [("max_size", .number m.settings.maxSize)]])
  else (m, [])

/-- Puts a session under a digest. Which entry goes when the cache is full is not its choice. -/
def set (m : Memory) (now : Instant) (victim : Nat) (tokenHash : String) (session : Session) :
    Reply (Except Error Unit) Memory :=
  let (room, evicted) := m.makeRoom victim tokenHash
  let entries := room.withoutKey tokenHash ++ [(tokenHash, { session, insertedAt := now })]
  { answer := .ok ()
    state := { room with
      entries
      counters := { room.counters with sets := room.counters.sets + 1 } }
    events := evicted ++ [event .trace "session cached" [("cache_size", .number entries.length)]] }

def delete (m : Memory) (tokenHash : String) : Reply (Except Error Unit) Memory :=
  match m.entry? tokenHash with
  | none => { answer := .ok (), state := m }
  | some _ =>
    { answer := .ok ()
      state := { m with
        entries := m.withoutKey tokenHash
        counters := { m.counters with deletes := m.counters.deletes + 1 } } }

def clear (m : Memory) : Reply (Except Error Unit) Memory :=
  { answer := .ok ()
    state := { m with
      entries := []
      counters := { m.counters with deletes := m.counters.deletes + m.size } }
    events := [event .debug "session cache cleared" [("removed", .number m.size)]] }

/-- The answer to a call that is made at a given time; `victim` says which entry goes when there
is no room. -/
def call (now : Instant) (victim : Nat) : (c : Call) → Memory → Reply (Answer c) Memory
  | .get tokenHash, m => m.get now tokenHash
  | .set tokenHash session, m => m.set now victim tokenHash session
  | .delete tokenHash, m => m.delete tokenHash
  | .clear, m => m.clear

end Memory
end SessionKit.Cache
