import SessionKit.Identifier
import SessionKit.Program
import SessionKit.Session.Cache
import SessionKit.Session.Errors
import SessionKit.Text.Slice

/-!
# The session manager

Creates, verifies, refreshes and destroys sessions. The storage counts, and whatever fails in it
fails the operation. The cache is best effort: what fails in it is logged and otherwise ignored.

Every removal from the storage bumps the fill generation before the cache is touched, and a session
that was read from the storage is cached only if the generation is still the one that was current
before the read. So a session that is deleted while it is being read is not put back. The generation
is a machine word, and starts again from zero when it overflows.

An operation is a program. Each of its requests happens at once, and between two of them other
operations may do anything.
-/

namespace SessionKit

structure Manager where
  settings : Session.Settings := {}
  alphabet : Identifier.Alphabet := Identifier.defaultAlphabet
  /-- Whether there is a cache in front of the storage. -/
  cached : Bool := false

namespace Manager

/-! ## Requests -/

/-- What came of putting a session into the cache. -/
inductive Filled where
  | done
  /-- The generation is another one by now. -/
  | outdated
  | failed (cause : Cache.Error)
  deriving DecidableEq, Repr

inductive Request where
  /-- Read the wall clock. -/
  | now
  | token (bytes : Nat)
  | identifier (alphabet : Identifier.Alphabet) (length : Nat)
  | store (call : Storage.Call)
  /-- Look a digest up in the cache. -/
  | lookUp (tokenHash : String)
  /-- Read the fill generation. -/
  | generation
  /-- Put a session into the cache if the generation is still the given one. -/
  | fill (generation : UInt64) (tokenHash : String) (session : Session)
  /-- Bump the generation and drop a digest from the cache. -/
  | invalidate (tokenHash : String)
  /-- Bump the generation and clear the cache. -/
  | invalidateAll
  | log (event : Event)

abbrev Answer : Request → Type
  | .now => Timestamp
  | .token _ => Except CredentialError Token.Pair
  | .identifier _ _ => Except CredentialError String
  | .store call => Storage.Answer call
  | .lookUp _ => Except Cache.Error (Option Session)
  | .generation => UInt64
  | .fill _ _ _ => Filled
  | .invalidate _ => Except Cache.Error Unit
  | .invalidateAll => Except Cache.Error Unit
  | .log _ => Unit

abbrev Action (α : Type) := Program Request Answer α

/-- An action that may fail. -/
abbrev Operation (α : Type) := ExceptT Session.Error (Program Request Answer) α

def ask (r : Request) : Action (Answer r) := .request r

def log (level : Level) (message : String) (fields : List (String × Event.Value)) : Action Unit :=
  ask (.log { level, origin := .sessions, message, fields })

/-- A call to the storage whose failure fails the operation. -/
def store (operation : String) (call : Storage.Call) : Operation call.Value := do
  match ← ask (.store call) with
  | .ok v => return v
  | .error cause => throw (.storage operation cause)

/-- A call to the storage that finds nothing where nothing may be. -/
def storeFound (operation : String) (call : Storage.Call) : Operation call.Value := do
  match ← ask (.store call) with
  | .ok v => return v
  | .error .notFound => throw .notFound
  | .error cause => throw (.storage operation cause)

/-! ## Logging -/

/-- Most bytes of a digest that are logged. -/
def loggedBytes : Nat := 8

/-- The beginning of a digest, which does not give the digest away. -/
def digestField (tokenHash : String) : String × Event.Value :=
  let begins := (Text.takeBytes? loggedBytes tokenHash.toList).map String.ofList
  ("digest", .quoted (begins.getD tokenHash))

def sessionField (s : Session) : String × Event.Value := ("session_id", .plain s.id)

def errorField (e : Cache.Error) : String × Event.Value := ("error", .plain e.message)

/-! ## The cache -/

/-- The session that the cache has under a digest. -/
def cacheGet (m : Manager) (tokenHash : String) : Action (Option Session) :=
  if m.cached then do
    match ← ask (.lookUp tokenHash) with
    | .ok hit => return hit
    | .error e =>
      log .warn "session cache read failed" [digestField tokenHash, errorField e]
      return none
  else return none

def currentGeneration (m : Manager) : Action UInt64 :=
  if m.cached then ask .generation else return 0

/-- Caches a session that was read from the storage after the generation was. -/
def cacheFill (m : Manager) (generation : UInt64) (tokenHash : String) (s : Session) :
    Action Unit :=
  if m.cached then do
    match ← ask (.fill generation tokenHash s) with
    | .done => return
    | .outdated => log .debug "storage changed during lookup, not caching" [sessionField s]
    | .failed e => log .warn "session cache write failed" [sessionField s, errorField e]
  else return

def invalidate (m : Manager) (tokenHash : String) : Action Unit :=
  if m.cached then do
    match ← ask (.invalidate tokenHash) with
    | .ok () => return
    | .error e => log .warn "session cache delete failed" [digestField tokenHash, errorField e]
  else return

def invalidateAll (m : Manager) : Action Unit :=
  if m.cached then do
    match ← ask .invalidateAll with
    | .ok () => return
    | .error e => log .warn "session cache clear failed" [errorField e]
  else return

/-! ## Operations -/

/-- A token with its digest, and an identifier. -/
def drawCredentials (m : Manager) : Operation (Token.Pair × String) := do
  match ← ask (.token m.settings.tokenBytes) with
  | .error cause => throw (.generation cause)
  | .ok pair =>
    match ← ask (.identifier m.alphabet m.settings.idLength) with
    | .error cause => throw (.generation cause)
    | .ok id => return (pair, id)

/-- Issues a session to a user. The token is in nobody else's hands. -/
def create (m : Manager) (userId ipAddress userAgent : String) : Operation Session.Created := do
  let (pair, id) ← m.drawCredentials
  let now ← ask .now
  match now.add? m.settings.maxAge with
  | none => throw (.lifetimeOutOfRange m.settings.maxAge)
  | some expiresAt =>
    let session : Session :=
      { id, userId, tokenHash := pair.digest, ipAddress, userAgent, createdAt := now
        updatedAt := now, expiresAt }
    let generation ← m.currentGeneration
    store "create session" (.create session)
    m.cacheFill generation session.tokenHash session
    log .info "session created"
      [sessionField session, ("user_id", .plain userId),
       ("expires_at", .plain expiresAt.display)]
    return { session, token := pair.token }

/-- Deletes a session that has expired, if it is still there. Hands back what is wrong with the
session: that it has expired, or else that it could not be deleted. -/
def removeExpired (tokenHash : String) : Action Session.Error := do
  match ← ask (.store (.deleteByHash tokenHash)) with
  | .ok () => return .expired
  | .error .notFound => return .expired
  | .error cause => return .storage "delete expired session" cause

/-- What a session in the cache says about a token: it is not compared with the digest again. -/
def verifyCached (m : Manager) (tokenHash : String) (s : Session) : Operation Session := do
  if s.isExpiredAt (← ask .now) then
    log .debug "cached session expired" [sessionField s]
    let fault ← removeExpired tokenHash
    m.invalidate tokenHash
    throw fault
  else return s

/-- What the storage says about a token. -/
def verifyStored (m : Manager) (token tokenHash : String) : Operation Session := do
  let generation ← m.currentGeneration
  let s ← storeFound "look up session" (.byHash tokenHash)
  if (Token.verify token s.tokenHash).toOption ≠ some true then
    log .warn "stored digest does not match token" [sessionField s, digestField tokenHash]
    throw .invalidToken
  else if s.isExpiredAt (← ask .now) then
    log .debug "stored session expired" [sessionField s]
    throw (← removeExpired tokenHash)
  else
    m.cacheFill generation tokenHash s
    return s

/-- The session of a token. One that has expired is deleted. -/
def verify (m : Manager) (token : String) : Operation Session := do
  if token.isEmpty then throw .invalidToken
  let tokenHash := Token.digest token
  match ← m.cacheGet tokenHash with
  | some s => m.verifyCached tokenHash s
  | none => m.verifyStored token tokenHash

/-- Ends the session of a token. The cache forgets it even when the storage fails. -/
def destroy (m : Manager) (token : String) : Operation Unit := do
  if token.isEmpty then throw .invalidToken
  let tokenHash := Token.digest token
  let deleted ← ask (.store (.deleteByHash tokenHash))
  m.invalidate tokenHash
  match deleted with
  | .ok () => log .info "session destroyed" [digestField tokenHash]
  | .error .notFound => throw .notFound
  | .error cause => throw (.storage "delete session" cause)

/-- Ends the session with an identifier. That there is none is no error. -/
def destroyById (m : Manager) (id : String) : Operation Unit := do
  let found ← ask (.store (.byId id))
  let deleted ← ask (.store (.deleteById id))
  match found with
  | .ok s => m.invalidate s.tokenHash
  | .error _ => pure ()
  match deleted with
  | .ok () => log .info "session destroyed" [("session_id", .quoted id)]
  | .error .notFound => log .debug "no session to destroy" [("session_id", .quoted id)]
  | .error cause => throw (.storage "delete session by id" cause)

/-- Ends all sessions of a user, and counts them. -/
def destroyOfUser (m : Manager) (userId : String) : Operation Nat := do
  let removed ← store "delete user sessions" (.deleteOfUser userId)
  if 0 < removed then m.invalidateAll
  log .info "user sessions destroyed" [("user_id", .quoted userId), ("removed", .number removed)]
  return removed

/-- Replaces the session of a token by a new one of the same user. -/
def refresh (m : Manager) (token : String) : Operation Session.Created := do
  let old ← m.verify token
  m.destroy token
  let created ← m.create old.userId old.ipAddress old.userAgent
  log .info "session refreshed"
    [("old_session_id", .plain old.id), sessionField created.session,
     ("user_id", .plain old.userId)]
  return created

/-- The sessions of a user that have not expired, the newest first. -/
def list (_ : Manager) (userId : String) : Operation (List Session) := do
  let now ← ask .now
  let sessions ← store "list user sessions" (.ofUser userId)
  return Session.newestFirst (sessions.filter fun s => !s.isExpiredAt now)

/-- The session with an identifier, expired or not. -/
def get (_ : Manager) (id : String) : Operation Session :=
  storeFound "get session" (.byId id)

/-- Deletes all sessions that have expired, and counts them. -/
def purge (m : Manager) : Operation Nat := do
  let removed ← store "purge expired sessions" .deleteExpired
  if 0 < removed then m.invalidateAll
  log .info "expired sessions purged" [("removed", .number removed)]
  return removed

end Manager
end SessionKit
