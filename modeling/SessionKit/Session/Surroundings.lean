import SessionKit.Session.Manager

/-!
# What a manager works with

A clock, a source of credentials, a storage, a cache, and the lock that guards the fill generation.
The cache is changed while that lock is held, so that a change of the generation and the change of
the cache that belongs to it are one step.
-/

namespace SessionKit.Manager

structure Surroundings (m : Type → Type) where
  now : m Timestamp
  token : Nat → m (Except CredentialError Token.Pair)
  identifier : Identifier.Alphabet → Nat → m (Except CredentialError String)
  storage : (call : Storage.Call) → m (Storage.Answer call)
  cache : (call : Cache.Call) → m (Cache.Answer call)
  generation : m UInt64
  setGeneration : UInt64 → m Unit
  log : Event → m Unit

namespace Surroundings

variable {m : Type → Type} [Monad m] (s : Surroundings m)

/-- Puts a session into the cache, unless the generation has changed. -/
def fill (generation : UInt64) (tokenHash : String) (session : Session) : m Filled := do
  if (← s.generation) = generation then
    match ← s.cache (.set tokenHash session) with
    | .ok () => return .done
    | .error e => return .failed e
  else return .outdated

/-- Bumps the generation, and then makes a call to the cache. -/
def bump (call : Cache.Call) : m (Cache.Answer call) := do
  s.setGeneration ((← s.generation) + 1)
  s.cache call

/-- Answers a request of a manager. -/
def answer : (r : Request) → m (Answer r)
  | .now => s.now
  | .token bytes => s.token bytes
  | .identifier alphabet length => s.identifier alphabet length
  | .store call => s.storage call
  | .lookUp tokenHash => s.cache (.get tokenHash)
  | .generation => s.generation
  | .fill generation tokenHash session => s.fill generation tokenHash session
  | .invalidate tokenHash => s.bump (.delete tokenHash)
  | .invalidateAll => s.bump .clear
  | .log event => s.log event

/-- Runs an operation from its start to its end. -/
def run {α : Type} (operation : Operation α) : m (Except Session.Error α) :=
  operation.run.runIn s.answer

end Surroundings
end SessionKit.Manager
