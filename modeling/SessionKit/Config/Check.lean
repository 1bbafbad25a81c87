import SessionKit.Config.Errors
import SessionKit.Config.Sections

/-!
# Checking a configuration

The values that the program could not work with, looked for section by section. The first one
found is told.
-/

namespace SessionKit.Config

/-- Fewest random bytes of a token. -/
def minTokenBytes : Nat := 16

/-- Whoever breaks the condition is told why. -/
def require (condition : Prop) [Decidable condition] (field reason : String) :
    Except Error Unit :=
  if condition then .ok () else .error (.invalid field reason)

/-- The alphabet that identifiers are drawn from. -/
def identifierGenerator (c : Config) : Except Error Identifier.Alphabet :=
  (Identifier.Alphabet.ofText c.identifierAlphabet).mapError fun cause =>
    .invalid "identifier.alphabet" (CredentialError.invalidAlphabet cause).message

def SessionSection.check (s : SessionSection) : Except Error Unit := do
  require (0 < s.maxAgeSecs.toInt) "session.max_age_secs" "must be positive"
  require (s.maxAgeSecs.toInt ≤ Session.maxMaxAgeSecs) "session.max_age_secs"
    s!"must be at most {Session.maxMaxAgeSecs}"
  require (minTokenBytes ≤ s.tokenBytes.toNat) "session.token_bytes"
    s!"must be at least {minTokenBytes}"
  require (s.idLength ≠ 0) "session.id_length" "must be positive"

def CacheSection.check (s : CacheSection) : Except Error Unit := do
  require (s.ttlSecs ≠ 0) "cache.ttl_secs" "must be positive"
  require (s.maxSize ≠ 0) "cache.max_size" "must be positive"

/-- A hash beyond the limits would be refused when a password is checked against it. -/
def PasswordSection.check (s : PasswordSection) : Except Error Unit := do
  require (s.iterations ≠ 0) "password.iterations" "must be at least 1"
  require (s.parallelism ≠ 0) "password.parallelism" "must be at least 1"
  require (s.iterations ≤ Password.maxIterations) "password.iterations"
    s!"must be at most {Password.maxIterations.toNat}"
  require (s.parallelism ≤ Password.maxParallelism) "password.parallelism"
    s!"must be at most {Password.maxParallelism.toNat}"
  require (s.memoryKib ≤ Password.maxMemoryKib) "password.memory_kib"
    s!"must be at most {Password.maxMemoryKib.toNat}"
  let least := 8 * s.parallelism.toNat
  require (least ≤ s.memoryKib.toNat) "password.memory_kib"
    s!"must be at least 8 x parallelism ({least})"
  require (Argon2.minSaltLength ≤ s.saltLength.toNat) "password.salt_length"
    s!"must be at least {Argon2.minSaltLength}"
  require (Argon2.minKeyLength ≤ s.keyLength.toNat) "password.key_length"
    s!"must be at least {Argon2.minKeyLength}"

def IdentifierSection.check (s : IdentifierSection) : Except Error Unit := do
  match Identifier.Alphabet.ofText s.alphabet with
  | .error cause =>
    throw (.invalid "identifier.alphabet" (CredentialError.invalidAlphabet cause).message)
  | .ok _ => require (s.length ≠ 0) "identifier.length" "must be positive"

/-- The levels that a configuration may name, in any case of letters. -/
def logLevels : List String := ["trace", "debug", "info", "warn", "error"]

def LoggingSection.check (s : LoggingSection) : Except Error Unit :=
  match s.level with
  | none => .ok ()
  | some level =>
    require (level.toLower ∈ logLevels) "logging.level"
      (s!"'{level}' is not one of " ++ ", ".intercalate logLevels)

/-- A missing section has no faults. -/
def checkSection {α : Type} (check : α → Except Error Unit) : Option α → Except Error Unit
  | none => .ok ()
  | some s => check s

def check (c : Config) : Except Error Unit := do
  checkSection SessionSection.check c.session
  checkSection CacheSection.check c.cache
  checkSection PasswordSection.check c.password
  checkSection IdentifierSection.check c.identifier
  checkSection LoggingSection.check c.logging

end SessionKit.Config
