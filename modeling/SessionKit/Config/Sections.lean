import SessionKit.Password.Hasher
import SessionKit.Session.Settings

/-!
# Configurations

A configuration has five sections, any of which may be missing. Layers are put on top of each
other section by section, and a missing section means its defaults wherever the configuration is
used.
-/

namespace SessionKit

namespace Config

/-- How sessions are issued. -/
structure SessionSection where
  maxAgeSecs : Int64 := Int64.ofNat Session.defaultMaxAgeSecs
  tokenBytes : UInt64 := UInt64.ofNat Token.defaultBytes
  idLength : UInt64 := UInt64.ofNat Identifier.defaultLength
  deriving DecidableEq, Repr

/-- The cache in front of the storage. -/
structure CacheSection where
  enabled : Bool := true
  ttlSecs : UInt64 := UInt64.ofNat Cache.defaultTtlSecs
  maxSize : UInt64 := UInt64.ofNat Cache.defaultMaxSize
  deriving DecidableEq, Repr

/-- What a new password hash costs. -/
structure PasswordSection where
  memoryKib : UInt32 := 64 * 1024
  iterations : UInt32 := 3
  parallelism : UInt32 := 2
  saltLength : UInt64 := 16
  keyLength : UInt64 := 32
  deriving DecidableEq, Repr

/-- How identifiers are drawn. -/
structure IdentifierSection where
  alphabet : String := Identifier.defaultCharacters
  length : UInt64 := UInt64.ofNat Identifier.defaultLength
  deriving DecidableEq, Repr

/-- What is logged, and where to. -/
structure LoggingSection where
  level : Option String := none
  json : Bool := false
  directory : Option String := none
  deriving DecidableEq, Repr

end Config

structure Config where
  session : Option Config.SessionSection := none
  cache : Option Config.CacheSection := none
  password : Option Config.PasswordSection := none
  identifier : Option Config.IdentifierSection := none
  logging : Option Config.LoggingSection := none
  deriving DecidableEq, Repr

namespace Config

/-- Every section with its defaults. -/
def defaults : Config where
  session := some {}
  cache := some {}
  password := some {}
  identifier := some {}
  logging := some {}

/-- Puts a layer on top: the sections that it has replace those below. -/
def merge (below above : Config) : Config where
  session := above.session <|> below.session
  cache := above.cache <|> below.cache
  password := above.password <|> below.password
  identifier := above.identifier <|> below.identifier
  logging := above.logging <|> below.logging

/-- The configuration with the defaults of every missing section. -/
def resolved (c : Config) : Config := defaults.merge c

/-! ## What the program uses -/

def sessionMaxAgeSecs (c : Config) : Int64 :=
  c.session.elim (Int64.ofNat Session.defaultMaxAgeSecs) (·.maxAgeSecs)

def cacheEnabled (c : Config) : Bool := c.cache.elim true (·.enabled)

def cacheTtlSecs (c : Config) : UInt64 :=
  c.cache.elim (UInt64.ofNat Cache.defaultTtlSecs) (·.ttlSecs)

def cacheMaxSize (c : Config) : UInt64 :=
  c.cache.elim (UInt64.ofNat Cache.defaultMaxSize) (·.maxSize)

def identifierAlphabet (c : Config) : String :=
  c.identifier.elim Identifier.defaultCharacters (·.alphabet)

def identifierLength (c : Config) : UInt64 :=
  c.identifier.elim (UInt64.ofNat Identifier.defaultLength) (·.length)

def sessionSettings (c : Config) : Session.Settings :=
  let s := c.session.getD {}
  Session.Settings.withMaxAgeSecs
    { tokenBytes := s.tokenBytes.toNat, idLength := s.idLength.toNat } s.maxAgeSecs

/-- Nothing when the cache is off. -/
def cacheSettings (c : Config) : Option Cache.Settings :=
  if c.cacheEnabled then
    some { ttl := Duration.ofSeconds c.cacheTtlSecs.toNat, maxSize := c.cacheMaxSize.toNat }
  else none

def passwordParams (c : Config) : Password.Params :=
  let s := c.password.getD {}
  { memoryKib := s.memoryKib, iterations := s.iterations, parallelism := s.parallelism
    saltLength := s.saltLength.toNat, keyLength := s.keyLength.toNat }

def logLevel (c : Config) : Option String := c.logging.elim none (·.level)

def logJson (c : Config) : Bool := c.logging.elim false (·.json)

def logDirectory (c : Config) : Option String := c.logging.elim none (·.directory)

end Config
end SessionKit
