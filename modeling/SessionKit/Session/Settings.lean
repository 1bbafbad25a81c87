import SessionKit.Identifier
import SessionKit.Time.Duration
import SessionKit.Token

/-!
# Settings of sessions and of their cache
-/

namespace SessionKit

namespace Session

/-- A day. -/
def defaultMaxAgeSecs : Nat := 24 * 60 * 60

/-- A hundred years of 365 days: the longest lifetime that a configuration may set. -/
def maxMaxAgeSecs : Nat := 100 * 365 * 24 * 60 * 60

/-- How sessions are issued. -/
structure Settings where
  /-- How long a new session stays good; one that is negative makes sessions that have expired. -/
  maxAge : Duration := Duration.ofSeconds defaultMaxAgeSecs
  tokenBytes : Nat := Token.defaultBytes
  idLength : Nat := Identifier.defaultLength
  deriving DecidableEq, Repr

/-- A lifetime in seconds; one that no length of time can hold saturates, and issuing then refuses
it. -/
def Settings.withMaxAgeSecs (s : Settings) (seconds : Int64) : Settings :=
  { s with maxAge := Duration.saturating seconds.toInt }

end Session

namespace Cache

/-- Five minutes. -/
def defaultTtlSecs : Nat := 5 * 60

def defaultTtl : Duration := Duration.ofSeconds defaultTtlSecs

def defaultMaxSize : Nat := 500

/-- How long an entry is served after its insertion, and how many there may be. -/
structure Settings where
  ttl : Duration := defaultTtl
  maxSize : Nat := defaultMaxSize
  deriving DecidableEq, Repr

/-- The settings with defaults in the place of zeros. -/
def Settings.effective (s : Settings) : Settings where
  ttl := if s.ttl.nanoseconds = 0 then defaultTtl else s.ttl
  maxSize := if s.maxSize = 0 then defaultMaxSize else s.maxSize

end Cache
end SessionKit
