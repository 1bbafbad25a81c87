import SessionKit.Credential
import SessionKit.Session.Storage
import SessionKit.Time.Duration

/-!
# Session errors
-/

namespace SessionKit.Session

inductive Error where
  /-- The token is empty or not that of the stored digest. -/
  | invalidToken
  | notFound
  | expired
  /-- The expiry would lie outside of the calendar. -/
  | lifetimeOutOfRange (lifetime : Duration)
  | generation (cause : CredentialError)
  | storage (operation : String) (cause : Storage.Error)
  deriving DecidableEq, Repr

def Error.message : Error → String
  | invalidToken => "invalid session token"
  | notFound => "session not found"
  | expired => "session expired"
  | lifetimeOutOfRange lifetime => s!"session lifetime of {lifetime.text} is out of range"
  | generation cause => s!"failed to generate session credentials: {cause.message}"
  | storage operation cause =>
    s!"storage error while trying to {operation}: {cause.message}"

end SessionKit.Session
