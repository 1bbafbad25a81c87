import SessionKit.Argon2.Params
import SessionKit.Base64

/-!
# Faults of encoded password hashes

Each constructor is one reason why a text is no usable password hash.
-/

namespace SessionKit.Password

inductive Malformed where
  | segmentCount (found : Nat)
  | missingDelimiter
  | unsupportedAlgorithm (found : String)
  | invalidVersion (segment : String)
  | unsupportedVersion (number : Nat)
  | invalidParameters (segment : String)
  | invalidParameter (name : String) (part : String)
  | limitExceeded (name : String) (value limit : UInt32)
  | invalidSalt (cause : Base64.DecodeError)
  | invalidKey (cause : Base64.DecodeError)
  | emptyKey
  | rejected (cause : Argon2.Error)
  deriving DecidableEq, Repr

/-- An encoded hash is cut at its delimiters into this many segments, the first of them empty. -/
def segmentCount : Nat := 6

def Malformed.message : Malformed → String
  | segmentCount found => s!"expected {Password.segmentCount} segments, found {found}"
  | missingDelimiter => "hash must begin with '$'"
  | unsupportedAlgorithm found => s!"unsupported algorithm '{found}'"
  | invalidVersion segment => s!"invalid version '{segment}'"
  | unsupportedVersion number => s!"unsupported version {number}"
  | invalidParameters segment => s!"invalid parameters '{segment}'"
  | invalidParameter name part => s!"invalid '{name}' parameter '{part}'"
  | limitExceeded name value limit =>
    s!"'{name}' parameter {value.toNat} exceeds limit {limit.toNat}"
  | invalidSalt cause => s!"invalid salt encoding: {cause.message}"
  | invalidKey cause => s!"invalid key encoding: {cause.message}"
  | emptyKey => "empty derived key"
  | rejected cause => s!"embedded parameters rejected: {cause.message}"

end SessionKit.Password
