import SessionKit.Base64
import SessionKit.Credential
import SessionKit.Digest.Sha256
import SessionKit.Random
import SessionKit.Text.Quoted

/-!
# Session tokens

A token is random bytes in URL-safe base64. The client gets the token once; what is kept and
looked up is its digest.
-/

namespace SessionKit.Token

/-- 256 bits. -/
def defaultBytes : Nat := 32

/-- The number of bytes that are drawn: zero stands for the default. -/
def drawnBytes (bytes : Nat) : Nat := if bytes = 0 then defaultBytes else bytes

/-- The token that stands for drawn bytes. -/
def ofBytes (bs : Bytes) : String := Base64.encodeText .urlSafe bs

/-- The SHA-256 digest in lower-case hexadecimal. -/
def digest (token : String) : String := Bytes.toHex (Sha256.digest (Bytes.ofText token))

/-- A token and its digest. -/
structure Pair where
  token : String
  digest : String
  deriving DecidableEq, Repr

def Pair.ofToken (token : String) : Pair := ⟨token, Token.digest token⟩

/-- A description that does not give the token away. -/
def Pair.redacted (p : Pair) : String :=
  "TokenPair \x7b token: \"<redacted>\", hash: " ++ Text.quoted p.digest ++ " \x7d"

/-- One request for all the bytes of a token. -/
def draw (bytes : Nat) : Draw (Except CredentialError String) :=
  .ask (drawnBytes bytes) fun
    | .ok v => .done (.ok (ofBytes v.toList))
    | .error reason => .done (.error (.random reason))

def drawPair (bytes : Nat) : Draw (Except CredentialError Pair) := do
  return (← draw bytes).map Pair.ofToken

/-- Whether a stored digest is that of the token. -/
def verify (token stored : String) : Except CredentialError Bool :=
  if token.isEmpty || stored.isEmpty then .error .emptyInput
  else .ok (Bytes.equal (Bytes.ofText (digest token)) (Bytes.ofText stored))

end SessionKit.Token
