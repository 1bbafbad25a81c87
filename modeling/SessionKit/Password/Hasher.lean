import SessionKit.Argon2.Derive
import SessionKit.Credential
import SessionKit.Event
import SessionKit.Password.Encoded
import SessionKit.Random

/-!
# Hashing and checking passwords

A new hash takes its costs from the hasher; a check takes them from the hash, so that old hashes
stay good when the costs change.
-/

namespace SessionKit.Password

/-- Costs of new hashes. -/
structure Params where
  memoryKib : UInt32 := 64 * 1024
  iterations : UInt32 := 3
  parallelism : UInt32 := 2
  saltLength : Nat := 16
  keyLength : Nat := 32
  deriving DecidableEq, Repr

def Params.derivation (p : Params) : Argon2.Params where
  memoryKib := p.memoryKib
  iterations := p.iterations
  parallelism := p.parallelism
  keyLength := p.keyLength

/-- The written hash of a password under a given salt. -/
def hashWith (p : Params) (password : String) (salt : Bytes) : Except CredentialError String :=
  match Argon2.derive p.derivation .v13 (Bytes.ofText password) salt with
  | .error cause => .error (.keyDerivation cause)
  | .ok key =>
    .ok <| Encoded.write
      { version := .v13, memoryKib := p.memoryKib, iterations := p.iterations,
        parallelism := p.parallelism, salt, key }

/-- The salt is drawn before the costs are looked at. -/
def hash (p : Params) (password : String) : Draw (Except CredentialError String) :=
  .ask p.saltLength fun
    | .ok salt => .done (hashWith p password salt.toList)
    | .error reason => .done (.error (.random reason))

/-- The costs that a written hash carries. -/
def Encoded.derivation (e : Encoded) : Argon2.Params where
  memoryKib := e.memoryKib
  iterations := e.iterations
  parallelism := e.parallelism
  keyLength := e.key.length

/-- Whether the password has the key of an encoded hash. -/
def Encoded.accepts (e : Encoded) (password : String) : Except CredentialError Bool :=
  match Argon2.derive e.derivation e.version (Bytes.ofText password) e.salt with
  | .ok key => .ok (Bytes.equal key e.key)
  | .error cause => .error (.malformedHash (.rejected cause))

/-- What a check writes to the log: only that a text is no password hash. -/
def verifyEvents (encoded : String) : List Event :=
  match Encoded.parse encoded with
  | .ok _ => []
  | .error cause =>
    [{ level := .debug, origin := .passwords, message := "rejected encoded password hash"
       fields := [("error", .plain (CredentialError.malformedHash cause).message)] }]

/-- A wrong password is no error. -/
def verify (password encoded : String) : Except CredentialError Bool :=
  match Encoded.parse encoded with
  | .ok e => e.accepts password
  | .error cause => .error (.malformedHash cause)

end SessionKit.Password
