import SessionKit.Password.Malformed

/-!
# Credential errors

What can go wrong while a token, an identifier or a password hash is made or checked.
-/

namespace SessionKit

/-- Why an alphabet cannot be drawn from. -/
inductive AlphabetError where
  | notAscii
  | tooShort
  | tooLong
  deriving DecidableEq, Repr

/-- Fewest characters of an alphabet. -/
def minAlphabetLength : Nat := 8

/-- Most characters of an alphabet: a position in it fits one byte. -/
def maxAlphabetLength : Nat := 255

def AlphabetError.message : AlphabetError → String
  | notAscii => "alphabet must contain only ASCII characters"
  | tooShort => s!"alphabet must contain at least {minAlphabetLength} characters"
  | tooLong => s!"alphabet must contain no more than {maxAlphabetLength} characters"

inductive CredentialError where
  /-- A token or a digest to compare is empty. -/
  | emptyInput
  /-- Stored data is no password hash; a wrong password is no error. -/
  | malformedHash (cause : Password.Malformed)
  | invalidAlphabet (cause : AlphabetError)
  | random (reason : String)
  | keyDerivation (cause : Argon2.Error)
  deriving DecidableEq, Repr

def CredentialError.message : CredentialError → String
  | emptyInput => "Invalid input: token and hash cannot be empty"
  | malformedHash cause => s!"Malformed password hash: {cause.message}"
  | invalidAlphabet cause => s!"Invalid alphabet: {cause.message}"
  | random reason => s!"Random source failure: {reason}"
  | keyDerivation cause => s!"Key derivation error: {cause.message}"

end SessionKit
