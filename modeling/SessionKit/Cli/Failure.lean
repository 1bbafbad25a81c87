import SessionKit.Config.Errors
import SessionKit.Session.Errors

/-!
# Failures of a run

Why a run of the command line ends without success, and what is told about it: a sentence, and the
cause behind it where there is one.
-/

namespace SessionKit.Cli

inductive Failure where
  | credential (cause : CredentialError)
  | session (cause : Session.Error)
  | config (cause : Config.Error)
  /-- A value of the configuration is not usable. -/
  | invalidConfig (cause : Config.Error)
  | logDirectory (directory : String) (cause : Files.Error)
  /-- The standard input cannot be read. -/
  | input (cause : Files.Error)
  | noConfigDirectory
  | noPassword
  | noCount
  | tokenMismatch
  | passwordMismatch
  /-- A session that is gone verifies all the same. -/
  | oldTokenVerifies
  | destroyedTokenVerifies
  /-- A directive of the log filter cannot be cut into its pieces. -/
  | tornDirective (text : String)
  | logFile (cause : Files.Error)
  /-- More bytes are asked for at once than there are addresses. -/
  | tooManyBytes
  | noMemory (count : Nat)
  deriving DecidableEq, Repr

/-- What lies behind an error of the configuration. -/
def configCause? : Config.Error → Option String
  | .unreadable _ cause => some cause.message
  | .unwritable _ cause => some cause.message
  | .parse cause => some cause.message
  | .serialize cause => some cause.message
  | .invalid _ _ => none

/-- What lies behind an error of a session. -/
def sessionCause? : Session.Error → Option String
  | .generation cause => some cause.message
  | .storage _ cause => some cause.message
  | _ => none

namespace Failure

def message : Failure → String
  | credential cause => cause.message
  | session cause => cause.message
  | config cause => cause.message
  | invalidConfig _ => "invalid configuration"
  | logDirectory directory _ => s!"failed to create log directory {directory}"
  | input cause => cause.message
  | noConfigDirectory => "Could not determine config directory"
  | noPassword => "no password provided"
  | noCount => "--count must be at least 1"
  | tokenMismatch => "token does not match digest"
  | passwordMismatch => "password does not match hash"
  | oldTokenVerifies => "old token still verifies after refresh"
  | destroyedTokenVerifies => "token still verifies after destroy"
  | tornDirective text => s!"a piece of `{text}` is not whole characters"
  | logFile cause => s!"initializing rolling file appender failed: {cause.message}"
  | tooManyBytes => "capacity overflow"
  | noMemory count => s!"memory allocation of {count} bytes failed"

/-- The causes, the nearest first. -/
def causes : Failure → List String
  | session cause => (sessionCause? cause).toList
  | config cause => (configCause? cause).toList
  | invalidConfig cause => cause.message :: (configCause? cause).toList
  | logDirectory _ cause => [cause.message]
  | _ => []

/-- The lines of a cause stand below each other, the first one behind a head. -/
def causeText (head margin cause : String) : String :=
  head ++ ("\n" ++ margin).intercalate (cause.splitOn "\n")

/-- Several causes are numbered. -/
def causesText : List String → String
  | [] => ""
  | [cause] => "\n\nCaused by:\n" ++ causeText "    " "    " cause
  | causes =>
    "\n\nCaused by:" ++ String.join (causes.zipIdx.map fun (cause, n) =>
      "\n" ++ causeText s!"    {n}: " "       " cause)

/-- What a run ends with. A run that breaks down has codes of its own. -/
def exitCode : Failure → UInt8
  | tornDirective _ => 101
  | logFile _ => 101
  | tooManyBytes => 101
  | noMemory _ => 134
  | _ => 1

/-- What is told of a failure. A breakdown is not reported as an error. -/
def report (f : Failure) : String :=
  if f.exitCode = 1 then s!"Error: {f.message}{causesText f.causes}\n" else f.message ++ "\n"

end Failure
end SessionKit.Cli
