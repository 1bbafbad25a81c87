import SessionKit.Cli.Failure
import SessionKit.Cli.LogLine
import SessionKit.Config.Discovery
import SessionKit.Random
import SessionKit.Session.Cache

/-!
# What a run asks of the system

A run of the command line is a program over the requests below.
-/

namespace SessionKit.Cli

inductive Request where
  | file (request : Files.Request)
  /-- Draw random bytes. -/
  | random (count : Nat)
  /-- Read the wall clock. -/
  | now
  /-- Read the clock that never goes back. -/
  | instant
  /-- Read a line of the standard input, with its end. -/
  | readLine
  | print (text : String)
  /-- Print to the standard error output. -/
  | printError (text : String)

abbrev Answer : Request → Type
  | .file request => Files.Answer request
  | .random count => Except String (Vector UInt8 count)
  | .now => Timestamp
  | .instant => Cache.Instant
  | .readLine => Except Files.Error String
  | .print _ => Unit
  | .printError _ => Unit

abbrev Action (α : Type) := Program Request Answer α

/-- An action that may fail. -/
abbrev Operation (α : Type) := ExceptT Failure (Program Request Answer) α

def ask (r : Request) : Action (Answer r) := .request r

/-- Prints a line. -/
def say (line : String) : Action Unit := ask (.print (line ++ "\n"))

def sayJson (j : Json) : Action Unit := say j.pretty

/-- A result whose error is a failure of the run. -/
def orFail {ε α : Type} (failure : ε → Failure) (result : Except ε α) : Operation α :=
  ExceptT.mk (.done (result.mapError failure))

/-- An action whose error is a failure of the run. -/
def attempt {ε α : Type} (failure : ε → Failure) (a : Action (Except ε α)) : Operation α :=
  ExceptT.mk (a.bind fun result => .done (result.mapError failure))

/-- Draws from the random bytes of the system. -/
def draw {α : Type} (d : Draw α) : Action α := d.runIn fun n => ask (.random n)

/-- Runs what handles configuration files, with a place for its events. -/
def handleConfig {α : Type} (log : Event → Action Unit) (a : Config.Action α) : Action α :=
  a.runIn fun
    | .file request => ask (.file request)
    | .log event => log event

end SessionKit.Cli
