/-!
# Log events

An event says what happened, how grave it is, and in which part of the program. Where and whether
it is written is the business of whoever runs the program. A backend that is called hands its events
back with its reply.
-/

namespace SessionKit

inductive Level where
  | trace
  | debug
  | info
  | warn
  | error
  deriving DecidableEq, Repr

namespace Level

/-- The grave levels come last. -/
def rank : Level → Nat
  | trace => 0
  | debug => 1
  | info => 2
  | warn => 3
  | error => 4

def name : Level → String
  | trace => "TRACE"
  | debug => "DEBUG"
  | info => "INFO"
  | warn => "WARN"
  | error => "ERROR"

end Level

namespace Event

/-- A value that goes with an event: text as it is, text that is quoted where fields stand in one
line, or a number. -/
inductive Value where
  | plain (text : String)
  | quoted (text : String)
  | number (n : Nat)
  deriving DecidableEq, Repr

def Value.text : Value → String
  | plain text => text
  | quoted text => text
  | number n => toString n

/-- The parts of the program that write events. -/
inductive Origin where
  | program
  | passwordCommand
  | configFiles
  | passwords
  | storage
  | cache
  | sessions
  deriving DecidableEq, Repr

/-- The name that filters and log lines know a part by. -/
def Origin.name : Origin → String
  | program => "kuta"
  | passwordCommand => "kuta::commands::password"
  | configFiles => "kuta_config::discovery"
  | passwords => "kuta_crypto::password"
  | storage => "kuta_session::storage"
  | cache => "kuta_session::cache"
  | sessions => "kuta_session::manager"

end Event

structure Event where
  level : Level
  origin : Event.Origin
  message : String
  fields : List (String × Event.Value) := []
  deriving DecidableEq, Repr

/-! ## Replies -/

/-- What comes of a call: its answer, the state after it, and the events it writes. -/
structure Reply (α σ : Type) where
  answer : α
  state : σ
  events : List Event := []

end SessionKit
