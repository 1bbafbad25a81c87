import SessionKit.Cli.Scan
import SessionKit.Config.Discovery

/-!
# Commands

What a command line asks for. Some options may stand at any level; for the directory of the user's
file the deepest level counts, and a variable of the environment stands in when no level names one.
-/

namespace SessionKit.Cli

/-- What is to be done about the configuration. -/
inductive ConfigCommand where
  /-- Print the configuration and where it comes from. -/
  | display
  /-- Print where the user's file is. -/
  | path
  /-- Write a file with all defaults. -/
  | create (inProject overwrite : Bool)
  deriving DecidableEq, Repr

inductive Command where
  /-- Issue a token. -/
  | token (bytes : Option Nat)
  | verifyToken (token digest : String)
  | hashPassword (password : Option String)
  | verifyPassword (encoded : String) (password : Option String)
  /-- Draw identifiers. -/
  | identifiers (length : Option Nat) (alphabet : Option String) (count : Nat)
  | config (command : ConfigCommand)
  /-- Lead one session through its life. -/
  | demo (userId ipAddress userAgent : String)
  deriving DecidableEq, Repr

/-- The commands that need a configuration without faults: all but those that help to mend it. -/
def Command.needsValidConfig : Command → Bool
  | .config _ => false
  | _ => true

structure Invocation where
  verbose : Bool
  json : Bool
  /-- The directory of the user's configuration file. -/
  configDirectory : Option String
  command : Command
  deriving DecidableEq, Repr

/-! ## Levels -/

/-- The options of every level. -/
def commonOptions : List Opt :=
  [{ name := "verbose", letter := some 'v' }, { name := "json" },
   { name := "config-dir", kind := .path }]

def passwordOption : Opt := { name := "password", letter := some 'p', kind := .text }

def topLevel : CommandLevel where
  options := commonOptions
  commands := ["token", "verify-token", "hash-password", "verify-password", "id", "config", "demo",
    "help"]

def configLevel : CommandLevel where
  options := commonOptions
  commands := ["show", "path", "init", "help"]

/-- The level behind the name of a command. -/
def commandLevel : String → CommandLevel
  | "token" =>
    { options := commonOptions ++ [{ name := "bytes", letter := some 'b', kind := .number }] }
  | "verify-token" => { options := commonOptions, operands := 2 }
  | "hash-password" => { options := commonOptions ++ [passwordOption] }
  | "verify-password" => { options := commonOptions ++ [passwordOption], operands := 1 }
  | "id" =>
    { options := commonOptions ++
        [{ name := "length", letter := some 'l', kind := .number },
         { name := "alphabet", letter := some 'a', kind := .text },
         { name := "count", letter := some 'c', kind := .number }] }
  | "config" => configLevel
  | "demo" =>
    { options := commonOptions ++
        [{ name := "user", letter := some 'u', kind := .text },
         { name := "ip", kind := .text }, { name := "user-agent", kind := .text }] }
  | _ => { options := commonOptions }

/-- The level behind the name of a command about the configuration. -/
def configCommandLevel : String → CommandLevel
  | "init" => { options := commonOptions ++ [{ name := "local" }, { name := "force" }] }
  | _ => { options := commonOptions }

/-! ## Reading -/

/-- Puts the name of a command before those whose version is asked for. -/
def Stop.behind (name : String) : Stop → Stop
  | .version commands => .version (name :: commands)
  | stop => stop

/-- What help on a command comes to: the commands that are named must be there. -/
def helpOn : (commands : List String) → List String → Stop
  | _, [] => .help
  | commands, name :: rest =>
    if name ∈ commands then helpOn (commandLevel name).commands rest else .usage

/-- The levels of a command line, the top one first, and the names of its commands. -/
structure Levels where
  scanned : List Scanned
  names : List String

/-- Scans a level and the levels behind it, of which there are at most `depth`. -/
def scanLevels (levelOf : List String → CommandLevel) :
    (depth : Nat) → (names : List String) → List String → Except Stop Levels
  | depth, names, args =>
    let level := levelOf names
    match scan level false {} args, depth with
    | .error stop, _ => .error stop
    | .ok s, depth =>
      if s.operands.length < level.operands then .error .usage
      else match s.command, depth with
        | none, _ =>
          if level.commands = [] then .ok { scanned := [s], names } else .error .usage
        | some ("help", rest), _ => .error (helpOn level.commands rest)
        | some _, 0 => .error .usage
        | some (name, rest), depth + 1 =>
          match scanLevels levelOf depth (names ++ [name]) rest with
          | .error stop => .error (stop.behind name)
          | .ok found => .ok { found with scanned := s :: found.scanned }

/-- The level behind some commands. -/
def levelBehind : List String → CommandLevel
  | [] => topLevel
  | [name] => commandLevel name
  | _ :: name :: _ => configCommandLevel name

namespace Levels

def has (l : Levels) (name : String) : Bool := l.scanned.any (·.has name)

/-- The level of the command itself. -/
def last (l : Levels) : Scanned := l.scanned.getLast?.getD {}

/-- The directory of the user's file. A level that does not name one looks at the variable, which
must not be empty. -/
def configDirectory (env : Environment) (l : Levels) : Except Stop (Option String) :=
  let given := l.scanned.map (·.value? "config-dir")
  let fallback := env.value? Config.directoryVariable
  if fallback = some "" ∧ none ∈ given then .error .usage
  else .ok ((given.filterMap id).getLast?.or fallback)

/-- The command that the deepest level makes up. -/
def command? (l : Levels) : Option Command :=
  let s := l.last
  match l.names, s.operands with
  | ["token"], _ => some (.token (s.number? "bytes"))
  | ["verify-token"], [token, digest] => some (.verifyToken token digest)
  | ["hash-password"], _ => some (.hashPassword (s.value? "password"))
  | ["verify-password"], [encoded] => some (.verifyPassword encoded (s.value? "password"))
  | ["id"], _ =>
    some (.identifiers (s.number? "length") (s.value? "alphabet") ((s.number? "count").getD 1))
  | ["config", "show"], _ => some (.config .display)
  | ["config", "path"], _ => some (.config .path)
  | ["config", "init"], _ => some (.config (.create (s.has "local") (s.has "force")))
  | ["demo"], _ =>
    some (.demo ((s.value? "user").getD "demo-user") ((s.value? "ip").getD "127.0.0.1")
      ((s.value? "user-agent").getD "kuta-cli"))
  | _, _ => none

end Levels

/-- Reads a command line. -/
def Invocation.parse (env : Environment) (args : List String) : Except Stop Invocation := do
  let levels ← scanLevels levelBehind 2 [] args
  let configDirectory ← levels.configDirectory env
  match levels.command? with
  | none => throw .usage
  | some command =>
    return { verbose := levels.has "verbose", json := levels.has "json", configDirectory, command }

end SessionKit.Cli
