import SessionKit.Cli.Commands
import SessionKit.Cli.Demo

/-!
# A run of the command line

The command line is read, then the configuration, then logging is set up; then the command does its
work. A run that fails prints why to the standard error output.
-/

namespace SessionKit.Cli

/-! ## Texts -/

def versionNumber : String := "0.1.0"

/-- The version behind the names of some commands. -/
def versionText (commands : List String) : String :=
  "-".intercalate ("kuta" :: commands) ++ " " ++ versionNumber ++ "\n"

def usageText : String := "Usage: kuta [OPTIONS] <COMMAND>\n"

def helpText : String :=
  "Session tokens, password hashes and identifiers\n\n" ++ usageText ++ "
Commands:
  token            Generate a session token and its digest
  verify-token     Check a token against a digest
  hash-password    Hash a password with Argon2id
  verify-password  Check a password against an encoded hash
  id               Generate random identifiers
  config           Show, locate or create the configuration
  demo             Run a session lifecycle against in-memory storage
  help             Print this message

Options:
  -v, --verbose                  Enable verbose output
      --json                     Output as JSON (for scripting)
      --config-dir <CONFIG_DIR>  Directory holding the user config file
  -h, --help                     Print help
  -V, --version                  Print version
"

/-! ## Running -/

def Context.run (c : Context) : Command → Operation Unit
  | .token bytes => c.token bytes
  | .verifyToken token digest => c.verifyToken token digest
  | .hashPassword password => c.hashPassword password
  | .verifyPassword encoded password => c.verifyPassword encoded password
  | .identifiers length alphabet count => c.identifiers length alphabet count
  | .config command => c.configCommand command
  | .demo userId ipAddress userAgent => c.demo userId ipAddress userAgent

/-- The warnings that came up before anything could be logged. -/
def warningEvents (l : Config.Loaded) : List Event :=
  l.warnings.map fun message => { level := .warn, origin := .program, message }

/-- The configuration and what else a command needs to know. -/
def Invocation.prepare (i : Invocation) (env : Environment) : Operation Context := do
  let discovery := Config.discover env i.configDirectory none
  let loaded ← ExceptT.lift (handleConfig (fun _ => return) discovery)
  let logger ← Logger.start env i.verbose i.json loaded.config
  return { json := i.json, verbose := i.verbose, styled := outputIsStyled env
           userFile := Config.userFile? env i.configDirectory, loaded, logger }

def Invocation.run (i : Invocation) (env : Environment) : Operation Unit := do
  let c ← i.prepare env
  c.logAll (warningEvents c.loaded)
  if i.command.needsValidConfig then orFail .invalidConfig c.config.check
  c.run i.command

/-- What comes of a command line that does not name a command to run. -/
def Stop.run : Stop → Action UInt8
  | .usage => do
    ask (.printError usageText)
    return 2
  | .help => do
    ask (.print helpText)
    return 0
  | .version commands => do
    ask (.print (versionText commands))
    return 0

/-- Runs a command line, and hands back the exit code. -/
def run (env : Environment) (args : List String) : Action UInt8 := do
  match Invocation.parse env args with
  | .error stop => stop.run
  | .ok i =>
    match ← (i.run env).run with
    | .ok () => return 0
    | .error failure =>
      ask (.printError failure.report)
      return failure.exitCode

end SessionKit.Cli
