import SessionKit.Cli.Action
import SessionKit.Cli.Command
import SessionKit.Cli.Filter

/-!
# Logging

Events go to the standard error output and, when the configuration names a directory, to the file
of the day in it.
-/

namespace SessionKit.Cli

structure Logger where
  /-- What is written to the standard error output. -/
  filter : Filter
  json : Bool
  withOrigin : Bool
  styled : Bool
  file : Option String := none

namespace Logger

/-- A filter for the standard error output, which counts before all others. -/
def filterVariable : String := "RUST_LOG"

def filterText (env : Environment) (verbose : Bool) (c : Config) : String :=
  match env.nonempty? filterVariable with
  | some text => text
  | none =>
    if verbose then Filter.text "debug" "info"
    else Filter.text (c.logLevel.getD "info").toLower "warn"

/-- What is written to the file: everything from this program. -/
def fileFilter : Filter := (Filter.read (Filter.text "trace" "info")).filter

def log (l : Logger) (e : Event) : Action Unit := do
  let now ← ask .now
  if l.filter.passes e then
    ask (.printError (if l.json then e.jsonLine now else e.line now l.withOrigin l.styled))
  match l.file.filter fun _ => fileFilter.passes e with
  | some path =>
    let _ ← ask (.file (.append path (e.jsonLine now)))
    return
  | none => return

/-- The file of a day. -/
def fileOf (directory : String) (now : Timestamp) : String :=
  Path.join directory ("kuta.log." ++ String.ofList now.dateText)

/-- Tells which directives of a filter are passed over. -/
def tellFaults : List (String × Directive.Fault) → Action Unit
  | [] => return
  | (text, fault) :: rest => do
    ask (.printError ("ignoring `" ++ text ++ "`: " ++ fault.message ++ "\n"))
    tellFaults rest

/-- Makes the directory for log files and the file of the day in it. -/
def openFile (directory : String) : Operation String := do
  attempt (.logDirectory directory) (ask (.file (.makeDirectory directory)))
  let path := fileOf directory (← ask .now)
  attempt .logFile (ask (.file (.append path "")))
  return path

/-- Sets logging up as the configuration and the command line want it. -/
def start (env : Environment) (verbose json : Bool) (c : Config) : Operation Logger := do
  let reading := Filter.read (filterText env verbose c)
  tellFaults reading.faults
  if let some text := reading.torn then throw (.tornDirective text)
  let file ← match c.logDirectory with
    | some directory => some <$> openFile directory
    | none => pure none
  return { filter := reading.filter, json := json || c.logJson, withOrigin := verbose
           styled := logsAreStyled env, file }

end Logger
end SessionKit.Cli
