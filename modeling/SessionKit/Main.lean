import SessionKit.Cli.Run
import Std.Time.DateTime.Timestamp

/-!
# The program

The system's answers to what a run of the command line asks.
-/

namespace SessionKit.Main

/-- The system's number of a refusal, which some calls hand back with its sign changed. -/
def refusalNumber (code : UInt32) : UInt32 := min code (0 - code)

/-- A refusal of the system. -/
def fileError : IO.Error → Files.Error
  | .noFileOrDirectory _ _ _ => .notFound
  | e@(.alreadyExists _ code _) =>
    if refusalNumber code = 17 then .alreadyExists else .other (toString e)
  | e@(.inappropriateType _ code _) =>
    if refusalNumber code = 20 then .notDirectory
    else if refusalNumber code = 21 then .isDirectory
    else .other (toString e)
  | e@(.invalidArgument _ code _) =>
    if refusalNumber code = 36 then .nameTooLong else .other (toString e)
  | e => .other (toString e)

/-- Does something that the system may refuse. -/
def attempt {α : Type} (action : IO α) : IO (Except Files.Error α) := do
  match ← action.toBaseIO with
  | .ok a => return .ok a
  | .error e => return .error (fileError e)

/-- Does something with what a path leads to. -/
def attemptAt {α : Type} (path : String) (action : IO α) : IO (Except Files.Error α) :=
  if path.toList.contains '\x00' then return .error .unusablePath else attempt action

def readText (path : String) : IO (Except Files.Error String) := do
  match ← attemptAt path (IO.FS.readBinFile path) with
  | .error e => return .error e
  | .ok bytes =>
    match String.fromUTF8? bytes with
    | some text => return .ok text
    | none => return .error .notText

def isDirectory (path : String) : IO Bool := do
  match ← attemptAt path (IO.FS.readBinFile path) with
  | .error .isDirectory => return true
  | _ => return false

/-- Makes a directory and, where it is missing, the one above it first. -/
partial def makeDirectory (path : String) : IO (Except Files.Error Unit) := do
  if path.isEmpty then return .ok ()
  match ← attemptAt path (IO.FS.createDir path), Path.parent? path with
  | .ok (), _ => return .ok ()
  | .error .notFound, some above =>
    match ← makeDirectory above with
    | .error e => return .error e
    | .ok () => makeOne path
  | .error e, _ => return if ← isDirectory path then .ok () else .error e
where
  makeOne (path : String) : IO (Except Files.Error Unit) := do
    match ← attemptAt path (IO.FS.createDir path) with
    | .ok () => return .ok ()
    | .error e => return if ← isDirectory path then .ok () else .error e

/-- Whether the way to a path comes to nothing. -/
def isMissing (e : Files.Error) : Bool :=
  e ∈ [.notFound, .notDirectory, .nameTooLong, .unusablePath]

def answerFile : (r : Files.Request) → IO (Files.Answer r)
  | .isFile path => do
    match ← attemptAt path (IO.FS.readBinFile path) with
    | .ok _ => return true
    | .error e => return !(isMissing e || e = .isDirectory)
  | .present path => do
    match ← attemptAt path (IO.FS.readBinFile path) with
    | .ok _ => return true
    | .error e => return !isMissing e
  | .read path => readText path
  | .makeDirectory path => makeDirectory path
  | .write path text => attemptAt path (IO.FS.writeFile path text)
  | .append path text => attemptAt path do
    (← IO.FS.Handle.mk path .append).putStr text

def random (count : Nat) : IO (Except String (Vector UInt8 count)) := do
  match ← (IO.getRandomBytes (USize.ofNat count)).toBaseIO with
  | .error e => return .error (toString e)
  | .ok bytes =>
    if size : bytes.data.size = count then return .ok ⟨bytes.data, size⟩
    else return .error Random.exhausted

def answer : (r : Cli.Request) → IO (Cli.Answer r)
  | .file request => answerFile request
  | .random count => random count
  | .now => do
    let now ← Std.Time.Timestamp.now
    return (Timestamp.ofNanos? now.toNanosecondsSinceUnixEpoch.val).getD .epoch
  | .instant => IO.monoNanosNow
  | .readLine => do attempt (← IO.getStdin).getLine
  | .print text => IO.print text
  | .printError text => IO.eprint text

/-- The variables that a run looks at. -/
def usedVariables : List String :=
  [Config.directoryVariable, "XDG_CONFIG_HOME", "HOME", Cli.Logger.filterVariable] ++
    Cli.styleVariables

def environment : IO Environment := do
  let found ← usedVariables.filterMapM fun name => do
    return (← IO.getEnv name).map fun value => (name, value)
  return { entries := found, terminal := ← (← IO.getStdout).isTty }

end SessionKit.Main

/-- Runs the command line. -/
def main (args : List String) : IO UInt32 := do
  let env ← SessionKit.Main.environment
  let code ← (SessionKit.Cli.run env args).runIn SessionKit.Main.answer
  return code.toUInt32
