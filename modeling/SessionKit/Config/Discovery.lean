import SessionKit.Config.Codec
import SessionKit.Event
import SessionKit.Files.Path
import SessionKit.Program

/-!
# Configuration files

Two files are looked for: the user's, and on top of it the project's. A file that is missing is
passed over, and so is one that cannot be used, with a warning.
-/

namespace SessionKit

/-! ## The environment -/

/-- What the program is told by whoever starts it. -/
structure Environment where
  /-- Variables with their values. -/
  entries : List (String × String) := []
  /-- The home directory in the account of the user. -/
  accountHome : Option String := none
  /-- Whether the standard output is a terminal. -/
  terminal : Bool := false
  deriving Repr

/-- The value of a variable that is set, perhaps to nothing. -/
def Environment.value? (env : Environment) (name : String) : Option String :=
  (env.entries.find? fun v => v.1 == name).map Prod.snd

/-- The value of a variable that is set to something. -/
def Environment.nonempty? (env : Environment) (name : String) : Option String :=
  (env.value? name).filter (!·.isEmpty)

namespace Config

def userFileName : String := "config.toml"

def projectFileName : String := "kuta.toml"

def directoryVariable : String := "KUTA_CONFIG_DIR"

/-- Where programs keep their configuration on this system. -/
def platformDirectory? (env : Environment) : Option String :=
  match (env.value? "XDG_CONFIG_HOME").filter Path.isAbsolute with
  | some directory => some directory
  | none => ((env.nonempty? "HOME").or env.accountHome).map (Path.join · ".config")

/-- The directory of the user's file. -/
def userDirectory? (env : Environment) : Option String :=
  match env.nonempty? directoryVariable with
  | some directory => some directory
  | none => (platformDirectory? env).map (Path.join · "kuta")

/-- The user's file, in the directory that is asked for if one is. -/
def userFile? (env : Environment) (override : Option String) : Option String :=
  (override.or (userDirectory? env)).map (Path.join · userFileName)

/-- The project's file, in the directory where the program runs unless another one is given. -/
def projectFile (directory : Option String) : String :=
  match directory with
  | some directory => Path.join directory projectFileName
  | none => projectFileName

/-! ## Reading and writing -/

/-- What the handling of configuration files asks for. -/
inductive Request where
  | file (request : Files.Request)
  | log (event : Event)

def Answer : Request → Type
  | .file request => Files.Answer request
  | .log _ => Unit

abbrev Action (α : Type) := Program Request Answer α

def log (level : Level) (message : String) (fields : List (String × Event.Value)) : Action Unit :=
  .ask (.log { level, origin := .configFiles, message, fields }) .done

/-- The configuration in a file. -/
def load (path : String) : Action (Except Error Config) :=
  .ask (.file (.read path)) fun
    | .error cause => .done (.error (.unreadable path cause))
    | .ok text => .done ((ofToml text).mapError .parse)

/-- Writes the text of a configuration. -/
def writeText (c : Config) (path : String) : Action (Except Error Unit) :=
  match c.toToml with
  | .error cause => .done (.error (.serialize cause))
  | .ok text => .ask (.file (.write path text)) fun
    | .error cause => .done (.error (.unwritable path cause))
    | .ok () => do
      log .debug "wrote config file" [("path", .plain path)]
      return .ok ()

/-- Writes a configuration to a file, and makes the directories above it first. -/
def save (c : Config) (path : String) : Action (Except Error Unit) :=
  match (Path.parent? path).filter (!·.isEmpty) with
  | none => writeText c path
  | some parent => .ask (.file (.makeDirectory parent)) fun
    | .error cause => .done (.error (.unwritable parent cause))
    | .ok () => writeText c path

/-! ## Layers -/

/-- A file that was looked at, and whether it counts. -/
structure Source where
  path : String
  loaded : Bool
  deriving DecidableEq, Repr

/-- The configuration of all layers, and how it came about. -/
structure Loaded where
  config : Config := {}
  sources : List Source := []
  warnings : List String := []
  deriving DecidableEq, Repr

def Loaded.appliedPaths (l : Loaded) : List String :=
  (l.sources.filter (·.loaded)).map (·.path)

/-- Puts the layer of a file on top. -/
def applyLayer (l : Loaded) (path : String) : Action Loaded :=
  let passedOver := l.sources ++ [⟨path, false⟩]
  .ask (.file (.isFile path)) fun
    | false => .done { l with sources := passedOver }
    | true => do
      match ← load path with
      | .ok layer =>
        log .debug "applied config layer" [("path", .plain path)]
        return { l with config := l.config.merge layer, sources := l.sources ++ [⟨path, true⟩] }
      | .error e =>
        log .debug "skipping config layer" [("path", .plain path), ("error", .plain e.message)]
        return { l with
          sources := passedOver
          warnings := l.warnings ++ [s!"Failed to load {path}: {e.message}"] }

/-- Puts the layers of files on top of each other, the first at the bottom. -/
def applyLayers (l : Loaded) : List String → Action Loaded
  | [] => .done l
  | path :: rest => do applyLayers (← applyLayer l path) rest

/-- The user's file and the project's. -/
def discover (env : Environment) (override project : Option String) : Action Loaded :=
  applyLayers {} ((userFile? env override).toList ++ [projectFile project])

end Config
end SessionKit
