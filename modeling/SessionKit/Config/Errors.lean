import SessionKit.Decode
import SessionKit.Files
import SessionKit.Toml.Writer

/-!
# Configuration errors
-/

namespace SessionKit.Config

/-- Why a text is no configuration. -/
inductive ParseError where
  /-- It is not TOML. -/
  | syntaxFault
  /-- It is TOML of another shape. -/
  | shape (cause : DecodeError)
  deriving DecidableEq, Repr

def ParseError.message : ParseError → String
  | syntaxFault => "TOML parse error\n"
  | shape cause => s!"TOML parse error\n{cause.message}\n"

inductive Error where
  | unreadable (path : String) (cause : Files.Error)
  | unwritable (path : String) (cause : Files.Error)
  | parse (cause : ParseError)
  | serialize (cause : Toml.WriteError)
  /-- A value that the program could not work with. -/
  | invalid (field reason : String)
  deriving DecidableEq, Repr

def Error.message : Error → String
  | unreadable path cause => s!"failed to read config file '{path}': {cause.message}"
  | unwritable path cause => s!"failed to write config file '{path}': {cause.message}"
  | parse cause => s!"failed to parse config: {cause.message}"
  | serialize cause => s!"failed to serialize config: {cause.message}"
  | invalid field reason => s!"invalid value for '{field}': {reason}"

end SessionKit.Config
