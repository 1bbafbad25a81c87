import SessionKit.Cli.Logger

/-!
# The context of a command
-/

namespace SessionKit.Cli

/-- What every command knows besides its own arguments. -/
structure Context where
  json : Bool
  verbose : Bool
  /-- Whether what is printed for readers is styled. -/
  styled : Bool
  /-- The file of the user, if there is a place for it. -/
  userFile : Option String
  loaded : Config.Loaded
  logger : Logger

namespace Context

def config (c : Context) : Config := c.loaded.config

def log (c : Context) (e : Event) : Action Unit := c.logger.log e

/-- Takes a text off at the end that holds nothing but line ends. -/
def withoutLineEnd (line : String) : String :=
  String.ofList ((line.toList.reverse.dropWhile fun c => c = '\r' || c = '\n').reverse)

/-- A secret that is given, or else a line of the standard input, which must not be empty. -/
def secret : Option String → Operation String
  | some given => return given
  | none => do
    let line ← attempt .input (ask .readLine)
    let text := withoutLineEnd line
    if text.isEmpty then throw .noPassword else return text

/-- The most bytes that a run can hope to get at once: 64 GiB. -/
def maxBytes : Nat := Numeral.twoTo 36

/-- Makes sure that so many bytes can be had at once. -/
def demandBytes (count : Nat) : Operation Unit :=
  if Numeral.maxSigned64 < count then throw .tooManyBytes
  else if maxBytes < count then throw (.noMemory count)
  else return

/-- A text in a style, if texts are styled. -/
def inStyle (c : Context) (style : Style) (text : String) : String := style.apply c.styled text

/-- Prints whether a check succeeded, and fails the run if it did not. -/
def tellVerdict (c : Context) (valid : Bool) (failure : Failure) : Operation Unit := do
  if c.json then sayJson (.object [("valid", .boolean valid)])
  else say (if valid then c.inStyle .green "valid" else c.inStyle .red "invalid")
  if valid then return else throw failure

end Context
end SessionKit.Cli
