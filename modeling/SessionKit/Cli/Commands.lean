import SessionKit.Cli.Context
import SessionKit.Config.Check

/-!
# What the commands do

All but the demonstration, which has a module of its own. Objects are printed with their members in
the order of their names.
-/

namespace SessionKit.Cli.Context

/-! ## Tokens -/

def token (c : Context) (bytes : Option Nat) : Operation Unit := do
  let bytes := bytes.getD c.config.sessionSettings.tokenBytes
  demandBytes bytes
  let pair ← attempt .credential (draw (Token.drawPair bytes))
  if c.json then
    sayJson (.object [("token", .string pair.token), ("hash", .string pair.digest)])
  else
    say (c.inStyle .faint "token: " ++ " " ++ pair.token)
    say (c.inStyle .faint "digest:" ++ " " ++ pair.digest)
    if c.verbose then
      say ""
      say (c.inStyle .faint "Give the token to the client; store only the digest.")

def verifyToken (c : Context) (token digest : String) : Operation Unit := do
  c.tellVerdict (← orFail .credential (Token.verify token digest)) .tokenMismatch

/-! ## Passwords -/

def hashPassword (c : Context) (given : Option String) : Operation Unit := do
  let password ← secret given
  let params := c.config.passwordParams
  c.log
    { level := .debug, origin := .passwordCommand, message := "hashing password"
      fields :=
        [("memory_kib", .number params.memoryKib.toNat),
         ("iterations", .number params.iterations.toNat),
         ("parallelism", .number params.parallelism.toNat)] }
  let encoded ← attempt .credential (draw (Password.hash params password))
  if c.json then sayJson (.object [("hash", .string encoded)]) else say encoded

/-- Writes events one after the other. -/
def logAll (c : Context) : List Event → Action Unit
  | [] => return
  | e :: rest => do
    c.log e
    logAll c rest

def verifyPassword (c : Context) (encoded : String) (given : Option String) : Operation Unit := do
  let password ← secret given
  c.logAll (Password.verifyEvents encoded)
  c.tellVerdict (← orFail .credential (Password.verify password encoded)) .passwordMismatch

/-! ## Identifiers -/

/-- Draws a number of identifiers, up to the first that fails. -/
def drawMany (alphabet : Identifier.Alphabet) (length : Nat) :
    (count : Nat) → Draw (Except CredentialError (List String))
  | 0 => return .ok []
  | count + 1 => do
    match ← Identifier.draw alphabet Random.endless (some length) with
    | .error e => return .error e
    | .ok id => return (← drawMany alphabet length count).map (id :: ·)

/-- The alphabet that is given, or else that of the configuration. -/
def alphabet (c : Context) : Option String → Except Failure Identifier.Alphabet
  | some given =>
    (Identifier.Alphabet.ofText given).mapError fun e => .credential (.invalidAlphabet e)
  | none => c.config.identifierGenerator.mapError .config

def identifiers (c : Context) (length : Option Nat) (given : Option String) (count : Nat) :
    Operation Unit := do
  if count = 0 then throw .noCount
  let alphabet ← orFail id (c.alphabet given)
  let length := length.getD c.config.identifierLength.toNat
  demandBytes length
  let ids ← attempt .credential (draw (drawMany alphabet length count))
  if c.json then sayJson (Json.strings ids)
  else ask (.print (String.join (ids.map (· ++ "\n"))))

/-! ## Configuration -/

def sourceLine (s : Config.Source) : String :=
  (if s.loaded then "  ✓ loaded " else "  · not found ") ++ s.path ++ "\n"

def configText (c : Context) (fault : Option String) (settings : String) : String :=
  let warnings := c.loaded.warnings.map fun w => "  " ++ c.inStyle .yellow "⚠" ++ s!" {w}\n"
  "# Kuta Configuration\n\nConfig file search order (later overrides earlier):\n" ++
    String.join (c.loaded.sources.map sourceLine) ++ "\n" ++
    (if warnings.isEmpty then "" else "Warnings:\n" ++ String.join warnings ++ "\n") ++
    ((fault.map fun f => c.inStyle .red "Invalid:" ++ s!" {f}\n\n").getD "") ++
    c.inStyle .faint "# Effective settings" ++ "\n" ++ settings

def sourceJson (s : Config.Source) : Json :=
  .object [("path", .string s.path), ("loaded", .boolean s.loaded)]

def displayConfig (c : Context) : Operation Unit := do
  let effective := c.config.resolved
  let fault := match c.config.check with
    | .ok () => none
    | .error e => some e.message
  if c.json then
    sayJson (.object
      [("sources", .array (c.loaded.sources.map sourceJson)),
       ("warnings", Json.strings c.loaded.warnings),
       ("error", Json.ofOption .string fault), ("config", effective.toJson)])
  else
    let settings ← orFail (fun e => .config (.serialize e)) effective.toToml
    ask (.print (c.configText fault settings))

/-- The file of the user. -/
def needUserFile (c : Context) : Operation String :=
  match c.userFile with
  | some path => return path
  | none => throw .noConfigDirectory

def configPath (c : Context) : Operation Unit := do
  let path ← c.needUserFile
  if c.json then
    let found : Bool ← ask (.file (.isFile path))
    sayJson (.object [("path", .string path), ("exists", .boolean found)])
  else say path

def createConfig (c : Context) (inProject overwrite : Bool) : Operation Unit := do
  let path ← if inProject then pure Config.projectFileName else c.needUserFile
  let found : Bool ← ask (.file (.present path))
  if found ∧ ¬ overwrite then
    say s!"Config file already exists: {path}"
    say "Use --force to overwrite it."
  else
    attempt .config (handleConfig c.log (Config.defaults.save path))
    if c.json then sayJson (.object [("created", .string path)])
    else say (c.inStyle .green "Created" ++ " " ++ path)

def configCommand (c : Context) : ConfigCommand → Operation Unit
  | .display => c.displayConfig
  | .path => c.configPath
  | .create inProject overwrite => c.createConfig inProject overwrite

end SessionKit.Cli.Context
