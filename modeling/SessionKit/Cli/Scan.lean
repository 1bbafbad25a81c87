import SessionKit.Numeral

/-!
# Scanning a command line

One level of a command line has options, which may stand anywhere, and either operands or the name
of a command, at which the next level begins. The first thing that is wrong, or that asks for help
or for the version, ends the scan.
-/

namespace SessionKit.Cli

/-- What ends a scan before its time. -/
inductive Stop where
  /-- The command line is wrong. -/
  | usage
  | help
  /-- The version is asked for, behind the names of these commands. -/
  | version (commands : List String)
  deriving DecidableEq, Repr

/-- What an option takes. -/
inductive Kind where
  | nothing
  | text
  /-- A number that fits 64 bits. -/
  | number
  /-- A path, which is not empty. -/
  | path
  deriving DecidableEq, Repr

structure Opt where
  name : String
  letter : Option Char := none
  kind : Kind := .nothing
  deriving DecidableEq, Repr

structure CommandLevel where
  options : List Opt
  operands : Nat := 0
  commands : List String := []
  deriving DecidableEq, Repr

/-- What a level has been found to hold. -/
structure Scanned where
  /-- The options that were given, with the texts that they took. -/
  values : List (String × String) := []
  operands : List String := []
  /-- The name of a command and what follows it. -/
  command : Option (String × List String) := none
  deriving DecidableEq, Repr

namespace Scanned

def value? (s : Scanned) (name : String) : Option String := s.values.lookup name

def has (s : Scanned) (name : String) : Bool := (s.value? name).isSome

def number? (s : Scanned) (name : String) : Option Nat :=
  (s.value? name).bind fun v => Numeral.bounded? Numeral.max64 v.toList

def accepts : Kind → String → Bool
  | .nothing, v => v.isEmpty
  | .text, _ => true
  | .number, v => (Numeral.bounded? Numeral.max64 v.toList).isSome
  | .path, v => !v.isEmpty

/-- Notes an option, which may be given once. -/
def take (s : Scanned) (o : Opt) (v : String) : Except Stop Scanned :=
  if s.has o.name ∨ ¬ accepts o.kind v then .error .usage
  else .ok { s with values := s.values ++ [(o.name, v)] }

def operand (s : Scanned) (level : CommandLevel) (v : String) : Except Stop Scanned :=
  if s.operands.length < level.operands then .ok { s with operands := s.operands ++ [v] }
  else .error .usage

end Scanned

/-- Whether an argument can be the text that an option takes. -/
def isPlain (arg : String) : Bool := arg = "-" || arg.toList.head? ≠ some '-'

/-- Cuts at the first equals sign. -/
def splitEquals : List Char → List Char × Option (List Char)
  | [] => ([], none)
  | '=' :: rest => ([], some rest)
  | c :: rest =>
    let (name, v) := splitEquals rest
    (c :: name, v)

/-- Options by their letters. The last one may be waiting for its text. -/
def scanLetters (level : CommandLevel) (s : Scanned) :
    List Char → Except Stop (Scanned × Option Opt)
  | [] => .ok (s, none)
  | 'h' :: _ => .error .help
  | 'V' :: _ => .error (.version [])
  | c :: rest =>
    match level.options.find? fun o => o.letter = some c with
    | none => .error .usage
    | some o =>
      match o.kind, rest with
      | .nothing, rest => do scanLetters level (← s.take o "") rest
      | _, [] => .ok (s, some o)
      | _, '=' :: v => do return (← s.take o (String.ofList v), none)
      | _, v => do return (← s.take o (String.ofList v), none)

/-- An option by its name, which may be waiting for its text. -/
def scanName (level : CommandLevel) (s : Scanned) (arg : List Char) :
    Except Stop (Scanned × Option Opt) :=
  match splitEquals arg with
  | (['h', 'e', 'l', 'p'], none) => .error .help
  | (['v', 'e', 'r', 's', 'i', 'o', 'n'], none) => .error (.version [])
  | (name, v) =>
    match level.options.find? fun o => o.name.toList = name with
    | none => .error .usage
    | some o =>
      match o.kind, v with
      | .nothing, none => do return (← s.take o "", none)
      | .nothing, some _ => .error .usage
      | _, none => .ok (s, some o)
      | _, some v => do return (← s.take o (String.ofList v), none)

/-- Scans one level. Behind two hyphens everything is an operand. -/
def scan (level : CommandLevel) : (literal : Bool) → Scanned → List String → Except Stop Scanned
  | _, s, [] => .ok s
  | true, s, arg :: rest => do scan level true (← s.operand level arg) rest
  | false, s, arg :: rest =>
    if arg = "--" then scan level true s rest
    else if isPlain arg then
      if level.commands = [] then do scan level false (← s.operand level arg) rest
      else if arg ∈ level.commands then .ok { s with command := some (arg, rest) }
      else .error .usage
    else do
      let (s, waiting) ← match arg.toList with
        | '-' :: '-' :: name => scanName level s name
        | _ => scanLetters level s (arg.toList.drop 1)
      match waiting, rest with
      | none, rest => scan level false s rest
      | some _, [] => .error .usage
      | some o, v :: rest =>
        if isPlain v then do scan level false (← s.take o v) rest else .error .usage

end SessionKit.Cli
