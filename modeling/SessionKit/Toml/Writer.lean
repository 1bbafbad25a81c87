import SessionKit.Bytes
import SessionKit.Numeral
import SessionKit.Toml.Text

/-!
# Writing TOML

A document of sections, each with a header and one scalar a line. A string takes the plainest form
that can hold it.
-/

namespace SessionKit.Toml

inductive Scalar where
  | string (s : String)
  | integer (i : Int)
  | boolean (b : Bool)
  deriving DecidableEq, Repr

/-- A name and the keys and values under it. -/
structure Section where
  name : String
  entries : List (String × Scalar)
  deriving DecidableEq, Repr

/-- An integer that does not fit 64 bits with a sign. -/
inductive WriteError where
  | outOfRange
  deriving DecidableEq, Repr

def WriteError.message : WriteError → String
  | outOfRange => "out-of-range value for u64 type"

/-! ## Strings -/

/-- Whether a character is a control that no form but the escaped ones can hold. -/
def isControl (c : Char) : Bool := (c < ' ' && c ≠ '\t' && c ≠ '\n') || c = '\x7f'

/-- Whether a character stands three times in a row, after `run` times right before. -/
def hasTriple (q : Char) : (run : Nat) → List Char → Bool
  | _, [] => false
  | run, c :: rest =>
    if c = q then decide (2 ≤ run) || hasTriple q (run + 1) rest else hasTriple q 0 rest

/-- The four forms of a string. -/
inductive Quoting where
  | basic
  | literal
  | longBasic
  | longLiteral
  deriving DecidableEq, Repr

/-- The first form that can hold a text as it is, or else one that escapes. -/
def quoting (cs : List Char) : Quoting :=
  let control := cs.any isControl
  let newline := cs.contains '\n'
  let backslash := cs.contains '\\'
  if !control && !newline && !backslash && !cs.contains '"' then .basic
  else if !control && !newline && !cs.contains '\'' then .literal
  else if !control && !backslash && !hasTriple '"' 0 cs then .longBasic
  else if !control && !hasTriple '\'' 0 cs then .longLiteral
  else if newline then .longBasic
  else .basic

def upperHexDigit (n : Nat) : Char := if n < 10 then Char.ofNat (48 + n) else Char.ofNat (55 + n)

/-- A character other than a quote and a line end, inside of double quotes. -/
def escaped (c : Char) : List Char :=
  if c = '\x08' then ['\\', 'b']
  else if c = '\t' then ['\\', 't']
  else if c = '\x0c' then ['\\', 'f']
  else if c = '\r' then ['\\', 'r']
  else if c = '\\' then ['\\', '\\']
  else if isControl c then
    ['\\', 'u', '0', '0', upperHexDigit (c.toNat / 16), upperHexDigit (c.toNat % 16)]
  else [c]

def basicText : List Char → List Char
  | [] => []
  | '"' :: rest => '\\' :: '"' :: basicText rest
  | '\n' :: rest => '\\' :: 'n' :: basicText rest
  | c :: rest => escaped c ++ basicText rest

/-- Of a run of quotes every third one is escaped; `run` counts those since the last. -/
def longBasicText : (run : Nat) → List Char → List Char
  | _, [] => []
  | run, '"' :: rest =>
    if run = 2 then '\\' :: '"' :: longBasicText 0 rest else '"' :: longBasicText (run + 1) rest
  | _, '\n' :: rest => '\n' :: longBasicText 0 rest
  | _, c :: rest => escaped c ++ longBasicText 0 rest

/-- The line end behind the opening quotes of a text with several lines. -/
def opening (cs : List Char) : List Char := if cs.contains '\n' then ['\n'] else []

def stringText (cs : List Char) : List Char :=
  match quoting cs with
  | .basic => '"' :: basicText cs ++ ['"']
  | .literal => '\'' :: cs ++ ['\'']
  | .longBasic => ['"', '"', '"'] ++ opening cs ++ longBasicText 0 cs ++ ['"', '"', '"']
  | .longLiteral => ['\'', '\'', '\''] ++ opening cs ++ cs ++ ['\'', '\'', '\'']

/-! ## Documents -/

def integerText (i : Int) : List Char :=
  if i < 0 then '-' :: Numeral.write i.natAbs else Numeral.write i.natAbs

def Scalar.text : Scalar → Except WriteError (List Char)
  | string s => .ok (stringText s.toList)
  | integer i => if i ≤ Numeral.maxSigned64 then .ok (integerText i) else .error .outOfRange
  | boolean true => .ok "true".toList
  | boolean false => .ok "false".toList

def entriesText : List (String × Scalar) → Except WriteError (List Char)
  | [] => .ok []
  | (name, v) :: rest => do
    return name.toList ++ [' ', '=', ' '] ++ (← v.text) ++ '\n' :: (← entriesText rest)

def Section.text (s : Section) : Except WriteError (List Char) := do
  return '[' :: s.name.toList ++ [']', '\n'] ++ (← entriesText s.entries)

/-- The sections with an empty line between them. -/
def sectionsText : List Section → Except WriteError (List Char)
  | [] => .ok []
  | [s] => s.text
  | s :: rest => do return (← s.text) ++ '\n' :: (← sectionsText rest)

/-- The text of a document whose names are bare words. -/
def write (sections : List Section) : Except WriteError String := do
  return String.ofList (← sectionsText sections)

end SessionKit.Toml
