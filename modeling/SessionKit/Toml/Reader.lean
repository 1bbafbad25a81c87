import SessionKit.Toml.Document
import SessionKit.Toml.Number
import SessionKit.Toml.Text

/-!
# Reading TOML

A document is read line by line into statements, which are then built into one table. A text that
is no document has no value; what is wrong with it is not told.
-/

namespace SessionKit.Toml

/-! ## Keys -/

def isBareKey (c : Char) : Bool :=
  ('a' ≤ c && c ≤ 'z') || ('A' ≤ c && c ≤ 'Z') || isDigit c || c = '_' || c = '-'

/-- One part of a key: a string on one line, or a bare word. -/
def readKeyPart : List Char → Option (String × List Char)
  | '"' :: rest => do
    let (s, rest) ← readBasic rest
    return (String.ofList s, rest)
  | '\'' :: rest => do
    let (s, rest) ← readLiteral rest
    return (String.ofList s, rest)
  | cs =>
    match cs.takeWhile isBareKey with
    | [] => none
    | word => some (String.ofList word, cs.dropWhile isBareKey)

/-- A key of at most `parts` parts, with the blanks around them. -/
def readKey : (parts : Nat) → List Char → Option (Key × List Char)
  | 0, _ => none
  | parts + 1, cs => do
    let (name, rest) ← readKeyPart (skipBlanks cs)
    match skipBlanks rest with
    | '.' :: rest =>
      let (key, rest) ← readKey parts rest
      return ({ key with parents := name :: key.parents }, rest)
    | rest => return ({ parents := [], name }, rest)

/-- Most parts of a key. -/
def maxKeyParts : Nat := 79

/-! ## Values -/

/-- A key, an equals sign and a value, for a given reader of values. -/
def readPair (value : List Char → Option (Toml × List Char)) (cs : List Char) :
    Option ((Key × Toml) × List Char) := do
  let (key, rest) ← readKey maxKeyParts cs
  match rest with
  | '=' :: rest =>
    let (v, rest) ← value (skipBlanks rest)
    return ((key, v), rest)
  | _ => none

/-- The items of an array up to its closing bracket; a comma may stand behind the last one. -/
def readItems (value : List Char → Option (Toml × List Char)) :
    (fuel : Nat) → List Char → Option (List Toml × List Char)
  | 0, _ => none
  | fuel + 1, cs =>
    match skipSpace false cs with
    | ']' :: rest => some ([], rest)
    | cs => do
      let (v, rest) ← value cs
      match skipSpace false rest with
      | ',' :: rest =>
        let (vs, rest) ← readItems value fuel rest
        return (v :: vs, rest)
      | ']' :: rest => return ([v], rest)
      | _ => none

/-- The pairs of an inline table up to its closing brace. -/
def readPairs (value : List Char → Option (Toml × List Char)) :
    (fuel : Nat) → List Char → Option (List (Key × Toml) × List Char)
  | 0, _ => none
  | fuel + 1, cs => do
    let (pair, rest) ← readPair value cs
    match skipBlanks rest with
    | ',' :: rest =>
      let (pairs, rest) ← readPairs value fuel rest
      return (pair :: pairs, rest)
    | '\x7d' :: rest => return ([pair], rest)
    | _ => none

/-- A value; arrays and inline tables nest at most `depth` deep. -/
def readValue : (depth : Nat) → List Char → Option (Toml × List Char)
  | depth + 1, '[' :: rest => do
    let (items, rest) ← readItems (readValue depth) (rest.length + 1) rest
    return (.array items, rest)
  | depth + 1, '\x7b' :: rest =>
    match skipBlanks rest with
    | '\x7d' :: rest => some (.table [], rest)
    | _ => do
      let (pairs, rest) ← readPairs (readValue depth) rest.length rest
      return (← inlineTable pairs, rest)
  | _, 't' :: 'r' :: 'u' :: 'e' :: rest => some (.boolean true, rest)
  | _, 'f' :: 'a' :: 'l' :: 's' :: 'e' :: rest => some (.boolean false, rest)
  | _, cs =>
    match readString cs with
    | some (s, rest) => some (.string (String.ofList s), rest)
    | none => readScalar cs

/-- The deepest nesting that is read. -/
def maxDepth : Nat := 79

/-! ## Documents -/

/-- A header behind its first bracket, up to the end of the line. -/
def readHeader : List Char → Option (Statement × List Char)
  | '[' :: rest => do
    let (key, rest) ← readKey maxKeyParts rest
    match rest with
    | ']' :: ']' :: rest => return (.item key, ← endOfLine? rest)
    | _ => none
  | rest => do
    let (key, rest) ← readKey maxKeyParts rest
    match rest with
    | ']' :: rest => return (.table key, ← endOfLine? rest)
    | _ => none

def readStatement : List Char → Option (Statement × List Char)
  | '[' :: rest => readHeader rest
  | cs => do
    let ((key, v), rest) ← readPair (readValue maxDepth) cs
    return (.value key v, ← endOfLine? rest)

/-- The statements of at most `lines` lines. -/
def readStatements : (lines : Nat) → List Char → Option (List Statement)
  | 0, _ => none
  | lines + 1, cs =>
    match skipBlanks cs with
    | [] => some []
    | c :: rest =>
      if c = '#' ∨ c = '\n' ∨ c = '\r' then do readStatements lines (← endOfLine? (c :: rest))
      else do
        let (statement, rest) ← readStatement (c :: rest)
        return statement :: (← readStatements lines rest)

/-- The characters behind a byte order mark. -/
def skipMark : List Char → List Char
  | '\ufeff' :: rest => rest
  | cs => cs

/-- The table that a text stands for. -/
def parse (s : String) : Option Toml := do
  let cs := skipMark s.toList
  build (← readStatements (cs.length + 1) cs)

end SessionKit.Toml
