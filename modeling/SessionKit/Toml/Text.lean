import SessionKit.Bytes

/-!
# TOML texts

What lies between values, and the four forms of strings. A reader is given the characters at its
place and hands back what it read with the characters behind it.
-/

namespace SessionKit.Toml

/-! ## Blanks, line ends and comments -/

def isBlank (c : Char) : Bool := c = ' ' || c = '\t'

/-- Whether a character may stand as it is in comments and strings. -/
def isText (c : Char) : Bool := c = '\t' || (' ' ≤ c && c ≠ '\x7f')

def skipBlanks (cs : List Char) : List Char := cs.dropWhile isBlank

def newline? : List Char → Option (List Char)
  | '\n' :: rest => some rest
  | '\r' :: '\n' :: rest => some rest
  | _ => none

def skipComment : List Char → List Char
  | '#' :: rest => rest.dropWhile isText
  | cs => cs

/-- The end of a line, behind blanks and a comment. -/
def endOfLine? (cs : List Char) : Option (List Char) :=
  match skipComment (skipBlanks cs) with
  | [] => some []
  | rest => newline? rest

/-- Blanks, line ends and comments inside of brackets. -/
def skipSpace : (comment : Bool) → List Char → List Char
  | _, '\n' :: rest => skipSpace false rest
  | _, '\r' :: '\n' :: rest => skipSpace false rest
  | true, c :: rest => if isText c then skipSpace true rest else c :: rest
  | false, c :: rest =>
    if isBlank c then skipSpace false rest
    else if c = '#' then skipSpace true rest
    else c :: rest
  | _, [] => []

/-! ## Escapes -/

/-- The character that a letter behind a backslash stands for. -/
def unescape? : Char → Option Char
  | 'b' => some '\x08'
  | 't' => some '\t'
  | 'n' => some '\n'
  | 'f' => some '\x0c'
  | 'r' => some '\r'
  | '"' => some '"'
  | '\\' => some '\\'
  | _ => none

/-- The character with a code point, if there is one. -/
def scalar? (n : Nat) : Option Char :=
  if n.isValidChar then some (Char.ofNat n) else none

/-- The character whose code point is given by hexadecimal digits. -/
def codePoint? (digits : List Char) : Option Char := do
  let values ← digits.mapM Bytes.hexValue?
  scalar? (values.foldl (fun n d => 16 * n + d) 0)

/-! ## Strings -/

/-- A string in double quotes, behind the opening one. -/
def readBasic : List Char → Option (List Char × List Char)
  | '"' :: rest => some ([], rest)
  | '\\' :: 'u' :: a :: b :: c :: d :: rest => do
    let x ← codePoint? [a, b, c, d]
    let (s, rest) ← readBasic rest
    return (x :: s, rest)
  | '\\' :: 'U' :: a :: b :: c :: d :: e :: f :: g :: h :: rest => do
    let x ← codePoint? [a, b, c, d, e, f, g, h]
    let (s, rest) ← readBasic rest
    return (x :: s, rest)
  | '\\' :: c :: rest => do
    let x ← unescape? c
    let (s, rest) ← readBasic rest
    return (x :: s, rest)
  | c :: rest =>
    if c ≠ '\\' ∧ isText c then do
      let (s, rest) ← readBasic rest
      return (c :: s, rest)
    else none
  | [] => none

/-- A string in single quotes, behind the opening one. -/
def readLiteral : List Char → Option (List Char × List Char)
  | '\'' :: rest => some ([], rest)
  | c :: rest =>
    if isText c then do
      let (s, rest) ← readLiteral rest
      return (c :: s, rest)
    else none
  | [] => none

/-- Whether only blanks are left on the line. -/
def lineEnds (cs : List Char) : Bool := (newline? (skipBlanks cs)).isSome

/-- A string in three double quotes. Up to two quotes may stand right before the closing three. A
backslash at the end of a line takes away all blanks and line ends that follow it; `folding` says
that they are being taken away. -/
def readLongBasic : (folding : Bool) → List Char → Option (List Char × List Char)
  | _, '"' :: '"' :: '"' :: '"' :: '"' :: rest => some (['"', '"'], rest)
  | _, '"' :: '"' :: '"' :: '"' :: rest => some (['"'], rest)
  | _, '"' :: '"' :: '"' :: rest => some ([], rest)
  | folding, '\r' :: '\n' :: rest =>
    if folding then readLongBasic true rest
    else do
      let (s, rest) ← readLongBasic false rest
      return ('\n' :: s, rest)
  | folding, '\n' :: rest =>
    if folding then readLongBasic true rest
    else do
      let (s, rest) ← readLongBasic false rest
      return ('\n' :: s, rest)
  | _, '\\' :: 'u' :: a :: b :: c :: d :: rest => do
    let x ← codePoint? [a, b, c, d]
    let (s, rest) ← readLongBasic false rest
    return (x :: s, rest)
  | _, '\\' :: 'U' :: a :: b :: c :: d :: e :: f :: g :: h :: rest => do
    let x ← codePoint? [a, b, c, d, e, f, g, h]
    let (s, rest) ← readLongBasic false rest
    return (x :: s, rest)
  | _, '\\' :: c :: rest =>
    match unescape? c with
    | some x => do
      let (s, rest) ← readLongBasic false rest
      return (x :: s, rest)
    | none => if lineEnds (c :: rest) then readLongBasic true (c :: rest) else none
  | folding, c :: rest =>
    if folding = true ∧ isBlank c then readLongBasic true rest
    else if c ≠ '\\' ∧ isText c then do
      let (s, rest) ← readLongBasic false rest
      return (c :: s, rest)
    else none
  | _, [] => none

/-- A string in three single quotes. -/
def readLongLiteral : List Char → Option (List Char × List Char)
  | '\'' :: '\'' :: '\'' :: '\'' :: '\'' :: rest => some (['\'', '\''], rest)
  | '\'' :: '\'' :: '\'' :: '\'' :: rest => some (['\''], rest)
  | '\'' :: '\'' :: '\'' :: rest => some ([], rest)
  | '\r' :: '\n' :: rest => do
    let (s, rest) ← readLongLiteral rest
    return ('\n' :: s, rest)
  | c :: rest =>
    if c = '\n' ∨ isText c then do
      let (s, rest) ← readLongLiteral rest
      return (c :: s, rest)
    else none
  | [] => none

/-- A line end right behind the opening quotes is not part of the string. -/
def skipNewline (cs : List Char) : List Char := (newline? cs).getD cs

def readString : List Char → Option (List Char × List Char)
  | '"' :: '"' :: '"' :: rest => readLongBasic false (skipNewline rest)
  | '"' :: rest => readBasic rest
  | '\'' :: '\'' :: '\'' :: rest => readLongLiteral (skipNewline rest)
  | '\'' :: rest => readLiteral rest
  | _ => none

end SessionKit.Toml
