import SessionKit.Bytes
import SessionKit.Numeral
import SessionKit.Text.Alphanumeric
import SessionKit.Text.Slice

/-!
# Patterns

A pattern says what a field may hold. It is a word for a truth value, a number, or a regular
expression. No event is in a span whose fields could be looked at, so only the form of a pattern is
checked. It stands between braces and holds no closing one.

A regular expression is read part by part from the left. What would need tables of Unicode is
refused: classes named by a letter, and letters of any case.
-/

namespace SessionKit.Cli.Pattern

inductive Flaw where
  | malformed
  /-- The pattern asks for the ends of words in any script, which cannot be decided step by step. -/
  | wordEnds
  deriving DecidableEq, Repr

def Flaw.message : Flaw → String
  | malformed => "error building NFA"
  | wordEnds =>
    "unsupported regex feature for DFAs: cannot build DFAs for regexes with Unicode word " ++
      "boundaries; switch to ASCII word boundaries, or heuristically enable Unicode word " ++
      "boundaries or use a different regex engine"

/-! ## Modes -/

/-- How the characters of a pattern are read. Flags in the pattern change it. -/
structure Mode where
  /-- A pattern is about characters, not about bytes. -/
  unicode : Bool := true
  anyCase : Bool := false
  /-- Blanks and comments between the parts do not count. -/
  spaced : Bool := false
  deriving DecidableEq, Repr

/-- Drops blanks and comments. A comment reaches from a number sign to the end of the line. -/
def skipSpace : (comment : Bool) → List Char → List Char
  | _, [] => []
  | true, c :: rest => skipSpace (c ≠ '\n') rest
  | false, c :: rest =>
    if c = '#' then skipSpace true rest
    else if Text.isBlank c then skipSpace false rest
    else c :: rest

namespace Mode

def skip (m : Mode) (cs : List Char) : List Char := if m.spaced then skipSpace false cs else cs

/-- The mode after flags, of which those behind a minus sign are taken back. -/
def change (m : Mode) (flags : List Char) : Mode :=
  let given := flags.takeWhile (· ≠ '-')
  let taken := flags.dropWhile (· ≠ '-')
  let after (flag : Char) (old : Bool) := given.contains flag || (old && !taken.contains flag)
  { unicode := after 'u' m.unicode, anyCase := after 'i' m.anyCase, spaced := after 'x' m.spaced }

end Mode

/-! ## Escapes -/

/-- What stands for one character or for one place in a text. -/
inductive Item where
  /-- A character; `byByte` tells that it is given by the two digits of a byte. -/
  | literal (c : Char) (byByte : Bool)
  /-- A class named by a letter. -/
  | shorthand (negated : Bool)
  /-- An end of a word, or a place that is none. -/
  | wordEnd
  /-- The start or the end of the text. -/
  | textEnd
  deriving DecidableEq, Repr

/-- The value of some hexadecimal digits. -/
def hexDigits? (m : Mode) : (count : Nat) → (value : Nat) → List Char → Option (Nat × List Char)
  | 0, value, cs => some (value, cs)
  | count + 1, value, cs =>
    match m.skip cs with
    | [] => none
    | c :: rest => do hexDigits? m count (16 * value + (← Bytes.hexValue? c)) rest

/-- A character by its code point. -/
def coded? (m : Mode) (count : Nat) (cs : List Char) : Option (Item × List Char) := do
  let (value, rest) ← hexDigits? m count 0 cs
  if value.isValidChar then return (.literal (Char.ofNat value) (count = 2), rest) else none

/-- The controls that have a letter. -/
def control? : Char → Option Char
  | 'a' => some '\x07'
  | 'f' => some '\x0c'
  | 't' => some '\t'
  | 'n' => some '\n'
  | 'r' => some '\r'
  | 'v' => some '\x0b'
  | _ => none

/-- Whether an escape may stand for the character itself: letters and digits are kept for other
meanings. -/
def escapesItself (c : Char) : Bool := c.toNat < 0x80 && !c.isAlphanum

/-- Reads an escape behind its backslash. -/
def escape? (m : Mode) : List Char → Option (Item × List Char)
  | [] => none
  | c :: rest =>
    match c with
    | 'x' => coded? m 2 rest
    | 'u' => coded? m 4 rest
    | 'U' => coded? m 8 rest
    | 'd' | 's' | 'w' => some (.shorthand false, rest)
    | 'D' | 'S' | 'W' => some (.shorthand true, rest)
    | 'b' | 'B' | '<' | '>' => some (.wordEnd, rest)
    | 'A' | 'z' => some (.textEnd, rest)
    | c =>
      match control? c with
      | some control => some (.literal control false, rest)
      | none => if escapesItself c then some (.literal c false, rest) else none

/-- Whether a class named by a letter is known: for bytes only, and those it names must be ASCII. -/
def Mode.knowsShorthand (m : Mode) (negated : Bool) : Bool := !m.unicode && !negated

/-! ## Classes -/

/-- The names of classes of ASCII characters. -/
def classNames : List String :=
  ["alnum", "alpha", "ascii", "blank", "cntrl", "digit", "graph", "lower", "print", "punct",
   "space", "upper", "word", "xdigit"]

/-- Reads a class by its name between colons, behind the bracket, and tells whether it is
negated. -/
def namedClass? : List Char → Option (Bool × List Char)
  | ':' :: rest =>
    let negated := rest.head? = some '^'
    let rest := if negated then rest.drop 1 else rest
    match rest.dropWhile (· ≠ ':') with
    | ':' :: ']' :: more =>
      if String.ofList (rest.takeWhile (· ≠ ':')) ∈ classNames then some (negated, more) else none
    | _ => none
  | _ => none

/-- Reads a character of a class, which may be escaped. -/
def member? (m : Mode) : List Char → Option (Item × List Char)
  | [] => none
  | '\\' :: rest => escape? m rest
  | c :: rest => some (.literal c false, rest)

/-- Whether an item may be in a class. A class of bytes holds ASCII only. -/
def Mode.admits (m : Mode) : Item → Bool
  | .literal c _ => m.unicode || c.toNat < 0x80
  | .shorthand negated => m.knowsShorthand negated
  | .wordEnd => false
  | .textEnd => false

/-- Whether two items are the ends of a range. -/
def Mode.isRange (m : Mode) : Item → Item → Bool
  | .literal first byByte, .literal last byByte' =>
    m.admits (.literal first byByte) && m.admits (.literal last byByte') && first ≤ last
  | _, _ => false

/-- Reads a character or a range of a class. A dash before the closing bracket, or before another
dash, does not make a range. -/
def range? (m : Mode) (cs : List Char) : Option (List Char) := do
  let (item, rest) ← member? m cs
  let single := if m.admits item then some (m.skip rest) else none
  match m.skip rest with
  | '-' :: more =>
    let more := m.skip more
    if more.head? = some ']' ∨ more.head? = some '-' then single
    else
      let (last, rest) ← member? m more
      if m.isRange item last then some rest else none
  | _ => single

/-- Where a reader is in a class: dashes at its start stand for themselves, and so does a closing
bracket that comes first. -/
inductive Spot where
  | first
  | dashes
  | inside
  deriving DecidableEq, Repr

/-- A class may begin with a sign that negates it. A negated class of bytes would not be ASCII. -/
def openClass? (m : Mode) (cs : List Char) : Option (List Char) :=
  match m.skip cs with
  | '^' :: rest => if m.unicode then some rest else none
  | rest => some rest

/-- Reads a class up to the bracket that closes it, where `depth` classes are open, and tells how
deep classes are in one another. -/
def restOfClass? (m : Mode) :
    (fuel deepest depth : Nat) → Spot → List Char → Option (Nat × List Char)
  | 0, _, _, _, _ => none
  | fuel + 1, deepest, depth, spot, cs =>
    let next := restOfClass? m fuel (max deepest depth)
    match m.skip cs, spot with
    | [], _ => none
    | '-' :: rest, .first => next depth .dashes rest
    | '-' :: rest, .dashes => next depth .dashes rest
    | ']' :: rest, .first => next depth .inside rest
    | '[' :: rest, _ =>
      match namedClass? rest with
      | some (negated, more) => if negated ∧ ¬ m.unicode then none else next depth .inside more
      | none => do next (depth + 1) .first (← openClass? m rest)
    | ']' :: rest, _ =>
      if depth ≤ 1 then some (max deepest depth, rest) else next (depth - 1) .inside rest
    | '&' :: '&' :: rest, _ => next depth .inside rest
    | '-' :: '-' :: rest, _ => next depth .inside rest
    | '~' :: '~' :: rest, _ => next depth .inside rest
    | rest, _ => do next depth .inside (← range? m rest)

/-- Reads a class behind its bracket. -/
def wholeClass? (m : Mode) (cs : List Char) : Option (Nat × List Char) := do
  if m.unicode && m.anyCase then none
  restOfClass? m (cs.length + 1) 0 1 .first (← openClass? m cs)

/-! ## Groups -/

/-- Reads flags up to the colon or the bracket behind them. Each stands at most once, and a minus
sign is before another flag; `seen` are those so far, the last one first. -/
def flags? : (seen : List Char) → List Char → Option (List Char × Char × List Char)
  | _, [] => none
  | seen, c :: rest =>
    if c = ':' ∨ c = ')' then
      if seen.head? = some '-' then none else some (seen.reverse, c, rest)
    else if c ∈ ['-', 'i', 'm', 's', 'U', 'u', 'R', 'x'] ∧ c ∉ seen then flags? (c :: seen) rest
    else none

def isGroupName : List Char → Bool
  | [] => false
  | c :: rest =>
    (c = '_' || Text.isAlphabetic c) &&
      rest.all fun c => c = '_' || c = '.' || c = '[' || c = ']' || Text.isAlphanumeric c

/-! ## Depth -/

/-- How deep the parts of a group are, as far as it has been read. A group, a repetition, a
sequence of parts and a choice between alternatives are each one deeper than what they hold. -/
structure Extent where
  /-- The deepest alternative that has ended; nothing where there is none. -/
  ended : Option Nat := none
  /-- How many parts the current alternative has. -/
  parts : Nat := 0
  /-- The deepest of these parts but the last one. -/
  before : Nat := 0
  last : Nat := 0
  deriving DecidableEq, Repr

namespace Extent

/-- With one more part. -/
def push (e : Extent) (depth : Nat) : Extent :=
  { e with parts := e.parts + 1, before := max e.before e.last, last := depth }

/-- With the last part repeated. -/
def repeated (e : Extent) : Extent := { e with last := e.last + 1 }

/-- The depth of the current alternative. -/
def alternative (e : Extent) : Nat :=
  if e.parts ≤ 1 then e.last else max e.before e.last + 1

/-- With the current alternative ended. -/
def endAlternative (e : Extent) : Extent :=
  { ended := some (max (e.ended.getD 0) e.alternative) }

def total (e : Extent) : Nat :=
  match e.ended with
  | none => e.alternative
  | some deepest => max deepest e.alternative + 1

end Extent

/-- How deep a pattern may be. -/
def maxDepth : Nat := 250

/-! ## Regular expressions -/

/-- What a reader of a regular expression knows. -/
structure Reader where
  mode : Mode := {}
  /-- Whether the part before can be repeated. -/
  repeatable : Bool := false
  extent : Extent := {}
  /-- What was known outside of the open groups, the innermost first. -/
  outer : List (Mode × Extent) := []
  groupNames : List (List Char) := []
  /-- Whether ends of words in any script are asked for. -/
  wordEnds : Bool := false
  deriving DecidableEq, Repr

namespace Reader

/-- After a part that can be repeated. -/
def push (r : Reader) (depth : Nat) : Reader :=
  { r with repeatable := true, extent := r.extent.push depth }

/-- After a part that holds no others. -/
def leaf (r : Reader) : Reader := r.push 0

def enter (r : Reader) (inner : Mode) : Reader :=
  { r with
    mode := inner, repeatable := false, extent := {}, outer := (r.mode, r.extent) :: r.outer }

def leave? (r : Reader) : Option Reader :=
  match r.outer with
  | [] => none
  | (mode, extent) :: outer =>
    some (push { r with mode, extent, outer } (r.extent.total + 1))

/-- Reads the name of a group. No two groups have the same. -/
def named? (r : Reader) (cs : List Char) : Option (Reader × List Char) :=
  let name := cs.takeWhile (· ≠ '>')
  match cs.dropWhile (· ≠ '>') with
  | [] => none
  | _ :: rest =>
    if isGroupName name ∧ name ∉ r.groupNames then
      some ({ r.enter r.mode with groupNames := name :: r.groupNames }, rest)
    else none

/-- Reads the start of a group behind its bracket, or flags for the rest of the group around. -/
def group? (r : Reader) (cs : List Char) : Option (Reader × List Char) :=
  match r.mode.skip cs with
  | '?' :: 'P' :: '<' :: rest => r.named? rest
  | '?' :: '<' :: rest => r.named? rest
  | '?' :: rest => do
    let (flags, last, rest) ← flags? [] rest
    if last = ':' then return (r.enter (r.mode.change flags), rest)
    else if flags = [] then none
    else return ({ r.leaf with mode := r.mode.change flags, repeatable := false }, rest)
  | rest => some (r.enter r.mode, rest)

/-- Takes an item outside of classes into account. A byte behind ASCII is no text. -/
def item? (r : Reader) : Item → Option Reader
  | .literal c byByte =>
    if r.mode.unicode then if r.mode.anyCase then none else some r.leaf
    else if byByte ∧ 0x80 ≤ c.toNat then none
    else some r.leaf
  | .shorthand negated => if r.mode.knowsShorthand negated then some r.leaf else none
  | .wordEnd => some { r.leaf with wordEnds := r.wordEnds || r.mode.unicode }
  | .textEnd => some r.leaf

/-- Reads a part that begins with a character. A count in braces cannot be closed, since the brace
would end the pattern. -/
def step? (r : Reader) (c : Char) (rest : List Char) : Option (Reader × List Char) :=
  match c with
  | '(' => r.group? rest
  | ')' => r.leave?.map fun r => (r, rest)
  | '|' => some ({ r with repeatable := false, extent := r.extent.endAlternative }, rest)
  | '[' => (wholeClass? r.mode rest).map fun (depth, rest) => (r.push depth, rest)
  | '?' | '*' | '+' =>
    if r.repeatable then
      some ({ r with extent := r.extent.repeated },
        if rest.head? = some '?' then rest.drop 1 else rest)
    else none
  | '\x7b' => none
  | '\\' => do
    let (item, rest) ← escape? r.mode rest
    return (← r.item? item, rest)
  | '.' => if r.mode.unicode then some (r.leaf, rest) else none
  | '^' | '$' => some (r.leaf, rest)
  | c => (r.item? (.literal c false)).map fun r => (r, rest)

/-- Reads to the end, where no group may be open. -/
def read? : (fuel : Nat) → Reader → List Char → Option Reader
  | 0, _, _ => none
  | fuel + 1, r, cs =>
    match r.mode.skip cs with
    | [] => if r.outer.isEmpty ∧ r.extent.total ≤ maxDepth then some r else none
    | c :: rest => do
      let (r, rest) ← r.step? c rest
      read? fuel r rest

end Reader

/-- What is wrong with a pattern. -/
def flaw? (pattern : String) : Option Flaw :=
  let cs := pattern.toList
  if Numeral.isReal cs then none
  else match Reader.read? (cs.length + 1) {} cs with
    | none => some .malformed
    | some r => if r.wordEnds then some .wordEnds else none

end SessionKit.Cli.Pattern
