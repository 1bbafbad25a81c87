import SessionKit.Cli.Pattern
import SessionKit.Event
import SessionKit.Text.Slice

/-!
# Filter directives

A directive says how grave an event must be to pass. It is a name with which the names of parts of
the program begin, then a span and a field between square brackets, then an equals sign and a level.
Each of the three may be missing; a single word that is a level is a directive about everything.
What a field is to hold is told by a pattern.
-/

namespace SessionKit.Cli

/-- The least level that passes; nothing when no event does. -/
abbrev Threshold := Option Level

namespace Threshold

/-- Whether an event of a level passes. -/
def passes (t : Threshold) (l : Level) : Bool :=
  match t with
  | some least => least.rank ≤ l.rank
  | none => false

def numbered : Nat → Option Threshold
  | 0 => some none
  | 1 => some (some .error)
  | 2 => some (some .warn)
  | 3 => some (some .info)
  | 4 => some (some .debug)
  | 5 => some (some .trace)
  | _ => none

/-- The names of thresholds, in any case of letters. -/
def named : String → Option Threshold
  | "off" => some none
  | "error" => some (some .error)
  | "warn" => some (some .warn)
  | "info" => some (some .info)
  | "debug" => some (some .debug)
  | "trace" => some (some .trace)
  | _ => none

def ofText? (s : String) : Option Threshold :=
  match Numeral.bounded? Numeral.max64 s.toList with
  | some n => numbered n
  | none => named s.toLower

end Threshold

/-! ## Directives -/

/-- Asks for a field, and maybe for what it holds. -/
structure FieldTest where
  name : String
  value : Option String := none
  deriving DecidableEq, Repr

/-- The name and the value stand around an equals sign; what follows a second one does not count. -/
def FieldTest.ofText (text : String) : FieldTest :=
  match text.splitOn "=" with
  | name :: value :: _ => { name, value := some value }
  | _ => { name := text }

/-- A directive that names nothing is about everything, and one that names no level lets every
event pass. -/
structure Directive where
  /-- How the names of parts begin. -/
  part : Option String := none
  span : Option String := none
  field : Option FieldTest := none
  threshold : Threshold := some .trace
  deriving DecidableEq, Repr

namespace Directive

inductive Fault where
  | malformed
  | unknownLevel
  /-- The pattern of a field is not usable. -/
  | pattern (flaw : Pattern.Flaw)
  /-- A piece begins or ends inside of a character. -/
  | torn
  deriving DecidableEq, Repr

def Fault.message : Fault → String
  | malformed => "invalid filter directive"
  | unknownLevel =>
    "error parsing level filter: expected one of \"off\", \"error\", \"warn\", \"info\", " ++
      "\"debug\", \"trace\", or a number 0-5"
  | pattern flaw => "invalid field filter: " ++ flaw.message
  | torn => "a piece of the directive is not whole characters"

/-! ## Reading -/

/-- The field that a text asks for. Its pattern must be usable. -/
def readField (text : String) : Except Fault FieldTest :=
  let test := FieldTest.ofText text
  match test.value.bind Pattern.flaw? with
  | some flaw => .error (.pattern flaw)
  | none => .ok test

/-- Where a reader is in a directive. A piece that is being read is told by where it begins. -/
inductive Place where
  | start
  | word (first : Nat)
  | span (first : Nat)
  | field (first : Nat)
  | behindField
  | behindSpan
  | level (first : Nat)
  deriving DecidableEq, Repr

/-- What a reader knows: where it is, and what it has found. -/
structure Reader where
  place : Place := .start
  found : Directive := {}
  deriving DecidableEq, Repr

/-- Whether a directive may begin with a character. -/
def canBegin (c : Char) : Bool := c = '-' || c = ':' || c = '_' || Text.isAlphanumeric c

def piece (text : List Char) (first past : Nat) : Except Fault String :=
  (Text.slice? text first past).elim (.error .torn) .ok

/-- The last piece, which reaches to the end. -/
def lastPiece (text : List Char) (first : Nat) : Except Fault String :=
  (Text.sliceFrom? text first).elim (.error .torn) .ok

/-- The piece that names a part ends. -/
def Reader.withPart (r : Reader) (text : List Char) (first past : Nat) (next : Place) :
    Except Fault Reader := do
  return { place := next, found := { r.found with part := some (← piece text first past) } }

/-- Takes the character at a byte position into account. -/
def Reader.step (r : Reader) (text : List Char) (position : Nat) (c : Char) : Except Fault Reader :=
  match r.place with
  | .start =>
    if c = '[' then .ok { r with place := .span (position + 1) }
    else if canBegin c then .ok { r with place := .word position }
    else .error .malformed
  | .word first =>
    if c = '=' then r.withPart text first position (.level (position + 1))
    else if c = '[' then r.withPart text first position (.span (position + 1))
    else .ok r
  | .span first =>
    if c = ']' then do
      let name ← piece text first position
      return { place := .behindSpan, found := { r.found with span := some name } }
    else if c = '\x7b' then do
      let name ← piece text first position
      let span := if name.isEmpty then none else some name
      return { place := .field (position + 1), found := { r.found with span } }
    else .ok r
  | .field first =>
    if c = '\x7d' then do
      let test ← piece text first position
      if test.isEmpty then throw .malformed
      let field ← readField test
      return { place := .behindField, found := { r.found with field := some field } }
    else .ok r
  | .behindField => if c = ']' then .ok { r with place := .behindSpan } else .error .malformed
  | .behindSpan =>
    if c = '=' then .ok { r with place := .level (position + 1) } else .error .malformed
  | .level _ => .ok r

/-- Takes the characters from a byte position on into account. -/
def Reader.scan (text : List Char) : Nat → List Char → Reader → Except Fault Reader
  | _, [], r => .ok r
  | position, c :: rest, r => do scan text (position + c.utf8Size) rest (← r.step text position c)

/-- The directive, when there are no more characters. -/
def Reader.finish (r : Reader) (text : List Char) : Except Fault Directive :=
  match r.place with
  | .word first => do
    let word ← lastPiece text first
    match Threshold.ofText? word with
    | some threshold => return { r.found with threshold }
    | none => return { r.found with part := some word }
  | .level first => do
    let level ← lastPiece text first
    if level.isEmpty then return r.found
    match Threshold.ofText? level with
    | some threshold => return { r.found with threshold }
    | none => throw .unknownLevel
  | .behindSpan => .ok r.found
  | _ => .error .malformed

/-- Blanks around a directive are not looked at, but the pieces are cut from the text with its
blanks: those in front shift every piece towards the start, and those at the end belong to the last
piece. -/
def parse (text : String) : Except Fault Directive := do
  let cs := text.toList
  (← Reader.scan cs 0 (Text.trim cs) {}).finish cs

/-! ## Matching -/

/-- Whether a directive can let events pass that are in no span. One that asks for a span or for
what a field holds cannot. -/
def isAboutEvents (d : Directive) : Bool :=
  d.span.isNone && (d.field.bind FieldTest.value).isNone

/-- Whether an event has a field. The message is one. -/
def hasField (e : Event) (name : String) : Bool :=
  name = "message" || e.fields.any fun f => f.1 = name

def fits (d : Directive) (e : Event) : Bool :=
  d.isAboutEvents &&
    (d.part.all fun part => part.toList.isPrefixOf e.origin.name.toList) &&
    d.field.all fun test => hasField e test.name

/-- How long the beginning is that a directive asks for. -/
def partWidth (d : Directive) : Nat := d.part.elim 0 fun part => part.utf8ByteSize + 1

/-- Whether a directive is at most as specific as another. The longer beginning counts first, then
a field, then the field's name in the order of texts. -/
def isAtMost (d other : Directive) : Bool :=
  if d.partWidth = other.partWidth then
    match d.field, other.field with
    | none, _ => true
    | some _, none => false
    | some test, some otherTest => test.name ≤ otherTest.name
  else d.partWidth < other.partWidth

end Directive
end SessionKit.Cli
