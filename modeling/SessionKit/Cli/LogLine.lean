import SessionKit.Cli.Style
import SessionKit.Event
import SessionKit.Json
import SessionKit.Text.Quoted
import SessionKit.Time.Timestamp

/-!
# Log lines

An event as a line for readers, and as a line of JSON. In a line for readers the message cannot
steer the terminal that shows it.
-/

namespace SessionKit.Event

def Value.lineText : Value → String
  | plain text => text
  | quoted text => Text.quoted text
  | number n => toString n

def Value.toJson : Value → Json
  | plain text => .string text
  | quoted text => .string text
  | number n => .natural n

/-- The controls by which a message could ring, move back, clear or recolour a terminal. -/
def steers (c : Char) : Bool :=
  let n := c.toNat
  n = 0x07 || n = 0x08 || n = 0x0c || n = 0x1b || n = 0x7f

/-- A control that steers a terminal is named by its code point, in two digits below the end of
ASCII and in braces behind it. -/
def messageChar (c : Char) : List Char :=
  if steers c then ['\\', 'x'] ++ Bytes.hexDigits [UInt8.ofNat c.toNat]
  else if 0x80 ≤ c.toNat ∧ c.toNat ≤ 0x9f then
    ['\\', 'u', '\x7b'] ++ Text.hexNumber c.toNat ++ ['\x7d']
  else [c]

def messageText (message : String) : String := String.ofList (message.toList.flatMap messageChar)

def levelStyle : Level → Cli.Style
  | .trace => .purple
  | .debug => .blue
  | .info => .green
  | .warn => .yellow
  | .error => .red

/-- The name of a level, as wide as the longest one. -/
def levelText (l : Level) : String :=
  String.ofList (List.replicate (5 - l.name.length) ' ') ++ l.name

/-- The line for readers, which names the part of the program if that is asked for. -/
def line (e : Event) (now : Timestamp) (withOrigin styled : Bool) : String :=
  let faint := Cli.Style.faint.apply styled
  let level := (levelStyle e.level).apply styled (levelText e.level)
  let origin := if withOrigin then " " ++ faint e.origin.name ++ faint ":" else ""
  let fields := e.fields.map fun (name, v) =>
    " " ++ Cli.Style.slanted.apply styled name ++ faint "=" ++ v.lineText
  s!"{faint now.logText} {level}{origin} {messageText e.message}" ++ String.join fields ++ "\n"

def jsonLine (e : Event) (now : Timestamp) : String :=
  let fields := e.fields.map fun (name, v) => (name, v.toJson)
  let j : Json := .object
    [("timestamp", .string now.logText), ("level", .string e.level.name),
     ("fields", .object (("message", .string e.message) :: fields)),
     ("target", .string e.origin.name)]
  j.compact ++ "\n"

end SessionKit.Event
