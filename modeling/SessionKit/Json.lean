import SessionKit.Bytes
import SessionKit.Decimal
import SessionKit.Numeral

/-!
# JSON

Values, their compact and their indented text, and a reader. An integer is kept exactly while it
fits 64 bits, and is a floating-point number beyond that. The members of an object that was read
are in the order of their names, and the last of several with one name counts.
-/

namespace SessionKit

inductive Json where
  | null
  | boolean (b : Bool)
  | integer (i : Int)
  | decimal (x : Float)
  | string (s : String)
  | array (items : List Json)
  | object (members : List (String × Json))
  deriving Inhabited

namespace Json

def natural (n : Nat) : Json := integer n

/-- Nothing is `null`. -/
def ofOption {α : Type} (f : α → Json) : Option α → Json
  | some a => f a
  | none => null

def strings (xs : List String) : Json := array (xs.map string)

/-- The member with a name. -/
def member? (name : String) : Json → Option Json
  | object members => (members.find? fun m => m.1 == name).map Prod.snd
  | _ => none

/-! ## Writing -/

/-- Four hexadecimal digits. -/
def codeUnit (n : Nat) : List Char :=
  [Bytes.hexDigit (n / 4096), Bytes.hexDigit (n / 256 % 16), Bytes.hexDigit (n / 16 % 16),
   Bytes.hexDigit (n % 16)]

def escaped (c : Char) : List Char :=
  if c = '"' then ['\\', '"']
  else if c = '\\' then ['\\', '\\']
  else if c = '\n' then ['\\', 'n']
  else if c = '\r' then ['\\', 'r']
  else if c = '\t' then ['\\', 't']
  else if c = '\x08' then ['\\', 'b']
  else if c = '\x0c' then ['\\', 'f']
  else if c.toNat < 32 then '\\' :: 'u' :: codeUnit c.toNat
  else [c]

def stringText (s : String) : List Char := '"' :: s.toList.flatMap escaped ++ ['"']

def integerText (i : Int) : List Char :=
  if i < 0 then '-' :: Numeral.write i.natAbs else Numeral.write i.natAbs

/-- The texts of what has no parts. -/
def atomText : Json → List Char
  | null => "null".toList
  | boolean true => "true".toList
  | boolean false => "false".toList
  | integer i => integerText i
  | decimal x => (Decimal.compactText x).toList
  | string s => stringText s
  | array _ => []
  | object _ => []

mutual
/-- Without any blanks. -/
def text : Json → List Char
  | array items => '[' :: itemsText items ++ [']']
  | object members => '\x7b' :: membersText members ++ ['\x7d']
  | atom => atomText atom

def itemsText : List Json → List Char
  | [] => []
  | [item] => text item
  | item :: rest => text item ++ ',' :: itemsText rest

def membersText : List (String × Json) → List Char
  | [] => []
  | [(name, value)] => stringText name ++ ':' :: text value
  | (name, value) :: rest => stringText name ++ ':' :: text value ++ ',' :: membersText rest
end

def compact (j : Json) : String := String.ofList j.text

/-- Inserts a member by the order of names, in place of one with the same name. -/
def insertMember (name : String) (value : Json) : List (String × Json) → List (String × Json)
  | [] => [(name, value)]
  | (n, v) :: rest =>
    if name = n then (name, value) :: rest
    else if name < n then (name, value) :: (n, v) :: rest
    else (n, v) :: insertMember name value rest

/-- The members by the order of their names. -/
def sortMembers (members : List (String × Json)) : List (String × Json) :=
  members.foldl (fun sorted m => insertMember m.1 m.2 sorted) []

def newline (depth : Nat) : List Char := '\n' :: List.replicate (2 * depth) ' '

mutual
/-- One item or member a line, behind two blanks for each level. -/
def indented (depth : Nat) : Json → List Char
  | array [] => ['[', ']']
  | object [] => ['\x7b', '\x7d']
  | array items => '[' :: indentedItems (depth + 1) items ++ newline depth ++ [']']
  | object members =>
    '\x7b' :: indentedMembers (depth + 1) members ++ newline depth ++ ['\x7d']
  | atom => atomText atom

def indentedItems (depth : Nat) : List Json → List Char
  | [] => []
  | [item] => newline depth ++ indented depth item
  | item :: rest => newline depth ++ indented depth item ++ ',' :: indentedItems depth rest

def indentedMembers (depth : Nat) : List (String × Json) → List Char
  | [] => []
  | [(name, value)] => newline depth ++ stringText name ++ [':', ' '] ++ indented depth value
  | (name, value) :: rest =>
    newline depth ++ stringText name ++ [':', ' '] ++ indented depth value ++
      ',' :: indentedMembers depth rest
end

mutual
/-- The value with the members of every object by the order of their names. -/
def sorted : Json → Json
  | array items => array (sortedItems items)
  | object members => object (sortMembers (sortedMembers members))
  | atom => atom

def sortedItems : List Json → List Json
  | [] => []
  | item :: rest => item.sorted :: sortedItems rest

def sortedMembers : List (String × Json) → List (String × Json)
  | [] => []
  | (name, value) :: rest => (name, value.sorted) :: sortedMembers rest
end

def pretty (j : Json) : String := String.ofList (j.sorted.indented 0)

/-! ## Reading -/

def isBlank (c : Char) : Bool := c = ' ' || c = '\t' || c = '\n' || c = '\r'

def skipBlanks (cs : List Char) : List Char := cs.dropWhile isBlank

/-- The value of four hexadecimal digits. -/
def unitValue? (a b c d : Char) : Option Nat := do
  return 4096 * (← Bytes.hexValue? a) + 256 * (← Bytes.hexValue? b) + 16 * (← Bytes.hexValue? c) +
    (← Bytes.hexValue? d)

/-- The character that a letter behind a backslash stands for. -/
def unescape? : Char → Option Char
  | '"' => some '"'
  | '\\' => some '\\'
  | '/' => some '/'
  | 'b' => some '\x08'
  | 'f' => some '\x0c'
  | 'n' => some '\n'
  | 'r' => some '\r'
  | 't' => some '\t'
  | _ => none

def isHighSurrogate (n : Nat) : Bool := 0xd800 ≤ n && n < 0xdc00

def isLowSurrogate (n : Nat) : Bool := 0xdc00 ≤ n && n < 0xe000

/-- The rest of a string behind its opening quote. A code point beyond the first plane is written
as two units, and a unit of a pair stands nowhere else. -/
def readString : List Char → Option (List Char × List Char)
  | '"' :: rest => some ([], rest)
  | '\\' :: 'u' :: a :: b :: c :: d :: '\\' :: 'u' :: e :: f :: g :: h :: rest => do
    let first ← unitValue? a b c d
    if isHighSurrogate first then
      let second ← unitValue? e f g h
      if isLowSurrogate second then
        let (s, rest) ← readString rest
        return (Char.ofNat (0x10000 + (first - 0xd800) * 0x400 + (second - 0xdc00)) :: s, rest)
      else none
    else if isLowSurrogate first then none
    else
      let (s, rest) ← readString ('\\' :: 'u' :: e :: f :: g :: h :: rest)
      return (Char.ofNat first :: s, rest)
  | '\\' :: 'u' :: a :: b :: c :: d :: rest => do
    let unit ← unitValue? a b c d
    if isHighSurrogate unit || isLowSurrogate unit then none
    else
      let (s, rest) ← readString rest
      return (Char.ofNat unit :: s, rest)
  | '\\' :: c :: rest => do
    let e ← unescape? c
    let (s, rest) ← readString rest
    return (e :: s, rest)
  | c :: rest =>
    if c = '\\' ∨ c.toNat < 32 then none
    else do
      let (s, rest) ← readString rest
      return (c :: s, rest)
  | [] => none

def isDigit (c : Char) : Bool := '0' ≤ c && c ≤ '9'

/-- One digit or more, and what follows them. -/
def readDigits (cs : List Char) : Option (List Char × List Char) :=
  match cs.takeWhile isDigit with
  | [] => none
  | digits => some (digits, cs.dropWhile isDigit)

/-- The digits behind a point, if there is one. -/
def readFraction : List Char → Option (List Char × List Char)
  | '.' :: rest => readDigits rest
  | rest => some ([], rest)

/-- The power of ten, if there is one. -/
def readExponent : List Char → Option (Option Int × List Char)
  | c :: rest =>
    if c = 'e' ∨ c = 'E' then do
      let (negative, rest) := match rest with
        | '-' :: more => (true, more)
        | '+' :: more => (false, more)
        | _ => (false, rest)
      let (digits, rest) ← readDigits rest
      let n ← Numeral.digits? digits
      return (some (if negative then -(n : Int) else n), rest)
    else some (none, c :: rest)
  | [] => some (none, [])

/-- Takes in digits as long as the value fits 64 bits, and counts them. -/
def takeDigits : (taken value : Nat) → List Char → Nat × Nat
  | taken, value, [] => (taken, value)
  | taken, value, c :: rest =>
    match Numeral.digit? c with
    | some d =>
      if 10 * value + d ≤ Numeral.max64 then takeDigits (taken + 1) (10 * value + d) rest
      else (taken, value)
    | none => (taken, value)

/-- Multiplies by a power of ten, rounding once for each factor of at most `10 ^ 308`. -/
def scale : (steps : Nat) → Float → Int → Float
  | 0, x, _ => x
  | steps + 1, x, exponent =>
    let power (n : Nat) : Float := Decimal.toFloat ⟨1, n⟩
    if x == 0.0 then x
    else if exponent.natAbs ≤ 308 then
      if 0 ≤ exponent then x * power exponent.natAbs else x / power exponent.natAbs
    else if 0 ≤ exponent then x / 0.0
    else scale steps (x / power 308) (exponent + 308)

/-- The number of a numeral with a fraction or an exponent: what fits 64 bits of its digits, times
a power of ten. It is not always the nearest number. -/
def approximate (whole fraction : List Char) (exponent : Int) : Float :=
  let (taken, high) := takeDigits 0 0 whole
  let (behind, digits) := takeDigits 0 high fraction
  scale 4 (UInt64.ofNat digits).toFloat (exponent + (whole.length - taken : Nat) - behind)

def readMagnitude (negative : Bool) (cs : List Char) : Option (Json × List Char) := do
  let (whole, rest) ← readDigits cs
  if whole.head? = some '0' ∧ 1 < whole.length then none
  else
    let (fraction, rest) ← readFraction rest
    let (exponent, rest) ← readExponent rest
    let magnitude ← Numeral.digits? whole
    let exact : Int := if negative then -(magnitude : Int) else magnitude
    if fraction = [] ∧ exponent = none ∧ Numeral.minSigned64 ≤ exact ∧ exact ≤ Numeral.max64 ∧
        ¬ (negative ∧ magnitude = 0) then
      some (integer exact, rest)
    else
      let value := approximate whole fraction (exponent.getD 0)
      if value.isInf then none
      else some (decimal (if negative then -value else value), rest)

def readNumber : List Char → Option (Json × List Char)
  | '-' :: rest => readMagnitude true rest
  | cs => readMagnitude false cs

/-- Items up to the closing bracket; the reader of one item is given. -/
def readItems (item : List Char → Option (Json × List Char)) :
    (fuel : Nat) → List Char → Option (List Json × List Char)
  | 0, _ => none
  | fuel + 1, cs => do
    let (j, rest) ← item (skipBlanks cs)
    match skipBlanks rest with
    | ',' :: more =>
      let (js, rest) ← readItems item fuel more
      return (j :: js, rest)
    | ']' :: more => return ([j], more)
    | _ => none

def readMembers (item : List Char → Option (Json × List Char)) :
    (fuel : Nat) → List Char → Option (List (String × Json) × List Char)
  | 0, _ => none
  | fuel + 1, cs =>
    match skipBlanks cs with
    | '"' :: more => do
      let (name, rest) ← readString more
      match skipBlanks rest with
      | ':' :: more =>
        let (j, rest) ← item (skipBlanks more)
        match skipBlanks rest with
        | ',' :: more =>
          let (members, rest) ← readMembers item fuel more
          return ((String.ofList name, j) :: members, rest)
        | '\x7d' :: more => return ([(String.ofList name, j)], more)
        | _ => none
      | _ => none
    | _ => none

/-- A value at the start of a text; arrays and objects nest at most `depth` deep. -/
def readValue : (depth : Nat) → List Char → Option (Json × List Char)
  | _, '"' :: rest => do
    let (s, rest) ← readString rest
    return (string (String.ofList s), rest)
  | _, 'n' :: 'u' :: 'l' :: 'l' :: rest => some (null, rest)
  | _, 't' :: 'r' :: 'u' :: 'e' :: rest => some (boolean true, rest)
  | _, 'f' :: 'a' :: 'l' :: 's' :: 'e' :: rest => some (boolean false, rest)
  | depth + 1, '[' :: rest =>
    match skipBlanks rest with
    | ']' :: more => some (array [], more)
    | _ => do
      let (items, rest) ← readItems (readValue depth) rest.length rest
      return (array items, rest)
  | depth + 1, '\x7b' :: rest =>
    match skipBlanks rest with
    | '\x7d' :: more => some (object [], more)
    | _ => do
      let (members, rest) ← readMembers (readValue depth) rest.length rest
      return (object (sortMembers members), rest)
  | _, cs => readNumber cs

/-- The deepest nesting that is read. -/
def maxDepth : Nat := 127

/-- A whole text that is one value. -/
def parse (s : String) : Option Json := do
  let (j, rest) ← readValue maxDepth (skipBlanks s.toList)
  if skipBlanks rest = [] then some j else none

end Json
end SessionKit
