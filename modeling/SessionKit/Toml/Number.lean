import SessionKit.Bytes
import SessionKit.Decimal
import SessionKit.Numeral
import SessionKit.Time.Calendar
import SessionKit.Toml.Document

/-!
# TOML numbers and dates

Digits may be grouped by single underscores. Integers have 64 bits with a sign. A date or a time of
day has to be one that the calendar and the clock know.
-/

namespace SessionKit.Toml

def isDigit (c : Char) : Bool := '0' ≤ c && c ≤ '9'

/-- The digits that follow a first one, without the underscores between them. -/
def readMore (isDigit : Char → Bool) : List Char → Option (List Char × List Char)
  | '_' :: c :: rest =>
    if isDigit c then do
      let (ds, rest) ← readMore isDigit rest
      return (c :: ds, rest)
    else none
  | c :: rest =>
    if isDigit c then do
      let (ds, rest) ← readMore isDigit rest
      return (c :: ds, rest)
    else if c = '_' then none
    else some ([], c :: rest)
  | [] => some ([], [])

/-- One digit or more. -/
def readDigits (isDigit : Char → Bool) : List Char → Option (List Char × List Char)
  | c :: rest =>
    if isDigit c then do
      let (ds, rest) ← readMore isDigit rest
      return (c :: ds, rest)
    else none
  | [] => none

/-- One digit or more, of which the first is zero only if it is the only one. -/
def readWhole : List Char → Option (List Char × List Char)
  | '0' :: rest => some (['0'], rest)
  | cs => readDigits isDigit cs

def readSign : List Char → Bool × List Char
  | '-' :: rest => (true, rest)
  | '+' :: rest => (false, rest)
  | cs => (false, cs)

/-- The value of digits to a base. -/
def digitsValue (base : Nat) (ds : List Char) : Nat :=
  ds.foldl (fun n c => base * n + (Bytes.hexValue? c).getD 0) 0

/-- An integer that fits 64 bits. -/
def integer? (i : Int) : Option Toml :=
  if Numeral.minSigned64 ≤ i ∧ i ≤ Numeral.maxSigned64 then some (.integer i) else none

/-- The digits of an integer to another base than ten, behind what names the base. -/
def readBased (base : Nat) (cs : List Char) : Option (Toml × List Char) := do
  let inBase c := match Bytes.hexValue? c with
    | some d => decide (d < base)
    | none => false
  let (ds, rest) ← readDigits inBase cs
  return (← integer? (digitsValue base ds), rest)

/-- A positive number beyond the greatest one is refused. -/
def float? (negative : Bool) (digits : Nat) (exponent : Int) : Option Toml :=
  let x := Decimal.toFloat ⟨digits, exponent⟩
  if negative then some (.float (-x))
  else if x.isInf then none
  else some (.float x)

/-- The power of ten behind an `e`. -/
def readPower (cs : List Char) : Option (Int × List Char) := do
  let (negative, rest) := readSign cs
  let (ds, rest) ← readDigits isDigit rest
  let n : Int := digitsValue 10 ds
  return (if negative then -n else n, rest)

/-- What follows the whole digits of a number. -/
def readNumberEnd (negative : Bool) (whole : List Char) : List Char → Option (Toml × List Char)
  | '.' :: rest => do
    let (fraction, rest) ← readDigits isDigit rest
    let digits := digitsValue 10 (whole ++ fraction)
    match rest with
    | c :: more =>
      if c = 'e' ∨ c = 'E' then
        let (power, rest) ← readPower more
        return (← float? negative digits (power - fraction.length), rest)
      else return (← float? negative digits (-fraction.length), rest)
    | [] => return (← float? negative digits (-fraction.length), rest)
  | c :: rest =>
    if c = 'e' ∨ c = 'E' then do
      let (power, rest) ← readPower rest
      return (← float? negative (digitsValue 10 whole) power, rest)
    else do
      let n : Int := digitsValue 10 whole
      return (← integer? (if negative then -n else n), c :: rest)
  | [] => do
    let n : Int := digitsValue 10 whole
    return (← integer? (if negative then -n else n), [])

def infinity : Float := 1.0 / 0.0

def notANumber : Float := 0.0 / 0.0

/-- A number that begins with a sign or a digit, or is named. -/
def readNumber : List Char → Option (Toml × List Char)
  | '0' :: 'x' :: rest => readBased 16 rest
  | '0' :: 'o' :: rest => readBased 8 rest
  | '0' :: 'b' :: rest => readBased 2 rest
  | cs =>
    match readSign cs with
    | (negative, 'i' :: 'n' :: 'f' :: rest) =>
      some (.float (if negative then -infinity else infinity), rest)
    | (negative, 'n' :: 'a' :: 'n' :: rest) =>
      some (.float (if negative then -notANumber else notANumber), rest)
    | (negative, rest) => do
      let (whole, rest) ← readWhole rest
      readNumberEnd negative whole rest

/-! ## Dates and times of day -/

def twoDigits? : List Char → Option (Nat × List Char)
  | a :: b :: rest => do return (10 * (← Numeral.digit? a) + (← Numeral.digit? b), rest)
  | _ => none

def fourDigits? (cs : List Char) : Option (Nat × List Char) := do
  let (high, rest) ← twoDigits? cs
  let (low, rest) ← twoDigits? rest
  return (100 * high + low, rest)

/-- The fraction of a second, if there is one. -/
def skipFraction : List Char → Option (List Char)
  | '.' :: c :: rest => if isDigit c then some (rest.dropWhile isDigit) else none
  | '.' :: [] => none
  | rest => some rest

/-- The minutes and seconds behind an hour and its colon. A minute may have a sixty-first
second. -/
def skipMinutes (cs : List Char) : Option (List Char) := do
  let (minute, rest) ← twoDigits? cs
  match rest with
  | ':' :: rest =>
    let (second, rest) ← twoDigits? rest
    if minute ≤ 59 ∧ second ≤ 60 then skipFraction rest else none
  | _ => none

/-- The offset from universal time, if there is one. -/
def skipOffset : List Char → Option (List Char)
  | [] => some []
  | c :: rest =>
    if c = 'Z' ∨ c = 'z' then some rest
    else if c = '+' ∨ c = '-' then do
      let (hour, rest) ← twoDigits? rest
      match rest with
      | ':' :: rest =>
        let (minute, rest) ← twoDigits? rest
        if hour ≤ 23 ∧ minute ≤ 59 then some rest else none
      | _ => none
    else some (c :: rest)

/-- The time of day behind a date and its separator. -/
def skipTime (cs : List Char) : Option (List Char) := do
  match twoDigits? cs with
  | some (hour, ':' :: rest) => if hour ≤ 23 then skipOffset (← skipMinutes rest) else none
  | _ => none

/-- The month and the day behind a year and its hyphen. -/
def skipDay (year : Nat) (cs : List Char) : Option (List Char) := do
  let (month, rest) ← twoDigits? cs
  match rest with
  | '-' :: rest =>
    let (day, rest) ← twoDigits? rest
    if Date.isValid { year, month, day } then some rest else none
  | _ => none

def isSeparator (c : Char) : Bool := c = 'T' || c = 't' || c = ' '

/-- What follows a date, a time of day or both. -/
def skipDatetime (cs : List Char) : Option (List Char) := do
  match twoDigits? cs with
  | some (hour, ':' :: rest) => if hour ≤ 23 then skipMinutes rest else none
  | _ =>
    let (year, rest) ← fourDigits? cs
    match rest with
    | '-' :: rest =>
      let rest ← skipDay year rest
      match rest with
      | c :: more => if isSeparator c then some ((skipTime more).getD rest) else some rest
      | [] => some []
    | _ => none

/-- A date or a time of day rather than a number: two digits and a colon, or four and a hyphen. -/
def looksLikeDatetime (cs : List Char) : Bool :=
  match twoDigits? cs with
  | some (_, ':' :: _) => true
  | _ =>
    match fourDigits? cs with
    | some (_, '-' :: _) => true
    | _ => false

/-- A number, a date or a time of day. -/
def readScalar (cs : List Char) : Option (Toml × List Char) :=
  if looksLikeDatetime cs then do
    let rest ← skipDatetime cs
    return (.datetime (String.ofList (cs.take (cs.length - rest.length))), rest)
  else readNumber cs

end SessionKit.Toml
