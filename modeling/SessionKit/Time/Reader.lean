import SessionKit.Text.Slice
import SessionKit.Time.Timestamp

/-!
# Reading points in time

The written form of points in time, read leniently: blanks may stand before every part, parts may
lack their leading zeros, any blank or `t` may separate the date from the time of day, and the
offset may lack its colon or be `UTC`. A number is checked against its range as soon as it is read.
-/

namespace SessionKit

inductive TimeError where
  | outOfRange
  /-- The offset leads out of the calendar. -/
  | impossible
  | tooShort
  | invalid
  | tooLong
  deriving DecidableEq, Repr

def TimeError.message : TimeError → String
  | outOfRange => "input is out of range"
  | impossible => "no possible date and time matching input"
  | tooShort => "premature end of input"
  | invalid => "input contains invalid characters"
  | tooLong => "trailing input"

namespace Timestamp

open Text (skipBlanks)

/-- The value of digits that follow a first one, at most `most` of them. It must fit 64 bits with
a sign. -/
def readMore : (most : Nat) → Nat → List Char → Except TimeError (Nat × List Char)
  | most + 1, n, c :: rest =>
    match Numeral.digit? c with
    | some d =>
      if 10 * n + d ≤ Numeral.maxSigned64 then readMore most (10 * n + d) rest
      else .error .outOfRange
    | none => .ok (n, c :: rest)
  | _, n, cs => .ok (n, cs)

/-- One digit up to `most`. -/
def readNumber (most : Nat) : List Char → Except TimeError (Nat × List Char)
  | [] => .error .tooShort
  | c :: rest => if (Numeral.digit? c).isSome then readMore most 0 (c :: rest) else .error .invalid

/-- A number within bounds, behind blanks. -/
def readPart (least most : Nat) (cs : List Char) : Except TimeError (Nat × List Char) := do
  let (n, rest) ← readNumber 2 (skipBlanks cs)
  if least ≤ n ∧ n ≤ most then return (n, rest) else throw .outOfRange

/-- A year of up to four digits, or of any number of digits behind a sign. It must fit 32 bits. -/
def readYear (cs : List Char) : Except TimeError (Int × List Char) := do
  let (year, rest) ← match skipBlanks cs with
    | '-' :: rest => do
      let (n, rest) ← readNumber rest.length rest
      pure (-(n : Int), rest)
    | '+' :: rest => do
      let (n, rest) ← readNumber rest.length rest
      pure ((n : Int), rest)
    | rest => do
      let (n, rest) ← readNumber 4 rest
      pure ((n : Int), rest)
  if -(Numeral.twoTo 31 : Int) ≤ year ∧ year < Numeral.twoTo 31 then return (year, rest)
  else throw .outOfRange

/-- A separator behind blanks. -/
def readMark (mark : Char) (cs : List Char) : Except TimeError (List Char) :=
  match skipBlanks cs with
  | [] => .error .tooShort
  | c :: rest => if c = mark then .ok rest else .error .invalid

/-- The nanoseconds of a fraction, if there is one; digits behind the ninth do not count. -/
def readFraction : List Char → Except TimeError (Nat × List Char)
  | '.' :: rest => do
    let (n, more) ← readNumber 9 rest
    return (n * Numeral.tenTo (9 - (rest.length - more.length)),
      more.dropWhile fun c => (Numeral.digit? c).isSome)
  | cs => .ok (0, cs)

def isOffsetBlank (c : Char) : Bool := c = ':' || Text.isBlank c

/-- Two digits; a single character of one byte is too short for them. -/
def readTwoDigits : List Char → Except TimeError (Nat × List Char)
  | a :: b :: rest =>
    match Numeral.digit? a, Numeral.digit? b with
    | some x, some y => .ok (10 * x + y, rest)
    | _, _ => .error .invalid
  | [a] => if a.toNat < 128 then .error .tooShort else .error .invalid
  | [] => .error .tooShort

/-- Hours and minutes of an offset, in seconds. -/
def readOffsetTime (cs : List Char) : Except TimeError (Int × List Char) := do
  let (hours, rest) ← readTwoDigits cs
  let (minutes, rest) ← readTwoDigits (rest.dropWhile isOffsetBlank)
  if 59 < minutes then throw .outOfRange
  return ((hours * 3600 + minutes * 60 : Nat), rest)

/-- The offset from universal time, in seconds. -/
def readOffset (cs : List Char) : Except TimeError (Int × List Char) :=
  match cs with
  | [] => .error .tooShort
  | c :: rest =>
    if (cs.take 3).map Char.toUpper = ['U', 'T', 'C'] then .ok (0, cs.drop 3)
    else if c = 'Z' ∨ c = 'z' then .ok (0, rest)
    else if c = '+' then readOffsetTime rest
    else if c = '-' ∨ c = '−' then do
      let (offset, rest) ← readOffsetTime rest
      return (-offset, rest)
    else .error .invalid

/-- The separator of date and time of day. -/
def readSeparator : List Char → Except TimeError (List Char)
  | [] => .error .tooShort
  | c :: rest => if c = 't' ∨ c = 'T' ∨ c = ' ' then .ok rest else .error .invalid

/-- The years of which the calendar has dates. -/
def hasYear (year : Int) : Bool := -262143 ≤ year && year ≤ 262142

/-- A point in time out of its parts. The sixty-first second is a leap second. -/
def assemble (date : Date) (hour minute second nanos : Nat) (offset : Int) :
    Except TimeError Timestamp :=
  let shown := min second 59
  let leap := if second = 60 then nanosPerSecond else 0
  if ¬ hasYear date.year ∨ ¬ date.isValid ∨ secondsPerDay ≤ offset.natAbs then .error .outOfRange
  else
    let seconds := date.toDays * secondsPerDay + (hour * 3600 + minute * 60 + shown : Nat) - offset
    match make? seconds (nanos + leap) with
    | some t => .ok t
    | none => .error .impossible

def parse (s : String) : Except TimeError Timestamp := do
  let (year, rest) ← readYear s.toList
  let (month, rest) ← readPart 1 12 (← readMark '-' rest)
  let (day, rest) ← readPart 1 31 (← readMark '-' rest)
  let (hour, rest) ← readPart 0 23 (← readSeparator rest)
  let (minute, rest) ← readPart 0 59 (← readMark ':' rest)
  let (second, rest) ← readPart 0 60 (← readMark ':' rest)
  let (nanos, rest) ← readFraction rest
  let (offset, rest) ← readOffset (skipBlanks rest)
  if skipBlanks rest ≠ [] then throw .tooLong
  assemble { year, month, day } hour minute second nanos offset

end Timestamp
end SessionKit
