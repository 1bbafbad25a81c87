import SessionKit.Time.Calendar
import SessionKit.Time.Duration

/-!
# Points in time

A point in universal time, to the nanosecond, between the years -262143 and 262142. A leap second
has no number of its own: it is the second before it with a second's worth of nanoseconds more.
-/

namespace SessionKit

def secondsPerDay : Int := 86400

def nanosPerSecond : Nat := 1000000000

/-- The first second of the year -262143. -/
def Timestamp.firstSecond : Int := -8334601228800

/-- The last second of the year 262142. -/
def Timestamp.lastSecond : Int := 8210266876799

structure Timestamp where
  /-- Since 1970-01-01 00:00:00. -/
  seconds : Int
  nanos : Nat
  inRange : Timestamp.firstSecond ≤ seconds ∧ seconds ≤ Timestamp.lastSecond
  nanos_lt : nanos < 2 * nanosPerSecond
  deriving DecidableEq, Repr

namespace Timestamp

/-- A point in time, if it is in range. -/
def make? (seconds : Int) (nanos : Nat) : Option Timestamp :=
  if inRange : firstSecond ≤ seconds ∧ seconds ≤ lastSecond then
    if nanos_lt : nanos < 2 * nanosPerSecond then some { seconds, nanos, inRange, nanos_lt }
    else none
  else none

def epoch : Timestamp where
  seconds := 0
  nanos := 0
  inRange := by decide
  nanos_lt := by decide

def isLeap (t : Timestamp) : Bool := nanosPerSecond ≤ t.nanos

/-! ## Order -/

instance : LT Timestamp where
  lt s t := s.seconds < t.seconds ∨ (s.seconds = t.seconds ∧ s.nanos < t.nanos)

instance : LE Timestamp where
  le s t := s.seconds < t.seconds ∨ (s.seconds = t.seconds ∧ s.nanos ≤ t.nanos)

instance (s t : Timestamp) : Decidable (s < t) :=
  inferInstanceAs (Decidable (s.seconds < t.seconds ∨ (s.seconds = t.seconds ∧ s.nanos < t.nanos)))

instance (s t : Timestamp) : Decidable (s ≤ t) :=
  inferInstanceAs (Decidable (s.seconds < t.seconds ∨ (s.seconds = t.seconds ∧ s.nanos ≤ t.nanos)))

/-! ## Arithmetic -/

/-- The nanoseconds since 1970-01-01. -/
def sinceEpoch (t : Timestamp) : Int := t.seconds * nanosPerSecond + t.nanos

/-- A number of nanoseconds since 1970-01-01 as seconds and nanoseconds. -/
def ofNanos? (n : Int) : Option Timestamp :=
  make? (n / nanosPerSecond) (n % nanosPerSecond).toNat

/-- The point in time that much later, if it is in range. A length of time that does not lead out
of a leap second stays in it. One that leads forward out of it counts from the second before, and
one that leads back by a second or more counts from the second after. -/
def add? (t : Timestamp) (d : Duration) : Option Timestamp :=
  let behind := t.nanos + d.nanoseconds
  if ¬ t.isLeap ∨ d.wholeSeconds < 0 then ofNanos? (t.sinceEpoch + d.nanoseconds)
  else if 0 < d.wholeSeconds ∨ 2 * nanosPerSecond ≤ behind then
    ofNanos? (t.sinceEpoch + d.nanoseconds - nanosPerSecond)
  else make? t.seconds behind.toNat

def secondOfDay (t : Timestamp) : Int := t.seconds % secondsPerDay

/-- How much later a point in time is than another. A leap second counts when the later time of day
is behind it. -/
def since (t s : Timestamp) : Duration :=
  let leap : Int :=
    if s.secondOfDay < t.secondOfDay then if s.isLeap then 1 else 0
    else if t.secondOfDay < s.secondOfDay then if t.isLeap then -1 else 0
    else 0
  ⟨t.sinceEpoch - s.sinceEpoch + leap * nanosPerSecond⟩

/-! ## Written form -/

def date (t : Timestamp) : Date := Date.ofDays (t.seconds / secondsPerDay)

/-- A year has four digits, and a sign when they do not suffice. -/
def yearText (year : Int) : List Char :=
  if year < 0 then '-' :: Numeral.writePadded 4 year.natAbs
  else if year < 10000 then Numeral.writePadded 4 year.natAbs
  else '+' :: Numeral.write year.natAbs

def dateText (t : Timestamp) : List Char :=
  yearText t.date.year ++ '-' :: Numeral.writePadded 2 t.date.month ++
    '-' :: Numeral.writePadded 2 t.date.day

/-- A fraction of a second in as many groups of three digits as it needs. -/
def fractionText (nanos : Nat) : List Char :=
  if nanos = 0 then []
  else if nanos % 1000000 = 0 then '.' :: Numeral.writePadded 3 (nanos / 1000000)
  else if nanos % 1000 = 0 then '.' :: Numeral.writePadded 6 (nanos / 1000)
  else '.' :: Numeral.writePadded 9 nanos

/-- Hours, minutes and seconds. -/
def clockText (t : Timestamp) : List Char :=
  let second := t.secondOfDay.toNat
  let shown := if t.isLeap then second % 60 + 1 else second % 60
  Numeral.writePadded 2 (second / 3600) ++ ':' :: Numeral.writePadded 2 (second / 60 % 60) ++
    ':' :: Numeral.writePadded 2 shown

def timeText (t : Timestamp) : List Char := t.clockText ++ fractionText (t.nanos % nanosPerSecond)

/-- The date, the time of day behind a `T`, and `Z` for universal time. -/
def toText (t : Timestamp) : String :=
  String.ofList (t.dateText ++ 'T' :: t.timeText ++ ['Z'])

/-- The form of log lines, with six digits behind the point whatever they are. -/
def logText (t : Timestamp) : String :=
  String.ofList (t.dateText ++ 'T' :: t.clockText ++
    '.' :: Numeral.writePadded 6 (t.nanos % nanosPerSecond / 1000) ++ ['Z'])

/-- A form for readers. -/
def display (t : Timestamp) : String :=
  String.ofList (t.dateText ++ ' ' :: t.timeText) ++ " UTC"

end Timestamp
end SessionKit
