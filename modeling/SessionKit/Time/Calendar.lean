/-!
# The Gregorian calendar

Days are counted from 1970-01-01, back before it too. Inside the arithmetic a year begins in March,
so that a leap day is its last one.
-/

namespace SessionKit

structure Date where
  year : Int
  month : Nat
  day : Nat
  deriving DecidableEq, Repr

namespace Date

def isLeapYear (year : Int) : Bool := year % 4 = 0 && (year % 100 ≠ 0 || year % 400 = 0)

def daysInMonth (year : Int) (month : Nat) : Nat :=
  if month = 2 then if isLeapYear year then 29 else 28
  else if month = 4 ∨ month = 6 ∨ month = 9 ∨ month = 11 then 30
  else 31

/-- Whether the calendar has the date. -/
def isValid (d : Date) : Bool :=
  1 ≤ d.month && d.month ≤ 12 && 1 ≤ d.day && d.day ≤ daysInMonth d.year d.month

/-- The days of 400 years. -/
def cycle : Int := 146097

/-- The days from 0000-03-01 to 1970-01-01. -/
def epoch : Int := 719468

/-- The days before a month in a year that begins in March; months count from zero. -/
def daysBeforeMonth (month : Int) : Int := (153 * month + 2) / 5

/-- The number of days from 1970-01-01. -/
def toDays (d : Date) : Int :=
  let month : Int := d.month
  let year := if d.month ≤ 2 then d.year - 1 else d.year
  let fromMarch := if d.month ≤ 2 then month + 9 else month - 3
  let ofCycle := year % 400
  year / 400 * cycle + ofCycle * 365 + ofCycle / 4 - ofCycle / 100 +
    daysBeforeMonth fromMarch + (d.day - 1) - epoch

/-- The date that many days from 1970-01-01. -/
def ofDays (days : Int) : Date :=
  let n := days + epoch
  let rest := n % cycle
  let ofCycle := (rest - rest / 1460 + rest / 36524 - rest / 146096) / 365
  let dayOfYear := rest - (365 * ofCycle + ofCycle / 4 - ofCycle / 100)
  let fromMarch := (5 * dayOfYear + 2) / 153
  let year := n / cycle * 400 + ofCycle
  let day := (dayOfYear - daysBeforeMonth fromMarch + 1).toNat
  if fromMarch < 10 then { year, month := (fromMarch + 3).toNat, day }
  else { year := year + 1, month := (fromMarch - 9).toNat, day }

end Date
end SessionKit
