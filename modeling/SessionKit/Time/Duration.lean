import SessionKit.Numeral

/-!
# Lengths of time
-/

namespace SessionKit

/-- A length of time, of either sign. -/
structure Duration where
  nanoseconds : Int
  deriving DecidableEq, Repr

namespace Duration

def ofSeconds (n : Int) : Duration := ⟨n * 1000000000⟩

def ofMilliseconds (n : Int) : Duration := ⟨n * 1000000⟩

/-- The longest length of time that is counted in milliseconds with 64 bits; the shortest is as far
below zero. -/
def longest : Duration := ofMilliseconds Numeral.maxSigned64

def shortest : Duration := ofMilliseconds (-Numeral.maxSigned64)

/-- A number of seconds, brought into the range of what milliseconds can count. -/
def saturating (seconds : Int) : Duration :=
  if seconds.natAbs ≤ Numeral.maxSigned64 / 1000 then ofSeconds seconds
  else if seconds < 0 then shortest
  else longest

/-- Whole seconds, towards zero. -/
def wholeSeconds (d : Duration) : Int := d.nanoseconds.tdiv 1000000000

/-- The nanoseconds beside the whole seconds, with the same sign. -/
def subsecondNanos (d : Duration) : Int := d.nanoseconds.tmod 1000000000

/-- Whole milliseconds, towards zero. -/
def wholeMilliseconds (d : Duration) : Int := d.nanoseconds.tdiv 1000000

/-- Nine digits without the zeros at their end. -/
def fraction (nanos : Nat) : List Char :=
  ((Numeral.writePadded 9 nanos).reverse.dropWhile (· = '0')).reverse

/-- Written as a period of seconds, such as PT5S. -/
def text (d : Duration) : String :=
  let magnitude := d.nanoseconds.natAbs
  let sign := if d.nanoseconds < 0 then "-" else ""
  if magnitude = 0 then "P0D"
  else
    let behind := magnitude % 1000000000
    let point := if behind = 0 then [] else '.' :: fraction behind
    s!"{sign}PT{magnitude / 1000000000}" ++ String.ofList point ++ "S"

end Duration
end SessionKit
