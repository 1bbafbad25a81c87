import SessionKit.Numeral

/-!
# Decimals of floating-point numbers

Both directions are exact arithmetic. The number that a decimal stands for is the nearest one, and
the even one of two. The decimal that is written for a number is the one with the fewest digits
among those that read back as that number, and of these the nearest: the numbers that round to the
given one form an interval, and for each count of digits the two neighbours on that decimal grid
are tested against it. Where both are equally near, the form that is written says which one counts.
-/

namespace SessionKit

/-- The number `digits * 10 ^ exponent`. -/
structure Decimal where
  digits : Nat
  exponent : Int
  deriving DecidableEq, Repr

namespace Decimal

/-- The number of decimal digits. -/
def width (n : Nat) : Nat := (Nat.toDigits 10 n).length

/-! ## The nearest number -/

/-- The exponent of the least unit in the last place. -/
def leastExponent : Int := -1074

/-- The bits of infinity, greater than those of any finite number. -/
def infinityBits : Nat := 2047 * Numeral.twoTo 52

/-- The bits of the number nearest to `n / d`, for `0 < n`. The quotient is cut at the unit in the
last place, and a carry runs on into the exponent's bits. -/
def nearestBits (n d : Nat) : Nat :=
  let scaled (e : Int) : Nat × Nat := (n * Numeral.twoTo (-e).toNat, d * Numeral.twoTo e.toNat)
  let fits (e : Int) : Bool := (scaled e).1 / (scaled e).2 < Numeral.twoTo 53
  let guess := (n.log2 : Int) - d.log2 - 53
  let e := max (if fits guess then guess else guess + 1) leastExponent
  let (top, bottom) := scaled e
  let quotient := top / bottom
  let rest := 2 * (top % bottom)
  let up := bottom < rest || (rest = bottom && quotient % 2 = 1)
  let rounded := if up then quotient + 1 else quotient
  min ((e - leastExponent).toNat * Numeral.twoTo 52 + rounded) infinityBits

/-- The number nearest to a decimal. What is far beyond the greatest number or far below the least
one is not worked out. -/
def toFloat (x : Decimal) : Float :=
  let place := x.exponent + width x.digits
  if x.digits = 0 ∨ place < -330 then 0
  else if 310 < place then Float.ofBits (UInt64.ofNat infinityBits)
  else
    Float.ofBits <| UInt64.ofNat <|
      nearestBits (x.digits * Numeral.tenTo x.exponent.toNat) (Numeral.tenTo (-x.exponent).toNat)

/-! ## The shortest decimal -/

/-- A positive rational and the interval of the numbers that round to it, over one denominator. -/
structure Interval where
  low : Nat
  value : Nat
  high : Nat
  denominator : Nat
  /-- Whether the ends round to the value too. -/
  closed : Bool

/-- The interval of `mantissa * 2 ^ exponent`. The gap below a power of two is half as wide, unless
that power is the least exponent `least`. -/
def Interval.ofBinary (mantissa : Nat) (exponent least : Int) : Interval :=
  let narrow := mantissa = Numeral.twoTo 52 ∧ least < exponent
  let low := if narrow then 4 * mantissa - 1 else 4 * mantissa - 2
  let scale := exponent - 2
  let up := Numeral.twoTo scale.toNat
  { low := low * up, value := 4 * mantissa * up, high := (4 * mantissa + 2) * up
    denominator := Numeral.twoTo (-scale).toNat, closed := mantissa % 2 = 0 }

/-- Whether `digits * 10 ^ exponent` lies in the interval. -/
def Interval.holds (i : Interval) (digits : Nat) (exponent : Int) : Bool :=
  let number := digits * Numeral.tenTo exponent.toNat * i.denominator
  let scale := Numeral.tenTo (-exponent).toNat
  if i.closed then i.low * scale ≤ number && number ≤ i.high * scale
  else i.low * scale < number && number < i.high * scale

/-- The place of the first digit: `10 ^ (place - 1) ≤ value < 10 ^ place`. -/
def Interval.place (i : Interval) : Int :=
  if i.denominator ≤ i.value then width (i.value / i.denominator)
  else
    let zeros := width (i.denominator / i.value) - 1
    if i.value * Numeral.tenTo zeros = i.denominator then 1 - (zeros : Int) else -(zeros : Int)

/-- Which of two decimals counts that are equally near. -/
inductive Tie where
  | toEven
  | upward
  deriving DecidableEq, Repr

/-- Whether the lower one of two neighbours counts. -/
def Tie.isDownward (tie : Tie) (below : Nat) : Bool :=
  match tie with
  | toEven => below % 2 = 0
  | upward => false

/-- The nearer of the value's neighbours on the grid of multiples of `10 ^ exponent`, among those
that lie in the interval. -/
def Interval.nearest? (i : Interval) (tie : Tie) (exponent : Int) : Option Decimal :=
  let unit := Numeral.tenTo exponent.toNat * i.denominator
  let scaled := i.value * Numeral.tenTo (-exponent).toNat
  let below := scaled / unit
  let rest := scaled % unit
  let downward := if 2 * rest = unit then tie.isDownward below else 2 * rest < unit
  match i.holds below exponent, i.holds (below + 1) exponent with
  | true, true => some ⟨if downward then below else below + 1, exponent⟩
  | true, false => some ⟨below, exponent⟩
  | false, true => some ⟨below + 1, exponent⟩
  | false, false => none

/-- Tries `count` digits and then more, up to the seventeen that always suffice. -/
def Interval.search (i : Interval) (tie : Tie) (place : Int) :
    (tries : Nat) → (count : Nat) → Decimal
  | 0, _ => ⟨0, 0⟩
  | tries + 1, count =>
    match i.nearest? tie (place - count) with
    | some d => d
    | none => i.search tie place tries (count + 1)

/-- Trailing zeros are moved into the exponent. -/
def strip : (tries : Nat) → Decimal → Decimal
  | 0, d => d
  | tries + 1, d =>
    if d.digits % 10 = 0 ∧ d.digits ≠ 0 then strip tries ⟨d.digits / 10, d.exponent + 1⟩ else d

/-- The shortest decimal of the magnitude of a finite number other than zero. -/
def shortest (tie : Tie) (x : Float) : Decimal :=
  let bits := x.toBits.toNat
  let fraction := bits % Numeral.twoTo 52
  let biased := bits / Numeral.twoTo 52 % Numeral.twoTo 11
  let mantissa := if biased = 0 then fraction else fraction + Numeral.twoTo 52
  let exponent : Int := (max 1 biased : Nat) - 1075
  let i := Interval.ofBinary mantissa exponent leastExponent
  strip 20 (i.search tie i.place 17 1)

/-! ## Written forms -/

def isNegative (x : Float) : Bool := x.toBits >>> 63 = 1

/-- Every place down to the last digit, and at least one behind the point. -/
def positional (d : Decimal) : List Char :=
  let ds := Nat.toDigits 10 d.digits
  if 0 ≤ d.exponent then ds ++ List.replicate d.exponent.toNat '0' ++ ['.', '0']
  else
    let point := (ds.length : Int) + d.exponent
    if 0 < point then ds.take point.toNat ++ '.' :: ds.drop point.toNat
    else ['0', '.'] ++ List.replicate (-point).toNat '0' ++ ds

/-- A power of ten with its sign, which is also written when it is a plus. -/
def powerText (power : Int) : List Char :=
  'e' :: (if power < 0 then '-' else '+') :: Numeral.write power.natAbs

/-- One digit before the point, and a power of ten. -/
def scientific (d : Decimal) : List Char :=
  let ds := Numeral.write d.digits
  let mantissa := match ds with
    | c :: rest@(_ :: _) => c :: '.' :: rest
    | ds => ds
  mantissa ++ powerText (d.exponent + ds.length - 1)

/-- A number in words of digits, with the sign that its bits carry. -/
def textWith (tie : Tie) (write : Decimal → List Char) (x : Float) : String :=
  if x.isNaN then "NaN"
  else
    let magnitude :=
      if x.isInf then ['i', 'n', 'f']
      else if x == 0.0 then ['0', '.', '0']
      else write (shortest tie x)
    String.ofList (if isNegative x then '-' :: magnitude else magnitude)

/-- Positional at every size; the greater one of two equally near decimals. -/
def plainText (x : Float) : String := textWith .upward positional x

/-- Positional from a hundred-thousandth up to sixteen digits before the point; the even one of two
equally near decimals. -/
def compactText (x : Float) : String :=
  textWith .toEven (fun d =>
    let place := d.exponent + width d.digits
    if -5 < place ∧ place ≤ 16 then positional d else scientific d) x

end Decimal
end SessionKit
