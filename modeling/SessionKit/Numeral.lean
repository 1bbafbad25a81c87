/-!
# Decimal numerals

A numeral is one or more ASCII digits, optionally behind a plus sign. Readers that are given a
bound refuse larger values. Of texts for reals only the form is checked.
-/

namespace SessionKit.Numeral

/-- A power of two. -/
def twoTo (n : Nat) : Nat := Nat.pow 2 n

/-- A power of ten. -/
def tenTo (n : Nat) : Nat := Nat.pow 10 n

def digit? (c : Char) : Option Nat :=
  if '0' ≤ c ∧ c ≤ '9' then some (c.toNat - 48) else none

/-- The value of a run of digits that continues the value read so far. -/
def valueFrom? : Nat → List Char → Option Nat
  | n, [] => some n
  | n, c :: rest => do valueFrom? (10 * n + (← digit? c)) rest

/-- The value of one digit or more. -/
def digits? : List Char → Option Nat
  | [] => none
  | cs => valueFrom? 0 cs

def unsigned? : List Char → Option Nat
  | '+' :: cs => digits? cs
  | cs => digits? cs

/-- The value of a numeral that is at most `max`. -/
def bounded? (max : Nat) (cs : List Char) : Option Nat :=
  match unsigned? cs with
  | some n => if n ≤ max then some n else none
  | none => none

/-- The largest 32-bit value. -/
def max32 : Nat := twoTo 32 - 1

/-- The largest 64-bit value. -/
def max64 : Nat := twoTo 64 - 1

/-- The largest signed 64-bit value. -/
def maxSigned64 : Nat := twoTo 63 - 1

/-- The least signed 64-bit value. -/
def minSigned64 : Int := -(twoTo 63 : Nat)

def word32? (cs : List Char) : Option UInt32 := (bounded? max32 cs).map UInt32.ofNat

/-- The decimal digits of a number, without leading zeros. -/
def write (n : Nat) : List Char := Nat.toDigits 10 n

/-- The decimal digits, with leading zeros up to a width. -/
def writePadded (width n : Nat) : List Char :=
  List.replicate (width - (write n).length) '0' ++ write n

/-! ## Reals -/

/-- Drops a sign. -/
def unsign : List Char → List Char
  | '+' :: cs => cs
  | '-' :: cs => cs
  | cs => cs

/-- Whether a text is nothing, or a power of ten behind the letter for one. -/
def isPower : List Char → Bool
  | [] => true
  | c :: cs => (c = 'e' || c = 'E') && (digits? (unsign cs)).isSome

/-- Whether a text is a real number: digits with at most one point among or around them and maybe a
power of ten, or a word for what is beyond all numbers or is none. -/
def isReal (cs : List Char) : Bool :=
  let cs := unsign cs
  let whole := cs.takeWhile Char.isDigit
  let (part, rest) := match cs.dropWhile Char.isDigit with
    | '.' :: more => (more.takeWhile Char.isDigit, more.dropWhile Char.isDigit)
    | more => ([], more)
  (String.ofList cs).toLower ∈ ["inf", "infinity", "nan"] ||
    (!(whole ++ part).isEmpty && isPower rest)

end SessionKit.Numeral
