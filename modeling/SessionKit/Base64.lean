import SessionKit.Bytes

/-!
# Base64 without padding

Three bytes are written as four symbols of six bits each; one or two bytes left over are written
as two or three symbols whose unused low bits are zero. The reader takes exactly the written
forms: it names the first foreign symbol, and it refuses padding, a lone last symbol and unused
bits that are set.
-/

namespace SessionKit.Base64

/-- The two alphabets differ in their last two symbols. -/
inductive Alphabet where
  | standard
  | urlSafe
  deriving DecidableEq, Repr

namespace Alphabet

/-- The last two symbols, for the values 62 and 63. -/
def last : Alphabet → Char × Char
  | standard => ('+', '/')
  | urlSafe => ('-', '_')

/-- The symbol of a six-bit value. -/
def symbol (t : Alphabet) (n : Nat) : Char :=
  if n < 26 then Char.ofNat (65 + n)
  else if n < 52 then Char.ofNat (71 + n)
  else if n < 62 then Char.ofNat (n - 4)
  else if n = 62 then t.last.1
  else t.last.2

/-- The six-bit value of a symbol, given as its byte. -/
def value? (t : Alphabet) (b : UInt8) : Option Nat :=
  let n := b.toNat
  if 65 ≤ n ∧ n ≤ 90 then some (n - 65)
  else if 97 ≤ n ∧ n ≤ 122 then some (n - 71)
  else if 48 ≤ n ∧ n ≤ 57 then some (n + 4)
  else if n = t.last.1.toNat then some 62
  else if n = t.last.2.toNat then some 63
  else none

end Alphabet

/-! ## Writing -/

def encode (t : Alphabet) : Bytes → List Char
  | [] => []
  | [a] => [t.symbol (a.toNat / 4), t.symbol (a.toNat % 4 * 16)]
  | [a, b] =>
    [t.symbol (a.toNat / 4), t.symbol (a.toNat % 4 * 16 + b.toNat / 16),
     t.symbol (b.toNat % 16 * 4)]
  | a :: b :: c :: rest =>
    t.symbol (a.toNat / 4) :: t.symbol (a.toNat % 4 * 16 + b.toNat / 16) ::
      t.symbol (b.toNat % 16 * 4 + c.toNat / 64) :: t.symbol (c.toNat % 64) :: encode t rest

def encodeText (t : Alphabet) (bs : Bytes) : String := String.ofList (encode t bs)

/-! ## Reading -/

/-- Why a text is no base64: offsets count bytes from the start. -/
inductive DecodeError where
  | invalidSymbol (offset : Nat) (symbol : UInt8)
  | invalidLastSymbol (offset : Nat) (symbol : UInt8)
  | invalidLength (length : Nat)
  | invalidPadding
  deriving DecidableEq, Repr

def DecodeError.message : DecodeError → String
  | invalidSymbol offset symbol => s!"Invalid symbol {symbol.toNat}, offset {offset}."
  | invalidLastSymbol offset symbol => s!"Invalid last symbol {symbol.toNat}, offset {offset}."
  | invalidLength length => s!"Invalid input length: {length}"
  | invalidPadding => "Invalid padding"

/-- The byte of the padding symbol `=`, which no alphabet contains. -/
def padding : UInt8 := 61

/-- The value of the symbol at `offset`. -/
def valueAt (t : Alphabet) (offset : Nat) (b : UInt8) : Except DecodeError Nat :=
  match t.value? b with
  | some v => .ok v
  | none => .error (.invalidSymbol offset b)

/-- The values of consecutive symbols, the first of them at `offset`. -/
def valuesFrom (t : Alphabet) : Nat → Bytes → Except DecodeError (List Nat)
  | _, [] => .ok []
  | offset, b :: rest => do
    let v ← valueAt t offset b
    return v :: (← valuesFrom t (offset + 1) rest)

/-- The bytes of the last two, three or four values, if the bits beyond them are zero. -/
def bytesOfLast (offset : Nat) (last : UInt8) : List Nat → Except DecodeError Bytes
  | [] => .ok []
  | [_] => .error (.invalidLength (offset + 1))
  | [x, y] =>
    if y % 16 = 0 then .ok [UInt8.ofNat (x * 4 + y / 16)]
    else .error (.invalidLastSymbol (offset + 1) last)
  | [x, y, z] =>
    if z % 4 = 0 then .ok [UInt8.ofNat (x * 4 + y / 16), UInt8.ofNat (y % 16 * 16 + z / 4)]
    else .error (.invalidLastSymbol (offset + 2) last)
  | x :: y :: z :: w :: _ =>
    .ok [UInt8.ofNat (x * 4 + y / 16), UInt8.ofNat (y % 16 * 16 + z / 4),
      UInt8.ofNat (z % 4 * 64 + w)]

/-- The last four bytes or fewer. Padding is misplaced unless it follows two symbols and runs to
the end, and even then it is refused. -/
def decodeLast (t : Alphabet) (offset : Nat) (bs : Bytes) : Except DecodeError Bytes := do
  let symbols := bs.takeWhile (· ≠ padding)
  let rest := bs.dropWhile (· ≠ padding)
  let values ← valuesFrom t offset symbols
  match rest with
  | [] => bytesOfLast offset (symbols.getLastD 0) values
  | _ :: _ =>
    if symbols.length < 2 ∨ rest.any (· ≠ padding) then
      .error (.invalidSymbol (offset + symbols.length) padding)
    else .error .invalidPadding

/-- Groups of four symbols as long as another byte follows, then the rest. -/
def decodeFrom (t : Alphabet) : Nat → Bytes → Except DecodeError Bytes
  | offset, a :: b :: c :: d :: e :: rest => do
    let x ← valueAt t offset a
    let y ← valueAt t (offset + 1) b
    let z ← valueAt t (offset + 2) c
    let w ← valueAt t (offset + 3) d
    let bytes ← decodeFrom t (offset + 4) (e :: rest)
    return UInt8.ofNat (x * 4 + y / 16) :: UInt8.ofNat (y % 16 * 16 + z / 4) ::
      UInt8.ofNat (z % 4 * 64 + w) :: bytes
  | offset, bs => decodeLast t offset bs

/-- A foreign last symbol that stands alone behind the groups of four is named first of all
faults. -/
def decode (t : Alphabet) (bs : Bytes) : Except DecodeError Bytes :=
  match bs.getLast? with
  | some b =>
    if bs.length % 4 = 1 ∧ b ≠ padding ∧ t.value? b = none then
      .error (.invalidSymbol (bs.length - 1) b)
    else decodeFrom t 0 bs
  | none => decodeFrom t 0 bs

def decodeText (t : Alphabet) (s : String) : Except DecodeError Bytes := decode t (Bytes.ofText s)

end SessionKit.Base64
