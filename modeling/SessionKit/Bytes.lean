/-!
# Byte strings

Texts and digests meet as byte strings: a text is read as its UTF-8 encoding, and a digest is
shown in lower-case hexadecimal.
-/

namespace SessionKit

/-- A byte string, first byte first. -/
abbrev Bytes := List UInt8

namespace Bytes

/-- The UTF-8 encoding of a text. -/
def ofText (s : String) : Bytes := s.toByteArray.data.toList

/-! ## Comparison -/

/-- Whether two byte strings are the same. Of strings of one length every pair of bytes is looked
at, also behind a pair that differs. Strings of different lengths are told apart by their
lengths. -/
def equal (a b : Bytes) : Bool :=
  if a.length = b.length then (List.zipWith (· == ·) a b).foldl (· && ·) true else false

theorem foldl_zipWith_beq {a b : Bytes} (length : a.length = b.length) (same : Bool) :
    (List.zipWith (· == ·) a b).foldl (· && ·) same = (same && a == b) := by
  induction a generalizing b same with
  | nil => simp [List.length_eq_zero_iff.mp length.symm]
  | cons x a ih =>
    cases b with
    | nil => cases length
    | cons y b => simp [ih (Nat.succ.inj length), List.cons_beq_cons, Bool.and_assoc]

theorem equal_eq_beq (a b : Bytes) : equal a b = (a == b) := by
  by_cases length : a.length = b.length
  · simp [equal, length, foldl_zipWith_beq length]
  · have differ : a ≠ b := fun same => length (congrArg List.length same)
    simp [equal, length, differ]

/-! ## Hexadecimal -/

/-- The lower-case digit of a value below sixteen. -/
def hexDigit (n : Nat) : Char := if n < 10 then Char.ofNat (48 + n) else Char.ofNat (87 + n)

/-- The value of a hexadecimal digit of either case. -/
def hexValue? (c : Char) : Option Nat :=
  if '0' ≤ c ∧ c ≤ '9' then some (c.toNat - 48)
  else if 'a' ≤ c ∧ c ≤ 'f' then some (c.toNat - 87)
  else if 'A' ≤ c ∧ c ≤ 'F' then some (c.toNat - 55)
  else none

/-- Two digits for each byte, the high half first. -/
def hexDigits : Bytes → List Char
  | [] => []
  | b :: rest => hexDigit (b.toNat / 16) :: hexDigit (b.toNat % 16) :: hexDigits rest

def toHex (bs : Bytes) : String := String.ofList (hexDigits bs)

/-- Reads pairs of digits; an odd count or any other character is refused. -/
def ofHexDigits? : List Char → Option Bytes
  | [] => some []
  | [_] => none
  | hi :: lo :: rest => do
    let high ← hexValue? hi
    let low ← hexValue? lo
    return UInt8.ofNat (16 * high + low) :: (← ofHexDigits? rest)

def ofHex? (s : String) : Option Bytes := ofHexDigits? s.toList

theorem length_hexDigits (bs : Bytes) : (hexDigits bs).length = 2 * bs.length := by
  induction bs with
  | nil => rfl
  | cons b rest ih => simp [hexDigits, ih]; omega

theorem hexValue?_hexDigit {n : Nat} (h : n < 16) : hexValue? (hexDigit n) = some n := by
  revert n
  decide

theorem ofHex?_toHex (bs : Bytes) : ofHex? (toHex bs) = some bs := by
  rw [ofHex?, toHex, String.toList_ofList]
  induction bs with
  | nil => rfl
  | cons b rest ih =>
    have small := b.toNat_lt
    have high := hexValue?_hexDigit (show b.toNat / 16 < 16 by omega)
    have low := hexValue?_hexDigit (Nat.mod_lt b.toNat (show 0 < 16 by decide))
    have whole : UInt8.ofNat (16 * (b.toNat / 16) + b.toNat % 16) = b := by
      rw [Nat.div_add_mod, UInt8.ofNat_toNat]
    simp only [hexDigits, ofHexDigits?, high, low, ih, Option.bind_eq_bind, Option.bind_some, whole]
    rfl

/-- No digit is in upper case. -/
theorem bounds_of_mem_hexDigits {bs : Bytes} {c : Char} (mem : c ∈ hexDigits bs) :
    ('0' ≤ c ∧ c ≤ '9') ∨ ('a' ≤ c ∧ c ≤ 'f') := by
  have lower : ∀ n < 16, ('0' ≤ hexDigit n ∧ hexDigit n ≤ '9') ∨
      ('a' ≤ hexDigit n ∧ hexDigit n ≤ 'f') := by decide
  induction bs with
  | nil => cases mem
  | cons b rest ih =>
    have small := b.toNat_lt
    rcases List.mem_cons.mp mem with rfl | mem
    · exact lower _ (by omega)
    rcases List.mem_cons.mp mem with rfl | mem
    · exact lower _ (by omega)
    · exact ih mem

/-! ## Words -/

/-- A 32-bit word, least significant byte first. -/
def littleEndian32 (w : UInt32) : Bytes :=
  [w.toUInt8, (w >>> 8).toUInt8, (w >>> 16).toUInt8, (w >>> 24).toUInt8]

/-- A 32-bit word, most significant byte first. -/
def bigEndian32 (w : UInt32) : Bytes :=
  [(w >>> 24).toUInt8, (w >>> 16).toUInt8, (w >>> 8).toUInt8, w.toUInt8]

/-- A 64-bit word, least significant byte first. -/
def littleEndian64 (w : UInt64) : Bytes :=
  [w.toUInt8, (w >>> 8).toUInt8, (w >>> 16).toUInt8, (w >>> 24).toUInt8,
   (w >>> 32).toUInt8, (w >>> 40).toUInt8, (w >>> 48).toUInt8, (w >>> 56).toUInt8]

/-- A 64-bit word, most significant byte first. -/
def bigEndian64 (w : UInt64) : Bytes := (littleEndian64 w).reverse

/-- Groups of four bytes as words, most significant byte first; a shorter rest is dropped. -/
def wordsBig32 : Bytes → List UInt32
  | a :: b :: c :: d :: rest =>
    (a.toUInt32 <<< 24 ||| b.toUInt32 <<< 16 ||| c.toUInt32 <<< 8 ||| d.toUInt32) :: wordsBig32 rest
  | _ => []

/-- Groups of eight bytes as words, least significant byte first; a shorter rest is dropped. -/
def wordsLittle64 : Bytes → List UInt64
  | a :: b :: c :: d :: e :: f :: g :: h :: rest =>
    (a.toUInt64 ||| b.toUInt64 <<< 8 ||| c.toUInt64 <<< 16 ||| d.toUInt64 <<< 24 |||
      e.toUInt64 <<< 32 ||| f.toUInt64 <<< 40 ||| g.toUInt64 <<< 48 ||| h.toUInt64 <<< 56) ::
      wordsLittle64 rest
  | _ => []

@[simp] theorem length_littleEndian64 (w : UInt64) : (littleEndian64 w).length = 8 := rfl

end Bytes
end SessionKit
