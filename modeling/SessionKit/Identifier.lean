import SessionKit.Credential
import SessionKit.Random

/-!
# Random identifiers

Identifiers are drawn from an alphabet by rejection. Each random byte is cut down to as many low
bits as the highest position in the alphabet needs; what still falls outside is thrown away, so
that no character is favoured. Bytes are asked for in batches, and whatever is left of the last
batch is dropped.
-/

namespace SessionKit.Identifier

structure Alphabet where
  characters : List Char
  ascii : ∀ c ∈ characters, c.toNat < 128
  minLength_le : minAlphabetLength ≤ characters.length
  le_maxLength : characters.length ≤ maxAlphabetLength

namespace Alphabet

theorem isAscii_of_all {cs : List Char} (h : cs.all (·.toNat < 128)) :
    ∀ c ∈ cs, c.toNat < 128 :=
  fun c member => of_decide_eq_true (List.all_eq_true.mp h c member)

/-- The characters of a text in their order. Foreign characters are found before the length is
looked at. -/
def ofText (s : String) : Except AlphabetError Alphabet :=
  if ascii : s.toList.all (·.toNat < 128) then
    if least : minAlphabetLength ≤ s.toList.length then
      if most : s.toList.length ≤ maxAlphabetLength then
        .ok ⟨s.toList, isAscii_of_all ascii, least, most⟩
      else .error .tooLong
    else .error .tooShort
  else .error .notAscii

def toText (a : Alphabet) : String := String.ofList a.characters

def size (a : Alphabet) : Nat := a.characters.length

/-- The smallest run of low bits that covers the positions below `size`. -/
def maskOf (size : Nat) : Nat := Numeral.twoTo ((size - 1).log2 + 1) - 1

def mask (a : Alphabet) : Nat := maskOf a.size

/-- The character that a random byte selects, if it selects one. -/
def select? (a : Alphabet) (b : UInt8) : Option Char := a.characters[b.toNat &&& a.mask]?

/-- How many bytes are asked for at a time: enough for most identifiers of this length. -/
def batch (a : Alphabet) (length : Nat) : Nat :=
  let wanted := 1.6 * a.mask.toFloat * length.toFloat / a.size.toFloat
  max 1 wanted.ceil.toUInt64.toNat

end Alphabet

/-- Sixty-four characters that need no escaping in a URL. -/
def defaultCharacters : String :=
  "ABCDEFGHIJKLMNOPQRSTUVWXYZabcdefghijklmnopqrstuvwxyz0123456789_-"

def defaultAlphabet : Alphabet where
  characters := defaultCharacters.toList
  ascii := Alphabet.isAscii_of_all (by decide +kernel)
  minLength_le := by decide
  le_maxLength := by decide

/-- 132 bits of the default alphabet. -/
def defaultLength : Nat := 22

/-- The length of an identifier: none and zero stand for the default. -/
def drawnLength : Option Nat → Nat
  | some (n + 1) => n + 1
  | _ => defaultLength

/-- Asks for up to `batches` batches until `need` characters are selected. -/
def collect (a : Alphabet) (batch : Nat) :
    (batches need : Nat) → Draw (Except CredentialError (List Char))
  | 0, _ => .done (.error (.random Random.exhausted))
  | batches + 1, need => .ask batch fun
    | .error reason => .done (.error (.random reason))
    | .ok v =>
      let found := (v.toList.filterMap a.select?).take need
      if found.length < need then
        (collect a batch batches (need - found.length)).bind fun more =>
          .done (more.map (found ++ ·))
      else .done (.ok found)

/-- Draws an identifier out of at most `batches` batches. -/
def draw (a : Alphabet) (batches : Nat) (length : Option Nat) :
    Draw (Except CredentialError String) := do
  let size := drawnLength length
  return (← collect a (a.batch size) batches size).map String.ofList

/-- Draws an identifier from a source, which has no more batches than bytes. -/
def drawFrom {σ : Type} (source : Source σ) (a : Alphabet) (length : Option Nat) (s : σ) :
    Except CredentialError String × σ :=
  source.run (draw a (source.remaining s + 1) length) s

end SessionKit.Identifier
