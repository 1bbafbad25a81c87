/-!
# Parts of texts

A text is cut at its blanks, or at places that are told by how many bytes of its encoding stand
before them. Such a place may fall inside a character or behind the end, and then there is no slice.
-/

namespace SessionKit.Text

/-! ## Blanks -/

/-- The characters that Unicode counts as white space. -/
def isBlank (c : Char) : Bool :=
  let n := c.toNat
  (0x09 ≤ n && n ≤ 0x0d) || n = 0x20 || n = 0x85 || n = 0xa0 || n = 0x1680 ||
    (0x2000 ≤ n && n ≤ 0x200a) || n = 0x2028 || n = 0x2029 || n = 0x202f || n = 0x205f ||
    n = 0x3000

def skipBlanks (cs : List Char) : List Char := cs.dropWhile isBlank

/-- A text without blanks at its ends. -/
def trim (cs : List Char) : List Char := (skipBlanks (skipBlanks cs).reverse).reverse

/-! ## Byte positions -/

/-- What stands behind a number of bytes. -/
def dropBytes? : Nat → List Char → Option (List Char)
  | 0, cs => some cs
  | _ + 1, [] => none
  | n + 1, c :: rest => if c.utf8Size ≤ n + 1 then dropBytes? (n + 1 - c.utf8Size) rest else none

/-- What a number of bytes at the start holds. -/
def takeBytes? : Nat → List Char → Option (List Char)
  | 0, _ => some []
  | _ + 1, [] => none
  | n + 1, c :: rest =>
    if c.utf8Size ≤ n + 1 then (c :: ·) <$> takeBytes? (n + 1 - c.utf8Size) rest else none

/-- The part of a text from one byte position up to another. -/
def slice? (cs : List Char) (first past : Nat) : Option String := do
  let found ← takeBytes? (past - first) (← dropBytes? first cs)
  return String.ofList found

/-- The part of a text from a byte position on. -/
def sliceFrom? (cs : List Char) (first : Nat) : Option String :=
  String.ofList <$> dropBytes? first cs

end SessionKit.Text
