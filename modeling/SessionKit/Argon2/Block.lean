import SessionKit.Digest.Row

/-!
# Blocks of memory

A block is 1024 bytes: eight rows of sixteen words. Compression mixes every row and then every
column, where a column takes two neighbouring words of each row.
-/

namespace SessionKit.Argon2

structure Block where
  r0 : Row
  r1 : Row
  r2 : Row
  r3 : Row
  r4 : Row
  r5 : Row
  r6 : Row
  r7 : Row

/-- Sum plus twice the product of the low halves. -/
@[inline] def multiplyAdd (x y : UInt64) : UInt64 :=
  x + y + 2 * (x &&& 0xffffffff) * (y &&& 0xffffffff)

@[inline] def mix {β : Type} (a b c d : UInt64)
    (next : UInt64 → UInt64 → UInt64 → UInt64 → β) : β :=
  let a := multiplyAdd a b
  let d := Row.rotateRight (d ^^^ a) 32
  let c := multiplyAdd c d
  let b := Row.rotateRight (b ^^^ c) 24
  let a := multiplyAdd a b
  let d := Row.rotateRight (d ^^^ a) 16
  let c := multiplyAdd c d
  let b := Row.rotateRight (b ^^^ c) 63
  next a b c d

def permute (x : Row) : Row := Row.mixed (fun _ a b c d next => mix a b c d next) x

namespace Block

def zero : Block :=
  ⟨Row.zero, Row.zero, Row.zero, Row.zero, Row.zero, Row.zero, Row.zero, Row.zero⟩

@[inline] def map (f : Row → Row) (b : Block) : Block :=
  ⟨f b.r0, f b.r1, f b.r2, f b.r3, f b.r4, f b.r5, f b.r6, f b.r7⟩

def xor (x y : Block) : Block :=
  ⟨x.r0.xor y.r0, x.r1.xor y.r1, x.r2.xor y.r2, x.r3.xor y.r3, x.r4.xor y.r4, x.r5.xor y.r5,
   x.r6.xor y.r6, x.r7.xor y.r7⟩

/-- Two words of each row side by side. -/
@[inline] def column (first second : Row → UInt64) (b : Block) : Row :=
  ⟨first b.r0, second b.r0, first b.r1, second b.r1, first b.r2, second b.r2, first b.r3,
   second b.r3, first b.r4, second b.r4, first b.r5, second b.r5, first b.r6, second b.r6,
   first b.r7, second b.r7⟩

/-- The eight columns as rows; its own inverse. -/
def transpose (b : Block) : Block :=
  ⟨b.column Row.w0 Row.w1, b.column Row.w2 Row.w3, b.column Row.w4 Row.w5, b.column Row.w6 Row.w7,
   b.column Row.w8 Row.w9, b.column Row.w10 Row.w11, b.column Row.w12 Row.w13,
   b.column Row.w14 Row.w15⟩

def compress (x y : Block) : Block :=
  let sum := x.xor y
  ((((sum.map permute).transpose).map permute).transpose).xor sum

def rows (b : Block) : List Row := [b.r0, b.r1, b.r2, b.r3, b.r4, b.r5, b.r6, b.r7]

def words (b : Block) : List UInt64 := b.rows.flatMap Row.toList

def toBytes (b : Block) : Bytes := b.rows.flatMap Row.toBytes

/-- Words that are missing are zero. -/
def ofWords (ws : List UInt64) : Block :=
  let row := fun i => Row.ofList ((ws.drop (16 * i)).take 16)
  ⟨row 0, row 1, row 2, row 3, row 4, row 5, row 6, row 7⟩

def ofBytes (bs : Bytes) : Block := ofWords (Bytes.wordsLittle64 bs)

/-- The word that decides which block a data-dependent step refers to. -/
def firstWord (b : Block) : UInt64 := b.r0.w0

end Block
end SessionKit.Argon2
