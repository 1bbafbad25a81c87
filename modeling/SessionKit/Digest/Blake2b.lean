import SessionKit.Digest.Row
import SessionKit.Numeral

/-!
# BLAKE2b

Unkeyed BLAKE2b with a digest of up to 64 bytes.
-/

namespace SessionKit.Blake2b

/-- The first eight words are those of the square roots of the first eight primes. -/
def initial : List UInt64 :=
  [0x6a09e667f3bcc908, 0xbb67ae8584caa73b, 0x3c6ef372fe94f82b, 0xa54ff53a5f1d36f1,
   0x510e527fade682d1, 0x9b05688c2b3e6c1f, 0x1f83d9abfb41bd6b, 0x5be0cd19137e2179]

/-- The order in which each round takes the words of a block. -/
def schedule : List (List Nat) :=
  [[0, 1, 2, 3, 4, 5, 6, 7, 8, 9, 10, 11, 12, 13, 14, 15],
   [14, 10, 4, 8, 9, 15, 13, 6, 1, 12, 0, 2, 11, 7, 5, 3],
   [11, 8, 12, 0, 5, 2, 15, 13, 10, 14, 3, 6, 7, 1, 9, 4],
   [7, 9, 3, 1, 13, 12, 11, 14, 2, 6, 5, 10, 4, 0, 15, 8],
   [9, 0, 5, 7, 2, 4, 10, 15, 14, 1, 11, 12, 6, 8, 3, 13],
   [2, 12, 6, 10, 0, 11, 8, 3, 4, 13, 7, 5, 15, 14, 1, 9],
   [12, 5, 1, 15, 14, 13, 4, 10, 0, 7, 6, 3, 9, 2, 8, 11],
   [13, 11, 7, 14, 12, 1, 3, 9, 5, 0, 15, 4, 8, 6, 2, 10],
   [6, 15, 14, 9, 11, 3, 0, 8, 12, 2, 13, 7, 1, 4, 10, 5],
   [10, 2, 8, 4, 7, 6, 1, 5, 15, 11, 9, 14, 3, 12, 13, 0],
   [0, 1, 2, 3, 4, 5, 6, 7, 8, 9, 10, 11, 12, 13, 14, 15],
   [14, 10, 4, 8, 9, 15, 13, 6, 1, 12, 0, 2, 11, 7, 5, 3]]

/-- Mixes four words with two words of the message. -/
@[inline] def mix {β : Type} (x y a b c d : UInt64)
    (next : UInt64 → UInt64 → UInt64 → UInt64 → β) : β :=
  let a := a + b + x
  let d := Row.rotateRight (d ^^^ a) 32
  let c := c + d
  let b := Row.rotateRight (b ^^^ c) 24
  let a := a + b + y
  let d := Row.rotateRight (d ^^^ a) 16
  let c := c + d
  let b := Row.rotateRight (b ^^^ c) 63
  next a b c d

/-- One round over the message words in the order given. -/
def round (message : Array UInt64) (order : List Nat) (v : Row) : Row :=
  let words := (order.map fun i => message.getD i 0).toArray
  Row.mixed (fun i a b c d next =>
    mix (words.getD (2 * i) 0) (words.getD (2 * i + 1) 0) a b c d next) v

/-- Absorbs one block of 128 bytes into the eight words of the chain; `count` is the number of
message bytes up to its end. -/
def compress (chain : List UInt64) (block : Bytes) (count : Nat) (final : Bool) : List UInt64 :=
  let message := (Bytes.wordsLittle64 block).toArray
  let counted := initial.mapIdx fun i w =>
    if i = 4 then w ^^^ UInt64.ofNat count
    else if i = 5 then w ^^^ UInt64.ofNat (count / Numeral.twoTo 64)
    else if i = 6 && final then ~~~w
    else w
  let v := schedule.foldl (fun v order => round message order v) (Row.ofList (chain ++ counted))
  chain.zipWith (· ^^^ ·) (List.zipWith (· ^^^ ·) (v.toList.take 8) (v.toList.drop 8))

/-- Absorbs `rest` more blocks before the last one, which is filled up with zeros. -/
def absorb : (rest : Nat) → (count : Nat) → List UInt64 → Bytes → List UInt64
  | 0, count, chain, bs =>
    compress chain (bs ++ List.replicate (128 - bs.length) 0) (count + bs.length) true
  | rest + 1, count, chain, bs =>
    absorb rest (count + 128) (compress chain (bs.take 128) (count + 128) false) (bs.drop 128)

/-- The digest of `length` bytes, of at most 64. -/
def digest (length : Nat) (message : Bytes) : Bytes :=
  let chain := initial.mapIdx fun i w =>
    if i = 0 then w ^^^ 0x01010000 ^^^ UInt64.ofNat length else w
  ((absorb ((message.length - 1) / 128) 0 chain message).flatMap Bytes.littleEndian64).take length

end SessionKit.Blake2b
