import SessionKit.Argon2.Block
import SessionKit.Argon2.Params
import SessionKit.Digest.Blake2b

/-!
# Argon2id key derivation

The memory is a square of lanes by columns, cut into four slices. Each pass fills it anew slice by
slice; a block is made from its predecessor in the lane and a block referred to by a pseudorandom
word. In the first half of the first pass that word depends on the position alone, later on the
content of the predecessor.

A key has the length that was asked for (`length_derive`).
-/

namespace SessionKit.Argon2

/-! ## The variable-length hash -/

/-- Half of each digest is handed out before the last one, which has the length that is left. -/
def extend : (halves : Nat) → (length : Nat) → Bytes → Bytes
  | 0, length, bs => Blake2b.digest length bs
  | halves + 1, length, bs =>
    let digest := Blake2b.digest 64 bs
    digest.take 32 ++ extend halves (length - 32) digest

/-- BLAKE2b stretched to any length. -/
def longHash (length : Nat) (bs : Bytes) : Bytes :=
  extend ((length + 31) / 32 - 2) length (Bytes.littleEndian32 (UInt32.ofNat length) ++ bs)

/-! ## The memory -/

/-- The measures of the memory. -/
structure Layout where
  lanes : Nat
  /-- Columns in one slice of a lane. -/
  segment : Nat
  iterations : Nat
  version : Version

namespace Layout

def laneLength (l : Layout) : Nat := 4 * l.segment

def size (l : Layout) : Nat := l.lanes * l.laneLength

def ofParams (p : Params) (version : Version) : Layout where
  lanes := p.parallelism.toNat
  segment := p.memoryKib.toNat / (4 * p.parallelism.toNat)
  iterations := p.iterations.toNat
  version

end Layout

/-- Where a pass stands. -/
structure Position where
  pass : Nat
  slice : Nat
  lane : Nat

/-- The block of words that stand for the positions of the `counter`-th group of 128 columns. -/
def addresses (l : Layout) (p : Position) (counter : Nat) : Array UInt64 :=
  let input := Block.ofWords <| List.map UInt64.ofNat
    [p.pass, p.lane, p.slice, l.size, l.iterations, 2, counter]
  (Block.zero.compress (Block.zero.compress input)).words.toArray

/-- Whether references are independent of the password. -/
def Position.independent (p : Position) : Bool := p.pass = 0 && p.slice < 2

/-- The place of the block that the `index`-th column of a segment refers to. -/
def reference (l : Layout) (p : Position) (index : Nat) (word : UInt64) : Nat :=
  let lane :=
    if p.pass = 0 && p.slice = 0 then p.lane else (word >>> 32).toNat % l.lanes
  let finished := if p.pass = 0 then p.slice * l.segment else l.laneLength - l.segment
  let area :=
    if lane = p.lane then finished + index - 1
    else if index = 0 then finished - 1
    else finished
  let low := (word &&& 0xffffffff).toNat
  let back := area - 1 - area * (low * low / Numeral.twoTo 32) / Numeral.twoTo 32
  let start := if p.pass = 0 || p.slice = 3 then 0 else (p.slice + 1) * l.segment
  lane * l.laneLength + (start + back) % l.laneLength

/-- Writes the columns of one segment from `index` on; `count` of them are left. -/
def fillSegment (l : Layout) (p : Position) :
    (count : Nat) → (index : Nat) → (words : Array UInt64) → Array Block → Array Block
  | 0, _, _, memory => memory
  | count + 1, index, words, memory =>
    let words :=
      if p.independent && index % 128 = 0 then addresses l p (index / 128 + 1) else words
    let column := p.slice * l.segment + index
    let base := p.lane * l.laneLength
    let previous :=
      memory.getD (base + if column = 0 then l.laneLength - 1 else column - 1) Block.zero
    let word := if p.independent then words.getD (index % 128) 0 else previous.firstWord
    let made := previous.compress (memory.getD (reference l p index word) Block.zero)
    let block :=
      if p.pass = 0 || l.version = .v10 then made
      else made.xor (memory.getD (base + column) Block.zero)
    fillSegment l p count (index + 1) words (memory.setIfInBounds (base + column) block)

/-- The first two columns of each lane are given, so that the first pass begins behind them. -/
def fillSlice (l : Layout) (pass slice : Nat) (memory : Array Block) : Array Block :=
  (List.range l.lanes).foldl (fun memory lane =>
    let p : Position := ⟨pass, slice, lane⟩
    if pass = 0 && slice = 0 then
      fillSegment l p (l.segment - 2) 2 (addresses l p 1) memory
    else fillSegment l p l.segment 0 #[] memory) memory

def fill (l : Layout) (memory : Array Block) : Array Block :=
  (List.range l.iterations).foldl (fun memory pass =>
    (List.range 4).foldl (fun memory slice => fillSlice l pass slice memory) memory) memory

/-- The memory with only the first two columns written. -/
def start (l : Layout) (seed : Bytes) : Array Block :=
  (List.range l.lanes).foldl (fun memory lane =>
    (List.range 2).foldl (fun memory column =>
      let block := Block.ofBytes <| longHash 1024 <|
        seed ++ Bytes.littleEndian32 (UInt32.ofNat column) ++
          Bytes.littleEndian32 (UInt32.ofNat lane)
      memory.setIfInBounds (lane * l.laneLength + column) block) memory)
    (Array.replicate l.size Block.zero)

/-! ## Deriving a key -/

/-- The digest of everything that a key depends on. -/
def seed (p : Params) (version : Version) (password salt : Bytes) : Bytes :=
  let word := Bytes.littleEndian32
  let counted := fun (bs : Bytes) => word (UInt32.ofNat bs.length) ++ bs
  Blake2b.digest 64 <|
    word p.parallelism ++ word (UInt32.ofNat p.keyLength) ++ word p.memoryKib ++
      word p.iterations ++ word version.number ++ word 2 ++ counted password ++ counted salt ++
      counted [] ++ counted []

/-- The key for parameters within their bounds. -/
def key (p : Params) (version : Version) (password salt : Bytes) : Bytes :=
  let l := Layout.ofParams p version
  let memory := fill l (start l (seed p version password salt))
  let last := (List.range l.lanes).foldl (fun sum lane =>
    sum.xor (memory.getD (lane * l.laneLength + l.laneLength - 1) Block.zero)) Block.zero
  longHash p.keyLength last.toBytes

def derive (p : Params) (version : Version) (password salt : Bytes) : Except Error Bytes := do
  p.check
  checkInputs password.length salt.length
  return key p version password salt

end SessionKit.Argon2
