import SessionKit.Numeral
import SessionKit.Password.Malformed

/-!
# Encoded password hashes

The written form is

    $argon2id$v=19$m=65536,t=3,p=2$<salt>$<key>

with salt and key in standard base64 without padding. The reader checks the segments from left to
right, and the cost limits once all three costs are read.
-/

namespace SessionKit.Password

/-- What a written hash holds. -/
structure Encoded where
  version : Argon2.Version
  memoryKib : UInt32
  iterations : UInt32
  parallelism : UInt32
  salt : Bytes
  key : Bytes
  deriving DecidableEq, Repr

def algorithm : String := "argon2id"

/-- Largest memory cost that a written hash may ask for: 4 GiB. -/
def maxMemoryKib : UInt32 := 4 * 1024 * 1024

/-- Largest number of passes that a written hash may ask for. -/
def maxIterations : UInt32 := 64

/-- Most lanes that a written hash may ask for. -/
def maxParallelism : UInt32 := 64

/-- Cuts a text at every occurrence of a character. -/
def splitAt (sep : Char) : List Char → List (List Char)
  | [] => [[]]
  | c :: rest =>
    if c = sep then [] :: splitAt sep rest
    else match splitAt sep rest with
      | [] => [[c]]
      | part :: parts => (c :: part) :: parts

namespace Encoded

/-- Reads `name=value`. -/
def parameter (name : Char) (part : List Char) : Except Malformed UInt32 :=
  let fault := Malformed.invalidParameter (String.singleton name) (String.ofList part)
  match part with
  | c :: '=' :: value =>
    if c = name then
      match Numeral.word32? value with
      | some n => .ok n
      | none => .error fault
    else .error fault
  | _ => .error fault

def checkLimit (name : Char) (value limit : UInt32) : Except Malformed Unit :=
  if limit < value then .error (.limitExceeded (String.singleton name) value limit) else .ok ()

def readVersion (segment : List Char) : Except Malformed Argon2.Version :=
  let number? := match segment with
    | 'v' :: '=' :: value => Numeral.word32? value
    | _ => none
  match number? with
  | none => .error (.invalidVersion (String.ofList segment))
  | some n =>
    match Argon2.Version.ofNumber? n.toNat with
    | some version => .ok version
    | none => .error (.unsupportedVersion n.toNat)

/-- Memory, passes and lanes, within the limits. -/
def readCosts (segment : List Char) : Except Malformed (UInt32 × UInt32 × UInt32) :=
  match splitAt ',' segment with
  | [first, second, third] => do
    let memoryKib ← parameter 'm' first
    let iterations ← parameter 't' second
    let parallelism ← parameter 'p' third
    checkLimit 'm' memoryKib maxMemoryKib
    checkLimit 't' iterations maxIterations
    checkLimit 'p' parallelism maxParallelism
    return (memoryKib, iterations, parallelism)
  | _ => .error (.invalidParameters (String.ofList segment))

def readBytes (fault : Base64.DecodeError → Malformed) (segment : List Char) :
    Except Malformed Bytes :=
  (Base64.decodeText .standard (String.ofList segment)).mapError fault

def parse (text : String) : Except Malformed Encoded :=
  match splitAt '$' text.toList with
  | [start, tag, version, costs, salt, key] => do
    if start ≠ [] then throw .missingDelimiter
    if tag ≠ algorithm.toList then throw (.unsupportedAlgorithm (String.ofList tag))
    let version ← readVersion version
    let (memoryKib, iterations, parallelism) ← readCosts costs
    let salt ← readBytes .invalidSalt salt
    let key ← readBytes .invalidKey key
    if key = [] then throw .emptyKey
    return { version, memoryKib, iterations, parallelism, salt, key }
  | segments => .error (.segmentCount segments.length)

def costsText (e : Encoded) : String :=
  s!"m={e.memoryKib.toNat},t={e.iterations.toNat},p={e.parallelism.toNat}"

def write (e : Encoded) : String :=
  s!"${algorithm}$v={e.version.number.toNat}${e.costsText}$" ++
    Base64.encodeText .standard e.salt ++ "$" ++ Base64.encodeText .standard e.key

end Encoded
end SessionKit.Password
