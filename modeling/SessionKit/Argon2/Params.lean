/-!
# Argon2 cost parameters

The memory is measured in KiB. The bounds are those within which Argon2 is defined.
-/

namespace SessionKit.Argon2

/-- What a derivation costs and how long its key is. -/
structure Params where
  memoryKib : UInt32
  iterations : UInt32
  parallelism : UInt32
  keyLength : Nat
  deriving DecidableEq, Repr

/-- Version 1.3 combines a block that is filled anew with its old content; version 1.0 drops
that content. -/
inductive Version where
  | v10
  | v13
  deriving DecidableEq, Repr

namespace Version

def number : Version → UInt32
  | v10 => 0x10
  | v13 => 0x13

def ofNumber? (n : Nat) : Option Version :=
  if n = 0x13 then some v13 else if n = 0x10 then some v10 else none

end Version

/-- Why parameters or a salt are refused. -/
inductive Error where
  | memoryTooLittle
  | timeTooSmall
  | threadsTooFew
  | threadsTooMany
  | outputTooShort
  | outputTooLong
  | passwordTooLong
  | saltTooShort
  | saltTooLong
  deriving DecidableEq, Repr

def Error.message : Error → String
  | memoryTooLittle => "memory cost is too small"
  | timeTooSmall => "time cost is too small"
  | threadsTooFew => "not enough threads"
  | threadsTooMany => "too many threads"
  | outputTooShort => "output is too short"
  | outputTooLong => "output is too long"
  | passwordTooLong => "password is too long"
  | saltTooShort => "salt is too short"
  | saltTooLong => "salt is too long"

/-- Every lane needs two blocks in each of its four segments. -/
def minMemoryKib : UInt32 := 8

def maxParallelism : UInt32 := 0xffffff

def minKeyLength : Nat := 4

def minSaltLength : Nat := 8

/-- Longest key, salt and password. -/
def maxLength : Nat := 0xffffffff

/-- Memory is looked at first, then time, threads and output. -/
def Params.check (p : Params) : Except Error Unit :=
  if p.memoryKib < minMemoryKib then .error .memoryTooLittle
  else if p.memoryKib < p.parallelism * 8 then .error .memoryTooLittle
  else if p.iterations = 0 then .error .timeTooSmall
  else if p.parallelism = 0 then .error .threadsTooFew
  else if maxParallelism < p.parallelism then .error .threadsTooMany
  else if p.keyLength < minKeyLength then .error .outputTooShort
  else if maxLength < p.keyLength then .error .outputTooLong
  else .ok ()

/-- The lengths of the password and the salt, in this order. -/
def checkInputs (passwordLength saltLength : Nat) : Except Error Unit :=
  if maxLength < passwordLength then .error .passwordTooLong
  else if saltLength < minSaltLength then .error .saltTooShort
  else if maxLength < saltLength then .error .saltTooLong
  else .ok ()

end SessionKit.Argon2
