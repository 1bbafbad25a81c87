import SessionKit.Decimal
import SessionKit.Json
import SessionKit.Numeral
import SessionKit.Text.Quoted
import SessionKit.Toml.Document

/-!
# Decoding

Typed values out of JSON and TOML. Both are decoded from one shape, that of a JSON value; what
differs is how a number is named in a message, and whether an array may be longer than the record
it stands for. The first thing that does not fit is told.
-/

namespace SessionKit

inductive DecodeError where
  | invalidType (found expected : String)
  | invalidValue (found expected : String)
  | invalidLength (length : Nat) (expected : String)
  | missingField (name : String)
  /-- A text that is not of the form it should have. -/
  | invalidText (reason : String)
  deriving DecidableEq, Repr

def DecodeError.message : DecodeError → String
  | invalidType found expected => s!"invalid type: {found}, expected {expected}"
  | invalidValue found expected => s!"invalid value: {found}, expected {expected}"
  | invalidLength length expected => s!"invalid length {length}, expected {expected}"
  | missingField name => s!"missing field `{name}`"
  | invalidText reason => reason

namespace Decode

/-- Where the value comes from. -/
inductive Format where
  | json
  | toml
  deriving DecidableEq, Repr

def Format.floatText : Format → Float → String
  | json => Decimal.compactText
  | toml => Decimal.plainText

/-- Whether an array must not have more items than a record has fields. -/
def Format.isStrict : Format → Bool
  | json => true
  | toml => false

/-- A reader of one type. -/
abbrev Decoder (α : Type) := Format → Json → Except DecodeError α

/-- How a message names an integer. -/
def integerName (i : Int) : String := s!"integer `{i}`"

/-- How a message names a value. -/
def found (format : Format) : Json → String
  | .null => "null"
  | .boolean b => s!"boolean `{b}`"
  | .integer i => integerName i
  | .decimal x => s!"floating point `{format.floatText x}`"
  | .string s => s!"string {Text.quoted s}"
  | .array _ => "sequence"
  | .object _ => "map"

/-- The value is of another type than expected. -/
def mismatch {α : Type} (format : Format) (j : Json) (expected : String) : Except DecodeError α :=
  .error (.invalidType (found format j) expected)

/-! ## Scalars -/

/-- An integer in a range. -/
def integer (low high : Int) (expected : String) : Decoder Int
  | _, .integer i =>
    if low ≤ i ∧ i ≤ high then .ok i else .error (.invalidValue (integerName i) expected)
  | format, j => mismatch format j expected

def signed64 : Decoder Int64 := fun format j =>
  (integer Numeral.minSigned64 Numeral.maxSigned64 "i64" format j).map Int64.ofInt

def word32 : Decoder UInt32 := fun format j =>
  (integer 0 Numeral.max32 "u32" format j).map fun i => UInt32.ofNat i.toNat

def word64 : Decoder UInt64 := fun format j =>
  (integer 0 Numeral.max64 "u64" format j).map fun i => UInt64.ofNat i.toNat

/-- A count of things in memory. -/
def size : Decoder UInt64 := fun format j =>
  (integer 0 Numeral.max64 "usize" format j).map fun i => UInt64.ofNat i.toNat

def boolean : Decoder Bool
  | _, .boolean b => .ok b
  | format, j => mismatch format j "a boolean"

def text : Decoder String
  | _, .string s => .ok s
  | format, j => mismatch format j "a string"

def path : Decoder String
  | _, .string s => .ok s
  | format, j => mismatch format j "path string"

/-- A value that may be missing. -/
def optional {α : Type} (decoder : Decoder α) : Decoder (Option α)
  | _, .null => .ok none
  | format, j => (decoder format j).map some

/-! ## Records -/

/-- A field of a record that is put together in `σ`. -/
structure Field (σ : Type) where
  name : String
  set : Format → Json → σ → Except DecodeError σ

/-- The field that a decoder reads and a function stores. -/
def field {α σ : Type} (name : String) (decoder : Decoder α) (store : α → σ → σ) : Field σ where
  name := name
  set format j s := (decoder format j).map (store · s)

/-- The fields that an object has, in its order. Members that no field is named after are passed
over. -/
def members {σ : Type} (fields : List (Field σ)) (format : Format) :
    List (String × Json) → σ → Except DecodeError σ
  | [], s => .ok s
  | (name, j) :: rest, s =>
    match fields.find? fun f => f.name == name with
    | some f => do members fields format rest (← f.set format j s)
    | none => members fields format rest s

/-- The items of an array as the fields in their order. Hands back the fields that are left over
and the items that are. -/
def items {σ : Type} (format : Format) :
    List (Field σ) → List Json → σ → Except DecodeError (σ × List (Field σ) × List Json)
  | f :: fields, j :: rest, s => do items format fields rest (← f.set format j s)
  | fields, rest, s => .ok (s, fields, rest)

/-- Whether items are left over that must not be. -/
def checkLength (format : Format) (all rest : List Json) : Except DecodeError Unit :=
  if format.isStrict ∧ rest ≠ [] then
    .error (.invalidLength all.length "fewer elements in array")
  else .ok ()

/-- A record whose fields all have defaults. -/
def record {σ : Type} (expected : String) (fields : List (Field σ)) (default : σ) : Decoder σ
  | format, .object ms => members fields format ms default
  | format, .array js => do
    let (s, _, rest) ← items format fields js default
    checkLength format js rest
    return s
  | format, j => mismatch format j expected

end Decode

/-! ## TOML as JSON -/

/-- The member that stands for a date or a time of day; no record has a field of that name. -/
def Toml.datetimeMember : String := "datetime"

mutual
/-- A date or a time of day is an object with one member. -/
def Toml.toJson : Toml → Json
  | .string s => .string s
  | .integer i => .integer i
  | .float x => .decimal x
  | .boolean b => .boolean b
  | .datetime written => .object [(datetimeMember, .string written)]
  | .array items => .array (Toml.itemsJson items)
  | .table entries => .object (Toml.entriesJson entries)

def Toml.itemsJson : List Toml → List Json
  | [] => []
  | item :: rest => item.toJson :: Toml.itemsJson rest

def Toml.entriesJson : List (String × Toml) → List (String × Json)
  | [] => []
  | (name, v) :: rest => (name, v.toJson) :: Toml.entriesJson rest
end

end SessionKit
