import SessionKit.Config.Errors
import SessionKit.Config.Sections
import SessionKit.Toml.Reader

/-!
# Configurations as TOML and as JSON

Unknown keys are passed over and missing ones have their defaults. The TOML text leaves out what is
missing; the JSON has `null` there.
-/

namespace SessionKit.Config

open Decode (field)

/-! ## Decoding -/

def sessionFields : List (Decode.Field SessionSection) :=
  [field "max_age_secs" Decode.signed64 fun v s => { s with maxAgeSecs := v },
   field "token_bytes" Decode.size fun v s => { s with tokenBytes := v },
   field "id_length" Decode.size fun v s => { s with idLength := v }]

def cacheFields : List (Decode.Field CacheSection) :=
  [field "enabled" Decode.boolean fun v s => { s with enabled := v },
   field "ttl_secs" Decode.word64 fun v s => { s with ttlSecs := v },
   field "max_size" Decode.size fun v s => { s with maxSize := v }]

def passwordFields : List (Decode.Field PasswordSection) :=
  [field "memory_kib" Decode.word32 fun v s => { s with memoryKib := v },
   field "iterations" Decode.word32 fun v s => { s with iterations := v },
   field "parallelism" Decode.word32 fun v s => { s with parallelism := v },
   field "salt_length" Decode.size fun v s => { s with saltLength := v },
   field "key_length" Decode.size fun v s => { s with keyLength := v }]

def identifierFields : List (Decode.Field IdentifierSection) :=
  [field "alphabet" Decode.text fun v s => { s with alphabet := v },
   field "length" Decode.size fun v s => { s with length := v }]

def loggingFields : List (Decode.Field LoggingSection) :=
  [field "level" (Decode.optional Decode.text) fun v s => { s with level := v },
   field "json" Decode.boolean fun v s => { s with json := v },
   field "directory" (Decode.optional Decode.path) fun v s => { s with directory := v }]

/-- A section that may be missing. -/
def sectionDecoder {σ : Type} (expected : String) (fields : List (Decode.Field σ)) (default : σ) :
    Decode.Decoder (Option σ) :=
  Decode.optional (Decode.record expected fields default)

def fields : List (Decode.Field Config) :=
  [field "session" (sectionDecoder "struct SessionSection" sessionFields {}) fun v c =>
     { c with session := v },
   field "cache" (sectionDecoder "struct CacheSection" cacheFields {}) fun v c =>
     { c with cache := v },
   field "password" (sectionDecoder "struct PasswordSection" passwordFields {}) fun v c =>
     { c with password := v },
   field "identifier" (sectionDecoder "struct IdentifierSection" identifierFields {}) fun v c =>
     { c with identifier := v },
   field "logging" (sectionDecoder "struct LoggingSection" loggingFields {}) fun v c =>
     { c with logging := v }]

def decoder : Decode.Decoder Config := Decode.record "struct KutaConfig" fields {}

def ofJson (j : Json) : Except DecodeError Config := decoder .json j

def ofToml (text : String) : Except ParseError Config :=
  match Toml.parse text with
  | none => .error .syntaxFault
  | some document => (decoder .toml document.toJson).mapError .shape

/-! ## Encoding -/

/-- The entry of a value that may be missing. -/
def optionalEntry {α : Type} (name : String) (f : α → Toml.Scalar) :
    Option α → List (String × Toml.Scalar)
  | none => []
  | some v => [(name, f v)]

def SessionSection.entries (s : SessionSection) : List (String × Toml.Scalar) :=
  [("max_age_secs", .integer s.maxAgeSecs.toInt), ("token_bytes", .integer s.tokenBytes.toNat),
   ("id_length", .integer s.idLength.toNat)]

def CacheSection.entries (s : CacheSection) : List (String × Toml.Scalar) :=
  [("enabled", .boolean s.enabled), ("ttl_secs", .integer s.ttlSecs.toNat),
   ("max_size", .integer s.maxSize.toNat)]

def PasswordSection.entries (s : PasswordSection) : List (String × Toml.Scalar) :=
  [("memory_kib", .integer s.memoryKib.toNat), ("iterations", .integer s.iterations.toNat),
   ("parallelism", .integer s.parallelism.toNat), ("salt_length", .integer s.saltLength.toNat),
   ("key_length", .integer s.keyLength.toNat)]

def IdentifierSection.entries (s : IdentifierSection) : List (String × Toml.Scalar) :=
  [("alphabet", .string s.alphabet), ("length", .integer s.length.toNat)]

def LoggingSection.entries (s : LoggingSection) : List (String × Toml.Scalar) :=
  optionalEntry "level" .string s.level ++ ("json", .boolean s.json) ::
    optionalEntry "directory" .string s.directory

/-- The section of a document, unless it is missing. -/
def tomlSection {α : Type} (name : String) (entries : α → List (String × Toml.Scalar)) :
    Option α → List Toml.Section
  | none => []
  | some s => [{ name, entries := entries s }]

def sections (c : Config) : List Toml.Section :=
  tomlSection "session" SessionSection.entries c.session ++
    tomlSection "cache" CacheSection.entries c.cache ++
    tomlSection "password" PasswordSection.entries c.password ++
    tomlSection "identifier" IdentifierSection.entries c.identifier ++
    tomlSection "logging" LoggingSection.entries c.logging

def toToml (c : Config) : Except Toml.WriteError String := Toml.write c.sections

def scalarJson : Toml.Scalar → Json
  | .string s => .string s
  | .integer i => .integer i
  | .boolean b => .boolean b

/-- A section with all its members, or `null`. -/
def sectionJson {α : Type} (entries : α → List (String × Toml.Scalar)) : Option α → Json :=
  Json.ofOption fun s => .object ((entries s).map fun (name, v) => (name, scalarJson v))

def LoggingSection.toJson (s : LoggingSection) : Json :=
  .object [("level", Json.ofOption .string s.level), ("json", .boolean s.json),
    ("directory", Json.ofOption .string s.directory)]

def toJson (c : Config) : Json :=
  .object
    [("session", sectionJson SessionSection.entries c.session),
     ("cache", sectionJson CacheSection.entries c.cache),
     ("password", sectionJson PasswordSection.entries c.password),
     ("identifier", sectionJson IdentifierSection.entries c.identifier),
     ("logging", Json.ofOption LoggingSection.toJson c.logging)]

end SessionKit.Config
