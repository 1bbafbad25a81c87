import SessionKit.Config.Codec
import SessionKit.Proofs.Documents

/-!
# Configurations kept in files

A configuration that is written to a file is read from it again. It cannot be written if a count in
it does not fit 64 bits with a sign, and for no other reason.
-/

namespace SessionKit

/-! ## Values -/

@[simp] theorem ok_bind {ε α β : Type} (a : α) (f : α → Except ε β) : Except.ok a >>= f = f a := rfl

@[simp] theorem map_ok {ε α β : Type} (f : α → β) (a : α) :
    (Except.ok a : Except ε α).map f = .ok (f a) := rfl

namespace Decode

variable {σ : Type}

@[simp] theorem signed64_toInt (format : Format) (i : Int64) :
    signed64 format (.integer i.toInt) = .ok i := by
  have low : Numeral.minSigned64 ≤ i.toInt := i.le_toInt
  have high : i.toInt ≤ Numeral.maxSigned64 := i.toInt_le
  simp [signed64, integer, low, high]

@[simp] theorem word32_toNat (format : Format) (n : UInt32) :
    word32 format (.integer n.toNat) = .ok n := by
  have high : n.toNat ≤ Numeral.max32 := Nat.le_of_lt_succ n.toNat_lt
  simp [word32, integer, high]

@[simp] theorem word64_toNat (format : Format) (n : UInt64) :
    word64 format (.integer n.toNat) = .ok n := by
  have high : n.toNat ≤ Numeral.max64 := Nat.le_of_lt_succ n.toNat_lt
  simp [word64, integer, high]

@[simp] theorem size_toNat (format : Format) (n : UInt64) :
    size format (.integer n.toNat) = .ok n := by
  have high : n.toNat ≤ Numeral.max64 := Nat.le_of_lt_succ n.toNat_lt
  simp [size, integer, high]

@[simp] theorem boolean_boolean (format : Format) (b : Bool) :
    boolean format (.boolean b) = .ok b := rfl

@[simp] theorem text_string (format : Format) (s : String) : text format (.string s) = .ok s := rfl

@[simp] theorem path_string (format : Format) (s : String) : path format (.string s) = .ok s := rfl

@[simp] theorem optional_string {α : Type} (decoder : Decoder α) (format : Format) (s : String) :
    optional decoder format (.string s) = (decoder format (.string s)).map some := rfl

@[simp] theorem set_field {α : Type} (name : String) (decoder : Decoder α) (store : α → σ → σ)
    (format : Format) (j : Json) (s : σ) :
    (field name decoder store).set format j s = (decoder format j).map (store · s) := rfl

@[simp] theorem name_field {α : Type} (name : String) (decoder : Decoder α) (store : α → σ → σ) :
    (field name decoder store).name = name := rfl

theorem members_append (fields : List (Field σ)) (format : Format) (ms ms' : List (String × Json))
    (s : σ) :
    members fields format (ms ++ ms') s =
      members fields format ms s >>= members fields format ms' := by
  induction ms generalizing s with
  | nil => rfl
  | cons m ms ih =>
    obtain ⟨name, j⟩ := m
    cases found : fields.find? fun f => f.name == name with
    | none => simp [members, found, ih]
    | some f => cases stored : f.set format j s <;> simp [members, found, stored, ih]

end Decode

namespace Config

/-! ## Sections -/

/-- The members that the entries of a section are read as. -/
def membersOf (entries : List (String × Toml.Scalar)) : List (String × Json) :=
  entries.map fun (name, v) => (name, scalarJson v)

/-- A section survives: it is properly written, it is read from its entries, and the integers that
may be too large are its counts. -/
structure Kept {σ : Type} (name : String) (inner : List (Decode.Field σ)) (default : σ)
    (entries : σ → List (String × Toml.Scalar)) (counts : σ → List UInt64) : Prop where
  proper (s : σ) : Toml.Section.Proper { name, entries := entries s }
  decodes (s : σ) : Decode.members inner .toml (membersOf (entries s)) default = .ok s
  fits (s : σ) :
    (∀ e ∈ entries s, ¬ e.2.Exceeds) ↔ ∀ n ∈ counts s, n.toNat ≤ Numeral.maxSigned64

/-- A section is proper if its entries are named after fields, which have bare names. -/
theorem proper_of_fields {σ : Type} {name : String} {entries : List (String × Toml.Scalar)}
    (inner : List (Decode.Field σ))
    (named : (entries.map Prod.fst).Sublist (inner.map Decode.Field.name))
    (bare : ∀ n ∈ name :: inner.map Decode.Field.name, Toml.IsBare n)
    (distinct : (inner.map Decode.Field.name).Nodup) (floor : ∀ e ∈ entries, e.2.HasFloor) :
    Toml.Section.Proper { name, entries } where
  name := bare name (by simp)
  names e mem := bare e.1 (List.mem_cons_of_mem _ (named.subset (List.mem_map_of_mem mem)))
  distinct := named.nodup distinct
  floor := floor

def SessionSection.counts (s : SessionSection) : List UInt64 := [s.tokenBytes, s.idLength]

theorem kept_session :
    Kept "session" sessionFields {} SessionSection.entries SessionSection.counts where
  proper s := proper_of_fields sessionFields (List.Sublist.refl _) (by decide) (by decide)
    (by simp [SessionSection.entries])
  decodes s := by
    simp [membersOf, SessionSection.entries, scalarJson, Decode.members, sessionFields]
  fits s := by simp [SessionSection.entries, SessionSection.counts]

def CacheSection.counts (s : CacheSection) : List UInt64 := [s.ttlSecs, s.maxSize]

theorem kept_cache : Kept "cache" cacheFields {} CacheSection.entries CacheSection.counts where
  proper s := proper_of_fields cacheFields (List.Sublist.refl _) (by decide) (by decide)
    (by simp [CacheSection.entries])
  decodes s := by simp [membersOf, CacheSection.entries, scalarJson, Decode.members, cacheFields]
  fits s := by simp [CacheSection.entries, CacheSection.counts]

def PasswordSection.counts (s : PasswordSection) : List UInt64 := [s.saltLength, s.keyLength]

theorem kept_password :
    Kept "password" passwordFields {} PasswordSection.entries PasswordSection.counts where
  proper s := proper_of_fields passwordFields (List.Sublist.refl _) (by decide) (by decide)
    (by simp [PasswordSection.entries])
  decodes s := by
    simp [membersOf, PasswordSection.entries, scalarJson, Decode.members, passwordFields]
  fits s := by simp [PasswordSection.entries, PasswordSection.counts]

def IdentifierSection.counts (s : IdentifierSection) : List UInt64 := [s.length]

theorem kept_identifier :
    Kept "identifier" identifierFields {} IdentifierSection.entries IdentifierSection.counts where
  proper s := proper_of_fields identifierFields (List.Sublist.refl _) (by decide) (by decide)
    (by simp [IdentifierSection.entries])
  decodes s := by
    simp [membersOf, IdentifierSection.entries, scalarJson, Decode.members, identifierFields]
  fits s := by simp [IdentifierSection.entries, IdentifierSection.counts]

theorem names_optionalEntry {α : Type} (name : String) (f : α → Toml.Scalar) (v : Option α) :
    ((optionalEntry name f v).map Prod.fst).Sublist [name] := by
  cases v <;> simp [optionalEntry]

/-- What is missing is not written, and so it is left at its default, which is to be missing. -/
theorem kept_logging :
    Kept "logging" loggingFields {} LoggingSection.entries (fun _ => []) where
  proper s := by
    refine proper_of_fields loggingFields ?_ (by decide) (by decide) ?_
    · rw [LoggingSection.entries, List.map_append, List.map_cons]
      exact (names_optionalEntry "level" .string s.level).append
        ((names_optionalEntry "directory" .string s.directory).cons_cons "json")
    · obtain ⟨level, json, directory⟩ := s
      cases level <;> cases directory <;> simp [LoggingSection.entries, optionalEntry]
  decodes s := by
    obtain ⟨level, json, directory⟩ := s
    cases level <;> cases directory <;>
      simp [membersOf, LoggingSection.entries, optionalEntry, scalarJson, Decode.members,
        loggingFields]
  fits s := by
    obtain ⟨level, json, directory⟩ := s
    cases level <;> cases directory <;> simp [LoggingSection.entries, optionalEntry]

/-! ## All sections -/

/-- The unsigned 64-bit values of the sections that are there. -/
def counts (c : Config) : List UInt64 :=
  c.session.toList.flatMap SessionSection.counts ++ c.cache.toList.flatMap CacheSection.counts ++
    c.password.toList.flatMap PasswordSection.counts ++
    c.identifier.toList.flatMap IdentifierSection.counts

theorem forall_mem_tomlSection {σ : Type} {name : String}
    {entries : σ → List (String × Toml.Scalar)} {section? : Option σ} {P : Toml.Section → Prop} :
    (∀ s ∈ tomlSection name entries section?, P s) ↔
      ∀ s ∈ section?, P { name, entries := entries s } := by
  cases section? <;> simp [tomlSection]

theorem proper_sections (c : Config) : ∀ s ∈ c.sections, s.Proper := by
  simp [sections, or_imp, forall_and, forall_mem_tomlSection, kept_session.proper,
    kept_cache.proper, kept_password.proper, kept_identifier.proper, kept_logging.proper]

theorem names_tomlSection {σ : Type} (name : String) (entries : σ → List (String × Toml.Scalar))
    (section? : Option σ) :
    ((tomlSection name entries section?).map Toml.Section.name).Sublist [name] := by
  cases section? <;> simp [tomlSection]

theorem nodup_sections (c : Config) : (c.sections.map Toml.Section.name).Nodup := by
  have named : (c.sections.map Toml.Section.name).Sublist
      ["session", "cache", "password", "identifier", "logging"] := by
    simp only [sections, List.map_append]
    exact ((((names_tomlSection _ _ _).append (names_tomlSection _ _ _)).append
      (names_tomlSection _ _ _)).append (names_tomlSection _ _ _)).append (names_tomlSection _ _ _)
  exact named.nodup (by decide)

theorem fits_sections (c : Config) :
    (∀ s ∈ c.sections, ∀ e ∈ s.entries, ¬ e.2.Exceeds) ↔
      ∀ n ∈ c.counts, n.toNat ≤ Numeral.maxSigned64 := by
  simp only [sections, counts, List.forall_mem_append, List.forall_mem_flatMap,
    forall_mem_tomlSection, kept_session.fits, kept_cache.fits, kept_password.fits,
    kept_identifier.fits, kept_logging.fits, Option.mem_toList]
  simp

/-! ## Reading -/

/-- The member that a section is read as. -/
def memberOf (s : Toml.Section) : String × Json := (s.name, .object (membersOf s.entries))

/-- A section is stored as it was, and one that is missing stays so. -/
theorem members_tomlSection {σ : Type} {name expected : String} {inner : List (Decode.Field σ)}
    {default : σ} {store : Option σ → Config → Config} {entries : σ → List (String × Toml.Scalar)}
    {counts : σ → List UInt64} (kept : Kept name inner default entries counts)
    (found : fields.find? (fun f => f.name == name) =
      some (Decode.field name (sectionDecoder expected inner default) store))
    {c : Config} (missing : store none c = c) (section? : Option σ) :
    Decode.members fields .toml ((tomlSection name entries section?).map memberOf) c =
      .ok (store section? c) := by
  cases section? with
  | none => simp [tomlSection, Decode.members, missing]
  | some s =>
    simp [tomlSection, memberOf, Decode.members, found, sectionDecoder, Decode.optional,
      Decode.record, kept.decodes]

theorem members_sections (c : Config) :
    Decode.members fields .toml (c.sections.map memberOf) {} = .ok c := by
  obtain ⟨session, cache, password, identifier, logging⟩ := c
  simp only [sections, List.map_append, Decode.members_append]
  -- Each section is stored beside those before it, none of which is stored again.
  rw [members_tomlSection kept_session rfl rfl, ok_bind]
  rw [members_tomlSection kept_cache rfl rfl, ok_bind]
  rw [members_tomlSection kept_password rfl rfl, ok_bind]
  rw [members_tomlSection kept_identifier rfl rfl, ok_bind]
  rw [members_tomlSection kept_logging rfl rfl]

theorem entriesJson_eq (entries : List (String × Toml)) :
    Toml.entriesJson entries = entries.map fun (name, v) => (name, v.toJson) := by
  induction entries with
  | nil => simp [Toml.entriesJson]
  | cons entry entries ih => simp [Toml.entriesJson, ih]

theorem toJson_value (v : Toml.Scalar) : v.value.toJson = scalarJson v := by
  cases v <;> simp [Toml.Scalar.value, Toml.toJson, scalarJson]

theorem toJson_sections (sections : List Toml.Section) :
    (Toml.table (sections.map Toml.Section.entry)).toJson = .object (sections.map memberOf) := by
  simp [Toml.toJson, entriesJson_eq, Toml.Section.entry, memberOf, membersOf, toJson_value,
    Function.comp_def]

/-- A configuration cannot be written if and only if a count in it is above the largest signed
value, and is read from what is written otherwise. -/
theorem ofToml_toToml (c : Config) :
    (c.toToml = .error .outOfRange ↔ ∃ n ∈ c.counts, Numeral.maxSigned64 < n.toNat) ∧
      (c.toToml = .error .outOfRange ∨ ∃ text, c.toToml = .ok text ∧ ofToml text = .ok c) := by
  have fits : (∃ text, c.toToml = .ok text) ↔ ∀ n ∈ c.counts, n.toNat ≤ Numeral.maxSigned64 :=
    Toml.exists_write_iff.trans c.fits_sections
  cases written : c.toToml with
  | error e =>
    cases e
    have exceeds : ∃ n ∈ c.counts, Numeral.maxSigned64 < n.toNat := by
      simpa [written] using fits
    exact ⟨iff_of_true rfl exceeds, .inl rfl⟩
  | ok text =>
    have within := fits.mp ⟨text, written⟩
    have read := Toml.parse_write c.proper_sections c.nodup_sections written
    have decoded : ofToml text = .ok c := by
      simp [ofToml, read, toJson_sections, decoder, Decode.record, members_sections,
        Except.mapError]
    refine ⟨iff_of_false nofun ?_, .inr ⟨text, rfl, decoded⟩⟩
    intro ⟨n, mem, exceeds⟩
    exact Nat.not_lt.mpr (within n mem) exceeds

end Config
end SessionKit
