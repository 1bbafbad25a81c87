import SessionKit.Proofs.Layers

/-!
# Defaults

A missing section stands for one in which nothing is set. The program relies on this in two ways:
some of what it uses it takes from a section after filling it in, the rest it looks up with a
default of its own for a section that is missing, and the check passes over missing sections. All of
them agree, so that nothing depends on whether a default is written down.
-/

namespace SessionKit.Config

namespace Part

/-- The section in which nothing is set. -/
def standard : (p : Part) → p.Section
  | session => {}
  | cache => {}
  | password => {}
  | identifier => {}
  | logging => {}

theorem check_standard (p : Part) : p.check p.standard = .ok () := by
  cases p <;> decide +kernel

end Part

variable {c d : Config} {p : Part}

/-- The section that counts for a part. -/
def inForce (c : Config) (p : Part) : p.Section := (c.part? p).getD p.standard

/-! ## Filling in -/

@[simp] theorem part?_resolved (c : Config) (p : Part) :
    c.resolved.part? p = some (c.inForce p) := by
  have defaults : defaults.part? p = some p.standard := by cases p <;> rfl
  rw [resolved, part?_merge, defaults, inForce]
  cases c.part? p <;> rfl

theorem resolved_of_part?_isSome (complete : ∀ p, (c.part? p).isSome) : c.resolved = c := by
  apply eq_of_part?
  intro p
  rw [part?_resolved, inForce]
  obtain ⟨s, own⟩ := Option.isSome_iff_exists.mp (complete p)
  rw [own]
  rfl

@[simp] theorem inForce_resolved (c : Config) (p : Part) : c.resolved.inForce p = c.inForce p := by
  rw [inForce, part?_resolved]
  rfl

/-! ## Looking up -/

/-- A default that is kept apart is no other than that of the section. -/
theorem elim_eq_getD {α β : Type} (f : α → β) (d : α) (o : Option α) :
    o.elim (f d) f = f (o.getD d) := by
  cases o <;> rfl

theorem sessionMaxAgeSecs_eq (c : Config) :
    c.sessionMaxAgeSecs = (c.inForce .session).maxAgeSecs :=
  elim_eq_getD SessionSection.maxAgeSecs {} c.session

theorem sessionSettings_eq (c : Config) :
    c.sessionSettings =
      Session.Settings.withMaxAgeSecs
        { tokenBytes := (c.inForce .session).tokenBytes.toNat
          idLength := (c.inForce .session).idLength.toNat }
        (c.inForce .session).maxAgeSecs :=
  rfl

theorem passwordParams_eq (c : Config) :
    c.passwordParams =
      { memoryKib := (c.inForce .password).memoryKib
        iterations := (c.inForce .password).iterations
        parallelism := (c.inForce .password).parallelism
        saltLength := (c.inForce .password).saltLength.toNat
        keyLength := (c.inForce .password).keyLength.toNat } :=
  rfl

theorem cacheEnabled_eq (c : Config) : c.cacheEnabled = (c.inForce .cache).enabled :=
  elim_eq_getD CacheSection.enabled {} c.cache

theorem cacheTtlSecs_eq (c : Config) : c.cacheTtlSecs = (c.inForce .cache).ttlSecs :=
  elim_eq_getD CacheSection.ttlSecs {} c.cache

theorem cacheMaxSize_eq (c : Config) : c.cacheMaxSize = (c.inForce .cache).maxSize :=
  elim_eq_getD CacheSection.maxSize {} c.cache

theorem identifierAlphabet_eq (c : Config) :
    c.identifierAlphabet = (c.inForce .identifier).alphabet :=
  elim_eq_getD IdentifierSection.alphabet {} c.identifier

theorem identifierLength_eq (c : Config) :
    c.identifierLength = (c.inForce .identifier).length :=
  elim_eq_getD IdentifierSection.length {} c.identifier

theorem logLevel_eq (c : Config) : c.logLevel = (c.inForce .logging).level :=
  elim_eq_getD LoggingSection.level {} c.logging

theorem logJson_eq (c : Config) : c.logJson = (c.inForce .logging).json :=
  elim_eq_getD LoggingSection.json {} c.logging

theorem logDirectory_eq (c : Config) : c.logDirectory = (c.inForce .logging).directory :=
  elim_eq_getD LoggingSection.directory {} c.logging

/-! ## Checking -/

/-- A section that is missing is not checked, and would pass. -/
theorem checkSection_part? (c : Config) (p : Part) :
    checkSection p.check (c.part? p) = p.check (c.inForce p) := by
  rw [inForce]
  cases c.part? p with
  | none => exact p.check_standard.symm
  | some s => rfl

/-- The fault that is told is the first one in the sections in force. -/
theorem check_eq (c : Config) :
    c.check = (do
      Part.session.check (c.inForce .session)
      Part.cache.check (c.inForce .cache)
      Part.password.check (c.inForce .password)
      Part.identifier.check (c.inForce .identifier)
      Part.logging.check (c.inForce .logging)) := by
  simp only [← checkSection_part?]
  rfl

theorem check_inForce (checked : c.check = .ok ()) (p : Part) : p.check (c.inForce p) = .ok () := by
  rw [← checkSection_part?]
  exact checkSection_eq_ok.mpr (check_eq_ok.mp checked p)

/-! ## Whoever uses a configuration -/

/-- Nobody who uses two configurations can tell them apart. -/
structure Indistinguishable (c d : Config) : Prop where
  sessionMaxAgeSecs : c.sessionMaxAgeSecs = d.sessionMaxAgeSecs
  cacheEnabled : c.cacheEnabled = d.cacheEnabled
  cacheTtlSecs : c.cacheTtlSecs = d.cacheTtlSecs
  cacheMaxSize : c.cacheMaxSize = d.cacheMaxSize
  identifierAlphabet : c.identifierAlphabet = d.identifierAlphabet
  identifierLength : c.identifierLength = d.identifierLength
  sessionSettings : c.sessionSettings = d.sessionSettings
  cacheSettings : c.cacheSettings = d.cacheSettings
  passwordParams : c.passwordParams = d.passwordParams
  identifierGenerator : c.identifierGenerator = d.identifierGenerator
  logLevel : c.logLevel = d.logLevel
  logJson : c.logJson = d.logJson
  logDirectory : c.logDirectory = d.logDirectory
  check : c.check = d.check

/-- What counts are the sections in force. -/
theorem indistinguishable_of_inForce (same : ∀ p, c.inForce p = d.inForce p) :
    Indistinguishable c d where
  sessionMaxAgeSecs := by rw [sessionMaxAgeSecs_eq, sessionMaxAgeSecs_eq, same]
  cacheEnabled := by rw [cacheEnabled_eq, cacheEnabled_eq, same]
  cacheTtlSecs := by rw [cacheTtlSecs_eq, cacheTtlSecs_eq, same]
  cacheMaxSize := by rw [cacheMaxSize_eq, cacheMaxSize_eq, same]
  identifierAlphabet := by rw [identifierAlphabet_eq, identifierAlphabet_eq, same]
  identifierLength := by rw [identifierLength_eq, identifierLength_eq, same]
  sessionSettings := by rw [sessionSettings_eq, sessionSettings_eq, same]
  cacheSettings := by
    simp only [cacheSettings, cacheEnabled_eq, cacheTtlSecs_eq, cacheMaxSize_eq, same]
  passwordParams := by rw [passwordParams_eq, passwordParams_eq, same]
  identifierGenerator := by
    simp only [identifierGenerator, identifierAlphabet_eq, same]
  logLevel := by rw [logLevel_eq, logLevel_eq, same]
  logJson := by rw [logJson_eq, logJson_eq, same]
  logDirectory := by rw [logDirectory_eq, logDirectory_eq, same]
  check := by simp only [check_eq, same]

/-- A configuration that is filled in has a section for every part, stays as it is when it is filled
in again, and means to everybody what it meant before. -/
theorem resolved_indistinguishable (c : Config) :
    (∀ p, (c.resolved.part? p).isSome) ∧ c.resolved.resolved = c.resolved ∧
      Indistinguishable c.resolved c := by
  have complete (p : Part) : (c.resolved.part? p).isSome := by simp
  exact ⟨complete, resolved_of_part?_isSome complete, indistinguishable_of_inForce (by simp)⟩

end SessionKit.Config
