import SessionKit.Config.Check
import SessionKit.Config.Discovery
import SessionKit.Proofs.Base64

/-!
# Layers

Layers are put on top of each other part by part, so a stack of layers has for each part what the
uppermost layer has that has anything there. The layers of a discovery are the files that can be
used, and what is told of the files agrees with what is in the stack.
-/

namespace SessionKit.Config

/-! ## Parts -/

/-- What a configuration may have a section for. -/
inductive Part where
  | session
  | cache
  | password
  | identifier
  | logging
  deriving DecidableEq, Repr

namespace Part

abbrev Section : Part → Type
  | session => SessionSection
  | cache => CacheSection
  | password => PasswordSection
  | identifier => IdentifierSection
  | logging => LoggingSection

def check : (p : Part) → p.Section → Except Error Unit
  | session => SessionSection.check
  | cache => CacheSection.check
  | password => PasswordSection.check
  | identifier => IdentifierSection.check
  | logging => LoggingSection.check

end Part

/-- The section of a part, unless it is missing. -/
def part? (c : Config) : (p : Part) → Option p.Section
  | .session => c.session
  | .cache => c.cache
  | .password => c.password
  | .identifier => c.identifier
  | .logging => c.logging

variable {a b c : Config} {p : Part} {layers : List Config}

theorem eq_of_part? (same : ∀ p, a.part? p = b.part? p) : a = b := by
  cases a
  cases b
  simp only [mk.injEq]
  exact ⟨same .session, same .cache, same .password, same .identifier, same .logging⟩

@[simp] theorem part?_empty (p : Part) : ({} : Config).part? p = none := by
  cases p <;> rfl

@[simp] theorem part?_merge (a b : Config) (p : Part) :
    (a.merge b).part? p = (b.part? p).or (a.part? p) := by
  cases p <;> exact (Option.or_eq_orElse ..).symm

/-! ## Merging -/

theorem merge_assoc (a b c : Config) : (a.merge b).merge c = a.merge (b.merge c) := by
  apply eq_of_part?
  intro p
  simp [Option.or_assoc]

theorem empty_merge (c : Config) : ({} : Config).merge c = c := by
  apply eq_of_part?
  intro p
  simp

theorem merge_empty (c : Config) : c.merge {} = c := by
  apply eq_of_part?
  intro p
  simp

/-- Layers on top of each other, the first at the bottom. -/
def stack (layers : List Config) : Config := layers.foldl merge {}

theorem part?_foldl_merge (base : Config) (layers : List Config) (p : Part) :
    (layers.foldl merge base).part? p =
      ((layers.filterMap (·.part? p)).getLast?).or (base.part? p) := by
  induction layers generalizing base with
  | nil => simp
  | cons layer layers ih =>
    rw [List.foldl_cons, ih, part?_merge, ← Option.or_assoc]
    congr 1
    cases found : layer.part? p with
    | none => simp only [List.filterMap_cons, found, Option.or_none]
    | some s =>
      simp only [List.filterMap_cons, found, List.getLast?_cons]
      cases (layers.filterMap (·.part? p)).getLast? <;> rfl

/-- The uppermost section hides those below. -/
theorem part?_stack (layers : List Config) (p : Part) :
    (stack layers).part? p = (layers.filterMap (·.part? p)).getLast? := by
  simp [stack, part?_foldl_merge]

/-! ## Checking -/

theorem checkSection_eq_ok {σ : Type} {f : σ → Except Error Unit} {section? : Option σ} :
    checkSection f section? = .ok () ↔ ∀ s, section? = some s → f s = .ok () := by
  cases section? with
  | none => simp [checkSection]
  | some s => simp [checkSection]

/-- Every section is checked by itself. -/
theorem check_eq_ok : c.check = .ok () ↔ ∀ p s, c.part? p = some s → p.check s = .ok () := by
  simp only [check, bind_eq_ok]
  constructor
  · rintro ⟨_, session, _, cache, _, password, _, identifier, logging⟩ p
    cases p with
    | session => exact checkSection_eq_ok.mp session
    | cache => exact checkSection_eq_ok.mp cache
    | password => exact checkSection_eq_ok.mp password
    | identifier => exact checkSection_eq_ok.mp identifier
    | logging => exact checkSection_eq_ok.mp logging
  · intro all
    exact ⟨(), checkSection_eq_ok.mpr (all .session), (), checkSection_eq_ok.mpr (all .cache),
      (), checkSection_eq_ok.mpr (all .password), (), checkSection_eq_ok.mpr (all .identifier),
      checkSection_eq_ok.mpr (all .logging)⟩

theorem check_stack (checked : ∀ c ∈ layers, c.check = .ok ()) : (stack layers).check = .ok () := by
  rw [check_eq_ok]
  intro p s found
  rw [part?_stack] at found
  obtain ⟨layer, mem, own⟩ := List.mem_filterMap.mp (List.mem_of_getLast? found)
  exact check_eq_ok.mp (checked layer mem) p s own

/-! ## Files -/

/-- What files there are and what is in them, while nobody changes them. -/
abbrev Disk : Type := (r : Files.Request) → Files.Answer r

/-- What there is where a file is looked for. -/
inductive Finding where
  /-- No regular file. -/
  | nothing
  | layer (c : Config)
  /-- A regular file that cannot be used. -/
  | fault (e : Error)
  deriving DecidableEq, Repr

namespace Finding

def layer? : Finding → Option Config
  | layer c => some c
  | _ => none

def fault? : Finding → Option Error
  | fault e => some e
  | _ => none

end Finding

namespace Disk

variable (disk : Disk)

/-- What comes of reading a file. -/
def reading (path : String) : Except Error Config :=
  match disk (.read path) with
  | .error cause => .error (.unreadable path cause)
  | .ok text => (ofToml text).mapError .parse

def finding (path : String) : Finding :=
  match disk (.isFile path) with
  | false => .nothing
  | true =>
    match disk.reading path with
    | .ok c => .layer c
    | .error e => .fault e

def layer? (path : String) : Option Config := (disk.finding path).layer?

/-- What the user is told of a file that cannot be used. -/
def warning? (path : String) : Option String :=
  (disk.finding path).fault?.map fun e => s!"Failed to load {path}: {e.message}"

/-- Answers what a discovery asks, and keeps what it logs. -/
def answer : (r : Request) → List Event → Answer r × List Event
  | .file r, events => (disk r, events)
  | .log event, events => ((), events ++ [event])

end Disk

/-! ## Discovery -/

variable {disk : Disk} {l l' l'' : Loaded} {path : String} {paths paths' : List String}

/-- The files were put on top of what was there before, and it was told which of them were used and
which could not be. -/
structure Layered (disk : Disk) (l : Loaded) (paths : List String) (l' : Loaded) : Prop where
  config : l'.config = (paths.filterMap disk.layer?).foldl merge l.config
  sources : l'.sources = l.sources ++ paths.map fun path => ⟨path, (disk.layer? path).isSome⟩
  warnings : l'.warnings = l.warnings ++ paths.filterMap disk.warning?

theorem Layered.refl (l : Loaded) : Layered disk l [] l where
  config := rfl
  sources := by simp
  warnings := by simp

theorem Layered.append (lower : Layered disk l paths l') (upper : Layered disk l' paths' l'') :
    Layered disk l (paths ++ paths') l'' where
  config := by rw [upper.config, lower.config, List.filterMap_append, List.foldl_append]
  sources := by rw [upper.sources, lower.sources, List.map_append, List.append_assoc]
  warnings := by rw [upper.warnings, lower.warnings, List.filterMap_append, List.append_assoc]

theorem Layered.of_nothing (nothing : disk.finding path = .nothing) :
    Layered disk l [path] { l with sources := l.sources ++ [⟨path, false⟩] } where
  config := by simp [Disk.layer?, nothing, Finding.layer?]
  sources := by simp [Disk.layer?, nothing, Finding.layer?]
  warnings := by simp [Disk.warning?, nothing, Finding.fault?]

theorem Layered.of_layer (layer : disk.finding path = .layer c) :
    Layered disk l [path]
      { l with config := l.config.merge c, sources := l.sources ++ [⟨path, true⟩] } where
  config := by simp [Disk.layer?, layer, Finding.layer?]
  sources := by simp [Disk.layer?, layer, Finding.layer?]
  warnings := by simp [Disk.warning?, layer, Finding.fault?]

theorem Layered.of_fault {e : Error} (fault : disk.finding path = .fault e) :
    Layered disk l [path]
      { l with
        sources := l.sources ++ [⟨path, false⟩]
        warnings := l.warnings ++ [s!"Failed to load {path}: {e.message}"] } where
  config := by simp [Disk.layer?, fault, Finding.layer?]
  sources := by simp [Disk.layer?, fault, Finding.layer?]
  warnings := by simp [Disk.warning?, fault, Finding.fault?]

theorem load_run (disk : Disk) (path : String) (events : List Event) :
    (load path).run disk.answer events = (disk.reading path, events) := by
  unfold load Disk.reading
  rw [Program.run_ask]
  show (match disk (.read path) with | .error cause => _ | .ok text => _ : Action _).run _ _ = _
  cases disk (.read path) with
  | error cause => rfl
  | ok text => rfl

theorem applyLayer_run (disk : Disk) (l : Loaded) (path : String) (events : List Event) :
    ∃ l' events', (applyLayer l path).run disk.answer events = (l', events') ∧
      Layered disk l [path] l' := by
  unfold applyLayer
  rw [Program.run_ask]
  have asked : disk.answer (.file (.isFile path)) events = (disk (.isFile path), events) := rfl
  rw [asked]
  cases file : disk (.isFile path) with
  | false =>
    have nothing : disk.finding path = .nothing := by simp only [Disk.finding, file]
    exact ⟨_, _, rfl, .of_nothing nothing⟩
  | true =>
    simp only [Program.bind_eq, Program.run_bind, load_run]
    cases read : disk.reading path with
    | ok c =>
      have layer : disk.finding path = .layer c := by simp only [Disk.finding, file, read]
      exact ⟨_, _, rfl, .of_layer layer⟩
    | error e =>
      have fault : disk.finding path = .fault e := by simp only [Disk.finding, file, read]
      exact ⟨_, _, rfl, .of_fault fault⟩

/-- Each file goes on top of those before it. -/
theorem applyLayers_run (disk : Disk) (l : Loaded) (paths : List String) (events : List Event) :
    ∃ l' events', (applyLayers l paths).run disk.answer events = (l', events') ∧
      Layered disk l paths l' := by
  induction paths generalizing l events with
  | nil => exact ⟨l, events, rfl, .refl l⟩
  | cons path paths ih =>
    obtain ⟨l', events', first, lower⟩ := applyLayer_run disk l path events
    obtain ⟨l'', events'', rest, upper⟩ := ih l' events'
    refine ⟨l'', events'', ?_, lower.append upper⟩
    rw [applyLayers, Program.bind_eq, Program.run_bind, first]
    exact rest

/-- What a discovery tells of the files that it looked at. -/
structure Discovery (disk : Disk) (paths : List String) (l : Loaded) : Prop where
  /-- The files that can be used, the first at the bottom. -/
  config : l.config = stack (paths.filterMap disk.layer?)
  sources : l.sources = paths.map fun path => ⟨path, (disk.layer? path).isSome⟩
  applied : l.appliedPaths = paths.filter fun path => (disk.layer? path).isSome
  /-- One for each regular file that cannot be used, and no others. -/
  warnings : l.warnings = paths.filterMap disk.warning?

theorem discovery_of_layered (layered : Layered disk {} paths l) : Discovery disk paths l where
  config := layered.config
  sources := by simpa using layered.sources
  applied := by
    rw [Loaded.appliedPaths, layered.sources]
    simp [List.filter_map, Function.comp_def]
  warnings := by simpa using layered.warnings

/-- The paths that a discovery looks at, in their order. -/
theorem discover_run (disk : Disk) (env : Environment) (override project : Option String)
    (events : List Event) :
    ∃ loaded events', (discover env override project).run disk.answer events = (loaded, events') ∧
      Discovery disk ((userFile? env override).toList ++ [projectFile project]) loaded := by
  obtain ⟨loaded, events', run, layered⟩ := applyLayers_run disk {} _ events
  exact ⟨loaded, events', run, discovery_of_layered layered⟩

/-- Merging puts layers on top of each other, wherever the brackets are; the uppermost section of
each part counts, and a stack of layers that pass their checks passes it too. What is discovered in
two directories is the stack of the files there that can be used, whatever is in the files. -/
theorem discovered_of_directories (disk : Disk) (env : Environment) (user project : String)
    (events : List Event) :
    (∀ a b c : Config, (a.merge b).merge c = a.merge (b.merge c)) ∧
    (∀ c : Config, ({} : Config).merge c = c ∧ c.merge {} = c) ∧
    (∀ (layers : List Config) (p : Part),
      (stack layers).part? p = (layers.filterMap (·.part? p)).getLast?) ∧
    (∀ layers : List Config, (∀ c ∈ layers, c.check = .ok ()) → (stack layers).check = .ok ()) ∧
    ∃ loaded events',
      (discover env (some user) (some project)).run disk.answer events = (loaded, events') ∧
        Discovery disk [Path.join user userFileName, Path.join project projectFileName] loaded :=
  ⟨merge_assoc, fun c => ⟨empty_merge c, merge_empty c⟩, part?_stack, fun _ => check_stack,
    discover_run disk env (some user) (some project) events⟩

/-- A user who sets how long the cache keeps entries, in a project whose file is not TOML. -/
def sampleDisk : Disk
  | .isFile _ => true
  | .present _ => true
  | .read path => .ok (if path = "user/config.toml" then "[cache]\nttl_secs = 30\n" else "= nope")
  | .makeDirectory _ => .ok ()
  | .write _ _ => .ok ()
  | .append _ _ => .ok ()

theorem discovered_of_directories_sample :
    (stack [{ cache := some { ttlSecs := 30 } }, { session := some {} }]).check = .ok () ∧
    ∃ loaded events',
      (discover {} (some "user") (some "project")).run sampleDisk.answer [] = (loaded, events') ∧
        loaded.config = { cache := some { ttlSecs := 30 } } ∧
        loaded.appliedPaths = ["user/config.toml"] ∧ loaded.warnings.length = 1 := by
  obtain ⟨_, _, _, checked, loaded, events', run, discovery⟩ :=
    discovered_of_directories sampleDisk {} "user" "project" []
  refine ⟨checked _ (by decide +kernel), loaded, events', run, ?_, ?_, ?_⟩
  · rw [discovery.config]
    decide +kernel
  · rw [discovery.applied]
    decide +kernel
  · rw [discovery.warnings]
    decide +kernel

end SessionKit.Config
