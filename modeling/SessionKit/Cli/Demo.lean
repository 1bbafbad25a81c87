import SessionKit.Cli.Context
import SessionKit.Config.Check
import SessionKit.Session.Surroundings

/-!
# The demonstration

One session is led from its creation through a refresh to its end, over a storage and a cache in
memory that go when the run ends.
-/

namespace SessionKit.Cli.Demo

/-- What the manager of the demonstration works on. -/
structure State where
  storage : Storage.Memory := {}
  cache : Cache.Memory
  generation : UInt64 := 0
  /-- What has been done, each with what came of it. -/
  steps : List (String × String) := []

/-- An action over the state. -/
abbrev Stage (α : Type) := StateT State (Program Request Answer) α

/-- A part of the demonstration, which may fail. -/
abbrev Act (α : Type) := ExceptT Failure (StateT State (Program Request Answer)) α

/-- Something to ask the system. -/
def asking {α : Type} (a : Action α) : Stage α := StateT.lift a

def logAll (c : Context) : List Event → Stage Unit
  | [] => return
  | e :: rest => do
    asking (c.log e)
    logAll c rest

def surroundings (c : Context) : Manager.Surroundings (StateT State (Program Request Answer)) where
  now := asking (ask .now)
  token bytes := asking (draw (Token.drawPair bytes))
  identifier alphabet length :=
    asking (draw (Identifier.draw alphabet Random.endless (some length)))
  storage call := do
    let now ← asking (ask .now)
    let reply := (← get).storage.call now call
    modify fun s => { s with storage := reply.state }
    logAll c reply.events
    return reply.answer
  cache call := do
    let instant ← asking (ask .instant)
    let reply := (← get).cache.call instant 0 call
    modify fun s => { s with cache := reply.state }
    logAll c reply.events
    return reply.answer
  generation := do return (← get).generation
  setGeneration generation := modify fun s => { s with generation }
  log event := asking (c.log event)

/-- Runs an operation of a manager, whose failure is told. -/
def outcome {α : Type} (c : Context) (operation : Manager.Operation α) :
    Stage (Except Session.Error α) := (surroundings c).run operation

/-- Runs an operation of a manager, whose failure is a failure of the run. -/
def perform {α : Type} (c : Context) (operation : Manager.Operation α) : Act α :=
  ExceptT.mk do return (← outcome c operation).mapError .session

/-- A name with blanks behind it. -/
def column (name : String) : String :=
  name ++ String.ofList (List.replicate (22 - name.length) ' ')

/-- Notes a step, and prints it unless all of them are printed as one object at the end. -/
def note (c : Context) (name detail : String) : Stage Unit := do
  modify fun s => { s with steps := s.steps ++ [(name, detail)] }
  if c.json then return
  asking (say (c.inStyle .green "✓" ++ s!" {column name} " ++ c.inStyle .faint detail))

/-- A token that must not be good any longer. -/
def expectRejected (c : Context) (m : Manager) (token name : String) (failure : Failure) :
    Act Unit := do
  let verified ← ExceptT.lift (outcome c (m.verify token))
  match verified with
  | .error .notFound => note c name "rejected"
  | .error e => throw (.session e)
  | .ok _ => throw failure

/-- The life of a session. -/
def acts (c : Context) (m : Manager) (userId ipAddress userAgent : String) : Act Unit := do
  let created ← perform c (m.create userId ipAddress userAgent)
  note c "create" s!"session {created.session.id} expires {created.session.expiresAt.display}"
  let verified ← perform c (m.verify created.token)
  note c "verify" s!"user {verified.userId}"
  let refreshed ← perform c (m.refresh created.token)
  note c "refresh" s!"session {refreshed.session.id} replaces {created.session.id}"
  expectRejected c m created.token "verify old token" .oldTokenVerifies
  let active ← perform c (m.list userId)
  note c "list" s!"{active.length} active session(s)"
  perform c (m.destroy refreshed.token)
  note c "destroy" s!"session {refreshed.session.id}"
  expectRejected c m refreshed.token "verify after destroy" .destroyedTokenVerifies

/-! ## Counters -/

def ttlJson (d : Duration) : Json :=
  .object [("secs", .integer d.wholeSeconds), ("nanos", .integer d.subsecondNanos)]

def cacheJson (m : Cache.Memory) : Json :=
  .object
    [("hits", .natural m.counters.hits), ("misses", .natural m.counters.misses),
     ("sets", .natural m.counters.sets), ("deletes", .natural m.counters.deletes),
     ("evictions", .natural m.counters.evictions), ("size", .natural m.size),
     ("ttl", ttlJson m.settings.ttl)]

def cacheText (verbose : Bool) (m : Cache.Memory) : String :=
  s!"Cache:\n  hits:      {m.counters.hits}\n  misses:    {m.counters.misses}\n" ++
    s!"  sets:      {m.counters.sets}\n  deletes:   {m.counters.deletes}\n" ++
    s!"  evictions: {m.counters.evictions}\n  size:      {m.size}\n" ++
    (if verbose then s!"  ttl:       {m.settings.ttl.wholeSeconds}s\n" else "")

def stepJson (step : String × String) : Json :=
  .object [("step", .string step.1), ("detail", .string step.2)]

/-- How things stand at the end. -/
def summary (c : Context) (cached : Bool) (s : State) : Action Unit :=
  if c.json then
    sayJson (.object
      [("steps", .array (s.steps.map stepJson)),
       ("stored_sessions", .natural s.storage.sessions.length),
       ("cache", if cached then cacheJson s.cache else .null)])
  else if cached then ask (.print ("\n" ++ cacheText c.verbose s.cache))
  else ask (.print "\nCache: disabled\n")

end Demo

/-- Runs the demonstration. -/
def Context.demo (c : Context) (userId ipAddress userAgent : String) : Operation Unit := do
  let alphabet ← orFail .config c.config.identifierGenerator
  let settings := c.config.cacheSettings
  let manager : Manager :=
    { settings := c.config.sessionSettings, alphabet, cached := settings.isSome }
  Context.demandBytes manager.settings.idLength
  Context.demandBytes manager.settings.tokenBytes
  let start : Demo.State := { cache := .new (settings.getD {}) }
  let (result, s) ←
    ExceptT.lift ((Demo.acts c manager userId ipAddress userAgent).run.run start)
  orFail id result
  Demo.summary c settings.isSome s

end SessionKit.Cli
