import SessionKit.Session.Surroundings

/-!
# Simulated managers

Several managers over one storage and one cache in memory, on a clock that goes on as it is read.
Calls to the storage and the cache can be made to fail, the digests of sessions that come from the
storage can be falsified, and an operation can be halted at a call while others run.
-/

namespace SessionKit.Simulation

/-! ## Calls -/

/-- A call that a manager makes. -/
inductive Call where
  | storage (call : Storage.Call)
  | cache (call : Cache.Call)
  deriving DecidableEq, Repr

/-- The kinds of calls. -/
inductive Method where
  | create
  | byHash
  | byId
  | ofUser
  | deleteByHash
  | deleteById
  | deleteOfUser
  | deleteExpired
  | cacheGet
  | cacheSet
  | cacheDelete
  | cacheClear
  deriving DecidableEq, Repr

def Call.method : Call → Method
  | .storage (.create _) => .create
  | .storage (.byHash _) => .byHash
  | .storage (.byId _) => .byId
  | .storage (.ofUser _) => .ofUser
  | .storage (.deleteByHash _) => .deleteByHash
  | .storage (.deleteById _) => .deleteById
  | .storage (.deleteOfUser _) => .deleteOfUser
  | .storage .deleteExpired => .deleteExpired
  | .cache (.get _) => .cacheGet
  | .cache (.set _ _) => .cacheSet
  | .cache (.delete _) => .cacheDelete
  | .cache .clear => .cacheClear

/-- The method that a request enters by itself; the calls to the cache that are made under the
lock are not among them. -/
def entered? : Manager.Request → Option Method
  | .store call => some (Call.storage call).method
  | .lookUp _ => some .cacheGet
  | _ => none

/-- How a call fails. -/
structure Fault where
  /-- The storage says that it found nothing. -/
  notFound : Bool
  reason : String
  deriving DecidableEq, Repr

def Fault.storageError (f : Fault) : Storage.Error :=
  if f.notFound then .notFound else .backend f.reason

def Fault.cacheError (f : Fault) : Cache.Error := .backend f.reason

/-! ## State -/

/-- A manager with what is its own. -/
structure Station where
  manager : Manager
  source : Random.Scripted := {}
  generation : UInt64 := 0

structure State where
  stations : List Station
  storage : Storage.Memory := {}
  cache : Cache.Memory
  /-- Nanoseconds since the start. -/
  elapsed : Nat := 0
  faults : List (Method × Fault) := []
  /-- What sessions looked up by digest carry as their digest. -/
  falsified : Option String := none
  /-- The sessions that were issued, in the order in which they were. -/
  issued : List Session.Created := []
  /-- Calls and events since they were last taken away. -/
  calls : List Call := []
  events : List Event := []

abbrev Run (α : Type) := StateM State α

/-- When the clock starts: at the beginning of the year 2026. -/
def start : Timestamp := (Timestamp.make? 1767225600 0).getD .epoch

/-- Reads the clock, which goes on by a microsecond. -/
def readClock : Run Timestamp := do
  modify fun s => { s with elapsed := s.elapsed + 1000 }
  return (start.add? ⟨(← get).elapsed⟩).getD start

def record (call : Call) : Run Unit := modify fun s => { s with calls := s.calls ++ [call] }

def logEvents (events : List Event) : Run Unit :=
  modify fun s => { s with events := s.events ++ events }

def faultOf? (method : Method) : Run (Option Fault) := do
  return ((← get).faults.find? fun f => f.1 = method).map Prod.snd

/-! ## Surroundings -/

/-- A call to the storage itself. -/
def callStorage (call : Storage.Call) : Run (Storage.Answer call) := do
  let now ← readClock
  let reply := (← get).storage.call now call
  modify fun s => { s with storage := reply.state }
  logEvents reply.events
  return reply.answer

/-- A call to the cache itself. The oldest entry goes when there is no room. -/
def callCache (call : Cache.Call) : Run (Cache.Answer call) := do
  let reply := (← get).cache.call (← get).elapsed 0 call
  modify fun s => { s with cache := reply.state }
  logEvents reply.events
  return reply.answer

def station? (index : Nat) : Run (Option Station) := do return (← get).stations[index]?

def setStation (index : Nat) (station : Station) : Run Unit :=
  modify fun s => { s with stations := s.stations.set index station }

/-- Draws from the source of a station. -/
def drawFrom {α : Type} (index : Nat) (draw : Random.Scripted → α × Random.Scripted)
    (default : α) : Run α := do
  match ← station? index with
  | none => return default
  | some station =>
    let (a, source) := draw station.source
    setStation index { station with source }
    return a

/-- What the manager of a station works with. -/
def surroundings (index : Nat) : Manager.Surroundings Run where
  now := readClock
  token bytes :=
    drawFrom index (Random.scripted.run (Token.drawPair bytes)) (.error (.random Random.exhausted))
  identifier alphabet length :=
    drawFrom index (Identifier.drawFrom Random.scripted alphabet (some length))
      (.error (.random Random.exhausted))
  storage call := do
    record (.storage call)
    match ← faultOf? (Call.storage call).method with
    | some fault => return .error fault.storageError
    | none => callStorage call
  cache call := do
    record (.cache call)
    match ← faultOf? (Call.cache call).method with
    | some fault => return .error fault.cacheError
    | none => callCache call
  generation := do return ((← station? index).map (·.generation)).getD 0
  setGeneration generation := do
    match ← station? index with
    | some station => setStation index { station with generation }
    | none => return
  log event := logEvents [event]

/-- The answer as the manager gets it. -/
def deliver : (r : Manager.Request) → Manager.Answer r → Run (Manager.Answer r)
  | .store (.byHash _), .ok s => do
    match (← get).falsified with
    | some tokenHash => return .ok { s with tokenHash }
    | none => return .ok s
  | _, answer => return answer

/-! ## Halting -/

/-- Where an operation is halted: the first time it enters a method, before the call or after it. A
call that a fault makes fail does not halt after it. -/
structure Gate where
  method : Method
  after : Bool
  deriving DecidableEq, Repr

/-- How far an operation came. -/
inductive Progress (α : Type) where
  | finished (result : α)
  /-- Halted; the rest of the operation is what is left to run. -/
  | halted (rest : Run (Manager.Action α))

/-- Answers a request of a station. -/
def answer (index : Nat) (r : Manager.Request) : Run (Manager.Answer r) :=
  (surroundings index).answer r

/-- Runs an operation up to a gate. -/
def advance {α : Type} (index : Nat) (gate : Gate) : Manager.Action α → Run (Progress α)
  | .done a => return .finished a
  | .ask r next => do
    let meets := entered? r = some gate.method
    if meets ∧ ¬ gate.after then
      return .halted do return next (← deliver r (← answer index r))
    else
      let fails := (← faultOf? gate.method).isSome
      let x ← answer index r
      if meets ∧ ¬ fails then return .halted do return next (← deliver r x)
      else advance index gate (next (← deliver r x))

/-- Runs an operation to its end. -/
def complete {α : Type} (index : Nat) : Manager.Action α → Run α
  | .done a => return a
  | .ask r next => do complete index (next (← deliver r (← answer index r)))

/-! ## Steps -/

/-- A text, or one that comes from the session issued at some place in order, without some of its
last characters and with others behind them. -/
inductive Reference where
  | text (s : String)
  | issued (place dropped : Nat) (appended : String)
  deriving DecidableEq, Repr

def Reference.resolve (pick : Session.Created → String) : Reference → Run String
  | text s => return s
  | issued place dropped appended => do
    match (← get).issued[place]? with
    | some c => return String.ofList ((pick c).toList.take ((pick c).length - dropped)) ++ appended
    | none => return "unresolved"

/-- What a manager is asked to do. -/
inductive Task where
  | create (userId ipAddress userAgent : String)
  | verify (token : Reference)
  | destroy (token : Reference)
  | refresh (token : Reference)
  | destroyById (id : Reference)
  | get (id : Reference)
  | destroyOfUser (userId : String)
  | list (userId : String)
  | purge

/-- What is done around the managers. -/
inductive Change where
  /-- From now on a method fails, or does so no longer. -/
  | fault (method : Method) (fault : Option Fault)
  | falsify (tokenHash : Option String)
  | store (session : Session)
  | cachePut (tokenHash : Reference) (session : Session)
  | cacheDrop (tokenHash : Reference)
  | cacheClear
  | cacheContains (tokenHash : Reference)
  | stored (tokenHash : Reference)
  | sleep (milliseconds : Nat)
  | settings (index : Nat)

inductive Step where
  | task (index : Nat) (task : Task)
  /-- A task that is halted at a gate while other steps run. -/
  | gated (index : Nat) (task : Task) (gate : Gate) (during : List Step)
  | change (change : Change)

inductive Value where
  | nothing
  | created (created : Session.Created)
  | session (session : Session)
  | sessions (sessions : List Session)
  | count (n : Nat)
  | boolean (b : Bool)
  | settings (settings : Session.Settings) (cached : Bool)

inductive Failure where
  | session (error : Session.Error)
  | storage (error : Storage.Error)
  | cache (error : Cache.Error)

/-- What came of a step, and how things stand after it. -/
inductive Outcome where
  | mk (result : Except Failure Value) (calls : List Call) (events : List Event) (stored : Nat)
    (cache : Cache.Memory) (during : Option (List Outcome))

/-- The operation that a task is, with its result as a value. -/
def Task.operation (m : Manager) : Task → Run (Manager.Action (Except Session.Error Value))
  | create userId ipAddress userAgent =>
    return (Value.created <$> m.create userId ipAddress userAgent).run
  | verify token => do return (.session <$> m.verify (← token.resolve (·.token))).run
  | destroy token => do
    return ((fun _ => .nothing) <$> m.destroy (← token.resolve (·.token))).run
  | refresh token => do return (.created <$> m.refresh (← token.resolve (·.token))).run
  | destroyById id => do
    return ((fun _ => .nothing) <$> m.destroyById (← id.resolve (·.session.id))).run
  | get id => do return (.session <$> m.get (← id.resolve (·.session.id))).run
  | destroyOfUser userId => return (.count <$> m.destroyOfUser userId).run
  | list userId => return (.sessions <$> m.list userId).run
  | purge => return (.count <$> m.purge).run

/-- Remembers a session that was issued. -/
def remember : Except Session.Error Value → Run Unit
  | .ok (.created c) => modify fun s => { s with issued := s.issued ++ [c] }
  | _ => return

def Change.run : Change → Run (Except Failure Value)
  | .fault method f => do
    modify fun s => { s with
      faults := s.faults.filter (fun f => f.1 ≠ method) ++ f.toList.map fun f => (method, f) }
    return .ok .nothing
  | .falsify tokenHash => do
    modify fun s => { s with falsified := tokenHash }
    return .ok .nothing
  | .store s => do
    match ← callStorage (.create s) with
    | .ok () => return .ok .nothing
    | .error e => return .error (.storage e)
  | .cachePut tokenHash s => do
    let _ ← callCache (.set (← tokenHash.resolve (·.session.tokenHash)) s)
    return .ok .nothing
  | .cacheDrop tokenHash => do
    let _ ← callCache (.delete (← tokenHash.resolve (·.session.tokenHash)))
    return .ok .nothing
  | .cacheClear => do
    let _ ← callCache .clear
    return .ok .nothing
  | .cacheContains tokenHash => do
    let key ← tokenHash.resolve (·.session.tokenHash)
    return .ok (.boolean ((← get).cache.contains (← get).elapsed key))
  | .stored tokenHash => do
    match ← callStorage (.byHash (← tokenHash.resolve (·.session.tokenHash))) with
    | .ok s => return .ok (.session s)
    | .error e => return .error (.storage e)
  | .sleep milliseconds => do
    modify fun s => { s with elapsed := s.elapsed + milliseconds * 1000000 }
    return .ok .nothing
  | .settings index => do
    let manager := ((← station? index).map (·.manager)).getD {}
    return .ok (.settings manager.settings manager.cached)

/-- Takes the calls and events away. -/
def takeTrace : Run (List Call × List Event) := do
  let s ← get
  set { s with calls := [], events := [] }
  return (s.calls, s.events)

/-- Closes a step. -/
def close (result : Except Failure Value) (before : List Call × List Event)
    (during : Option (List Outcome)) : Run Outcome := do
  let (calls, events) ← takeTrace
  let s ← get
  return .mk result (before.1 ++ calls) (before.2 ++ events) s.storage.sessions.length s.cache
    during

/-- The operation of a task of a station. -/
def begin (index : Nat) (task : Task) :
    Run (Manager.Action (Except Session.Error Value)) := do
  task.operation (((← station? index).map (·.manager)).getD {})

/-- What is left of a step once the operation has come to its end. -/
def finish (r : Except Session.Error Value) (before : List Call × List Event)
    (during : Option (List Outcome)) : Run Outcome := do
  remember r
  close (r.mapError .session) before during

mutual
def Step.run : Step → Run Outcome
  | .change c => do close (← c.run) ([], []) none
  | .task index task => do
    finish (← complete index (← begin index task)) ([], []) none
  | .gated index task gate steps => do
    match ← advance index gate (← begin index task) with
    | .finished r => finish r ([], []) none
    | .halted rest =>
      let before ← takeTrace
      let during ← runSteps steps
      finish (← complete index (← rest)) before (some during)

/-- Runs steps one after the other. -/
def runSteps : List Step → Run (List Outcome)
  | [] => return []
  | step :: rest => do return (← step.run) :: (← runSteps rest)
end

end SessionKit.Simulation
