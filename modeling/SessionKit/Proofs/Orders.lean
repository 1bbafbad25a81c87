import SessionKit.Proofs.Discipline
import SessionKit.Session.Manager

/-!
# What a manager can be asked to do

The operations of a manager as orders with one type of programs, and what each operation is once
its exceptions are spelt out.
-/

namespace SessionKit.Manager

open Program

/-! ## Orders -/

inductive Order where
  | create (userId ipAddress userAgent : String)
  | verify (token : String)
  | destroy (token : String)
  | destroyById (id : String)
  | destroyOfUser (userId : String)
  | refresh (token : String)
  | list (userId : String)
  | get (id : String)
  | purge
  deriving DecidableEq, Repr

namespace Order

abbrev Value : Order → Type
  | create _ _ _ => Session.Created
  | verify _ => Session
  | destroy _ => Unit
  | destroyById _ => Unit
  | destroyOfUser _ => Nat
  | refresh _ => Session.Created
  | list _ => List Session
  | get _ => Session
  | purge => Nat

abbrev Result (o : Order) : Type := Except Session.Error o.Value

instance : (o : Order) → DecidableEq o.Result
  | create _ _ _ => inferInstanceAs (DecidableEq (Except Session.Error Session.Created))
  | verify _ => inferInstanceAs (DecidableEq (Except Session.Error Session))
  | destroy _ => inferInstanceAs (DecidableEq (Except Session.Error Unit))
  | destroyById _ => inferInstanceAs (DecidableEq (Except Session.Error Unit))
  | destroyOfUser _ => inferInstanceAs (DecidableEq (Except Session.Error Nat))
  | refresh _ => inferInstanceAs (DecidableEq (Except Session.Error Session.Created))
  | list _ => inferInstanceAs (DecidableEq (Except Session.Error (List Session)))
  | get _ => inferInstanceAs (DecidableEq (Except Session.Error Session))
  | purge => inferInstanceAs (DecidableEq (Except Session.Error Nat))

def operation (m : Manager) : (o : Order) → Operation o.Value
  | create userId ipAddress userAgent => m.create userId ipAddress userAgent
  | verify token => m.verify token
  | destroy token => m.destroy token
  | destroyById id => m.destroyById id
  | destroyOfUser userId => m.destroyOfUser userId
  | refresh token => m.refresh token
  | list userId => m.list userId
  | get id => m.get id
  | purge => m.purge

/-- The session that was issued, if the order issues one and has not failed. -/
def issued? : (o : Order) → o.Result → Option Session.Created
  | create _ _ _, .ok created => some created
  | refresh _, .ok created => some created
  | _, _ => none

def program (m : Manager) (o : Order) : Action o.Result := (o.operation m).run

end Order

/-! ## Operations as programs -/

variable {α β : Type} (m : Manager)

/-- Goes on with a result that is not a failure. -/
def andThen (p : Action (Except Session.Error α)) (f : α → Action (Except Session.Error β)) :
    Action (Except Session.Error β) :=
  p.bind fun
    | .ok a => f a
    | .error e => .done (.error e)

theorem run_bind (p : Operation α) (f : α → Operation β) :
    (p >>= f).run = andThen p.run fun a => (f a).run := by
  show Program.bind _ _ = Program.bind _ _
  congr 1
  funext x
  cases x <;> rfl

@[simp] theorem lift_run (p : Action α) :
    (liftM p : Operation α).run = p.bind fun a => .done (.ok a) := rfl

@[simp] theorem pure_run (a : α) : (pure a : Operation α).run = .done (.ok a) := rfl

@[simp] theorem throw_run (e : Session.Error) : (throw e : Operation α).run = .done (.error e) :=
  rfl

@[simp] theorem andThen_lift (p : Action α) (f : α → Action (Except Session.Error β)) :
    andThen (p.bind fun a => .done (.ok a)) f = p.bind f := by
  simp [andThen, bind_assoc]

theorem store_run (operation : String) (call : Storage.Call) :
    (store operation call).run = .ask (.store call) fun
      | .ok v => .done (.ok v)
      | .error cause => .done (.error (.storage operation cause)) := rfl

theorem storeFound_run (operation : String) (call : Storage.Call) :
    (storeFound operation call).run = .ask (.store call) fun
      | .ok v => .done (.ok v)
      | .error .notFound => .done (.error .notFound)
      | .error cause => .done (.error (.storage operation cause)) := rfl

theorem drawCredentials_run : m.drawCredentials.run = .ask (.token m.settings.tokenBytes) fun
    | .error cause => .done (.error (.generation cause))
    | .ok pair => .ask (.identifier m.alphabet m.settings.idLength) fun
      | .error cause => .done (.error (.generation cause))
      | .ok id => .done (.ok (pair, id)) := rfl

theorem removeExpired_run (tokenHash : String) :
    removeExpired tokenHash = .ask (.store (.deleteByHash tokenHash)) fun
      | .ok () => .done .expired
      | .error .notFound => .done .expired
      | .error cause => .done (.storage "delete expired session" cause) := rfl

theorem cacheGet_cached (cached : m.cached = true) (tokenHash : String) :
    m.cacheGet tokenHash = .ask (.lookUp tokenHash) fun
      | .ok hit => .done hit
      | .error e => (log .warn "session cache read failed"
          [digestField tokenHash, errorField e]).bind fun _ => .done none := by
  rw [cacheGet, if_pos cached]
  rfl

theorem cacheFill_cached (cached : m.cached = true) (generation : UInt64) (tokenHash : String)
    (s : Session) :
    m.cacheFill generation tokenHash s = .ask (.fill generation tokenHash s) fun
      | .done => .done ()
      | .outdated => log .debug "storage changed during lookup, not caching" [sessionField s]
      | .failed e => log .warn "session cache write failed" [sessionField s, errorField e] := by
  rw [cacheFill, if_pos cached]
  rfl

theorem invalidate_cached (cached : m.cached = true) (tokenHash : String) :
    m.invalidate tokenHash = .ask (.invalidate tokenHash) fun
      | .ok () => .done ()
      | .error e => log .warn "session cache delete failed"
          [digestField tokenHash, errorField e] := by
  rw [invalidate, if_pos cached]
  rfl

theorem invalidateAll_cached (cached : m.cached = true) :
    m.invalidateAll = .ask .invalidateAll fun
      | .ok () => .done ()
      | .error e => log .warn "session cache clear failed" [errorField e] := by
  rw [invalidateAll, if_pos cached]
  rfl

theorem cacheGet_uncached (uncached : m.cached = false) (tokenHash : String) :
    m.cacheGet tokenHash = .done none := by
  rw [cacheGet, uncached]
  rfl

theorem currentGeneration_uncached (uncached : m.cached = false) :
    m.currentGeneration = .done 0 := by
  rw [currentGeneration, uncached]
  rfl

theorem cacheFill_uncached (uncached : m.cached = false) (generation : UInt64) (tokenHash : String)
    (s : Session) : m.cacheFill generation tokenHash s = .done () := by
  rw [cacheFill, uncached]
  rfl

theorem invalidate_uncached (uncached : m.cached = false) (tokenHash : String) :
    m.invalidate tokenHash = .done () := by
  rw [invalidate, uncached]
  rfl

theorem invalidateAll_uncached (uncached : m.cached = false) : m.invalidateAll = .done () := by
  rw [invalidateAll, uncached]
  rfl

/-- The session that a creation stores. -/
def newSession (userId ipAddress userAgent : String) (x : Token.Pair × String)
    (now expiresAt : Timestamp) : Session :=
  { id := x.2, userId, tokenHash := x.1.digest, ipAddress, userAgent, createdAt := now
    updatedAt := now, expiresAt }

/-- What is left of a creation once it is known when the session expires. -/
def issue (userId : String) (x : Token.Pair × String) (s : Session) :
    Action (Except Session.Error Session.Created) :=
  m.currentGeneration.bind fun generation =>
    andThen (store "create session" (.create s)).run fun _ =>
      (m.cacheFill generation x.1.digest s).bind fun _ =>
        (log .info "session created"
          [sessionField s, ("user_id", .plain userId),
           ("expires_at", .plain s.expiresAt.display)]).bind fun _ =>
          .done (.ok { session := s, token := x.1.token })

/-- What is left of a creation once its credentials are drawn and the clock is read. -/
def createAt (userId ipAddress userAgent : String) (x : Token.Pair × String) (now : Timestamp) :
    Action (Except Session.Error Session.Created) :=
  match now.add? m.settings.maxAge with
  | none => .done (.error (.lifetimeOutOfRange m.settings.maxAge))
  | some expiresAt => m.issue userId x (newSession userId ipAddress userAgent x now expiresAt)

variable {userId ipAddress userAgent : String} {x : Token.Pair × String} {now expiresAt : Timestamp}

theorem createAt_none (h : now.add? m.settings.maxAge = none) :
    m.createAt userId ipAddress userAgent x now =
      .done (.error (.lifetimeOutOfRange m.settings.maxAge)) := by
  simp only [createAt, h]

theorem createAt_some (h : now.add? m.settings.maxAge = some expiresAt) :
    m.createAt userId ipAddress userAgent x now =
      m.issue userId x (newSession userId ipAddress userAgent x now expiresAt) := by
  simp only [createAt, h]

theorem create_run (userId ipAddress userAgent : String) :
    (m.create userId ipAddress userAgent).run = andThen m.drawCredentials.run fun x =>
      .ask .now (m.createAt userId ipAddress userAgent x) := by
  simp only [create, run_bind, lift_run, andThen_lift]
  simp only [ask, request, ask_bind, done_bind]
  congr 1
  funext x
  congr 1
  funext now
  cases h : now.add? m.settings.maxAge with
  | none =>
    rw [createAt_none m h]
    rfl
  | some expiresAt =>
    rw [createAt_some m h]
    simp only [issue, run_bind, lift_run, andThen_lift, pure_run]
    rfl

theorem verifyCached_run (tokenHash : String) (s : Session) :
    (m.verifyCached tokenHash s).run = .ask .now fun now =>
      if s.isExpiredAt now then
        (log .debug "cached session expired" [sessionField s]).bind fun _ =>
          (removeExpired tokenHash).bind fun fault =>
            (m.invalidate tokenHash).bind fun _ => .done (.error fault)
      else .done (.ok s) := by
  simp only [verifyCached, run_bind, lift_run, andThen_lift]
  simp only [ask, request, ask_bind, done_bind]
  congr 1
  funext now
  show (ite _ _ _ : Operation Session).run = _
  split
  · simp only [run_bind, lift_run, andThen_lift, throw_run]
  · rfl

theorem verifyStored_run (token tokenHash : String) :
    (m.verifyStored token tokenHash).run = m.currentGeneration.bind fun generation =>
      andThen (storeFound "look up session" (.byHash tokenHash)).run fun s =>
        if (Token.verify token s.tokenHash).toOption ≠ some true then
          (log .warn "stored digest does not match token"
            [sessionField s, digestField tokenHash]).bind fun _ => .done (.error .invalidToken)
        else .ask .now fun now =>
          if s.isExpiredAt now then
            (log .debug "stored session expired" [sessionField s]).bind fun _ =>
              (removeExpired tokenHash).bind fun fault => .done (.error fault)
          else (m.cacheFill generation tokenHash s).bind fun _ => .done (.ok s) := by
  simp only [verifyStored, run_bind, lift_run, andThen_lift]
  congr 1
  funext generation
  congr 1
  funext s
  split
  · simp only [run_bind, lift_run, andThen_lift, throw_run]
  · simp only [run_bind, lift_run, andThen_lift]
    simp only [ask, request, ask_bind, done_bind]
    congr 1
    funext now
    show (ite _ _ _ : Operation Session).run = _
    split <;> simp only [run_bind, lift_run, andThen_lift, throw_run, pure_run]

theorem verify_run (token : String) :
    (m.verify token).run =
      if token.isEmpty then .done (.error .invalidToken)
      else (m.cacheGet (Token.digest token)).bind fun
        | some s => (m.verifyCached (Token.digest token) s).run
        | none => (m.verifyStored token (Token.digest token)).run := by
  rw [verify]
  split
  · rfl
  · simp only [run_bind, lift_run, andThen_lift]
    congr 1

theorem destroy_run (token : String) :
    (m.destroy token).run =
      if token.isEmpty then .done (.error .invalidToken)
      else .ask (.store (.deleteByHash (Token.digest token))) fun deleted =>
        (m.invalidate (Token.digest token)).bind fun _ =>
          match deleted with
          | .ok () => (log .info "session destroyed"
              [digestField (Token.digest token)]).bind fun _ => .done (.ok ())
          | .error .notFound => .done (.error .notFound)
          | .error cause => .done (.error (.storage "delete session" cause)) := by
  rw [destroy]
  split
  · rfl
  · simp only [run_bind, lift_run, andThen_lift]
    simp only [ask, request, ask_bind, done_bind]
    congr 1
    funext deleted
    congr 1
    funext u
    rcases deleted with (_ | _) | _ <;> rfl

/-- Drops the digest of a session that was found. -/
def invalidateFound : Except Storage.Error Session → Action Unit
  | .ok s => m.invalidate s.tokenHash
  | .error _ => .done ()

theorem destroyById_run (id : String) :
    (m.destroyById id).run = .ask (.store (.byId id)) fun found =>
      .ask (.store (.deleteById id)) fun deleted =>
        (m.invalidateFound found).bind fun _ =>
          match deleted with
          | .ok () => (log .info "session destroyed" [("session_id", .quoted id)]).bind fun _ =>
              .done (.ok ())
          | .error .notFound => (log .debug "no session to destroy"
              [("session_id", .quoted id)]).bind fun _ => .done (.ok ())
          | .error cause => .done (.error (.storage "delete session by id" cause)) := by
  simp only [destroyById, run_bind, lift_run, andThen_lift]
  simp only [ask, request, ask_bind, done_bind]
  congr 1
  funext found
  congr 1
  funext deleted
  cases found with
  | ok s =>
    simp only [run_bind, lift_run, andThen_lift]
    congr 1
  | error cause => rcases deleted with (_ | _) | _ <;> rfl

theorem destroyOfUser_run (userId : String) :
    (m.destroyOfUser userId).run =
      andThen (store "delete user sessions" (.deleteOfUser userId)).run fun removed =>
        (if 0 < removed then m.invalidateAll else .done ()).bind fun _ =>
          (log .info "user sessions destroyed"
            [("user_id", .quoted userId), ("removed", .number removed)]).bind fun _ =>
            .done (.ok removed) := by
  simp only [destroyOfUser, run_bind]
  congr 1
  funext removed
  split
  · simp only [run_bind, lift_run, andThen_lift, pure_run]
  · rfl

theorem refresh_run (token : String) :
    (m.refresh token).run = andThen (m.verify token).run fun old =>
      andThen (m.destroy token).run fun _ =>
        andThen (m.create old.userId old.ipAddress old.userAgent).run fun created =>
          (log .info "session refreshed"
            [("old_session_id", .plain old.id), sessionField created.session,
             ("user_id", .plain old.userId)]).bind fun _ => .done (.ok created) := by
  simp only [refresh, run_bind, lift_run, andThen_lift, pure_run]

theorem list_run (userId : String) :
    (m.list userId).run = .ask .now fun now =>
      andThen (store "list user sessions" (.ofUser userId)).run fun sessions =>
        .done (.ok (Session.newestFirst (sessions.filter fun s => !s.isExpiredAt now))) := by
  simp only [list, run_bind, lift_run, andThen_lift, pure_run]
  simp only [ask, request, ask_bind, done_bind]

theorem get_run (id : String) : (m.get id).run = (storeFound "get session" (.byId id)).run := rfl

theorem purge_run :
    m.purge.run =
      andThen (store "purge expired sessions" .deleteExpired).run fun removed =>
        (if 0 < removed then m.invalidateAll else .done ()).bind fun _ =>
          (log .info "expired sessions purged" [("removed", .number removed)]).bind fun _ =>
            .done (.ok removed) := by
  simp only [purge, run_bind]
  congr 1
  funext removed
  split
  · simp only [run_bind, lift_run, andThen_lift, pure_run]
  · rfl

end SessionKit.Manager
