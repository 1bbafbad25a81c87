import SessionKit.Proofs.Orders
import SessionKit.Proofs.Tables
import SessionKit.Session.Surroundings
import Mathlib.Data.Sigma.Basic

/-!
# The traffic of a manager

One manager with any number of calls at once, over a storage and a cache in memory. What an answer
depends on besides them is open: the clocks may read anything at any time, any bytes may be drawn,
any entry may go when the cache is full, and any call to the storage may fail and change nothing.

The fill generation is a machine word. Who reads it twice cannot tell whether it was bumped in
between as many times as the word has values, so that what the generation is good for holds as long
as no call lasts for that many invalidations.
-/

namespace SessionKit.Manager.Request

/-- The request drops a digest from the cache, and bumps the generation with it. -/
def Drops (tokenHash : String) : Request → Prop
  | .invalidate k => k = tokenHash
  | .invalidateAll => True
  | _ => False

/-- The request bumps the generation. -/
def bumps : Request → Bool
  | .invalidate _ | .invalidateAll => true
  | _ => false

theorem Drops.bumps {tokenHash : String} {r : Request} (h : r.Drops tokenHash) :
    r.bumps = true := by
  cases r with
  | invalidate k => rfl
  | invalidateAll => rfl
  | _ => exact absurd h id

/-- The request put a session into the storage. -/
def Stores (s : Session) : (r : Request) → Answer r → Prop
  | .store call, x => call.Stores s x
  | _, _ => False

/-- The request took something out of the storage. -/
def Removes : (r : Request) → Answer r → Prop
  | .store call, x => call.Removes x
  | _, _ => False

end SessionKit.Manager.Request

namespace SessionKit.Traffic

open Manager (Request Answer Order Surroundings)

structure World where
  storage : Storage.Memory := {}
  cache : Cache.Memory
  generation : UInt64 := 0

/-- What a request finds when it is answered. -/
structure Moment where
  now : Timestamp
  instant : Cache.Instant
  /-- The place of the entry that goes if the cache is full. -/
  victim : Nat := 0
  bytes : (n : Nat) → Except String (Vector UInt8 n) := fun _ => .error Random.exhausted
  identifier : Except CredentialError String := .error (.random Random.exhausted)
  /-- Why a call to the storage fails, if it does. -/
  fault : Option String := none

namespace Moment

variable (t : Moment) (w : World)

/-- The token of the bytes that are drawn. -/
def token (n : Nat) : Except CredentialError Token.Pair :=
  (Program.run (fun k u => (t.bytes k, u)) (Token.drawPair n) ()).1

def store (call : Storage.Call) : StateM World (Storage.Answer call) := fun w =>
  match t.fault with
  | some reason => (.error (.backend reason), w)
  | none => ((w.storage.call t.now call).answer,
      { w with storage := (w.storage.call t.now call).state })

def surroundings : Surroundings (StateM World) where
  now := pure t.now
  token n := pure (t.token n)
  identifier _ _ := pure t.identifier
  storage := t.store
  cache call w := ((w.cache.call t.instant t.victim call).answer,
    { w with cache := (w.cache.call t.instant t.victim call).state })
  generation w := (w.generation, w)
  setGeneration generation w := ((), { w with generation })
  log _ := pure ()

/-- The answer to a request, as the surroundings give it. -/
def serve (r : Request) (w : World) : Answer r × World := (t.surroundings.answer r).run w

theorem digest_token {n : Nat} {pair : Token.Pair} (h : t.token n = .ok pair) :
    pair.digest = Token.digest pair.token := by
  unfold token Token.drawPair Token.draw at h
  simp only [Program.bind_eq, Program.ask_bind, Program.run_ask] at h
  cases hb : t.bytes (Token.drawnBytes n) with
  | error e => simp [hb, Except.map] at h
  | ok v =>
    simp [hb, Except.map] at h
    rw [← h]
    rfl

end Moment

/-! ## Answers -/

section Answers

variable (t : Moment) (w : World)

theorem serve_store (call : Storage.Call) : t.serve (.store call) w = t.store call w := rfl

theorem serve_fill (g : UInt64) (tokenHash : String) (s : Session) :
    t.serve (.fill g tokenHash s) w =
      if w.generation = g then
        (.done, { w with cache := (w.cache.set t.instant t.victim tokenHash s).state })
      else (.outdated, w) := by
  show StateT.run (ite (w.generation = g) _ _ : StateM World Manager.Filled) w = _
  split
  · rfl
  · rfl

@[simp] theorem serve_invalidateAll : t.serve .invalidateAll w =
    (.ok (), { w with generation := w.generation + 1, cache := w.cache.clear.state }) := rfl

end Answers

/-! ## What an answer does -/

section Effects

variable {t : Moment} {w : World} {r : Request} {s : Session} {tokenHash : String}

/-- There is a session under a digest in the storage. -/
def World.Stored (w : World) (tokenHash : String) : Prop := w.storage.Holds tokenHash

/-- There is an entry under a digest in the cache, good or stale. -/
def World.Cached (w : World) (tokenHash : String) : Prop := w.cache.Holds tokenHash

instance : Decidable (w.Stored tokenHash) := inferInstanceAs (Decidable (w.storage.Holds tokenHash))

instance : Decidable (w.Cached tokenHash) := inferInstanceAs (Decidable (w.cache.Holds tokenHash))

/-- A call to the storage fails, or takes place. -/
theorem store_cases (call : Storage.Call) :
    (∃ reason, t.store call w = (.error (.backend reason), w)) ∨
      t.store call w = ((w.storage.call t.now call).answer,
        { w with storage := (w.storage.call t.now call).state }) := by
  unfold Moment.store
  cases t.fault with
  | some reason => exact .inl ⟨reason, rfl⟩
  | none => exact .inr rfl

/-- Only calls to the storage change the storage. -/
theorem storage_serve (h : ∀ call, r ≠ .store call) : (t.serve r w).2.storage = w.storage := by
  cases r with
  | store call => exact absurd rfl (h call)
  | fill g k s =>
    rw [serve_fill]
    split
    · rfl
    · rfl
  | _ => rfl

theorem mem_of_mem_serve (h : s ∈ (t.serve r w).2.storage.sessions) :
    s ∈ w.storage.sessions ∨ r.Stores s (t.serve r w).1 := by
  cases r with
  | store call =>
    rw [serve_store] at h ⊢
    rcases store_cases (t := t) (w := w) call with ⟨reason, failed⟩ | done
    · rw [failed] at h
      exact .inl h
    · rw [done] at h ⊢
      exact Storage.Memory.mem_of_mem_call h
  | _ => rw [storage_serve (by simp)] at h; exact .inl h

theorem mem_serve_of_mem (h : s ∈ w.storage.sessions) :
    s ∈ (t.serve r w).2.storage.sessions ∨ r.Removes (t.serve r w).1 := by
  cases r with
  | store call =>
    rw [serve_store]
    rcases store_cases (t := t) (w := w) call with ⟨reason, failed⟩ | done
    · rw [failed]
      exact .inl h
    · rw [done]
      exact Storage.Memory.mem_call_of_mem h
  | _ => rw [storage_serve (by simp)]; exact .inl h

/-- An entry gets into the cache only by a fill of the current generation, and a digest that is
dropped is in the cache no longer. -/
theorem cached_of_cached_serve (h : (t.serve r w).2.Cached tokenHash) :
    w.Cached tokenHash ∧ ¬ r.Drops tokenHash ∨ ∃ s, r = .fill w.generation tokenHash s := by
  obtain ⟨e, mem, key⟩ := h
  cases r with
  | store call =>
    rw [serve_store] at mem
    rcases store_cases (t := t) (w := w) call with ⟨reason, failed⟩ | done
    · rw [failed] at mem
      exact .inl ⟨⟨e, mem, key⟩, id⟩
    · rw [done] at mem
      exact .inl ⟨⟨e, mem, key⟩, id⟩
  | lookUp k => exact .inl ⟨⟨e, Cache.Memory.mem_of_mem_get mem, key⟩, id⟩
  | fill g k s =>
    rw [serve_fill] at mem
    split at mem
    next current =>
      -- The entry is an old one, or the one that was filled in.
      rcases Cache.Memory.mem_of_mem_set mem with ⟨mem, _⟩ | rfl
      · exact .inl ⟨⟨e, mem, key⟩, id⟩
      · exact .inr ⟨s, by rw [← key, current]⟩
    next => exact .inl ⟨⟨e, mem, key⟩, id⟩
  | invalidate k =>
    obtain ⟨mem, other⟩ := Cache.Memory.mem_delete.mp mem
    exact .inl ⟨⟨e, mem, key⟩, fun (same : k = tokenHash) => other (key.trans same.symm)⟩
  | invalidateAll => simp at mem
  | _ => exact .inl ⟨⟨e, mem, key⟩, id⟩

theorem generation_serve : (t.serve r w).2.generation =
    if r.bumps then w.generation + 1 else w.generation := by
  cases r with
  | store call =>
    rw [serve_store]
    rcases store_cases (t := t) (w := w) call with ⟨reason, failed⟩ | done
    · rw [failed]
      rfl
    · rw [done]
      rfl
  | fill g k s =>
    rw [serve_fill]
    split
    · rfl
    · rfl
  | _ => rfl

theorem cached_of_lookUp_ok (h : (t.serve (.lookUp tokenHash) w).1 = .ok (some s)) :
    w.Cached tokenHash := by
  obtain ⟨x, mem, _⟩ := Cache.Memory.mem_of_get_ok h
  exact ⟨_, mem, rfl⟩

theorem stored_of_byHash_ok (h : (t.serve (.store (.byHash tokenHash)) w).1 = .ok s) :
    w.Stored tokenHash ∧ (t.serve (.store (.byHash tokenHash)) w).2.Stored tokenHash := by
  rw [serve_store] at h ⊢
  rcases store_cases (t := t) (w := w) (.byHash tokenHash) with ⟨reason, failed⟩ | done
  · rw [failed] at h
    cases h
  · rw [done] at h ⊢
    have held := Storage.Memory.mem_of_byHash_ok t.now h
    exact ⟨⟨s, held⟩, ⟨s, held⟩⟩

theorem stored_of_create_ok (h : (t.serve (.store (.create s)) w).1 = .ok ()) :
    (t.serve (.store (.create s)) w).2.Stored s.tokenHash := by
  rw [serve_store] at h ⊢
  rcases store_cases (t := t) (w := w) (.create s) with ⟨reason, failed⟩ | done
  · rw [failed] at h
    cases h
  · rw [done] at h ⊢
    exact ⟨s, Storage.Memory.mem_of_create_ok h, rfl⟩

/-- A deletion that does not fail leaves nothing under the digest. -/
theorem not_stored_of_deleteByHash
    (h : (t.serve (.store (.deleteByHash tokenHash)) w).1 = .ok () ∨
      (t.serve (.store (.deleteByHash tokenHash)) w).1 = .error .notFound) :
    ¬ (t.serve (.store (.deleteByHash tokenHash)) w).2.Stored tokenHash := by
  rw [serve_store] at h ⊢
  rcases store_cases (t := t) (w := w) (.deleteByHash tokenHash) with ⟨reason, failed⟩ | done
  · rw [failed] at h
    rcases h with h | h <;> cases h
  · rw [done]
    exact Storage.Memory.not_holds_deleteByHash

/-- A deletion that does not fail leaves nothing of the user. -/
theorem userId_ne_of_deleteOfUser {userId : String} {n : Nat}
    (h : (t.serve (.store (.deleteOfUser userId)) w).1 = .ok n)
    (mem : s ∈ (t.serve (.store (.deleteOfUser userId)) w).2.storage.sessions) :
    s.userId ≠ userId := by
  rw [serve_store] at h mem
  rcases store_cases (t := t) (w := w) (.deleteOfUser userId) with ⟨reason, failed⟩ | done
  · rw [failed] at h
    cases h
  · rw [done] at mem
    exact Storage.Memory.userId_ne_of_mem_deleteOfUser t.now mem

end Effects

/-! ## The service -/

abbrev State := Service.State Request Answer Order Order.Result World
abbrev Event := Service.Event Request Answer Order Order.Result Moment
abbrev Choice := Service.Choice Order Moment
abbrev Transition := Service.Transition Request Answer Order Order.Result World Moment

instance : DecidableEq (Service.Mark Order Order.Result) := inferInstance

/-- A manager at work. -/
abbrev service (m : Manager) : Service Request Answer Order Order.Result World Moment where
  program := Order.program m
  serve := Moment.serve

/-- An empty storage, an empty cache, and no calls. -/
def fresh (settings : Cache.Settings) : State := .initial { cache := .new settings }

/-- What the wall clock read, in order. -/
def readings (ts : List Transition) : List Timestamp :=
  ts.filterMap fun t =>
    match t.event with
    | .asked _ moment _ _ => some moment.now
    | _ => none

theorem fresh_idle (settings : Cache.Settings) : (fresh settings).Idle :=
  Service.State.initial_idle _

theorem fresh_numbered (settings : Cache.Settings) : (fresh settings).Numbered :=
  Service.State.initial_numbered _

/-! ## What a step does -/

/-- The step drops a digest from the cache. -/
def Drops (tokenHash : String) : Event → Prop
  | .asked _ _ r _ => r.Drops tokenHash
  | _ => False

/-- The step bumps the generation. -/
def bumps : Event → Bool
  | .asked _ _ r _ => r.bumps
  | _ => false

theorem Drops.bumps {tokenHash : String} {e : Event} (h : Drops tokenHash e) : bumps e = true := by
  cases e with
  | asked c moment r x => exact Request.Drops.bumps h
  | _ => exact absurd h id

/-- Fewer invalidations happen during any call than a machine word has values. -/
abbrev Brief (ts : List Transition) : Prop := Service.Brief (fun _ => bumps) ts

/-- The step put a session into the storage. -/
def Stores (x : Session) : Event → Prop
  | .asked _ _ r answer => r.Stores x answer
  | _ => False

section Steps

variable {m : Manager} {s s' : State} {e : Event} {x : Session} {tokenHash : String}

/-- A session is put into the storage by a creation that succeeds. -/
theorem eq_of_stores (h : Stores x e) :
    ∃ c moment, e = .asked c moment (.store (.create x)) (.ok ()) := by
  cases e with
  | asked c moment r answer =>
    cases r with
    | store call =>
      cases call with
      | create y =>
        cases answer with
        | ok u =>
          obtain rfl : y = x := h
          exact ⟨c, moment, rfl⟩
        | error cause => exact absurd h id
      | _ => exact absurd h id
    | _ => exact absurd h id
  | _ => exact absurd h id

/-- The session that a step put into the storage, if it did. -/
def created? : Event → Option Session
  | .asked _ _ (.store (.create x)) (.ok ()) => some x
  | _ => none

theorem created?_eq_some : created? e = some x ↔ Stores x e := by
  constructor
  · intro h
    unfold created? at h
    split at h
    · cases h
      exact rfl
    · cases h
  · intro stores
    obtain ⟨c, moment, rfl⟩ := eq_of_stores stores
    rfl

/-- The sessions that were put into the storage, in order. -/
def creations (ts : List Transition) : List Session := ts.filterMap fun t => created? t.event

theorem mem_creations {ts : List Transition} :
    x ∈ creations ts ↔ ∃ t ∈ ts, Stores x t.event := by
  simp [creations, List.mem_filterMap, created?_eq_some]

theorem mem_of_mem_step (step : Service.Step (service m) s e s')
    (h : x ∈ s'.world.storage.sessions) : x ∈ s.world.storage.sessions ∨ Stores x e := by
  cases step with
  | begun o => exact .inl h
  | asked found => exact mem_of_mem_serve h
  | returned found => exact .inl h

theorem cached_of_cached_step (step : Service.Step (service m) s e s')
    (h : s'.world.Cached tokenHash) :
    s.world.Cached tokenHash ∧ ¬ Drops tokenHash e ∨
      ∃ c t y answer, e = .asked c t (.fill s.world.generation tokenHash y) answer := by
  cases step with
  | begun o => exact .inl ⟨h, id⟩
  | asked found =>
    rcases cached_of_cached_serve h with kept | ⟨y, rfl⟩
    · exact .inl kept
    · exact .inr ⟨_, _, y, _, rfl⟩
  | returned found => exact .inl ⟨h, id⟩

theorem generation_step (step : Service.Step (service m) s e s') : s'.world.generation =
    if bumps e then s.world.generation + 1 else s.world.generation := by
  cases step with
  | begun o => rfl
  | asked found => exact generation_serve
  | returned found => rfl

/-- The generation counts its bumps as far as the word goes. -/
theorem generation_run {ts : List Transition} (run : Service.Run (service m) s ts s') :
    s'.world.generation =
      s.world.generation + UInt64.ofNat (ts.countP fun t => bumps t.event) := by
  induction run with
  | start => simp
  | snoc _ step ih =>
    rw [generation_step step, ih, List.countP_append, List.countP_singleton]
    split
    · rw [UInt64.ofNat_add, UInt64.add_assoc]
      rfl
    · rfl

end Steps

/-! ## A sample -/

def sampleManager : Manager := { cached := true }

/-- A moment at which all bytes that are drawn are zero. -/
def sampleMoment : Moment where
  now := .epoch
  instant := 0
  bytes n := .ok (Vector.replicate n 0)
  identifier := .ok "s"

/-- The token that is drawn at that moment. -/
def sampleToken : String := Token.ofBytes (List.replicate Token.defaultBytes 0)

/-- What the manager issues at that moment. -/
def sampleCreated : Session.Created where
  session :=
    { id := "s", userId := "u", tokenHash := Token.digest sampleToken, ipAddress := "i"
      userAgent := "a", createdAt := .epoch, updatedAt := .epoch
      expiresAt := (Timestamp.epoch.add? sampleManager.settings.maxAge).getD .epoch }
  token := sampleToken

/-- The choices that take a call through all its requests, each at the same moment. -/
def wholeCall (c : Nat) (o : Order) (requests : Nat) (t : Moment) : List Choice :=
  .start o :: (List.replicate requests (.proceed c t) ++ [.finish c])

end SessionKit.Traffic
